import MeshLog.Evaluation.Column

/-!
# Evaluations

The evaluation of a run holds, for every phase of the variant and every node of the registry, the
values of all columns.
-/

namespace MeshLog

/-- The rows of one phase, in the order of the registry. -/
structure PhaseResult where
  phase : Phase
  rows : List (List ResultValue)
deriving DecidableEq

/-- The derived tables of a run. -/
structure Evaluation where
  variant : Variant
  layout : ColumnLayout
  phases : List PhaseResult
  /-- The greatest phase that the root reached. -/
  rootPhase : Nat
deriving DecidableEq

namespace Evaluation

/-- Whether the root reached the last phase. -/
def rootFinished (evaluation : Evaluation) : Bool :=
  evaluation.phases.length ≤ evaluation.rootPhase + 1

def row (layout : ColumnLayout) (tables : PhaseTables) (node : RegisteredNode)
    (index phase : Nat) : List ResultValue :=
  let source : CellSource := ⟨node, index == 0, tables.record index phase⟩
  layout.columns.map fun column => source.value column.formula

def ofTables (tables : PhaseTables) (registry : Registry) : Evaluation where
  variant := tables.variant
  layout := .ofVariant tables.variant
  phases := tables.variant.phases.zipIdx.map fun (phase, phaseIndex) => {
    phase
    rows := registry.rows.map fun (node, index) =>
      row (.ofVariant tables.variant) tables node index phaseIndex }
  rootPhase := tables.rootPhase

end Evaluation

end MeshLog
