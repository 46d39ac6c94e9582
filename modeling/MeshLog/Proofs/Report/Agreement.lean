import MeshLog.Proofs.Evaluation.Column
import MeshLog.Proofs.Evaluation.Text
import MeshLog.Proofs.Text.Pieces

/-!
# Agreement of the reports

Console report, result file and JSON report show the same values under the same headers
(`reports_agree`). A line of a table is read back by splitting it where its cells were joined, which
finds them again as no cell has a tab; a JSON report is read back field by field.
-/

namespace MeshLog

/-! ## Cells of lines -/

/-- The cells of a line, between the occurrences of a separator. -/
def cellsOf (separator line : String) : List String :=
  (Text.pieces separator.toList line.toList).map String.ofList

theorem cellsOf_intercalate {separator : String} {last : Char}
    (hseparator : Text.EndsWith separator.toList last) {texts : List String} (hne : texts ≠ [])
    (htexts : ∀ text ∈ texts, last ∉ text.toList) :
    cellsOf separator (separator.intercalate texts) = texts := by
  unfold cellsOf
  have hpieces : Text.pieces separator.toList
      (separator.toList.intercalate (texts.map String.toList)) = texts.map String.toList :=
    hseparator.pieces_joined (fun h => hne (List.map_eq_nil_iff.mp h))
      (List.forall_mem_map.mpr htexts)
  rw [String.toList_intercalate, hpieces, List.map_map]
  exact (List.map_congr_left fun text _ => String.ofList_toList).trans (List.map_id texts)

theorem endsWith_consoleSeparator : Text.EndsWith consoleSeparator.toList '\t' :=
  ⟨[' '], by decide, by decide⟩

theorem endsWith_fileSeparator : Text.EndsWith fileSeparator.toList '\t' :=
  ⟨[], by decide, by decide⟩

/-! ## Cells without tabs -/

theorem IsNumeral.tab_not_mem {text : Text} (h : IsNumeral text) : '\t' ∉ text := by
  intro htab
  have hchar := h _ htab
  revert hchar
  decide

theorem tab_not_mem_format_real (x : Binary64) : '\t' ∉ (tableLayout.format x).toList := by
  by_cases hfinite : x.isFinite = true
  · exact (tableLayout.isNumeral_format hfinite).tab_not_mem
  · cases x with
    | nan => decide
    | signed negative rank =>
      have hrank : rank.val = Binary64.infinityRank := Binary64.eq_infinityRank hfinite
      unfold FloatLayout.format
      dsimp only
      rw [if_pos hrank]
      cases negative <;> decide

theorem ResultValue.tab_not_mem_format {value : ResultValue}
    (h : ∀ text, value = .text text → '\t' ∉ text) : '\t' ∉ value.format.toList := by
  cases value with
  | int n => exact (IsNumeral.toString_int n).tab_not_mem
  | real x => exact tab_not_mem_format_real x
  | text text =>
    show '\t' ∉ (String.ofList text).toList
    rw [String.toList_ofList]
    exact h text rfl
  | notApplicable => decide

/-- Whether the address of a node, if it has one, has no tab. -/
def RegisteredNode.TabFree (node : RegisteredNode) : Prop :=
  ∀ address, node.address? = some address → '\t' ∉ address

theorem CellSource.tab_not_mem_format {source : CellSource} (hnode : source.node.TabFree)
    (formula : Formula) : '\t' ∉ (source.value formula).format.toList := by
  refine ResultValue.tab_not_mem_format fun text htext => ?_
  by_cases hformula : formula = .address
  · cases hformula
    cases htext
    cases haddress : source.node.address? with
    | none => decide
    | some address => exact hnode address haddress
  · exact absurd htext (value_ne_text hformula text)

/-! ## Layouts and results -/

/-- Whether the id of a node is in the first column, and no header has a tab. -/
structure ColumnLayout.Printable (layout : ColumnLayout) : Prop where
  head : layout.columns.head? = some ⟨"id", .nodeId⟩
  core_ne_nil : layout.core ≠ []
  name : ∀ column ∈ layout.columns, '\t' ∉ column.name.toList

theorem printable_ofVariant (variant : Variant) : (ColumnLayout.ofVariant variant).Printable := by
  cases variant <;> exact ⟨by decide +kernel, by decide +kernel, by decide +kernel⟩

/-- Whether the rows of a result are those of the nodes, with a value without tab in every column
and the id first. -/
structure PhaseResult.Regular (result : PhaseResult) (layout : ColumnLayout)
    (nodes : List RegisteredNode) : Prop where
  length_rows : result.rows.length = nodes.length
  length : ∀ row ∈ result.rows, row.length = layout.columns.length
  format : ∀ row ∈ result.rows, ∀ value ∈ row, '\t' ∉ value.format.toList
  head : ∀ (i : Nat) (row : List ResultValue) (node : RegisteredNode),
    result.rows[i]? = some row → nodes[i]? = some node → row.head? = some (.int node.id)

section OfTables

variable {tables : PhaseTables} {registry : Registry} {result : PhaseResult}
  (hresult : result ∈ (Evaluation.ofTables tables registry).phases)

include hresult

theorem length_rows_of_mem_phases : result.rows.length = registry.nodes.length := by
  obtain ⟨p, -, rfl⟩ := List.mem_map.mp hresult
  show (List.map _ registry.rows).length = _
  rw [List.length_map, Registry.rows, List.length_zipIdx]

/-- The rows are those of the nodes. -/
theorem exists_of_getElem?_rows {i : Nat} {row : List ResultValue}
    (hrow : result.rows[i]? = some row) :
    ∃ node phase, registry.nodes[i]? = some node ∧
      row = Evaluation.row (.ofVariant tables.variant) tables node i phase := by
  obtain ⟨⟨name, phase⟩, -, rfl⟩ := List.mem_map.mp hresult
  dsimp only at hrow
  rw [List.getElem?_map, Registry.rows, List.getElem?_zipIdx, Option.map_map,
    Option.map_eq_some_iff] at hrow
  obtain ⟨node, hnode, rfl⟩ := hrow
  exact ⟨node, phase, hnode, by rw [Function.comp_apply, Nat.zero_add]⟩

theorem regular_of_mem_phases (htab : ∀ node ∈ registry.nodes, node.TabFree) :
    result.Regular (.ofVariant tables.variant) registry.nodes := by
  refine ⟨length_rows_of_mem_phases hresult, fun row hmem => ?_, fun row hmem value hvalue => ?_,
    fun i row node hget hnode => ?_⟩
  · obtain ⟨i, hget⟩ := List.mem_iff_getElem?.mp hmem
    obtain ⟨node, phase, -, rfl⟩ := exists_of_getElem?_rows hresult hget
    exact List.length_map ..
  · obtain ⟨i, hget⟩ := List.mem_iff_getElem?.mp hmem
    obtain ⟨node, phase, hnode, rfl⟩ := exists_of_getElem?_rows hresult hget
    obtain ⟨column, -, rfl⟩ := List.mem_map.mp hvalue
    exact CellSource.tab_not_mem_format (htab node (List.mem_of_getElem? hnode)) column.formula
  · obtain ⟨node', phase, hnode', rfl⟩ := exists_of_getElem?_rows hresult hget
    obtain rfl := Option.some_inj.mp (hnode.symm.trans hnode')
    unfold Evaluation.row
    rw [List.head?_map, (printable_ofVariant tables.variant).head]
    rfl

end OfTables

theorem phases_ofTables_ne_nil (tables : PhaseTables) (registry : Registry) :
    (Evaluation.ofTables tables registry).phases ≠ [] := by
  intro hnil
  have hphases : tables.variant.phases = [] :=
    List.zipIdx_eq_nil_iff.mp (List.map_eq_nil_iff.mp hnil)
  cases hvariant : tables.variant <;> rw [hvariant] at hphases <;> cases hphases

section Lines

variable {separator : String} (hseparator : Text.EndsWith separator.toList '\t')

include hseparator

theorem cellsOf_joinValues {values : List ResultValue} (hne : values ≠ [])
    (hvalues : ∀ value ∈ values, '\t' ∉ value.format.toList) :
    cellsOf separator (joinValues separator values) = values.map (·.format) := by
  refine cellsOf_intercalate hseparator (fun h => hne (List.map_eq_nil_iff.mp h)) ?_
  exact List.forall_mem_map.mpr hvalues

theorem cellsOf_joinHeaders {columns : List Column} (hne : columns ≠ [])
    (hcolumns : ∀ column ∈ columns, '\t' ∉ column.name.toList) :
    cellsOf separator (joinHeaders separator columns) = columns.map (·.name) := by
  refine cellsOf_intercalate hseparator (fun h => hne (List.map_eq_nil_iff.mp h)) ?_
  exact List.forall_mem_map.mpr hcolumns

/-- Headers with one more behind them. -/
theorem cellsOf_joinHeaders_append {columns : List Column} (hne : columns ≠ [])
    (hcolumns : ∀ column ∈ columns, '\t' ∉ column.name.toList) {last : String}
    (hlast : '\t' ∉ last.toList) :
    cellsOf separator (joinHeaders separator columns ++ separator ++ last) =
      columns.map (·.name) ++ [last] := by
  have hjoined : joinHeaders separator columns ++ separator ++ last =
      separator.intercalate (columns.map (·.name) ++ [last]) := by
    rw [String.intercalate_append_of_ne_nil (fun h => hne (List.map_eq_nil_iff.mp h))
      (List.cons_ne_nil last []), String.intercalate_singleton]
    rfl
  rw [hjoined]
  refine cellsOf_intercalate hseparator (List.append_ne_nil_of_right_ne_nil _ (by simp)) ?_
  intro text htext
  rcases List.mem_append.mp htext with hmem | hmem
  · obtain ⟨column, hcolumn, rfl⟩ := List.mem_map.mp hmem
    exact hcolumns column hcolumn
  · rw [List.mem_singleton.mp hmem]
    exact hlast

end Lines

/-! ## The console report -/

/-- A table of the console report. -/
structure ConsoleTable where
  header : String
  rows : List String

namespace ConsoleTable

def lines (table : ConsoleTable) : List String := table.header :: (table.rows ++ [""])

def headers (table : ConsoleTable) : List String := cellsOf consoleSeparator table.header

/-- The cells in the row of a node. -/
def row (table : ConsoleTable) (node : Nat) : List String :=
  (table.rows[node]?.map (cellsOf consoleSeparator)).getD []

end ConsoleTable

/-- What the console report shows of a phase. -/
structure ConsoleBlock where
  heading : String
  core : ConsoleTable
  extended? : Option ConsoleTable

namespace ConsoleBlock

def lines (block : ConsoleBlock) : List String :=
  block.heading :: (block.core.lines ++ (block.extended?.map (·.lines)).getD [])

/-- The block of a phase. -/
def ofResult (layout : ColumnLayout) (showAll : Bool) (result : PhaseResult) : ConsoleBlock where
  heading := "----- " ++ result.phase.title ++ " period -----"
  core := ⟨joinHeaders consoleSeparator layout.core,
    result.rows.map fun row => joinValues consoleSeparator (row.take layout.split)⟩
  extended? :=
    if showAll && !layout.extended.isEmpty then
      some ⟨joinHeaders consoleSeparator layout.extended ++ consoleSeparator ++ "id",
        result.rows.map fun row =>
          joinValues consoleSeparator (row.drop layout.split ++ row.head?.toList)⟩
    else none

theorem lines_ofResult (layout : ColumnLayout) (showAll : Bool) (result : PhaseResult) :
    (ofResult layout showAll result).lines = Evaluation.phaseLines layout showAll result := by
  unfold Evaluation.phaseLines lines ofResult Evaluation.coreTable
  dsimp only
  split_ifs
  · rfl
  · rfl

end ConsoleBlock

/-- The texts of the values of a node, in the order of the columns. -/
def PhaseResult.texts (result : PhaseResult) (node : Nat) : List String :=
  (result.rows[node]?.getD []).map (·.format)

namespace ConsoleBlock

/-- Whether a block shows the result of a phase: its core table has the texts of the core columns,
and its extended table, if there is one, the other texts and the id of the node behind them. -/
structure Shows (layout : ColumnLayout) (nodes : List RegisteredNode) (showAll : Bool)
    (block : ConsoleBlock) (result : PhaseResult) : Prop where
  heading : block.heading = "----- " ++ result.phase.title ++ " period -----"
  extended_isSome : block.extended?.isSome = true ↔ showAll = true ∧ layout.extended ≠ []
  core_headers : block.core.headers = layout.headers.take layout.split
  extended_headers : ∀ table, block.extended? = some table →
    table.headers = layout.headers.drop layout.split ++ ["id"]
  length_rows : ∀ table, table = block.core ∨ block.extended? = some table →
    table.rows.length = nodes.length ∧
    ∀ i < nodes.length, (table.row i).length = table.headers.length
  core_row : ∀ i < nodes.length, block.core.row i = (result.texts i).take layout.split
  texts : showAll = true → ∀ i < nodes.length,
    block.core.row i ++ ((block.extended?.map (·.row i)).getD []).dropLast = result.texts i
  id : ∀ table, block.extended? = some table → ∀ i node, nodes[i]? = some node →
    (table.row i).getLast? = some (toString node.id)

end ConsoleBlock

section Shows

variable {layout : ColumnLayout} {nodes : List RegisteredNode} {result : PhaseResult}

theorem ConsoleTable.row_mk (header : String) (line : List ResultValue → String)
    {i : Nat} {row : List ResultValue} (hrow : result.rows[i]? = some row) :
    (ConsoleTable.mk header (result.rows.map line)).row i =
      cellsOf consoleSeparator (line row) := by
  unfold ConsoleTable.row
  rw [List.getElem?_map, hrow]
  rfl

namespace ColumnLayout.Printable

variable (hlayout : layout.Printable)

include hlayout

theorem headers_core :
    cellsOf consoleSeparator (joinHeaders consoleSeparator layout.core) =
      layout.headers.take layout.split := by
  rw [cellsOf_joinHeaders endsWith_consoleSeparator hlayout.core_ne_nil fun column hcolumn =>
    hlayout.name column (List.mem_append_left _ hcolumn)]
  unfold headers columns split
  rw [List.map_append, List.take_left' (List.length_map ..)]

theorem headers_extended (hne : layout.extended ≠ []) :
    cellsOf consoleSeparator
        (joinHeaders consoleSeparator layout.extended ++ consoleSeparator ++ "id") =
      layout.headers.drop layout.split ++ ["id"] := by
  rw [cellsOf_joinHeaders_append endsWith_consoleSeparator hne (fun column hcolumn =>
    hlayout.name column (List.mem_append_right _ hcolumn)) (by decide)]
  unfold headers columns split
  rw [List.map_append, List.drop_left' (List.length_map ..)]

end ColumnLayout.Printable

namespace PhaseResult.Regular

variable (hresult : result.Regular layout nodes)

include hresult

/-- The row of a node. -/
theorem exists_row {i : Nat} (hi : i < nodes.length) :
    ∃ row ∈ result.rows, result.rows[i]? = some row ∧ result.texts i = row.map (·.format) ∧
      row.head? = some (.int nodes[i].id) := by
  have hlt := hi
  rw [← hresult.length_rows] at hlt
  have hget := List.getElem?_eq_getElem hlt
  refine ⟨result.rows[i], List.getElem_mem hlt, hget, ?_,
    hresult.head i _ _ hget (List.getElem?_eq_getElem hi)⟩
  unfold PhaseResult.texts
  rw [hget, Option.getD_some]

theorem length_texts {i : Nat} (hi : i < nodes.length) :
    (result.texts i).length = layout.headers.length := by
  obtain ⟨row, hrow, -, htexts, -⟩ := hresult.exists_row hi
  rw [htexts, List.length_map, hresult.length row hrow]
  exact (List.length_map ..).symm

variable {row : List ResultValue} (hrow : row ∈ result.rows)

include hrow

theorem cells_core (hlayout : layout.Printable) :
    cellsOf consoleSeparator (joinValues consoleSeparator (row.take layout.split)) =
      (row.map (·.format)).take layout.split := by
  have hne : row.take layout.split ≠ [] := by
    intro hnil
    have hlength := congrArg List.length hnil
    have hcore := List.length_pos_of_ne_nil hlayout.core_ne_nil
    rw [List.length_take, hresult.length row hrow] at hlength
    simp only [ColumnLayout.columns, ColumnLayout.split, List.length_append,
      List.length_nil] at hlength
    omega
  rw [cellsOf_joinValues endsWith_consoleSeparator hne fun value hvalue =>
    hresult.format row hrow value (List.mem_of_mem_take hvalue), List.map_take]

theorem cells_extended {id : Nat} (hhead : row.head? = some (.int id)) :
    cellsOf consoleSeparator
        (joinValues consoleSeparator (row.drop layout.split ++ row.head?.toList)) =
      (row.map (·.format)).drop layout.split ++ [toString id] := by
  have hmem : ∀ value ∈ row.drop layout.split ++ row.head?.toList, value ∈ row := by
    intro value hvalue
    rcases List.mem_append.mp hvalue with hdrop | hfirst
    · exact List.mem_of_mem_drop hdrop
    · exact List.mem_of_mem_head? (Option.mem_toList.mp hfirst)
  rw [cellsOf_joinValues endsWith_consoleSeparator (by rw [hhead]; simp) fun value hvalue =>
    hresult.format row hrow value (hmem value hvalue), hhead, List.map_append, List.map_drop]
  rfl

end PhaseResult.Regular

namespace ConsoleBlock

variable {showAll : Bool}

theorem row_core_ofResult (hlayout : layout.Printable) (hresult : result.Regular layout nodes)
    {i : Nat} (hi : i < nodes.length) :
    (ofResult layout showAll result).core.row i = (result.texts i).take layout.split := by
  obtain ⟨row, hrow, hget, htexts, -⟩ := hresult.exists_row hi
  rw [htexts, ← hresult.cells_core hrow hlayout]
  exact ConsoleTable.row_mk _ _ hget

theorem extended?_isSome_ofResult : (ofResult layout showAll result).extended?.isSome = true ↔
    showAll = true ∧ layout.extended ≠ [] := by
  unfold ofResult
  split_ifs with hshown
  · simpa [List.isEmpty_eq_false_iff] using hshown
  · simpa [List.isEmpty_eq_false_iff] using hshown

/-- The extended table has the texts that the core table lacks, and the ids. -/
theorem extended?_ofResult (hlayout : layout.Printable) (hresult : result.Regular layout nodes)
    {table : ConsoleTable} (h : (ofResult layout showAll result).extended? = some table) :
    table.rows.length = nodes.length ∧
      table.headers = layout.headers.drop layout.split ++ ["id"] ∧
      ∀ i (hi : i < nodes.length), table.row i =
        (result.texts i).drop layout.split ++ [toString nodes[i].id] := by
  have hextended := (extended?_isSome_ofResult.mp (Option.isSome_iff_exists.mpr ⟨table, h⟩)).2
  simp only [ofResult, Option.ite_none_right_eq_some] at h
  obtain ⟨-, h⟩ := h
  cases h
  refine ⟨(List.length_map ..).trans hresult.length_rows, hlayout.headers_extended hextended,
    fun i hi => ?_⟩
  obtain ⟨row, hrow, hget, htexts, hhead⟩ := hresult.exists_row hi
  rw [htexts, ← hresult.cells_extended hrow hhead]
  exact ConsoleTable.row_mk _ _ hget

/-- The block of a phase shows its result. -/
theorem shows_ofResult (hlayout : layout.Printable) (hresult : result.Regular layout nodes)
    (showAll : Bool) :
    (ofResult layout showAll result).Shows layout nodes showAll result := by
  have hcore : ∀ i < nodes.length, (ofResult layout showAll result).core.row i =
      (result.texts i).take layout.split := fun i hi => row_core_ofResult hlayout hresult hi
  have hheaders : (ofResult layout showAll result).core.headers =
      layout.headers.take layout.split := hlayout.headers_core
  constructor
  case heading => rfl
  case extended_isSome => exact extended?_isSome_ofResult
  case core_headers => exact hheaders
  case extended_headers =>
    exact fun table htable => (extended?_ofResult hlayout hresult htable).2.1
  case length_rows =>
    rintro table (rfl | htable)
    · refine ⟨(List.length_map ..).trans hresult.length_rows, fun i hi => ?_⟩
      rw [hcore i hi, hheaders, List.length_take, List.length_take, hresult.length_texts hi]
    · obtain ⟨hlength, htitles, hcells⟩ := extended?_ofResult hlayout hresult htable
      refine ⟨hlength, fun i hi => ?_⟩
      rw [hcells i hi, htitles, List.length_append, List.length_append, List.length_drop,
        List.length_drop, hresult.length_texts hi]
      rfl
  case core_row => exact hcore
  case texts =>
    intro hshow i hi
    rw [hcore i hi]
    cases htable : (ofResult layout showAll result).extended? with
    | none =>
      have hsome := @extended?_isSome_ofResult layout result showAll
      rw [htable] at hsome
      -- without extended columns the core columns are all
      have hnone : layout.extended = [] := by simpa [hshow] using hsome
      have hall : (result.texts i).length = layout.split := by
        rw [hresult.length_texts hi, ColumnLayout.headers, ColumnLayout.columns, hnone,
          List.append_nil, List.length_map]
        rfl
      rw [← hall, List.take_length]
      exact List.append_nil _
    | some table =>
      obtain ⟨-, -, hcells⟩ := extended?_ofResult hlayout hresult htable
      rw [Option.map_some, Option.getD_some, hcells i hi, List.dropLast_concat,
        List.take_append_drop]
  case id =>
    intro table htable i node hnode
    obtain ⟨hi, rfl⟩ := List.getElem?_eq_some_iff.mp hnode
    rw [(extended?_ofResult hlayout hresult htable).2.2 i hi, List.getLast?_concat]

end ConsoleBlock

end Shows

namespace Evaluation

variable (evaluation : Evaluation)

/-- The notice behind the phases, if the root has not reached the last one. -/
def notice : List String :=
  if evaluation.rootFinished then []
  else (evaluation.phases[evaluation.rootPhase]?.map unfinishedNotice).getD []

/-- The console report is made of the blocks of the phases that it shows. -/
theorem consoleLines_eq_blocks (info : RunInfo) (showAll : Bool) :
    evaluation.consoleLines info showAll = info.lines ++
      (evaluation.shownPhases.map (ConsoleBlock.ofResult evaluation.layout showAll)).flatMap
        (·.lines) ++ evaluation.notice := by
  have hblocks : (fun result =>
      (ConsoleBlock.ofResult evaluation.layout showAll result).lines) =
      phaseLines evaluation.layout showAll :=
    funext fun result => ConsoleBlock.lines_ofResult evaluation.layout showAll result
  rw [List.flatMap_map, hblocks]
  rfl

variable {evaluation}

theorem shown_of_finished (h : evaluation.phases.length ≤ evaluation.rootPhase + 1) :
    evaluation.shownPhases = evaluation.phases ∧ evaluation.notice = [] := by
  have hfinished : evaluation.rootFinished = true := decide_eq_true h
  unfold shownPhases notice
  rw [if_pos hfinished, if_pos hfinished]
  exact ⟨rfl, rfl⟩

theorem shown_of_unfinished (h : evaluation.rootPhase + 1 < evaluation.phases.length) :
    evaluation.shownPhases = evaluation.phases.take (evaluation.rootPhase + 1) ∧
      ∃ result, evaluation.phases[evaluation.rootPhase]? = some result ∧
        evaluation.notice = unfinishedNotice result := by
  have hunfinished : ¬ evaluation.rootFinished = true := by
    rw [rootFinished, decide_eq_true_iff]
    omega
  have hget := List.getElem?_eq_getElem (Nat.lt_of_succ_lt h)
  unfold shownPhases notice
  rw [if_neg hunfinished, if_neg hunfinished, hget]
  exact ⟨rfl, _, rfl, rfl⟩

end Evaluation

/-! ## The result file -/

theorem cells_resultRows {layout : ColumnLayout} {nodes : List RegisteredNode}
    {result : PhaseResult} (hresult : result.Regular layout nodes) :
    (result.rows.map (joinValues fileSeparator)).map (cellsOf fileSeparator) =
      (List.range nodes.length).map result.texts := by
  refine List.ext_getElem (by simp [hresult.length_rows]) fun i hi hi' => ?_
  rw [List.length_map, List.length_range] at hi'
  obtain ⟨row, hrow, hget, htexts, hhead⟩ := hresult.exists_row hi'
  obtain ⟨hlt, rfl⟩ := List.getElem?_eq_some_iff.mp hget
  have hne : result.rows[i] ≠ [] := by
    intro hnil
    rw [hnil] at hhead
    cases hhead
  rw [List.getElem_map, List.getElem_map, List.getElem_map, List.getElem_range, htexts]
  exact cellsOf_joinValues endsWith_fileSeparator hne (hresult.format _ hrow)

/-! ## The JSON report -/

namespace JsonValue

/-- The value of a field of an object. -/
def field? (name : String) : JsonValue → Option JsonValue
  | object fields => (fields.find? (·.1 == name)).map (·.2)
  | _ => none

def items? : JsonValue → Option (List JsonValue)
  | list items => some items
  | _ => none

def string? : JsonValue → Option String
  | string value => some (String.ofList value)
  | _ => none

/-- The value of a cell. -/
def result? : JsonValue → Option ResultValue
  | null => some .notApplicable
  | int value => some (.int value)
  | real value => some (.real value)
  | string value => some (.text value)
  | _ => none

/-- The rows in the report of a phase. -/
def rows? (phase : JsonValue) : Option (List (List ResultValue)) := do
  (← (← phase.field? "rows").items?).mapM fun row => do (← row.items?).mapM result?

/-- The name and the rows in the report of a phase. -/
def phase? (phase : JsonValue) : Option (String × List (List ResultValue)) := do
  return (← (← phase.field? "phase").string?, ← phase.rows?)

/-- The headers in the report of a run. -/
def columns? (report : JsonValue) : Option (List String) := do
  (← (← report.field? "columns").items?).mapM string?

/-- The names and the rows of all phases in the report of a run. -/
def phases? (report : JsonValue) : Option (List (String × List (List ResultValue))) := do
  (← (← report.field? "phases").items?).mapM phase?

theorem mapM_map_eq_some {α β γ : Type} {f : α → β} {read : β → Option γ} {g : α → γ}
    (h : ∀ a, read (f a) = some (g a)) (items : List α) :
    (items.map f).mapM read = some (items.map g) := by
  induction items with
  | nil => rfl
  | cons a rest ih =>
    rw [List.map_cons, List.mapM_cons, h, ih]
    rfl

theorem result?_ofResult (value : ResultValue) : (ofResult value).result? = some value := by
  cases value <;> rfl

theorem string?_ofString (s : String) : (ofString s).string? = some s :=
  congrArg some String.ofList_toList

theorem phase?_ofPhase (result : PhaseResult) :
    (ofPhase result).phase? = some (result.phase.name, result.rows) := by
  have hrow : ∀ row : List ResultValue,
      (do (← (list (row.map ofResult)).items?).mapM result?) = some row := fun row =>
    (mapM_map_eq_some result?_ofResult row).trans (congrArg some (List.map_id row))
  have hrows : (ofPhase result).rows? = some result.rows :=
    (mapM_map_eq_some hrow result.rows).trans (congrArg some (List.map_id _))
  unfold phase?
  rw [hrows]
  show ((ofString result.phase.name).string?.bind fun name => some (name, result.rows)) = _
  rw [string?_ofString]
  rfl

variable (info : RunInfo) (evaluation : Evaluation) (flags : DetectedFlags)
  (summary? : Option RunSummary)

theorem columns?_ofRun :
    (ofRun info evaluation flags summary?).columns? = some evaluation.layout.headers :=
  (mapM_map_eq_some string?_ofString evaluation.layout.headers).trans
    (congrArg some (List.map_id _))

theorem phases?_ofRun : (ofRun info evaluation flags summary?).phases? =
    some (evaluation.phases.map fun result => (result.phase.name, result.rows)) :=
  mapM_map_eq_some phase?_ofPhase evaluation.phases

end JsonValue

/-! ## Agreement -/

/-- Reports of the same evaluation, with addresses without tabs. The console report shows the
phases up to that of the root, and a notice unless it is the last one; the cells of a node, read
from its lines, are the texts of its values in this phase, with its id behind the extended columns.
The rows of the result file have the texts of the last phase, and the JSON report has the values of
all phases, under the same headers. -/
theorem reports_agree {tables : PhaseTables} {registry : Registry}
    (htab : ∀ node ∈ registry.nodes, node.TabFree) (info : RunInfo) (flags : DetectedFlags)
    (summary? : Option RunSummary) :
    let evaluation := Evaluation.ofTables tables registry
    let layout := evaluation.layout
    (∀ result ∈ evaluation.phases, ∀ i < registry.size,
      (result.texts i).length = layout.headers.length) ∧
    (∀ showAll, ∃ (blocks : List ConsoleBlock) (shown : List PhaseResult) (notice : List String),
      evaluation.consoleLines info showAll =
        info.lines ++ blocks.flatMap (·.lines) ++ notice ∧
      List.Forall₂ (ConsoleBlock.Shows layout registry.nodes showAll) blocks shown ∧
      (evaluation.phases.length ≤ tables.rootPhase + 1 →
        shown = evaluation.phases ∧ notice = []) ∧
      (tables.rootPhase + 1 < evaluation.phases.length →
        shown = evaluation.phases.take (tables.rootPhase + 1) ∧
        ∃ result, evaluation.phases[tables.rootPhase]? = some result ∧
          notice = ["----- In " ++ result.phase.label ++ " period -----", ""])) ∧
    (∃ header rows last, evaluation.resultLines = header :: rows ∧
      evaluation.phases.getLast? = some last ∧
      cellsOf fileSeparator header = layout.headers ∧
      rows.map (cellsOf fileSeparator) = (List.range registry.size).map last.texts) ∧
    let report := JsonValue.ofRun info evaluation flags summary?
    report.columns? = some layout.headers ∧
    report.phases? =
      some (evaluation.phases.map fun result => (result.phase.name, result.rows)) := by
  intro evaluation layout
  have hlayout : layout.Printable := printable_ofVariant tables.variant
  have hregular : ∀ result ∈ evaluation.phases, result.Regular layout registry.nodes :=
    fun result hresult => regular_of_mem_phases hresult htab
  have hshown : ∀ result ∈ evaluation.shownPhases, result ∈ evaluation.phases := by
    intro result hresult
    unfold Evaluation.shownPhases at hresult
    split_ifs at hresult
    · exact hresult
    · exact List.mem_of_mem_take hresult
  refine ⟨fun result hresult i hi => (hregular result hresult).length_texts hi,
    fun showAll => ?_, ?_, JsonValue.columns?_ofRun info evaluation flags summary?,
    JsonValue.phases?_ofRun info evaluation flags summary?⟩
  · refine ⟨_, evaluation.shownPhases, evaluation.notice,
      evaluation.consoleLines_eq_blocks info showAll, ?_,
      fun h => Evaluation.shown_of_finished h, fun h => Evaluation.shown_of_unfinished h⟩
    rw [List.forall₂_map_left_iff, List.forall₂_same]
    exact fun result hresult =>
      ConsoleBlock.shows_ofResult hlayout (hregular result (hshown result hresult)) showAll
  · have hne : evaluation.phases ≠ [] := phases_ofTables_ne_nil tables registry
    have hlast := List.getLast?_eq_some_getLast hne
    have hmem := List.getLast_mem hne
    refine ⟨joinHeaders fileSeparator layout.columns,
      (evaluation.phases.getLast hne).rows.map (joinValues fileSeparator), _, ?_, hlast, ?_,
      cells_resultRows (hregular _ hmem)⟩
    · unfold Evaluation.resultLines
      rw [hlast]
      rfl
    · refine cellsOf_joinHeaders endsWith_fileSeparator ?_ hlayout.name
      exact List.append_ne_nil_of_left_ne_nil hlayout.core_ne_nil _

/-- The reports of two nodes without metrics, whose root is in the second of three phases. -/
theorem reports_of_zeroTables :
    let registry := Registry.ofNodes ⟨1, some "0001".toList⟩ [⟨2, none⟩]
    let tables : PhaseTables := ⟨.hkV6, .zero 3 2, 1, ⟨false, false⟩⟩
    let info : RunInfo := ⟨.hkV6, none, none, none, true, 1, 2⟩
    let evaluation := Evaluation.ofTables tables registry
    (∀ node ∈ registry.nodes, node.TabFree) ∧
    ∃ blocks : List ConsoleBlock, evaluation.consoleLines info true =
        info.lines ++ blocks.flatMap (·.lines) ++
          ["----- In traffic optimization period -----", ""] ∧
      blocks.length = 2 ∧
      ∀ block ∈ blocks, ∃ table, block.extended? = some table ∧
        (table.row 1).getLast? = some "2" := by
  intro registry tables info evaluation
  have htab : ∀ node ∈ registry.nodes, node.TabFree := by
    intro node hnode address haddress
    have hnodes : node = ⟨1, some "0001".toList⟩ ∨ node = ⟨2, none⟩ := by
      simpa [registry, Registry.ofNodes, Registry.nodes, Registry.ofRoot,
        Registry.addNonRoot] using hnode
    rcases hnodes with rfl | rfl
    · cases haddress
      decide
    · cases haddress
  obtain ⟨-, hconsole, -⟩ :=
    @reports_agree tables registry htab info ⟨false, false⟩ none
  obtain ⟨blocks, shown, notice, hlines, hshows, -, hunfinished⟩ := hconsole true
  obtain ⟨rfl, result, hresult, rfl⟩ := hunfinished (by decide)
  have hphase : result.phase = .trafficOptimization := by
    have hget : (evaluation.phases[1]?).map (·.phase) = some .trafficOptimization := rfl
    rw [show evaluation.phases[1]? = some result from hresult] at hget
    exact Option.some_inj.mp hget
  rw [hphase] at hlines
  refine ⟨htab, blocks, hlines, hshows.length_eq, fun block hblock => ?_⟩
  obtain ⟨i, hi, rfl⟩ := List.mem_iff_getElem.mp hblock
  have hshow := hshows.get hi (hshows.length_eq ▸ hi)
  obtain ⟨table, htable⟩ := Option.isSome_iff_exists.mp (hshow.extended_isSome.mpr ⟨rfl, by decide⟩)
  exact ⟨table, htable, hshow.id table htable 1 ⟨2, none⟩ rfl⟩

end MeshLog
