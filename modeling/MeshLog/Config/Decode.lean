import MeshLog.Config.Basic
import MeshLog.Yaml.Node
import MeshLog.Text.Utf8

/-!
# Configurations in YAML

`RunConfig.ofYaml?` reads a configuration from a YAML document. Every setting may be left out.
Unknown settings are refused at the top and passed over inside the sections; a setting must not
stand twice.
-/

namespace MeshLog.Yaml.Node

def coreTag (name : String) : Text := "tag:yaml.org,2002:".toList ++ name.toList

/-- Whether a text writes that there is no value. -/
def isNull (text : Text) : Bool :=
  ["null", "Null", "NULL", "~"].any fun (word : String) => word.toList == text

def string? : Node → Option String
  | .scalar _ _ text => some (String.ofList text)
  | _ => none

/-- The text of a scalar that can write a value of a core type. -/
def typed? (type : String) : Node → Option Text
  | .scalar .plain _ text => some text
  | .scalar .literal tag? text => if tag? = some (coreTag type) then some text else none
  | _ => none

def optional? {α : Type} (read : Node → Option α) : Node → Option (Option α)
  | .scalar .plain tag? text =>
    if tag? = some (coreTag "null") then if isNull text then some none else none
    else if tag?.isNone && (text.isEmpty || isNull text) then some none
    else (read (.scalar .plain tag? text)).map some
  | node => (read node).map some

def bool? (node : Node) : Option Bool := do
  let text ← node.typed? "bool"
  if ["true", "True", "TRUE"].any fun (word : String) => word.toList == text then some true
  else if ["false", "False", "FALSE"].any fun (word : String) => word.toList == text then
    some false
  else none

def based? (mark : String) (base : Nat) (text : Text) : Option Nat :=
  (Text.dropHead? mark.toList text).bind (Text.natural? base)

/-- A natural number in decimal, without leading zeros, or in another base behind its mark. -/
def natural? (text : Text) : Option Nat :=
  let digits := if text.head? = some '+' then text.drop 1 else text
  ((based? "0x" 16 digits).or ((based? "0o" 8 digits).or (based? "0b" 2 digits))).or
    (if 1 < digits.length ∧ digits.head? = some '0' ∧ digits.all Char.isDigit then none
      else Text.natural? 10 digits)

def nodeId? (node : Node) : Option Nat := do
  (natural? (← node.typed? "int")).filter (· < Nat.pow 2 32)

/-- The spellings of numbers that are not finite. -/
def notFinite? (text : Text) : Option Binary64 :=
  let oneOf (words : List String) : Bool := words.any fun word => word.toList == text
  if oneOf [".inf", ".Inf", ".INF", "+.inf", "+.Inf", "+.INF"] then some (.infinity false)
  else if oneOf ["-.inf", "-.Inf", "-.INF"] then some (.infinity true)
  else if oneOf [".nan", ".NaN", ".NAN"] then some .nan
  else none

def real? (node : Node) : Option Binary64 := do
  let text ← node.typed? "float"
  (notFinite? text).or ((Binary64.read? text).filter (·.isFinite))

def list? {α : Type} (read : Node → Option α) : Node → Option (List α)
  | .sequence items => items.mapM read
  | .scalar .plain _ [] => some []
  | _ => none

/-- A variant, by its name or as the local tag of an empty value. -/
def variant? : Node → Option Variant
  | .scalar style (some ('!' :: name)) text =>
    if style = .plain ∧ (text = [] ∨ isNull text) then Variant.ofName? (String.ofList name)
    else none
  | .scalar _ _ text => Variant.ofName? (String.ofList text)
  | _ => none

/-- Named settings. -/
abbrev Settings := List (Text × Node)

/-- The settings of a section. Known names stand at most once; in a closed section there are no
others. -/
def settings? (known : List String) (closed : Bool) : Node → Option Settings
  | .mapping entries => do
    let named ← entries.mapM fun (key, value) => do return ((← key.string?).toList, value)
    let names := named.map (·.1)
    let knownNames := known.map (·.toList)
    if knownNames.any fun name => 1 < names.count name then none
    else if closed && !names.all knownNames.contains then none
    else some named
  | .scalar .plain _ [] => some []
  | _ => none

namespace Settings

def get? {α : Type} (settings : Settings) (name : String) (read : Node → Option α) :
    Option (Option α) :=
  match settings.lookup name.toList with
  | none => some none
  | some node => (read node).map some

/-- A setting, or its default if it is not there. -/
def getD {α : Type} (settings : Settings) (name : String) (read : Node → Option α) (default : α) :
    Option α :=
  (settings.get? name read).map (·.getD default)

end Settings

def declaredNode? (node : Node) : Option RegisteredNode := do
  let settings ← node.settings? ["id", "address"] false
  let id ← settings.get? "id" nodeId?
  let address? ← settings.getD "address" (optional? string?) none
  return ⟨← id, address?.map (·.toList)⟩

def declaredNodes? (node : Node) : Option DeclaredNodes := do
  let settings ← node.settings? ["root", "non_root"] false
  let root ← settings.get? "root" declaredNode?
  let nonRoot ← settings.getD "non_root" (list? declaredNode?) []
  return ⟨← root, nonRoot⟩

def output? (node : Node) : Option OutputConfig := do
  let settings ← node.settings? ["result_file", "summary_file", "write_files", "json"] false
  let standard := OutputConfig.standard
  return {
    resultFile := ← settings.getD "result_file" string? standard.resultFile
    summaryFile := ← settings.getD "summary_file" string? standard.summaryFile
    writeFiles := ← settings.getD "write_files" bool? standard.writeFiles
    json? := ← settings.getD "json" (optional? string?) standard.json? }

def runSettings : List String := [
  "variant", "log_dir", "scheduler", "iteration", "header_id", "show_all", "default_slot_len_ms",
  "nodes", "output"]

def runConfig? (node : Node) : Option RunConfig := do
  let settings ← node.settings? runSettings true
  let standard := RunConfig.standard
  return {
    variant := ← settings.getD "variant" variant? standard.variant
    logDirectory := ← settings.getD "log_dir" string? standard.logDirectory
    scheduler? := ← settings.getD "scheduler" (optional? string?) none
    iteration? := ← settings.getD "iteration" (optional? string?) none
    headerId? := ← settings.getD "header_id" (optional? nodeId?) none
    showAll := ← settings.getD "show_all" bool? standard.showAll
    slotMs := ← settings.getD "default_slot_len_ms" real? standard.slotMs
    nodes? := ← settings.getD "nodes" (optional? declaredNodes?) none
    output := ← settings.getD "output" output? standard.output }

end MeshLog.Yaml.Node

namespace MeshLog

/-- The configuration that the bytes of a YAML file write. -/
def RunConfig.ofYaml? (bytes : Bytes) : Option RunConfig := do
  (← Yaml.Node.read? (← Utf8.decode? bytes)).runConfig?

end MeshLog
