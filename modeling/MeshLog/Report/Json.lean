import MeshLog.Binary64.Text

/-!
# JSON values

The values of machine-readable reports and their text: every item of a list or an object on a
line of its own, indented by two blanks for each level.
-/

namespace MeshLog

/-- A JSON value; the fields of an object keep their order. -/
inductive JsonValue where
  | null
  | bool (value : Bool)
  | int (value : Int)
  | real (value : Binary64)
  | string (value : Text)
  | list (items : List JsonValue)
  | object (fields : List (String × JsonValue))

namespace JsonValue

/-- The four hexadecimal digits of a control character. -/
def controlEscape (c : Char) : Text :=
  let digits := Nat.toDigits 16 c.toNat
  "\\u".toList ++ List.replicate (4 - digits.length) '0' ++ digits

/-- The form of one character inside a string. -/
def escapedChar (c : Char) : Text :=
  if c = '"' then "\\\"".toList
  else if c = '\\' then "\\\\".toList
  else if c = '\n' then "\\n".toList
  else if c = '\r' then "\\r".toList
  else if c = '\t' then "\\t".toList
  else if c = '\x08' then "\\b".toList
  else if c = '\x0c' then "\\f".toList
  else if c.toNat < 0x20 then controlEscape c
  else [c]

def stringText (text : Text) : Text := '"' :: text.flatMap escapedChar ++ ['"']

/-- A number; numbers that are not finite have no text in JSON. -/
def realText (x : Binary64) : Text :=
  if x.isFinite then (jsonLayout.format x).toList else "null".toList

def lineBreak (depth : Nat) : Text := '\n' :: List.replicate (2 * depth) ' '

/-- Items on lines of their own, between an opening and a closing mark. -/
def block (opening closing : Char) (depth : Nat) (items : List Text) : Text :=
  if items.isEmpty then [opening, closing]
  else
    opening :: [','].intercalate (items.map (lineBreak (depth + 1) ++ ·)) ++
      lineBreak depth ++ [closing]

mutual

def render (depth : Nat) : JsonValue → Text
  | null => "null".toList
  | bool value => (if value then "true" else "false").toList
  | int value => Text.ofInt value
  | real value => realText value
  | string value => stringText value
  | list items => block '[' ']' depth (renderItems (depth + 1) items)
  | object fields => block '\x7b' '\x7d' depth (renderFields (depth + 1) fields)

def renderItems (depth : Nat) : List JsonValue → List Text
  | [] => []
  | item :: rest => render depth item :: renderItems depth rest

def renderFields (depth : Nat) : List (String × JsonValue) → List Text
  | [] => []
  | (name, value) :: rest =>
    (stringText name.toList ++ ": ".toList ++ render depth value) :: renderFields depth rest

end

def text (value : JsonValue) : String := String.ofList (value.render 0)

def ofString (s : String) : JsonValue := string s.toList

def ofOption {α : Type} (value : α → JsonValue) : Option α → JsonValue
  | none => null
  | some a => value a

end JsonValue

end MeshLog
