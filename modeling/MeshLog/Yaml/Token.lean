import MeshLog.Text.Integer

/-!
# YAML tokens

Configurations are written in YAML. `Token.scan?` divides a text into tokens and makes the
structure that indentation gives explicit: a block collection starts with a token of its own and
ends with `blockEnd`. A key is known as one only at the colon behind it, so its token, and that of
the mapping it opens, is put in front of tokens scanned before.
-/

namespace MeshLog.Yaml

/-- How a scalar is written. -/
inductive ScalarStyle where
  | plain | quoted | literal | folded
deriving DecidableEq, Repr

/-- A token of a YAML text. -/
inductive Token where
  | versionDirective (supported : Bool)
  | tagDirective (handle uri : Text)
  | documentStart
  | documentEnd
  | blockSequence
  | blockMapping
  | blockEnd
  | flowSequence
  | flowSequenceEnd
  | flowMapping
  | flowMappingEnd
  | blockEntry
  | flowEntry
  | key
  | value
  | alias (name : Text)
  | anchor (name : Text)
  | tag (handle suffix : Text)
  | scalar (style : ScalarStyle) (text : Text)
deriving DecidableEq, Repr

/-! ## Characters and positions -/

/-- What is read behind the last character. -/
def endMark : Char := '\x00'

def isBlank (c : Char) : Bool := c = ' ' || c = '\t'

def isBreak (c : Char) : Bool := c = '\n' || c = '\u2028' || c = '\u2029'

def isBreakOrEnd (c : Char) : Bool := isBreak c || c = endMark

/-- A blank, a line break or the end of the text. -/
def isSpaceOrEnd (c : Char) : Bool := isBlank c || isBreakOrEnd c

def isAllowed (c : Char) : Bool :=
  let n := c.toNat
  n = 0x9 || n = 0xA || n = 0xD || (0x20 ≤ n && n ≤ 0x7E) || n = 0x85 ||
    (0xA0 ≤ n && n ≤ 0xD7FF) || (0xE000 ≤ n && n ≤ 0xFFFD && n ≠ 0xFEFF) || 0x10000 ≤ n

/-- Every way to end a line is read as one line feed. -/
def unifyBreaks : Text → Text
  | '\r' :: '\n' :: rest => '\n' :: unifyBreaks rest
  | '\r' :: rest => '\n' :: unifyBreaks rest
  | c :: rest => (if c.toNat = 0x85 then '\n' else c) :: unifyBreaks rest
  | [] => []

/-- A position in a text and what follows it. -/
structure Cursor where
  rest : Text
  index : Nat
  line : Nat
  column : Nat

namespace Cursor

def start (text : Text) : Cursor := ⟨text, 0, 0, 0⟩

def peek (cursor : Cursor) (k : Nat) : Char := cursor.rest.getD k endMark

def here (cursor : Cursor) : Char := cursor.peek 0

/-- The position behind the next character. -/
def skip (cursor : Cursor) : Cursor :=
  match cursor.rest with
  | [] => cursor
  | c :: rest =>
    if isBreak c then ⟨rest, cursor.index + 1, cursor.line + 1, 0⟩
    else ⟨rest, cursor.index + 1, cursor.line, cursor.column + 1⟩

/-- The position behind the next `k` characters. -/
def skipMany (cursor : Cursor) : Nat → Cursor
  | 0 => cursor
  | k + 1 => cursor.skip.skipMany k

/-- The characters that satisfy `p`, and the position behind them. -/
def takeWhile (cursor : Cursor) (p : Char → Bool) : Text × Cursor :=
  let taken := cursor.rest.takeWhile p
  (taken, cursor.skipMany taken.length)

/-- Whether a document marker of three equal characters stands at the start of a line. -/
def atMarker (cursor : Cursor) (c : Char) : Bool :=
  cursor.column = 0 && cursor.rest.take 3 = [c, c, c] && isSpaceOrEnd (cursor.peek 3)

/-- Whether a document starts or ends here. -/
def atDocumentMarker (cursor : Cursor) : Bool := cursor.atMarker '-' || cursor.atMarker '.'

end Cursor

/-! ## Scalars -/

/-- What stands between two pieces of a scalar that spans several lines. -/
structure Gap where
  blanks : Text
  /-- Whether a line break was met, be it an escaped one. -/
  broken : Bool
  first? : Option Char
  further : Text

namespace Gap

def none : Gap := ⟨[], false, .none, []⟩

def escaped : Gap := ⟨[], true, .none, []⟩

/-- The text that a gap stands for: a single line break is a blank, further ones are kept. -/
def text (gap : Gap) : Text :=
  if gap.broken then
    match gap.first? with
    | some '\n' => if gap.further = [] then [' '] else gap.further
    | first? => first?.toList ++ gap.further
  else gap.blanks

def push (gap : Gap) (c : Char) : Gap :=
  if isBlank c then if gap.broken then gap else { gap with blanks := gap.blanks ++ [c] }
  else if gap.broken then { gap with further := gap.further ++ [c] }
  else { gap with blanks := [], broken := true, first? := some c }

/-- Scans blanks and line breaks. A tab behind a line break must not stand before column
`indent`. -/
def scan (indent : Nat) : Nat → Gap → Cursor → Option (Gap × Cursor)
  | 0, gap, cursor => some (gap, cursor)
  | fuel + 1, gap, cursor =>
    let c := cursor.here
    if isBlank c || isBreak c then
      if gap.broken && c = '\t' && cursor.column < indent then Option.none
      else scan indent fuel (gap.push c) cursor.skip
    else some (gap, cursor)

end Gap

/-- Whether a plain scalar ends before the next character. -/
def endsPlain (inFlow : Bool) (cursor : Cursor) : Bool :=
  (cursor.here = ':' && isSpaceOrEnd (cursor.peek 1)) ||
    (inFlow && [',', '[', ']', '\x7b', '\x7d'].contains cursor.here)

/-- Whether a colon stands where flow collections do not allow one. -/
def badFlowColon (inFlow : Bool) (cursor : Cursor) : Bool :=
  inFlow && cursor.here = ':' && [',', '?', '[', ']', '\x7b', '\x7d'].contains (cursor.peek 1)

/-- A piece of a plain scalar without blanks. -/
def plainPiece (inFlow : Bool) : Nat → Cursor → Option (Text × Cursor)
  | 0, cursor => some ([], cursor)
  | fuel + 1, cursor =>
    if isSpaceOrEnd cursor.here then some ([], cursor)
    else if badFlowColon inFlow cursor then none
    else if endsPlain inFlow cursor then some ([], cursor)
    else do
      let (rest, behind) ← plainPiece inFlow fuel cursor.skip
      return (cursor.here :: rest, behind)

/-- A plain scalar: its text, whether it ended behind a line break, and the position behind. -/
def plainScalar (inFlow : Bool) (indent : Nat) :
    Nat → Text → Gap → Cursor → Option (Text × Bool × Cursor)
  | 0, text, gap, cursor => some (text, gap.broken, cursor)
  | fuel + 1, text, gap, cursor =>
    if cursor.atDocumentMarker || cursor.here = '#' then some (text, gap.broken, cursor)
    else do
      let (piece, behind) ← plainPiece inFlow (cursor.rest.length + 1) cursor
      let (text, gap) := if piece = [] then (text, gap) else (text ++ gap.text ++ piece, .none)
      if isBlank behind.here || isBreak behind.here then
        let (gap, next) ← Gap.scan indent (behind.rest.length + 1) gap behind
        if !inFlow && next.column < indent then return (text, gap.broken, next)
        else plainScalar inFlow indent fuel text gap next
      else return (text, gap.broken, behind)

def escapeTable : List (Char × Char) := [
  ('0', '\x00'), ('a', '\x07'), ('b', '\x08'), ('t', '\t'), ('\t', '\t'), ('n', '\n'),
  ('v', '\x0b'), ('f', '\x0c'), ('r', '\r'), ('e', '\x1b'), (' ', ' '), ('"', '"'), ('/', '/'),
  ('\\', '\\'), ('N', '\u0085'), ('_', '\u00a0'), ('L', '\u2028'), ('P', '\u2029')]

/-- How many digits follow the letter of a numeric escape. -/
def escapeDigits? (c : Char) : Option Nat :=
  if c = 'x' then some 2 else if c = 'u' then some 4 else if c = 'U' then some 8 else none

/-- The character of the escape behind a backslash, and the position behind it. -/
def escape? (cursor : Cursor) : Option (Char × Cursor) :=
  match escapeTable.lookup cursor.here with
  | some c => some (c, cursor.skip)
  | none => do
    let count ← escapeDigits? cursor.here
    let digits := cursor.skip.rest.take count
    let code ← Text.natural? 16 digits
    if digits.length = count ∧ code.isValidChar then
      return (Char.ofNat code, cursor.skipMany (count + 1))
    else none

/-- A piece of a quoted scalar without blanks, and whether it ends in an escaped line break. -/
def quotedPiece (quote : Char) : Nat → Cursor → Option (Text × Bool × Cursor)
  | 0, _ => none
  | fuel + 1, cursor =>
    let c := cursor.here
    if isSpaceOrEnd c then some ([], false, cursor)
    else if quote = '\'' ∧ c = '\'' ∧ cursor.peek 1 = '\'' then do
      let (rest, escaped, behind) ← quotedPiece quote fuel (cursor.skipMany 2)
      return ('\'' :: rest, escaped, behind)
    else if c = quote then some ([], false, cursor)
    else if quote = '"' ∧ c = '\\' then
      if isBreak (cursor.peek 1) then some ([], true, cursor.skipMany 2)
      else do
        let (c, next) ← escape? cursor.skip
        let (rest, escaped, behind) ← quotedPiece quote fuel next
        return (c :: rest, escaped, behind)
    else do
      let (rest, escaped, behind) ← quotedPiece quote fuel cursor.skip
      return (c :: rest, escaped, behind)

/-- A quoted scalar behind its opening quote, and the position behind the closing one. -/
def quotedScalar (quote : Char) : Nat → Text → Cursor → Option (Text × Cursor)
  | 0, _, _ => none
  | fuel + 1, text, cursor =>
    if cursor.atDocumentMarker || cursor.rest.isEmpty then none
    else do
      let (piece, escaped, behind) ← quotedPiece quote (cursor.rest.length + 1) cursor
      let text := text ++ piece
      if !escaped && behind.here = quote then return (text, behind.skip)
      else
        let start := if escaped then Gap.escaped else Gap.none
        let (gap, next) ← Gap.scan 0 (behind.rest.length + 1) start behind
        quotedScalar quote fuel (text ++ gap.text) next

/-- Empty lines of a block scalar: the breaks, the greatest column and the position behind. Without
a known indentation all blanks at the start of a line are passed over. -/
def emptyLines (indent : Nat) : Nat → Nat → Cursor → Option (Text × Nat × Cursor)
  | 0, widest, cursor => some ([], widest, cursor)
  | fuel + 1, widest, cursor =>
    let inMargin := indent = 0 || cursor.column < indent
    if inMargin && cursor.here = ' ' then emptyLines indent fuel widest cursor.skip
    else if inMargin && cursor.here = '\t' then none
    else if isBreak cursor.here then do
      let (breaks, widest, behind) ←
        emptyLines indent fuel (max widest cursor.column) cursor.skip
      return (cursor.here :: breaks, widest, behind)
    else some ([], max widest cursor.column, cursor)

/-- The lines of a block scalar: its text without the breaks at its end, the break of its last line
and the breaks behind that. -/
def blockLines (isLiteral : Bool) (indent : Nat) :
    Nat → Text → Text → Text → Bool → Cursor → Option (Text × Text × Text × Cursor)
  | 0, text, leading, trailing, _, cursor => some (text, leading, trailing, cursor)
  | fuel + 1, text, leading, trailing, afterBlank, cursor =>
    if cursor.column = indent ∧ cursor.rest ≠ [] then do
      let blank := isBlank cursor.here
      let folds := !isLiteral && leading = ['\n'] && !afterBlank && !blank
      let joint := if folds then (if trailing = [] then [' '] else []) else leading
      let (line, behind) := cursor.takeWhile fun c => !isBreak c
      let text := text ++ joint ++ trailing ++ line
      let leading := behind.rest.take 1
      let (trailing, _, next) ← emptyLines indent (behind.rest.length + 1) 0 behind.skip
      blockLines isLiteral indent fuel text leading trailing blank next
    else some (text, leading, trailing, cursor)

/-- What a block scalar keeps of the line breaks at its end. -/
inductive Chomping where
  | strip | clip | keep
deriving DecidableEq

/-- The indicators behind `|` or `>`: how breaks at the end are kept and how far the lines are
indented. -/
def blockHeader (cursor : Cursor) : Option (Chomping × Nat × Cursor) := do
  let chomping? (c : Char) : Option Chomping :=
    if c = '+' then some .keep else if c = '-' then some .strip else none
  let digit? (c : Char) : Option Nat :=
    if c.isDigit then some (c.toNat - '0'.toNat) else none
  let (chomping, width, behind) ←
    match chomping? cursor.here, digit? cursor.here with
    | some chomping, _ =>
      match digit? (cursor.peek 1) with
      | some width => some (chomping, some width, cursor.skipMany 2)
      | none => some (chomping, none, cursor.skip)
    | none, some width =>
      match chomping? (cursor.peek 1) with
      | some chomping => some (chomping, some width, cursor.skipMany 2)
      | none => some (.clip, some width, cursor.skip)
    | none, none => some (.clip, none, cursor)
  if width = some 0 then none
  let behind := (behind.takeWhile isBlank).2
  let behind :=
    if behind.here = '#' then (behind.takeWhile fun c => !isBreak c).2 else behind
  if isBreakOrEnd behind.here then return (chomping, width.getD 0, behind.skip) else none

/-- A block scalar behind its `|` or `>`, inside a block of some indentation. -/
def blockScalar (isLiteral : Bool) (parent : Int) (cursor : Cursor) : Option (Text × Cursor) := do
  let (chomping, width, behind) ← blockHeader cursor
  let known := if width = 0 then 0 else (max parent 0).toNat + width
  let (breaks, widest, next) ← emptyLines known (behind.rest.length + 1) 0 behind
  let indent := if known = 0 then max (max widest (parent + 1).toNat) 1 else known
  let (text, leading, trailing, behind) ←
    blockLines isLiteral indent (next.rest.length + 1) [] [] breaks false next
  let ending :=
    match chomping with
    | .strip => []
    | .clip => leading
    | .keep => leading ++ trailing
  return (text ++ ending, behind)

/-! ## Properties and directives -/

def isNameChar (c : Char) : Bool := c.isAlphanum || c = '_' || c = '-'

def endsName (c : Char) : Bool :=
  isSpaceOrEnd c || ['?', ':', ',', ']', '\x7d', '%', '@', '\x60'].contains c

def name? (cursor : Cursor) : Option (Text × Cursor) :=
  let (name, behind) := cursor.takeWhile isNameChar
  if name ≠ [] ∧ endsName behind.here then some (name, behind) else none

def isTagChar (inFlow : Bool) (c : Char) : Bool :=
  isNameChar c || ";/?:@&=+$.!~*'()%".toList.contains c || (!inFlow && ",[]".toList.contains c)

/-- A tag behind its exclamation mark, as a handle and a suffix. -/
def tag? (inFlow : Bool) (cursor : Cursor) : Option (Token × Cursor) :=
  let finish (handle suffix : Text) (behind : Cursor) : Option (Token × Cursor) :=
    if isSpaceOrEnd behind.here || (inFlow && behind.here = ',') then
      some (.tag handle suffix, behind)
    else none
  if cursor.here = '<' then
    let (uri, behind) := cursor.skip.takeWhile fun c => isTagChar false c
    if uri ≠ [] ∧ behind.here = '>' then finish [] uri behind.skip else none
  else
    let (word, behind) := cursor.takeWhile isNameChar
    if behind.here = '!' then
      let (suffix, behind) := behind.skip.takeWhile (isTagChar inFlow)
      if suffix = [] then none else finish ('!' :: word ++ ['!']) suffix behind
    else
      let (suffix, behind) := behind.takeWhile (isTagChar inFlow)
      finish ['!'] (word ++ suffix) behind

/-- The rest of a line that may only hold a comment. -/
def lineEnd? (cursor : Cursor) : Option Cursor :=
  let behind := (cursor.takeWhile isBlank).2
  let behind :=
    if behind.here = '#' then (behind.takeWhile fun c => !isBreak c).2 else behind
  if isBreakOrEnd behind.here then some behind.skip else none

def directive? (cursor : Cursor) : Option (Token × Cursor) := do
  let (name, behind) := cursor.takeWhile isNameChar
  let next := (behind.takeWhile isBlank).2
  if name = [] ∨ !isSpaceOrEnd behind.here then none
  else if name = "YAML".toList then
    let (major, dot) := next.takeWhile Char.isDigit
    let (minor, behind) := dot.skip.takeWhile Char.isDigit
    if major = [] ∨ minor = [] ∨ dot.here ≠ '.' then none
    else
      let supported := Text.natural? 10 major = some 1 ∧
        (Text.natural? 10 minor = some 1 ∨ Text.natural? 10 minor = some 2)
      return (.versionDirective supported, ← lineEnd? behind)
  else if name = "TAG".toList then
    let (handle, behind) := next.takeWhile fun c => !isSpaceOrEnd c
    let (uri, behind) := (behind.takeWhile isBlank).2.takeWhile fun c => !isSpaceOrEnd c
    if handle.head? ≠ some '!' ∨ uri = [] then none
    else return (.tagDirective handle uri, ← lineEnd? behind)
  else none

/-! ## The scanner -/

/-- A place where a key may have started. -/
structure PossibleKey where
  required : Bool
  token : Nat
  cursor : Cursor

/-- The state of scanning a text. -/
structure Scanner where
  cursor : Cursor
  tokens : List Token
  /-- The indentation of the current block, and of those around it. -/
  indent : Int
  indents : List Int
  keyAllowed : Bool
  /-- The possible key of the current flow level, and of those around it. -/
  key? : Option PossibleKey
  keys : List (Option PossibleKey)

namespace Scanner

/-- Whether the scanner is inside a flow collection. -/
def inFlow (s : Scanner) : Bool := !s.keys.isEmpty

def push (s : Scanner) (token : Token) : Scanner := { s with tokens := s.tokens ++ [token] }

/-- Opens a block at a column that is further in than the current one. The token of the block
stands at position `place`. -/
def openBlock (s : Scanner) (column : Nat) (place : Nat) (token : Token) : Scanner :=
  if s.inFlow ∨ (column : Int) ≤ s.indent then s
  else
    { s with
      indent := column
      indents := s.indent :: s.indents
      tokens := s.tokens.insertIdx place token }

/-- Closes the blocks that are further in than a column. -/
def closeBlocks (column : Int) : List Int → Scanner → Scanner
  | [], s => s
  | outer :: indents, s =>
    if column < s.indent then
      closeBlocks column indents { s.push .blockEnd with indent := outer, indents }
    else s

/-- Closes the blocks that end at the column of the next token. -/
def unindent (s : Scanner) (column : Int) : Scanner :=
  if s.inFlow then s else closeBlocks column s.indents s

/-- Gives up the possible key; a required one must not be given up. -/
def dropKey (s : Scanner) : Option Scanner :=
  if s.key?.any (·.required) then none else some { s with key? := none }

def saveKey (s : Scanner) : Option Scanner :=
  if s.keyAllowed then do
    let s ← s.dropKey
    let required := !s.inFlow && s.indent = s.cursor.column
    return { s with key? := some ⟨required, s.tokens.length, s.cursor⟩ }
  else some s

/-- Whether a possible key can no longer be one: keys end on their line and are short. -/
def isStale (s : Scanner) (key : PossibleKey) : Bool :=
  key.cursor.line < s.cursor.line || key.cursor.index + 1024 < s.cursor.index

/-- Forgets keys that cannot be keys any more. -/
def dropStaleKeys (s : Scanner) : Option Scanner := do
  let fresh (key? : Option PossibleKey) : Option (Option PossibleKey) :=
    match key? with
    | some key =>
      if s.isStale key then if key.required then none else some none else some (some key)
    | none => some none
  return { s with key? := ← fresh s.key?, keys := ← s.keys.mapM fresh }

/-- Passes over blanks, comments and line breaks before the next token. -/
def skipSpace : Nat → Scanner → Scanner
  | 0, s => s
  | fuel + 1, s =>
    let c := s.cursor.here
    if c = ' ' || (c = '\t' && (s.inFlow || !s.keyAllowed)) then
      skipSpace fuel { s with cursor := s.cursor.skip }
    else if c = '#' then
      skipSpace fuel { s with cursor := (s.cursor.takeWhile fun c => !isBreak c).2 }
    else if isBreak c then
      skipSpace fuel
        { s with cursor := s.cursor.skip, keyAllowed := s.keyAllowed || !s.inFlow }
    else s

/-- Ends all blocks before a directive, a document marker or the end. -/
def endBlocks (s : Scanner) : Option Scanner := do
  let s ← (s.unindent (-1)).dropKey
  return { s with keyAllowed := false }

def take (s : Scanner) (count : Nat) (token : Token) : Scanner :=
  { s.push token with cursor := s.cursor.skipMany count }

def openFlow (s : Scanner) (token : Token) : Option Scanner := do
  let s ← s.saveKey
  return { s.take 1 token with keys := s.key? :: s.keys, key? := none, keyAllowed := true }

def closeFlow (s : Scanner) (token : Token) : Option Scanner := do
  let s ← s.dropKey
  let s := { s.take 1 token with keyAllowed := false }
  match s.keys with
  | [] => return s
  | key? :: keys => return { s with key?, keys }

/-- The comma between entries of a flow collection. -/
def flowEntry (s : Scanner) : Option Scanner := do
  let s ← s.dropKey
  return { s.take 1 .flowEntry with keyAllowed := true }

/-- The dash before an entry of a block sequence. -/
def blockEntry (s : Scanner) : Option Scanner := do
  if !s.inFlow && !s.keyAllowed then none
  let s := s.openBlock s.cursor.column s.tokens.length .blockSequence
  let s ← s.dropKey
  return { s.take 1 .blockEntry with keyAllowed := true }

def explicitKey (s : Scanner) : Option Scanner := do
  if !s.inFlow && !s.keyAllowed then none
  let s := s.openBlock s.cursor.column s.tokens.length .blockMapping
  let s ← s.dropKey
  return { s.take 1 .key with keyAllowed := !s.inFlow }

/-- The colon before a value. If a key may have started before, it has. -/
def value (s : Scanner) : Option Scanner :=
  match s.key? with
  | some key =>
    let s := { s with tokens := s.tokens.insertIdx key.token .key, key? := none }
    let s := s.openBlock key.cursor.column key.token .blockMapping
    some { s.take 1 .value with keyAllowed := false }
  | none =>
    if !s.inFlow && !s.keyAllowed then none
    else
      let s := s.openBlock s.cursor.column s.tokens.length .blockMapping
      some { s.take 1 .value with keyAllowed := !s.inFlow }

def keyLike (s : Scanner) (scanned : Option (Token × Cursor)) : Option Scanner := do
  let s ← s.saveKey
  let (token, cursor) ← scanned
  return { s.push token with cursor, keyAllowed := false }

def startsPlain (s : Scanner) : Bool :=
  let c := s.cursor.here
  let next := s.cursor.peek 1
  (!isSpaceOrEnd c && !("-?:,[]\x7b\x7d#&*!|>'\"%@\x60".toList.contains c)) ||
    (c = '-' && !isBlank next) ||
    (!s.inFlow && (c = '?' || c = ':') && !isSpaceOrEnd next)

/-- A plain scalar. Behind a line break a key may follow it. -/
def plain (s : Scanner) : Option Scanner := do
  let s ← s.saveKey
  let (text, broken, cursor) ←
    plainScalar s.inFlow (s.indent + 1).toNat (s.cursor.rest.length + 1) [] .none s.cursor
  return { s.push (.scalar .plain text) with cursor, keyAllowed := broken }

def quotedToken (quote : Char) (cursor : Cursor) : Option (Token × Cursor) := do
  let (text, behind) ← quotedScalar quote (cursor.rest.length + 1) [] cursor.skip
  return (.scalar .quoted text, behind)

def block (s : Scanner) (isLiteral : Bool) : Option Scanner := do
  let s ← s.dropKey
  let (text, cursor) ← blockScalar isLiteral s.indent s.cursor.skip
  let style := if isLiteral then ScalarStyle.literal else .folded
  return { s.push (.scalar style text) with cursor, keyAllowed := true }

/-- Scans the next token; `none` inside is the end of the text. -/
def next (s : Scanner) : Option (Option Scanner) := do
  let s ← (s.skipSpace (s.cursor.rest.length + 1)).dropStaleKeys
  let s := s.unindent s.cursor.column
  let cursor := s.cursor
  let c := cursor.here
  let blankNext := isSpaceOrEnd (cursor.peek 1)
  if cursor.rest.isEmpty then return none
  let scanned ←
    if cursor.column = 0 ∧ c = '%' then do
      let s ← s.endBlocks
      let (token, cursor) ← directive? cursor.skip
      some { s.push token with cursor }
    else if cursor.atMarker '-' then s.endBlocks.map (·.take 3 .documentStart)
    else if cursor.atMarker '.' then s.endBlocks.map (·.take 3 .documentEnd)
    else if c = '[' then s.openFlow .flowSequence
    else if c = '\x7b' then s.openFlow .flowMapping
    else if c = ']' then s.closeFlow .flowSequenceEnd
    else if c = '\x7d' then s.closeFlow .flowMappingEnd
    else if c = ',' then s.flowEntry
    else if c = '-' ∧ blankNext then s.blockEntry
    else if c = '?' ∧ (s.inFlow ∨ blankNext) then s.explicitKey
    else if c = ':' ∧ (s.inFlow ∨ blankNext) then s.value
    else if c = '*' then
      s.keyLike ((name? cursor.skip).map fun (name, behind) => (.alias name, behind))
    else if c = '&' then
      s.keyLike ((name? cursor.skip).map fun (name, behind) => (.anchor name, behind))
    else if c = '!' then s.keyLike (tag? s.inFlow cursor.skip)
    else if c = '|' ∧ !s.inFlow then s.block true
    else if c = '>' ∧ !s.inFlow then s.block false
    else if c = '\'' ∨ c = '"' then s.keyLike (quotedToken c cursor)
    else if s.startsPlain then s.plain
    else none
  return some scanned

def run : Nat → Scanner → Option Scanner
  | 0, _ => none
  | fuel + 1, s => do
    match ← s.next with
    | some s => run fuel s
    | none =>
      let s := s.skipSpace (s.cursor.rest.length + 1)
      s.endBlocks

end Scanner

/-- The tokens of a YAML text, if it can be divided into tokens. -/
def Token.scan? (text : Text) : Option (List Token) := do
  let text := unifyBreaks (if text.head? = some '\uFEFF' then text.drop 1 else text)
  if !text.all isAllowed then none
  let start : Scanner := ⟨.start text, [], -1, [], true, none, []⟩
  let s ← Scanner.run (text.length + 2) start
  return s.tokens

end MeshLog.Yaml
