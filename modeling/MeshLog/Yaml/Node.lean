import MeshLog.Yaml.Token

/-!
# YAML nodes

`Node.read?` builds the tree of the single document of a YAML text. Aliases are replaced by the
nodes that their anchors name, and places without content hold an empty plain scalar.
-/

namespace MeshLog.Yaml

/-- A node of a document. -/
inductive Node where
  | scalar (style : ScalarStyle) (tag? : Option Text) (text : Text)
  | sequence (items : List Node)
  | mapping (entries : List (Node × Node))

def Node.empty : Node := .scalar .plain none []

/-- The tokens still to be read, and what anchors and tag handles stand for. -/
structure Reader where
  tokens : List Token
  anchors : List (Text × Node)
  handles : List (Text × Text)

namespace Reader

def peek? (r : Reader) : Option Token := r.tokens.head?

def skip (r : Reader) : Reader := { r with tokens := r.tokens.tail }

/-- Passes over the next token if it is this one. -/
def expect (r : Reader) (token : Token) : Option Reader :=
  if r.peek? = some token then some r.skip else none

/-- Whether the next token is one of these, or there is none. -/
def stopsAt (r : Reader) (tokens : List Token) : Bool := r.peek?.all tokens.contains

/-- The full tag that a handle and a suffix stand for. -/
def resolveTag (r : Reader) (handle suffix : Text) : Option Text :=
  if handle = [] then some suffix
  else (r.handles.lookup handle).map (· ++ suffix)

/-- The anchor and the tag before a node, in either order. -/
def properties (r : Reader) : Option (Option Text × Option Text × Reader) :=
  match r.tokens with
  | .anchor name :: .tag handle suffix :: rest
  | .tag handle suffix :: .anchor name :: rest => do
    return (some name, some (← r.resolveTag handle suffix), { r with tokens := rest })
  | .anchor name :: rest => some (some name, none, { r with tokens := rest })
  | .tag handle suffix :: rest => do
    return (none, some (← r.resolveTag handle suffix), { r with tokens := rest })
  | _ => some (none, none, r)

mutual

/-- A node. In a block, block collections are allowed; behind a key, also a sequence that is not
indented. -/
def node (inBlock afterKey : Bool) : Nat → Reader → Option (Node × Reader)
  | 0, _ => none
  | fuel + 1, r =>
    match r.peek? with
    | some (.alias name) => do return (← r.anchors.lookup name, r.skip)
    | _ => do
      let (anchor?, tag?, r) ← r.properties
      let (result, r) ← content inBlock afterKey (anchor?.isSome || tag?.isSome) tag? fuel r
      match anchor? with
      | some name => return (result, { r with anchors := (name, result) :: r.anchors })
      | none => return (result, r)

/-- The content of a node behind its properties. -/
def content (inBlock afterKey hasProperties : Bool) (tag? : Option Text) :
    Nat → Reader → Option (Node × Reader)
  | 0, _ => none
  | fuel + 1, r =>
    match r.peek? with
    | some (.scalar style text) => some (.scalar style tag? text, r.skip)
    | some .flowSequence => do
      let (items, r) ← flowItems true fuel r.skip
      return (.sequence items, r)
    | some .flowMapping => do
      let (entries, r) ← flowEntries true fuel r.skip
      return (.mapping entries, r)
    | token? => do
      if token? = some .blockSequence ∧ inBlock then
        let (items, r) ← blockItems fuel r.skip
        return (.sequence items, r)
      else if token? = some .blockMapping ∧ inBlock then
        let (entries, r) ← blockEntries fuel r.skip
        return (.mapping entries, r)
      else if token? = some .blockEntry ∧ afterKey then
        let (items, r) ← plainItems fuel r
        return (.sequence items, r)
      else if hasProperties then return (.scalar .plain tag? [], r)
      else none

/-- A node unless one of some tokens stands in its place. -/
def nodeUnless (stops : List Token) (inBlock afterKey : Bool) :
    Nat → Reader → Option (Node × Reader)
  | 0, _ => none
  | fuel + 1, r => if r.stopsAt stops then some (.empty, r) else node inBlock afterKey fuel r

/-- The entries of an indented block sequence, up to its end. -/
def blockItems : Nat → Reader → Option (List Node × Reader)
  | 0, _ => none
  | fuel + 1, r =>
    if r.peek? = some .blockEnd then some ([], r.skip)
    else do
      let r ← r.expect .blockEntry
      let (item, r) ← nodeUnless [.blockEntry, .blockEnd] true false fuel r
      let (items, r) ← blockItems fuel r
      return (item :: items, r)

/-- The entries of a block sequence that is not indented. -/
def plainItems : Nat → Reader → Option (List Node × Reader)
  | 0, _ => none
  | fuel + 1, r =>
    if r.peek? = some .blockEntry then do
      let (item, r) ←
        nodeUnless [.blockEntry, .key, .value, .blockEnd] true false fuel r.skip
      let (items, r) ← plainItems fuel r
      return (item :: items, r)
    else some ([], r)

/-- The entries of a block mapping, up to its end. -/
def blockEntries : Nat → Reader → Option (List (Node × Node) × Reader)
  | 0, _ => none
  | fuel + 1, r =>
    if r.peek? = some .blockEnd then some ([], r.skip)
    else do
      let r ← r.expect .key
      let (key, r) ← nodeUnless [.key, .value, .blockEnd] true true fuel r
      let (value, r) ←
        if r.peek? = some .value then
          nodeUnless [.key, .value, .blockEnd] true true fuel r.skip
        else some (.empty, r)
      let (entries, r) ← blockEntries fuel r
      return ((key, value) :: entries, r)

/-- The items of a flow sequence, up to its end. A key makes an item a mapping of one entry. -/
def flowItems (first : Bool) : Nat → Reader → Option (List Node × Reader)
  | 0, _ => none
  | fuel + 1, r =>
    if r.peek? = some .flowSequenceEnd then some ([], r.skip)
    else do
      let r ← if first then some r else r.expect .flowEntry
      if r.peek? = some .flowSequenceEnd then return ([], r.skip)
      let (item, r) ←
        if r.peek? = some .key then do
          let (key, r) ← nodeUnless [.value, .flowEntry, .flowSequenceEnd] false false fuel r.skip
          let (value, r) ←
            if r.peek? = some .value then
              nodeUnless [.flowEntry, .flowSequenceEnd] false false fuel r.skip
            else some (.empty, r)
          some (.mapping [(key, value)], r)
        else node false false fuel r
      let (items, r) ← flowItems false fuel r
      return (item :: items, r)

/-- The entries of a flow mapping, up to its end. -/
def flowEntries (first : Bool) : Nat → Reader → Option (List (Node × Node) × Reader)
  | 0, _ => none
  | fuel + 1, r =>
    if r.peek? = some .flowMappingEnd then some ([], r.skip)
    else do
      let r ← if first then some r else r.expect .flowEntry
      if r.peek? = some .flowMappingEnd then return ([], r.skip)
      let (key, value, r) ←
        if r.peek? = some .key then do
          let (key, r) ← nodeUnless [.value, .flowEntry, .flowMappingEnd] false false fuel r.skip
          let (value, r) ←
            if r.peek? = some .value then
              nodeUnless [.flowEntry, .flowMappingEnd] false false fuel r.skip
            else some (.empty, r)
          some (key, value, r)
        else do
          let (key, r) ← node false false fuel r
          some (key, .empty, r)
      let (entries, r) ← flowEntries false fuel r
      return ((key, value) :: entries, r)

end

def standardHandles : List (Text × Text) :=
  [(['!'], ['!']), ("!!".toList, "tag:yaml.org,2002:".toList)]

/-- Reads directives; a version must be supported and stated once. -/
def directives (versioned : Bool) : List Token → List (Text × Text) →
    Option (Bool × List Token × List (Text × Text))
  | .versionDirective supported :: rest, handles =>
    if versioned || !supported then none else directives true rest handles
  | .tagDirective handle uri :: rest, handles =>
    directives versioned rest ((handle, uri) :: handles)
  | tokens, handles => some (versioned, tokens, handles)

end Reader

/-- The content of the single document of a YAML text. -/
def Node.read? (text : Text) : Option Node := do
  let tokens ← Token.scan? text
  let (versioned, behind, handles) ← Reader.directives false tokens Reader.standardHandles
  let marked := behind.head? = some .documentStart
  let hasDirectives := versioned || behind.length < tokens.length
  if hasDirectives && !marked then none
  let body := if marked then behind.tail else behind
  let fuel := 8 * tokens.length + 16
  let r : Reader := ⟨body, [], handles⟩
  let stops := [Token.documentStart, .documentEnd]
  let (result, r) ← Reader.nodeUnless stops true false fuel r
  if (r.tokens.dropWhile (· == .documentEnd)).isEmpty then return result else none

end MeshLog.Yaml
