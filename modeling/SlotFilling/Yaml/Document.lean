import SlotFilling.Yaml.Node
import SlotFilling.Yaml.Scan

/-!
# Documents

The nodes of a document are read from its lexemes. Anchors are numbered as they
come: a name gets the number of different names before it, also when it is given
again. So a name that is given again shares its number with the next new name. A
text holds one document at most.
-/
namespace SlotFilling.Yaml.Node

/-! ### Directives -/

/-- What the handles of tags stand for. -/
abbrev Handles := List (String × Tag)

/-- The handles that every document knows. -/
def knownHandles : Handles :=
  [("!", markTag), ("!!", "tag:yaml.org,2002:".toUTF8.toList)]

/-- Read the directives before a document. At most one gives the version, which is
1.1 or 1.2, and each handle is declared once. -/
def directives? (versioned : Bool) (handles : Handles) :
    List Lexeme → Option (Handles × List Lexeme)
  | .versionDirective major minor :: rest =>
    if versioned || major != 1 || !(minor == 1 || minor == 2) then none
    else directives? true handles rest
  | .tagDirective handle start :: rest =>
    if (handles.lookup handle).isSome then none
    else directives? versioned ((handle, start) :: handles) rest
  | rest => some (handles ++ knownHandles, rest)

/-! ### Nodes -/

/-- The lexemes that are left, and the names of the anchors seen so far, each with
the number that it was given last. -/
structure Source where
  lexemes : List Lexeme
  names : List (String × Nat) := []

/-- Reading a part of a document, which may fail. -/
abbrev Reading := StateT Source Option

/-- The next lexeme, which stays. -/
def peek : Reading (Option Lexeme) := do return (← get).lexemes.head?

/-- Pass over the next lexeme. -/
def advance : Reading Unit := modify fun source => { source with lexemes := source.lexemes.tail }

/-- Pass over the next lexeme if it is the given one. -/
def accept (lexeme : Lexeme) : Reading Bool := do
  if (← peek) = some lexeme then
    advance
    return true
  else return false

/-- Pass over the next lexeme, which has to be the given one. -/
def expect (lexeme : Lexeme) : Reading Unit := do
  if !(← accept lexeme) then failure

/-- Whether the next lexeme is one of some. -/
def atAny (lexemes : List Lexeme) : Reading Bool := do
  return (← peek).any lexemes.contains

/-- Give a name its number, which is the number of different names before it. -/
def numbered (name : String) : Reading Nat := do
  let names := (← get).names
  modify fun source =>
    { source with names := (name, names.length) :: names.filter (·.1 != name) }
  return names.length

/-- The node that stands for an alias; its name has to be known. -/
def aliased (name : String) : Reading Node := do
  return .alias (← ((← get).names.lookup name).getM)

/-- The full text of a tag; its handle has to be known. -/
def fullTag? (handles : Handles) : String × Tag → Option Tag
  | ("", suffix) => some suffix
  | (handle, suffix) => (handles.lookup handle).map (· ++ suffix)

/-- Read an anchor and a tag, in any order. -/
def properties (handles : Handles) : Reading Properties := do
  let source ← get
  let (name, tag, rest) : Option String × Option (String × Tag) × List Lexeme :=
    match source.lexemes with
    | .anchor name :: .tag handle suffix :: rest => (some name, some (handle, suffix), rest)
    | .tag handle suffix :: .anchor name :: rest => (some name, some (handle, suffix), rest)
    | .anchor name :: rest => (some name, none, rest)
    | .tag handle suffix :: rest => (none, some (handle, suffix), rest)
    | rest => (none, none, rest)
  set { source with lexemes := rest }
  return ⟨← name.mapM numbered, ← tag.mapM fun tag => (fullTag? handles tag : Option Tag)⟩

section
variable (handles : Handles)

mutual

/-- Read one node. Block collections stand only outside of brackets, and a sequence
without indentation only as the key or the value of a block mapping. A tag is kept as
it is, a mark alone on a scalar too. -/
def readNode (inBlock unindented : Bool) : Nat → Reading Node
  | 0 => failure
  | fuel + 1 => do
    if let some (.alias name) ← peek then
      advance
      return ← aliased name
    let given ← properties handles
    match ← peek with
    | some (.scalar style text) =>
      advance
      return .scalar given style text
    | some .sequenceStart =>
      advance
      return .sequence given (← flowItems true fuel)
    | some .mappingStart =>
      advance
      return .mapping given (← flowEntries true fuel)
    | next =>
      if unindented && next = some .blockEntry then
        return .sequence given (← unindentedItems fuel)
      else if inBlock && next = some .blockSequenceStart then
        advance
        return .sequence given (← blockItems fuel)
      else if inBlock && next = some .blockMappingStart then
        advance
        return .mapping given (← blockEntries fuel)
      else if given.anchor.isSome || given.tag.isSome then
        return .scalar given .plain ""
      else failure

/-- A node, or nothing if one of some lexemes comes next. -/
def nodeUnless (ends : List Lexeme) (inBlock unindented : Bool) : Nat → Reading Node
  | 0 => failure
  | fuel + 1 => do
    if ← atAny ends then return missing
    else readNode inBlock unindented fuel

/-- The items of a block sequence and its end. -/
def blockItems : Nat → Reading (List Node)
  | 0 => failure
  | fuel + 1 => do
    if ← accept .blockEntry then
      let item ← nodeUnless [.blockEntry, .blockEnd] true false fuel
      return item :: (← blockItems fuel)
    else
      expect .blockEnd
      return []

/-- The items of a sequence that is not indented; it ends where no item follows. -/
def unindentedItems : Nat → Reading (List Node)
  | 0 => failure
  | fuel + 1 => do
    if ← accept .blockEntry then
      let item ← nodeUnless [.blockEntry, .key, .value, .blockEnd] true false fuel
      return item :: (← unindentedItems fuel)
    else return []

/-- The entries of a block mapping and its end. -/
def blockEntries : Nat → Reading (List (Node × Node))
  | 0 => failure
  | fuel + 1 => do
    if ← accept .key then
      let key ← nodeUnless [.key, .value, .blockEnd] true true fuel
      let value ←
        if ← accept .value then nodeUnless [.key, .value, .blockEnd] true true fuel
        else pure missing
      return (key, value) :: (← blockEntries fuel)
    else
      expect .blockEnd
      return []

/-- The value of an entry between brackets, which may be left out. -/
def flowValue (ends : List Lexeme) : Nat → Reading Node
  | 0 => failure
  | fuel + 1 => do
    if ← accept .value then nodeUnless ends false false fuel
    else return missing

/-- The items of a sequence in brackets and the closing bracket. A key makes an item
a mapping with one entry; if the key is left out, its mark takes the lexeme that
follows with it. -/
def flowItems (first : Bool) : Nat → Reading (List Node)
  | 0 => failure
  | fuel + 1 => do
    if ← accept .sequenceEnd then return []
    if !first then expect .flowEntry
    if ← accept .key then
      let key ←
        if ← atAny [.value, .flowEntry, .sequenceEnd] then advance *> pure missing
        else readNode false false fuel
      let value ← flowValue [.flowEntry, .sequenceEnd] fuel
      return .mapping {} [(key, value)] :: (← flowItems false fuel)
    else if ← accept .sequenceEnd then return []
    else
      let item ← readNode false false fuel
      return item :: (← flowItems false fuel)

/-- The entries of a mapping in braces and the closing brace. Without a mark before
it, a node is a key that has no value. -/
def flowEntries (first : Bool) : Nat → Reading (List (Node × Node))
  | 0 => failure
  | fuel + 1 => do
    if ← accept .mappingEnd then return []
    if !first then expect .flowEntry
    if ← accept .key then
      let key ← nodeUnless [.value, .flowEntry, .mappingEnd] false false fuel
      let value ← flowValue [.flowEntry, .mappingEnd] fuel
      return (key, value) :: (← flowEntries false fuel)
    else if ← accept .mappingEnd then return []
    else
      let key ← readNode false false fuel
      return (key, missing) :: (← flowEntries false fuel)

end
end

/-! ### Documents -/

/-- Read the content of a document and check that nothing but its end follows. Each
node or list of items takes a lexeme within three calls, which bounds their number. -/
def content? (handles : Handles) (explicit : Bool) (lexemes : List Lexeme) : Option Node := do
  let fuel := 3 * lexemes.length + 3
  let atEnd := match lexemes with
    | .versionDirective _ _ :: _ | .tagDirective _ _ :: _ | .documentStart :: _
    | .documentEnd :: _ | [] => true
    | _ => false
  let (node, source) ←
    if explicit && atEnd then some (missing, { lexemes })
    else (readNode handles true false fuel).run { lexemes }
  if source.lexemes.all (· = .documentEnd) then some node else none

/-- The root of the only document of a text. A text without one counts as an empty
document. -/
def root? (lexemes : List Lexeme) : Option Node :=
  match lexemes with
  | [] => some missing
  | .versionDirective _ _ :: _ | .tagDirective _ _ :: _ | .documentStart :: _ => do
    let (handles, rest) ← directives? false [] lexemes
    match rest with
    | .documentStart :: rest => content? handles true rest
    | _ => none
  | _ => content? knownHandles false lexemes

/-- Read the root of the document of a text that is given as bytes, in UTF-8. -/
def ofBytes? (bytes : List UInt8) : Option Node := do
  root? (← Lexeme.ofChars? (← String.fromUTF8? bytes.toByteArray).toList)

end SlotFilling.Yaml.Node
