import GraphMapper.Yaml.Lexer

/-!
# Nodes of a document

A document is a tree of texts, sequences and mappings, each with the tag that says what it stands
for. Names refer to nodes that were given an anchor before.

## Main definitions

* `Yaml.Tag` — what a node stands for
* `Yaml.Node` — a node with its tag
* `Yaml.Node.ofText` — the node of a document
-/

namespace GraphMapper.Yaml

/-- What a node stands for. -/
inductive Tag where
  /-- Nothing. -/
  | null
  /-- A truth value. -/
  | bool
  /-- An integer. -/
  | int
  /-- A number. -/
  | float
  /-- A date or a point in time. -/
  | timestamp
  /-- A text. -/
  | text
  /-- A sequence. -/
  | sequence
  /-- A mapping. -/
  | mapping
  /-- A set. -/
  | set
  /-- A list of pairs. -/
  | pairs
  /-- The key under which another mapping is merged in. -/
  | merge
  /-- The key of a default value. -/
  | default
  /-- Anything else. -/
  | other (uri : String)
  deriving DecidableEq, Repr

/-- The start of the tags that every document knows. -/
def Tag.coreUri : String := "tag:yaml.org,2002:"

/-- The tag with the given full text. -/
def Tag.ofUri (uri : String) : Tag :=
  if uri = coreUri ++ "null" then .null
  else if uri = coreUri ++ "bool" then .bool
  else if uri = coreUri ++ "int" then .int
  else if uri = coreUri ++ "float" then .float
  else if uri = coreUri ++ "timestamp" then .timestamp
  else if uri = coreUri ++ "str" then .text
  else if uri = coreUri ++ "seq" then .sequence
  else if uri = coreUri ++ "map" then .mapping
  else if uri = coreUri ++ "set" then .set
  else if uri = coreUri ++ "pairs" || uri = coreUri ++ "omap" then .pairs
  else if uri = coreUri ++ "merge" then .merge
  else if uri = coreUri ++ "value" then .default
  else .other uri

/-- A node with its tag. A text that has none shows by being plain that its form decides. -/
inductive Node where
  /-- A text whose tag is known. -/
  | scalar (tag : Tag) (text : String)
  /-- A plain text. -/
  | plain (text : String)
  /-- A sequence. -/
  | sequence (tag : Tag) (items : List Node)
  /-- A mapping. -/
  | mapping (tag : Tag) (entries : List (Node × Node))
  deriving Inhabited

namespace Node

/-- The state of reading nodes. -/
structure State where
  /-- The tokens ahead. -/
  tokens : List Token
  /-- The nodes that can be referred to. -/
  anchors : List (String × Node)
  /-- The texts that the handles of tags stand for. -/
  handles : List (String × String)

/-- A step of reading nodes. -/
abbrev Reader := StateT State (Except Fault)

/-- The step fails. -/
def refuse {α : Type} : Reader α := fun _ => unreadable

/-- The next token. -/
def peek : Reader Token := do return (← get).tokens.head?.getD .streamEnd

/-- Passes the next token. -/
def drop : Reader Unit := modify fun s => { s with tokens := s.tokens.drop 1 }

/-- Passes the next token if it is the given one. -/
def dropIf (t : Token) : Reader Bool := do
  if (← peek) = t then
    drop
    return true
  else return false

/-- The node of a place where nothing stands. -/
def empty : Node := .plain ""

/-- The full text of a tag. -/
def fullTag (handle : Option String) (suffix : String) : Reader String := do
  match handle with
  | none => return suffix
  | some h =>
    match (← get).handles.lookup h with
    | some uri => return uri ++ suffix
    | none => refuse

/-- The tag and the anchor in front of a node, in either order. -/
def marks : Reader (Option String × Option String) := do
  match ← peek with
  | .anchor name =>
    drop
    match ← peek with
    | .tag handle suffix =>
      drop
      return (some (← fullTag handle suffix), some name)
    | _ => return (none, some name)
  | .tag handle suffix =>
    drop
    match ← peek with
    | .anchor name =>
      drop
      return (some (← fullTag handle suffix), some name)
    | _ => return (some (← fullTag handle suffix), none)
  | _ => return (none, none)

/-- The tag of a collection: its own, or the usual one. -/
def tagOr (tag : Option String) (usual : Tag) : Tag :=
  match tag with
  | none => usual
  | some uri => if uri = "!" then usual else .ofUri uri

/-- The node of a text. -/
def ofScalar (tag : Option String) (isPlain : Bool) (text : String) : Node :=
  match tag with
  | none => if isPlain then .plain text else .scalar .text text
  | some uri => if uri = "!" then .plain text else .scalar (.ofUri uri) text

/-- Makes a node known under its anchor. -/
def register (anchor : Option String) (node : Node) : Reader Node := do
  match anchor with
  | none => return node
  | some name =>
    if ((← get).anchors.lookup name).isSome then refuse
    else
      modify fun s => { s with anchors := (name, node) :: s.anchors }
      return node

mutual

/-- A node. Indented collections are only read where `block` allows it, and a sequence that is not
indented deeper than its key only as the value of a key. -/
def node (block indentless : Bool) : (fuel : Nat) → Reader Node
  | 0 => refuse
  | fuel + 1 => do
    match ← peek with
    | .reference name =>
      drop
      match (← get).anchors.lookup name with
      | some n => return n
      | none => refuse
    | _ =>
      let (tag, anchor) ← marks
      match ← peek with
      | .blockEntry =>
        if indentless then register anchor (.sequence (tagOr tag .sequence) (← flatItems fuel))
        else bare tag anchor
      | .scalar isPlain text =>
        drop
        register anchor (ofScalar tag isPlain text)
      | .flowSequence =>
        drop
        register anchor (.sequence (tagOr tag .sequence) (← flowItems true fuel))
      | .flowMapping =>
        drop
        register anchor (.mapping (tagOr tag .mapping) (← flowEntries true fuel))
      | .blockSequence =>
        if block then
          drop
          register anchor (.sequence (tagOr tag .sequence) (← blockItems fuel))
        else bare tag anchor
      | .blockMapping =>
        if block then
          drop
          register anchor (.mapping (tagOr tag .mapping) (← blockEntries fuel))
        else bare tag anchor
      | _ => bare tag anchor

/-- A node that has a tag or an anchor and nothing else. -/
def bare (tag anchor : Option String) : Reader Node :=
  if tag.isSome || anchor.isSome then
    register anchor (match tag with
      | none => .plain ""
      | some uri => ofScalar (some uri) true "")
  else refuse

/-- The items of an indented sequence. -/
def blockItems : (fuel : Nat) → Reader (List Node)
  | 0 => refuse
  | fuel + 1 => do
    if ← dropIf .blockEntry then
      let t ← peek
      let one ← if t = .blockEntry || t = .blockEnd then pure empty else node true false fuel
      return one :: (← blockItems fuel)
    else if ← dropIf .blockEnd then return []
    else refuse

/-- The items of a sequence that is not indented deeper than its key. -/
def flatItems : (fuel : Nat) → Reader (List Node)
  | 0 => refuse
  | fuel + 1 => do
    if ← dropIf .blockEntry then
      let t ← peek
      let one ←
        if t = .blockEntry || t = .key || t = .value || t = .blockEnd then pure empty
        else node true false fuel
      return one :: (← flatItems fuel)
    else return []

/-- The key or the value of an entry of an indented mapping, behind its mark. -/
def blockPart : (fuel : Nat) → Reader Node
  | 0 => refuse
  | fuel + 1 => do
    let t ← peek
    if t = .key || t = .value || t = .blockEnd then return empty else node true true fuel

/-- The entries of an indented mapping. -/
def blockEntries : (fuel : Nat) → Reader (List (Node × Node))
  | 0 => refuse
  | fuel + 1 => do
    if ← dropIf .key then
      let k ← blockPart fuel
      let v ← if ← dropIf .value then blockPart fuel else pure empty
      return (k, v) :: (← blockEntries fuel)
    else if ← dropIf .blockEnd then return []
    else refuse

/-- The key or the value of an entry inside brackets that end with a token. -/
def flowPart (isKey : Bool) (last : Token) : (fuel : Nat) → Reader Node
  | 0 => refuse
  | fuel + 1 => do
    let t ← peek
    if (isKey && t = .value) || t = .flowEntry || t = last then return empty
    else node false false fuel

/-- The items of a sequence in brackets. -/
def flowItems (first : Bool) : (fuel : Nat) → Reader (List Node)
  | 0 => refuse
  | fuel + 1 => do
    if ← dropIf .flowSequenceEnd then return []
    else
      let apart ← if first then pure true else dropIf .flowEntry
      if !apart then refuse
      else if ← dropIf .key then
        let k ← flowPart true .flowSequenceEnd fuel
        let v ← if ← dropIf .value then flowPart false .flowSequenceEnd fuel else pure empty
        return .mapping .mapping [(k, v)] :: (← flowItems false fuel)
      else if ← dropIf .flowSequenceEnd then return []
      else
        let one ← node false false fuel
        return one :: (← flowItems false fuel)

/-- The entries of a mapping in braces. -/
def flowEntries (first : Bool) : (fuel : Nat) → Reader (List (Node × Node))
  | 0 => refuse
  | fuel + 1 => do
    if ← dropIf .flowMappingEnd then return []
    else
      let apart ← if first then pure true else dropIf .flowEntry
      if !apart then refuse
      else if ← dropIf .key then
        let k ← flowPart true .flowMappingEnd fuel
        let v ← if ← dropIf .value then flowPart false .flowMappingEnd fuel else pure empty
        return (k, v) :: (← flowEntries false fuel)
      else if ← dropIf .flowMappingEnd then return []
      else
        let k ← node false false fuel
        return (k, empty) :: (← flowEntries false fuel)

end

/-- The handles of tags that every document knows. -/
def usualHandles : List (String × String) := [("!", "!"), ("!!", Tag.coreUri)]

/-- The directives in front of a document; each may stand there once. -/
def directives (versioned : Bool) : (fuel : Nat) → Reader Unit
  | 0 => refuse
  | fuel + 1 => do
    match ← peek with
    | .version major =>
      if versioned || major != 1 then refuse
      else
        drop
        directives true fuel
    | .tagHandle handle uri =>
      if ((← get).handles.lookup handle).isSome then refuse
      else
        drop
        modify fun s => { s with handles := (handle, uri) :: s.handles }
        directives versioned fuel
    | .otherDirective =>
      drop
      directives versioned fuel
    | _ => return ()

/-- Passes the marks at the end of a document. -/
def dropEnds : (fuel : Nat) → Reader Unit
  | 0 => return ()
  | fuel + 1 => do if ← dropIf .documentEnd then dropEnds fuel

/-- The token stands in front of a document or behind it. -/
def isBoundary : Token → Bool
  | .version _ | .tagHandle _ _ | .otherDirective => true
  | .documentStart | .documentEnd | .streamEnd => true
  | _ => false

/-- The content of a document behind its mark. -/
def content (fuel : Nat) : Reader Node := do
  if isBoundary (← peek) then return empty else node true false fuel

/-- The only document of a text; none if there is no document. -/
def document (fuel : Nat) : Reader (Option Node) := do
  match ← peek with
  | .streamEnd => return none
  | t =>
    if isBoundary t && t != .documentEnd then
      directives false fuel
      modify fun s => { s with handles := s.handles ++ usualHandles }
      if ← dropIf .documentStart then
        let n ← content fuel
        dropEnds fuel
        if (← peek) = .streamEnd then return some n else refuse
      else refuse
    else
      modify fun s => { s with handles := usualHandles }
      let n ← node true false fuel
      dropEnds fuel
      if (← peek) = .streamEnd then return some n else refuse

/-- The node of the only document in a text; none if there is no document. -/
def ofText (s : String) : Except Fault (Option Node) := do
  let ts ← tokens s
  let (n, _) ← (document (4 * ts.length + 4)).run ⟨ts, [], []⟩
  .ok n

end Node

end GraphMapper.Yaml
