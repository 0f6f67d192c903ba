import GraphMapper.Yaml.Scalar

/-!
# The value of a document

Sequences become lists and mappings become mappings in the order of their keys, a repeated key
keeping its first place and its last value. The mappings under the key `<<` are merged in front of
the other entries.

A document is read level by level: the texts in a collection are read with it, and the collections
in it after all others of its own level. The first fault met in this order is the fault of the
document.

## Main definitions

* `Yaml.Draft` — a document before its faults are looked for
* `Yaml.Node.draft` — the draft of a node
* `Yaml.Draft.check` — the first fault
* `Yaml.Draft.value` — the value of a draft
* `Yaml.read` — the value of a document
-/

namespace GraphMapper.Yaml

/-- A document before its faults are looked for. -/
inductive Draft where
  /-- A text, or what cannot be read at all. -/
  | leaf (result : Except Fault Value)
  /-- A collection whose content cannot be read. -/
  | broken
  /-- A sequence. -/
  | list (items : List Draft)
  /-- A mapping. -/
  | map (entries : List (Draft × Draft))
  /-- A set, given by the entries of a mapping. -/
  | set (entries : List (Draft × Draft))
  /-- A list of pairs. -/
  | pairs (entries : List (Draft × Draft))

/-! ### Drafts -/

namespace Node

/-- The tag of a node. -/
def tag : Node → Tag
  | .scalar tag _ => tag
  | .plain text => tagOfPlain text
  | .sequence tag _ => tag
  | .mapping tag _ => tag

/-- The content of a node with the tag is read later than the node. -/
def isDeferred : Tag → Bool
  | .sequence | .mapping | .set | .pairs => true
  | _ => false

/-- The draft of a node that does not have the form that its tag asks for. -/
def misshapen (tag : Tag) : Draft := if isDeferred tag then .broken else .leaf unreadable

/-- The draft of a text with a tag. -/
def textDraft (tag : Tag) (text : String) : Draft :=
  if isDeferred tag then .broken else .leaf (valueOfText tag text)

/-- The tag of a text as a key: the sign for a default value is a text there. -/
def keyTag (tag : Tag) : Tag := if tag = .default then .text else tag

/-- The draft of a key, which has to be a text. -/
def keyDraft : Node → Draft
  | .plain text => .leaf (valueOfText (keyTag (tagOfPlain text)) text)
  | .scalar tag text => .leaf (valueOfText (keyTag tag) text)
  | _ => .leaf unreadable

/-- The entries of a mapping, if those that are to be merged in can be. -/
abbrev DraftEntries := Option (List (Draft × Draft))

mutual

/-- The draft of a node. -/
def draft : Node → Draft
  | .scalar tag text => textDraft tag text
  | .plain text => textDraft (tagOfPlain text) text
  | .sequence tag items =>
    match tag with
    | .sequence => .list (drafts items)
    | .pairs => (pairDrafts items).elim .broken .pairs
    | _ => misshapen tag
  | .mapping tag entries =>
    match tag with
    | .mapping => ((entryDrafts entries).map fun (merged, own) => merged ++ own).elim .broken .map
    | .set => ((entryDrafts entries).map fun (merged, own) => merged ++ own).elim .broken .set
    | _ => misshapen tag

/-- The drafts of nodes. -/
def drafts : List Node → List Draft
  | [] => []
  | n :: ns => draft n :: drafts ns

/-- The drafts of pairs, each of which is a mapping with a single entry. -/
def pairDrafts : List Node → DraftEntries
  | [] => some []
  | .mapping _ [(k, v)] :: ns => (pairDrafts ns).map ((draft k, draft v) :: ·)
  | _ :: _ => none

/-- The drafts of the entries of a mapping: those merged in, and its own. -/
def entryDrafts : List (Node × Node) → Option (List (Draft × Draft) × List (Draft × Draft))
  | [] => some ([], [])
  | (k, v) :: rest => do
    if k.tag = .merge then
      let more ← mergedDrafts v
      let (merged, own) ← entryDrafts rest
      some (more ++ merged, own)
    else
      let (merged, own) ← entryDrafts rest
      some (merged, (keyDraft k, draft v) :: own)

/-- The drafts of the entries that a node merges into a mapping: those of a mapping, or of several
of which the first one counts most. -/
def mergedDrafts : Node → DraftEntries
  | .mapping _ entries => (entryDrafts entries).map fun (merged, own) => merged ++ own
  | .sequence _ items => mergedItems items
  | _ => none

/-- The drafts of the entries of several mappings, the last mapping first. -/
def mergedItems : List Node → DraftEntries
  | [] => some []
  | .mapping _ entries :: rest => do
    let (merged, own) ← entryDrafts entries
    let others ← mergedItems rest
    some (others ++ merged ++ own)
  | _ :: _ => none

end

end Node

/-! ### Faults and values -/

namespace Draft

/-- Reads a text. A collection is put off. -/
def putOff : Draft → Except Fault (List Draft)
  | .leaf result => result.map fun _ => []
  | d => .ok [d]

/-- Reads the key and the value of an entry. -/
def putOffEntry (entry : Draft × Draft) : Except Fault (List Draft) := do
  let key ← entry.1.putOff
  let value ← entry.2.putOff
  .ok (key ++ value)

/-- Reads the content of a collection but for the collections in it, which are put off. -/
def content : Draft → Except Fault (List Draft)
  | .leaf _ => .ok []
  | .broken => unreadable
  | .list items => do .ok (← items.mapM putOff).flatten
  | .map entries | .set entries | .pairs entries => do .ok (← entries.mapM putOffEntry).flatten

/-- Looks for the first fault, level by level. -/
def check : (levels : Nat) → List Draft → Except Fault Unit
  | 0, _ => .ok ()
  | levels + 1, ds => do
    let inner ← ds.mapM content
    check levels inner.flatten

/-- The entries of a mapping stored one after the other. -/
def store (entries : List (Value × Value)) : Value.Entries := Value.merge [] entries

mutual

/-- The value of a draft. -/
def value : Draft → Except Fault Value
  | .leaf result => result
  | .broken => unreadable
  | .list items => do .ok (.list (← values items))
  | .map entries => do .ok (.map (store (← entryValues entries)))
  | .set entries => do .ok (.set ((store (← entryValues entries)).map (·.1)))
  | .pairs entries => do .ok (.list ((← entryValues entries).map fun (k, v) => .tuple [k, v]))

/-- The values of drafts. -/
def values : List Draft → Except Fault (List Value)
  | [] => .ok []
  | d :: ds => do
    let v ← value d
    let vs ← values ds
    .ok (v :: vs)

/-- The keys and values of entries. -/
def entryValues : List (Draft × Draft) → Except Fault (List (Value × Value))
  | [] => .ok []
  | (k, v) :: rest => do
    let key ← value k
    let one ← value v
    let others ← entryValues rest
    .ok ((key, one) :: others)

end

end Draft

/-- The value of the only document in a text; null if there is no document. No document has more
levels than its text has characters. -/
def read (s : String) : Except Fault Value := do
  match ← Node.ofText s with
  | none => .ok .null
  | some n =>
    let draft := n.draft
    let outer ← draft.putOff
    Draft.check (s.length + 1) outer
    draft.value

end GraphMapper.Yaml
