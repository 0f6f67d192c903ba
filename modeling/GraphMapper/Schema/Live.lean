import GraphMapper.Text.Case
import GraphMapper.Value.Shape

/-!
# The live schema

The constraints and indexes that a server reports, one record each.

## Main definitions

* `Schema.LiveEntry` — a constraint or an index on the server
* `Schema.LiveEntry.ofConstraint`, `Schema.LiveEntry.ofIndex` — reading a record
-/

namespace GraphMapper.Schema

/-- The kinds of entries that are told apart. -/
inductive EntryKind where
  /-- A constraint that makes the values of a property unique. -/
  | uniqueConstraint
  /-- Any other constraint. -/
  | otherConstraint
  /-- An index. -/
  | index
  deriving DecidableEq, Repr

/-- The name of a kind. -/
def EntryKind.name : EntryKind → String
  | .uniqueConstraint => "unique_constraint"
  | .otherConstraint => "other_constraint"
  | .index => "index"

/-- A constraint or an index on the server. -/
structure LiveEntry where
  /-- Its name. -/
  name : Value
  /-- The label it is on, or null. -/
  label : Value
  /-- The properties it covers. -/
  propertyKeys : List Value
  /-- Its kind. -/
  kind : EntryKind
  /-- It is an index that belongs to a constraint and goes away with it. -/
  owned : Bool := false

namespace LiveEntry

/-- The types of constraints that make the values of a single property unique. -/
def uniqueTypes : List String := ["UNIQUENESS", "NODE_PROPERTY_UNIQUENESS"]

/-- The kind of a constraint of the given type. -/
def kindOfType (type : Value) : EntryKind :=
  if uniqueTypes.contains (Text.upper type.display) then .uniqueConstraint else .otherConstraint

/-- The first of some labels; null if there are none. -/
def firstLabel (labels : Value) : Except ShapeFault Value :=
  if labels.truthy then labels.first else .ok .null

/-- The properties in a record; none if it has none. -/
def keysOf (properties : Value) : Except ShapeFault (List Value) :=
  if properties.truthy then properties.items else .ok []

/-- The constraint that a record describes. -/
def ofConstraint (record : Value) : Except ShapeFault LiveEntry :=
  match record with
  | .map entries => do
    let kind := kindOfType ((Value.get? entries "type").getD (.text ""))
    let name ← record.require "name"
    let label ← firstLabel (Value.getD entries "labelsOrTypes")
    let keys ← keysOf (Value.getD entries "properties")
    .ok ⟨name, label, keys, kind, false⟩
  | v => .error (.noMember v.typeName "get")

/-- The index that a record describes. -/
def ofIndex (record : Value) : Except ShapeFault LiveEntry := do
  let name ← record.require "name"
  let labels ← record.member "labelsOrTypes"
  let label ← firstLabel labels
  let properties ← record.member "properties"
  let keys ← keysOf properties
  let owner ← record.member "owningConstraint"
  .ok ⟨name, label, keys, .index, owner.truthy⟩

end LiveEntry

end GraphMapper.Schema
