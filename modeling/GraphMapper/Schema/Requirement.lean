import GraphMapper.Model.Definition
import GraphMapper.Value.Shape

/-!
# Requirements

What a model requires of the server: the properties whose values are unique, those that are indexed,
and those that have to be there. A unique property brings its own index, so no property is in both
of the first two lists.

## Main definitions

* `Schema.Requirement` — the constraints and indexes that a label requires
* `Schema.Requirement.ofModel` — what a model requires
-/

namespace GraphMapper.Schema

/-- The constraints and indexes that a label requires, in the order of their declaration. -/
structure Requirement where
  /-- The label. -/
  label : String
  /-- The property that identifies a node. -/
  idProperty : Value
  /-- The properties whose values are unique. -/
  unique : List Value
  /-- The properties with an index. -/
  index : List Value
  /-- The properties that have to be there. -/
  existence : List Value

namespace Requirement

/-- A property is in a list of properties. -/
def holds (bucket : List Value) (property : Value) : Bool := bucket.any (·.equals property)

/-- A list of properties with one more at the end, unless it is there. -/
def add (bucket : List Value) (property : Value) : List Value :=
  if holds bucket property then bucket else bucket ++ [property]

/-- A list of properties with one more at the front, unless it is there. -/
def withId (idProperty : Value) (bucket : List Value) : List Value :=
  if holds bucket idProperty then bucket else idProperty :: bucket

/-- The requirement with the given lists, in which the id is unique and has to be there. -/
def make (label : String) (idProperty : Value) (unique index existence : List Value) :
    Requirement :=
  ⟨label, idProperty, withId idProperty unique, index, withId idProperty existence⟩

/-- The properties that have been declared unique and those that have been declared indexed. -/
structure Declared where
  /-- Declared unique. -/
  unique : List Value
  /-- Declared indexed. -/
  indexed : List Value

namespace Declared

/-- With one more property declared unique. -/
def addUnique (d : Declared) (property : Value) : Declared := ⟨add d.unique property, d.indexed⟩

/-- With one more property declared indexed. -/
def addIndexed (d : Declared) (property : Value) : Declared := ⟨d.unique, add d.indexed property⟩

/-- With more properties declared indexed. -/
def addAllIndexed (d : Declared) (properties : List Value) : Declared :=
  properties.foldl addIndexed d

end Declared

/-- A value, or the empty mapping if it counts as false. -/
def orEmpty (v : Value) : Value := if v.truthy then v else .map []

/-- Adds an index that is declared by its keys and options. Only an index with a single key can be
unique. -/
def addKeys (d : Declared) (keys options : Value) : Except ShapeFault Declared := do
  let keys ← (orEmpty keys).items
  match keys with
  | [key] =>
    let unique ← (orEmpty options).member "unique"
    .ok (if unique.truthy then d.addUnique key else d.addIndexed key)
  | keys => .ok (d.addAllIndexed keys)

/-- Adds an index declared under a name: by its keys and options, or by its fields. -/
def addNamed (d : Declared) (declaration : Value) : Except ShapeFault Declared :=
  match declaration with
  | .map entries =>
    match Value.get? entries "keys" with
    | some keys => addKeys d keys (Value.getD entries "options")
    | none => .ok (d.addAllIndexed (entries.map (·.1)))
  | _ => .ok d

/-- Adds the indexes that a model declares beside its properties. -/
def addIndexes (d : Declared) : Model.Indexes → Except ShapeFault Declared
  | .named entries => entries.foldlM (fun d e => addNamed d e.2) d
  | .fields names => .ok (d.addAllIndexed (names.map .text))

/-- Adds a property that asks to be indexed. -/
def addProperty (d : Declared) (name : String) (p : Model.Property) : Declared :=
  if p.index.wanted then
    if p.index.unique || p.unique then d.addUnique (.text name) else d.addIndexed (.text name)
  else d

/-- The properties that are declared indexed and not unique. -/
def plainlyIndexed (d : Declared) : List Value := d.indexed.filter (!holds d.unique ·)

/-- What a model requires. -/
def ofModel (m : Model) : Except ShapeFault Requirement := do
  let id : Value := .text m.idName
  let d ← addIndexes ⟨[id], []⟩ m.indexes
  let d := m.properties.foldl (fun d p => addProperty d p.1 p.2) d
  .ok ⟨m.label, id, d.unique, plainlyIndexed d, [id]⟩

end Requirement

end GraphMapper.Schema
