import GraphMapper.Value.Basic

/-!
# Models

A model declares the nodes of one label: their properties, the property that identifies a node and
the properties to be indexed.

## Main definitions

* `Model.Property` — a declared property
* `Model` — a declared model
* `Model.label`, `Model.idName`, `Model.dateProperties` — what follows from the declaration
-/

namespace GraphMapper

/-- How a property asks to be indexed. -/
inductive Model.Index where
  /-- It says nothing. -/
  | unset
  /-- It says yes or no. -/
  | flag (b : Bool)
  /-- It asks for an index with options. -/
  | options (entries : List (String × Value))

/-- A declared property. -/
structure Model.Property where
  /-- The declared type, in lower case. -/
  type : String := "string"
  /-- The property identifies a node. -/
  id : Bool := false
  /-- The property has to be there. -/
  required : Bool := false
  /-- How the property is indexed. -/
  index : Model.Index := .unset
  /-- No two nodes have the same value. -/
  unique : Bool := false

/-- The indexes that a model declares beside its properties. -/
inductive Model.Indexes where
  /-- Named declarations. -/
  | named (entries : List (String × Value))
  /-- Names of properties. -/
  | fields (names : List String)

/-- A declared model. -/
structure Model where
  /-- The name of the model. -/
  name : String
  /-- The properties, in the order of their declaration. -/
  properties : List (String × Model.Property) := []
  /-- The label of the nodes, if it is not the name of the model. -/
  labelOverride : Option String := none
  /-- The indexes declared beside the properties. -/
  indexes : Model.Indexes := .named []

namespace Model

/-- The label of the nodes. -/
def label (m : Model) : String :=
  match m.labelOverride with
  | some l => if l.isEmpty then m.name else l
  | none => m.name

/-- The name of the property that identifies a node: the first one declared to do so, or `id`. -/
def idName (m : Model) : String :=
  match m.properties.find? (·.2.id) with
  | some p => p.1
  | none => "id"

/-- The properties that hold a point in time whatever their type. -/
def timestamps : List String := ["created", "lastUpdated"]

/-- The properties that hold a point in time, each once. -/
def dateProperties (m : Model) : List String :=
  (((m.properties.filter (·.2.type == "date")).map (·.1)) ++ timestamps).eraseDups

/-- The property asks to be indexed. -/
def Index.wanted : Index → Bool
  | .unset => false
  | .flag b => b
  | .options entries => !entries.isEmpty

/-- The options of an index ask for unique values. -/
def Index.unique : Index → Bool
  | .options entries => (entries.find? (·.1 == "unique")).any (·.2.truthy)
  | _ => false

end Model

end GraphMapper
