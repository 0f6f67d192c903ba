import GraphMapper.Query.Statement
import GraphMapper.Repository.Dates
import GraphMapper.Schema.Migration

/-!
# Repositories

A repository keeps the nodes of registered models on a server. Each operation is compiled to one
statement, which is handed to the executor as it is; if there is no statement for it, nothing is
sent. Nodes that are written without an id get a fresh one.

## Main definitions

* `Repository` — what a repository works with
* `Repository.create`, `Repository.save`, `Repository.updateOrCreate` — writing a node
* `Repository.updateAttributes`, `Repository.updateAll` — changing nodes
* `Repository.destroy`, `Repository.destroyAll` — removing nodes
* `Repository.findById`, `Repository.find`, `Repository.findOne`, `Repository.findOrCreate`,
  `Repository.count`, `Repository.contains` — reading nodes
* `Repository.migrate` — bringing the schema of the server in line with the models
-/

namespace GraphMapper

/-- What a repository works with, on a server with states of type `σ`. -/
structure Repository (σ : Type) where
  /-- The models. -/
  registry : Registry
  /-- What runs the statements. -/
  executor : Executor σ
  /-- The switches of the compiler. -/
  options : Query.Options
  /-- The server has constraints that a property is there. -/
  enterprise : Bool
  /-- The time. -/
  clock : σ → Instant

namespace Repository

/-- The kinds of data source that a repository stands for. -/
def types : List String := ["db", "nosql", "neo4j"]

/-- The state of a repository: the server, and the identifiers that are still to be drawn. -/
structure State (σ : Type) where
  /-- The server. -/
  server : σ
  /-- The identifiers. -/
  supply : Supply

variable {σ α : Type}

/-- An act on the server. -/
def onServer (a : Act σ α) : Act (State σ) α := a.on (·.server) fun s st => { st with server := s }

/-- The result of using a value of unknown shape. -/
def shaped (r : Except ShapeFault α) : Act (State σ) α := Act.result (r.mapError Fault.shape)

/-- The model of a name. -/
def model (r : Repository σ) (name : Value) : Act (State σ) Model :=
  Act.result (r.registry.get name)

/-! ### Statements -/

/-- The statement of an operation on the nodes of a model. -/
def compile (r : Repository σ) (m : Model) (op : Query.Operation) :
    Act (State σ) Query.Statement :=
  Act.of fun st =>
    match op.compile r.options m st.supply with
    | .ok (statement, supply) => (.ok statement, { st with supply := supply })
    | .error fault => (.error fault, st)

/-- Hands a statement to the executor and yields the rows. -/
def send (r : Repository σ) (s : Query.Statement) : Act (State σ) Value :=
  onServer (r.executor.execute s.text (.map (s.params.map fun (k, v) => (.text k, v))))

/-- Carries out an operation on the nodes of a model and yields the rows. -/
def run (r : Repository σ) (m : Model) (op : Query.Operation) : Act (State σ) Value := do
  let statement ← r.compile m op
  r.send statement

/-- Runs any statement. -/
def execute (r : Repository σ) (text : String) (params : Value) : Act (State σ) Value :=
  onServer (r.executor.execute text (if params.truthy then params else .map []))

/-- Whether the server answers at all. -/
def ping (r : Repository σ) : Act (State σ) Bool := do
  match ← (r.execute "RETURN 1 AS ok" .null).attempt with
  | .ok _ => pure true
  | .error _ => pure false

/-! ### Rows -/

/-- Stored properties as read; null if they are null. -/
def fromDatabase (r : Repository σ) (name data : Value) : Act (State σ) Value := do
  if data.isNull then pure .null
  else
    let entries ← shaped data.entries
    let m ← r.model name
    pure (.map (m.restore entries))

/-- The properties of the node in a row; null if there is none. -/
def node (r : Repository σ) (name row : Value) : Act (State σ) Value := do
  let stored ← shaped (row.member r.options.nodeName)
  if stored.isNull then pure .null
  else
    let entries ← shaped stored.entries
    r.fromDatabase name (.map entries)

/-- The properties of the node in the first row; null if there is no row. -/
def firstNode (r : Repository σ) (name rows : Value) : Act (State σ) Value := do
  if rows.truthy then
    let row ← shaped rows.first
    r.node name row
  else pure .null

/-- The number in the first row; zero if there is no row. -/
def firstCount (rows : Value) : Act (State σ) Value := do
  if rows.truthy then
    let row ← shaped rows.first
    shaped (row.require "count")
  else pure (.int 0)

/-- What a row holds: the fields that were asked for, or a node if none were. A row may hold
nothing. -/
def rowOf (r : Repository σ) (name : Value) (projected : Bool) (row : Value) :
    Act (State σ) (Option Value) := do
  if projected then
    let v ← r.fromDatabase name row
    pure (some (if v.truthy then v else .map []))
  else
    let v ← r.node name row
    pure (if v.isNull then none else some v)

/-- What rows hold. -/
def rowsOf (r : Repository σ) (name : Value) (projected : Bool) :
    List Value → Act (State σ) (List Value)
  | [] => pure []
  | row :: rest => do
    let first? ← r.rowOf name projected row
    let others ← r.rowsOf name projected rest
    pure (first?.toList ++ others)

/-! ### Writing -/

/-- A value that stands for no id. -/
def lacksId (id : Value) : Bool := !id.truthy

/-- Properties with an id, which is a fresh one if they have none. -/
def withId (r : Repository σ) (name data : Value) : Act (State σ) (Value.Entries × String) := do
  let entries ← shaped data.entries
  let m ← r.model name
  if lacksId (Value.getD entries m.idName) then
    let st ← get
    set { st with supply := st.supply.advance }
    let id := Supply.grouped st.supply.current
    pure (Value.insert entries (.text m.idName) (.text id), m.idName)
  else pure (entries, m.idName)

/-- Writes a new node and yields its id. -/
def create (r : Repository σ) (name data : Value) : Act (State σ) Value := do
  let (entries, idName) ← r.withId name data
  let m ← r.model name
  let _ ← r.run m (.create (.map entries))
  pure (Value.getD entries idName)

/-- Writes a node with the given properties and no others. -/
def save (r : Repository σ) (name data : Value) : Act (State σ) Value := do
  let (entries, _) ← r.withId name data
  let m ← r.model name
  let rows ← r.run m (.save (.map entries))
  r.firstNode name rows

/-- Writes a node with the given properties beside those that it has. -/
def updateOrCreate (r : Repository σ) (name data : Value) : Act (State σ) Value := do
  let (entries, _) ← r.withId name data
  let m ← r.model name
  let rows ← r.run m (.updateOrCreate (.map entries))
  r.firstNode name rows

/-- Changes the properties of the node with an id. -/
def updateAttributes (r : Repository σ) (name id data : Value) : Act (State σ) Value := do
  let m ← r.model name
  let rows ← r.run m (.updateAttributes id data)
  r.firstNode name rows

/-- Changes the properties of the nodes under a condition and yields their number. -/
def updateAll (r : Repository σ) (name condition data : Value) : Act (State σ) Value := do
  let m ← r.model name
  let rows ← r.run m (.updateAll (.value condition) data)
  let count ← firstCount rows
  pure (.map [(.text "count", count)])

/-- Removes the node with an id. -/
def destroy (r : Repository σ) (name id : Value) : Act (State σ) Unit := do
  let m ← r.model name
  let _ ← r.run m (.destroy id)

/-- Removes the nodes under a condition and yields their number. -/
def destroyAll (r : Repository σ) (name condition : Value) : Act (State σ) Value := do
  let m ← r.model name
  let rows ← r.run m (.destroyAll (.value condition))
  let count ← firstCount rows
  pure (.map [(.text "count", count)])

/-! ### Reading -/

/-- Whether there is a node with an id. -/
def contains (r : Repository σ) (name id : Value) : Act (State σ) Bool := do
  let m ← r.model name
  let rows ← r.run m (.exists id)
  if rows.truthy then
    let row ← shaped rows.first
    return (← shaped (row.member "exists")).truthy
  else pure false

/-- The node with an id, or null. -/
def findById (r : Repository σ) (name id : Value) : Act (State σ) Value := do
  let m ← r.model name
  let rows ← r.run m (.findById id)
  r.firstNode name rows

/-- What the rows of a search hold. -/
def found (r : Repository σ) (name : Value) (filter : Query.Filter) (op : Query.Operation) :
    Act (State σ) (List Value) := do
  let m ← r.model name
  let rows ← r.run m op
  let rows ← shaped rows.items
  r.rowsOf name (!filter.fields.isEmpty) rows

/-- The nodes that a filter admits. -/
def find (r : Repository σ) (name filter : Value) : Act (State σ) (List Value) := do
  let filter ← Act.result (Query.Filter.ofValue r.options filter)
  r.found name filter (.find (.filter filter))

/-- The first node that a filter admits, if there is one. -/
def findOne (r : Repository σ) (name filter : Value) : Act (State σ) (Option Value) := do
  let filter ← Act.result (Query.Filter.ofValue r.options filter)
  let nodes ← r.found name filter (.findOne (.filter filter))
  pure nodes.head?

/-- The first node that a filter admits, or a new node if there is none, and whether it is new. -/
def findOrCreate (r : Repository σ) (name filter data : Value) : Act (State σ) (Value × Bool) := do
  match ← r.findOne name filter with
  | some v => pure (v, false)
  | none =>
    let (entries, _) ← r.withId name data
    let _ ← r.create name (.map entries)
    pure (.map entries, true)

/-- The number of nodes under a condition. -/
def count (r : Repository σ) (name condition : Value) : Act (State σ) Value := do
  let m ← r.model name
  let rows ← r.run m (.count (.value condition))
  firstCount rows

/-! ### Schema -/

/-- The names of models that a value gives: all if it is null, itself if it is a text. -/
def modelNames (r : Repository σ) : Value → Except ShapeFault (List Value)
  | .null => .ok (r.registry.names.map .text)
  | .text s => .ok [.text s]
  | v => v.items

/-- Brings the schema of the server in line with some models. -/
def migrate (r : Repository σ) (mode : Schema.Mode) (models : Value) :
    Act (State σ) Schema.Outcome := do
  match r.executor.inspector? with
  | none => Act.fail (.noIntrospection r.executor.name)
  | some inspector =>
    let names ← shaped (r.modelNames models)
    let models ← Act.result (names.mapM r.registry.get)
    let migrator : Schema.Migrator σ := ⟨r.executor, inspector, r.clock, r.enterprise⟩
    onServer (Act.on (fun s => ⟨s, none⟩) (fun run _ => run.server) (migrator.migrate mode models))

end Repository

end GraphMapper
