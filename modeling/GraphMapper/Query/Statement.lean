import GraphMapper.Model.Definition
import GraphMapper.Query.Filter
import GraphMapper.Query.Fragment

/-!
# Statements

An operation on the nodes of a model is compiled to one statement. The label, the names of
properties and the alias are written into the text; every value, also an id, a property map and a
count, is bound to a parameter of its own.

## Main definitions

* `Query.Statement` — a text and the parameters in it
* `Query.Draft` — a statement in the making
* `Query.Operation` — the operations on the nodes of a model
* `Query.Operation.compile` — the statement of an operation
-/

namespace GraphMapper.Query

/-- A statement and its parameters. -/
structure Statement where
  /-- The text. -/
  text : String
  /-- The parameters. -/
  params : Bindings

/-- The parameters that a statement has bound so far, and the namer they are named by. -/
structure Draft where
  /-- The namer. -/
  namer : Namer
  /-- The parameters. -/
  params : Bindings

namespace Draft

/-- The draft of a statement that has bound nothing. -/
def start (supply : Supply) : Draft := ⟨Namer.start supply, []⟩

/-- Binds a value to a fresh parameter and yields the parameter. -/
def bind (d : Draft) (field : String) (value : Value) : String × Draft :=
  let (name, namer) := d.namer.name field
  (Fragment.placeholder name, ⟨namer, d.params.bind name value⟩)

/-- The clause that restricts a statement to a predicate: none if the predicate says nothing. -/
def restrict (o : Options) (p : Option Predicate) (d : Draft) : Except Fault (String × Draft) :=
  match Predicate.compile? o p d.namer with
  | (.error fault, _) => .error fault
  | (.ok f, namer) =>
    if f.isEmpty then .ok ("", ⟨namer, d.params⟩)
    else .ok (" WHERE " ++ f.text, ⟨namer, d.params.merge f.params⟩)

/-- The finished statement, and the supply that it leaves. -/
def finish (d : Draft) (text : String) : Statement × Supply :=
  (⟨text, d.params⟩, d.namer.supply)

end Draft

/-- What a bulk operation is restricted to. -/
inductive Condition where
  /-- A where condition still to be read. -/
  | value (v : Value)
  /-- A predicate. -/
  | predicate (p : Predicate)

/-- The predicate of a condition. -/
def Condition.read (o : Options) : Condition → Except Fault (Option Predicate)
  | .value v => Filter.liftIssue (Predicate.ofWhere o.strictOperators v)
  | .predicate p => .ok (some p)

/-- What a search is restricted to. -/
inductive Search where
  /-- A filter still to be read. -/
  | value (v : Value)
  /-- A filter that has been read. -/
  | filter (f : Filter)

/-- The filter of a search. -/
def Search.read (o : Options) : Search → Except Fault Filter
  | .value v => Filter.ofValue o v
  | .filter f => .ok f

/-- The operations on the nodes of a model. -/
inductive Operation where
  /-- The nodes that a filter admits. -/
  | find (search : Search)
  /-- The first node that a filter admits. -/
  | findOne (search : Search)
  /-- The node with an id. -/
  | findById (id : Value)
  /-- Whether there is a node with an id. -/
  | exists (id : Value)
  /-- The number of nodes under a condition. -/
  | count (condition : Condition)
  /-- A new node. -/
  | create (data : Value)
  /-- A node with the given properties and no others, new or not. -/
  | save (data : Value)
  /-- A node with the given properties beside its others, new or not. -/
  | updateOrCreate (data : Value)
  /-- New properties for the node with an id. -/
  | updateAttributes (id data : Value)
  /-- New properties for the nodes under a condition. -/
  | updateAll (condition : Condition) (data : Value)
  /-- The end of the node with an id. -/
  | destroy (id : Value)
  /-- The end of the nodes under a condition. -/
  | destroyAll (condition : Condition)

/-! ### Clauses -/

/-- The clause that matches the nodes of a model. -/
def matchNodes (o : Options) (m : Model) : String :=
  "MATCH (" ++ o.nodeName ++ ":" ++ m.label ++ ")"

/-- The pattern of a node with an id. -/
def nodeWithId (o : Options) (m : Model) (placeholder : String) : String :=
  "(" ++ o.nodeName ++ ":" ++ m.label ++ " \x7b" ++ m.idName ++ ": " ++ placeholder ++ "\x7d)"

/-- The clause that matches the node with an id. -/
def matchById (o : Options) (m : Model) (id : Value) (d : Draft) : String × Draft :=
  let (placeholder, d) := d.bind m.idName id
  ("MATCH " ++ nodeWithId o m placeholder, d)

/-- The clause that returns nodes or some of their fields. -/
def returnClause (o : Options) (fields : List String) : String :=
  " RETURN " ++ if fields.isEmpty then o.nodeName else Projection.text o.nodeName fields

/-- The clause that sorts the result. -/
def orderClause (o : Options) (order : List SortKey) : String :=
  if order.isEmpty then "" else " ORDER BY " ++ SortKey.listText o.nodeName order

/-- The clause with a count, which is left out if there is none. -/
def countClause (word field : String) (count : Value) (d : Draft) : String × Draft :=
  if count.truthy then
    let (placeholder, d) := d.bind field count
    (" " ++ word ++ " " ++ placeholder, d)
  else ("", d)

/-- The properties of a property map. -/
def properties (data : Value) : Except Fault Value :=
  match data.entries with
  | .ok entries => .ok (.map entries)
  | .error fault => .error (.shape fault)

/-- Matches the nodes of a model under a condition. -/
def matchUnder (o : Options) (m : Model) (p : Option Predicate) (supply : Supply) :
    Except Fault (String × Draft) := do
  let (clause, d) ← (Draft.start supply).restrict o p
  .ok (matchNodes o m ++ clause, d)

namespace Operation

/-- The statement that returns the nodes a filter admits. -/
def compileFind (o : Options) (m : Model) (f : Filter) (supply : Supply) :
    Except Fault (Statement × Supply) := do
  let (head, d) ← matchUnder o m f.where? supply
  let (skip, d) := countClause "SKIP" "skip" f.skip d
  let (limit, d) := countClause "LIMIT" "limit" f.limit d
  .ok (d.finish (head ++ returnClause o f.fields ++ orderClause o f.order ++ skip ++ limit))

/-- The statement that merges a node, setting the properties of a known one by `symbol`. -/
def compileMerge (o : Options) (m : Model) (data : Value) (symbol : String) (supply : Supply) :
    Except Fault (Statement × Supply) :=
  match data.member m.idName with
  | .error fault => .error (.shape fault)
  | .ok .null => .error (.compile (.idRequired m.idName m.name))
  | .ok id => do
    let (idName, d) := (Draft.start supply).bind m.idName id
    let props ← properties data
    let (props, d) := d.bind "properties" props
    .ok (d.finish ("MERGE " ++ nodeWithId o m idName ++ " ON CREATE SET " ++ o.nodeName ++ " = "
      ++ props ++ " ON MATCH SET " ++ o.nodeName ++ " " ++ symbol ++ " " ++ props ++ " RETURN "
      ++ o.nodeName))

/-- The number of nodes, as a result. -/
def returnCount (o : Options) : String := " RETURN COUNT(" ++ o.nodeName ++ ") AS count"

/-- The statement of an operation on the nodes of a model, and the supply that it leaves. -/
def compile (o : Options) (m : Model) (supply : Supply) :
    Operation → Except Fault (Statement × Supply)
  | .find search => do compileFind o m (← search.read o) supply
  | .findOne search => do compileFind o m (← search.read o).single supply
  | .findById id =>
    let (head, d) := matchById o m id (Draft.start supply)
    .ok (d.finish (head ++ " RETURN " ++ o.nodeName))
  | .exists id =>
    let (head, d) := matchById o m id (Draft.start supply)
    .ok (d.finish (head ++ " RETURN COUNT(" ++ o.nodeName ++ ") > 0 AS exists"))
  | .count condition => do
    let (head, d) ← matchUnder o m (← condition.read o) supply
    .ok (d.finish (head ++ returnCount o))
  | .create data => do
    let (props, d) := (Draft.start supply).bind "properties" (← properties data)
    .ok (d.finish ("CREATE (" ++ o.nodeName ++ ":" ++ m.label ++ " " ++ props ++ ") RETURN "
      ++ o.nodeName))
  | .save data => compileMerge o m data "=" supply
  | .updateOrCreate data => compileMerge o m data "+=" supply
  | .updateAttributes id data => do
    let (head, d) := matchById o m id (Draft.start supply)
    let (props, d) := d.bind "properties" (← properties data)
    .ok (d.finish (head ++ " SET " ++ o.nodeName ++ " += " ++ props ++ " RETURN " ++ o.nodeName))
  | .updateAll condition data => do
    let (head, d) ← matchUnder o m (← condition.read o) supply
    let (props, d) := d.bind "properties" (← properties data)
    .ok (d.finish (head ++ " SET " ++ o.nodeName ++ " += " ++ props ++ returnCount o))
  | .destroy id =>
    let (head, d) := matchById o m id (Draft.start supply)
    .ok (d.finish (head ++ " DETACH DELETE " ++ o.nodeName))
  | .destroyAll condition => do
    let (head, d) ← matchUnder o m (← condition.read o) supply
    .ok (d.finish (head ++ " DETACH DELETE " ++ o.nodeName ++ returnCount o))

end Operation

end GraphMapper.Query
