import GraphMapper.Model.Registry
import GraphMapper.Query.Naming
import GraphMapper.Schema.Live
import GraphMapper.Schema.Requirement

/-!
# Plans

The statements that drop what stands on some labels, and those that create what models require. For
each requirement the unique constraints come first, then the indexes, then, on a server that has
them, the constraints that a property is there.

## Main definitions

* `Schema.objectName` — the name of a constraint or index
* `Schema.constraintDrops`, `Schema.indexDrops` — the statements that drop
* `Schema.creates` — the statements that create
* `Schema.statementsFor` — the statements that create what selected models require
-/

namespace GraphMapper.Schema

/-- The name of a constraint or index: its parts joined by `_`, with `_` also for every character
that may not occur in a name. -/
def objectName (label property suffix : String) : String :=
  String.ofList (Query.nameChars (label ++ "_" ++ property ++ "_" ++ suffix).toList)

/-! ### Dropping -/

/-- Some labels as a set; labels that cannot be keys have none. -/
def targets (labels : List Value) : Except ShapeFault (List Value) :=
  match labels.find? (!·.hashable) with
  | some l => .error (.unhashable l.unhashableType)
  | none => .ok labels

/-- The label is one of the targets. -/
def isTarget (targets : List Value) (label : Value) : Except ShapeFault Bool :=
  if label.hashable then .ok (targets.any (·.equals label))
  else .error (.unhashable label.unhashableType)

/-- The statements that drop the entries of one kind on the targets, except those that belong to a
constraint. -/
def dropsOf (kind : EntryKind) (word : String) (skipOwned : Bool) (targets : List Value) :
    List LiveEntry → Except ShapeFault (List String)
  | [] => .ok []
  | entry :: rest =>
    if entry.kind = kind then do
      let hit ← isTarget targets entry.label
      let others ← dropsOf kind word skipOwned targets rest
      if hit && !(skipOwned && entry.owned) then
        .ok (("DROP " ++ word ++ " " ++ entry.name.display ++ " IF EXISTS") :: others)
      else .ok others
    else dropsOf kind word skipOwned targets rest

/-- The statements that drop the unique constraints on some labels. -/
def constraintDrops (live : List LiveEntry) (labels : List Value) :
    Except ShapeFault (List String) :=
  (targets labels).bind fun ts => dropsOf .uniqueConstraint "CONSTRAINT" false ts live

/-- The statements that drop the indexes on some labels. An index that belongs to a constraint
cannot be dropped by itself. -/
def indexDrops (live : List LiveEntry) (labels : List Value) : Except ShapeFault (List String) :=
  (targets labels).bind fun ts => dropsOf .index "INDEX" true ts live

/-! ### Creating -/

/-- The statement that creates a constraint on a property. -/
def createConstraint (label property suffix condition : String) : String :=
  "CREATE CONSTRAINT " ++ objectName label property suffix ++ " IF NOT EXISTS FOR (n:" ++ label
    ++ ") REQUIRE n." ++ property ++ " " ++ condition

/-- The statement that creates an index on a property. -/
def createIndex (label property : String) : String :=
  "CREATE INDEX " ++ objectName label property "index" ++ " IF NOT EXISTS FOR (n:" ++ label
    ++ ") ON (n." ++ property ++ ")"

/-- The statements that create what a label requires. -/
def createsOf (enterprise : Bool) (r : Requirement) : List String :=
  r.unique.map (fun p => createConstraint r.label p.display "unique" "IS UNIQUE")
    ++ r.index.map (fun p => createIndex r.label p.display)
    ++ (if enterprise then
        r.existence.map fun p => createConstraint r.label p.display "exists" "IS NOT NULL"
      else [])

/-- The statements that create what several labels require. -/
def creates (enterprise : Bool) (requirements : List Requirement) : List String :=
  requirements.flatMap (createsOf enterprise)

@[simp] theorem creates_nil (enterprise : Bool) : creates enterprise [] = [] := rfl

@[simp] theorem creates_cons (enterprise : Bool) (r : Requirement) (rs : List Requirement) :
    creates enterprise (r :: rs) = createsOf enterprise r ++ creates enterprise rs := rfl

/-- What several models require. -/
def requirements (models : List Model) : Except Fault (List Requirement) :=
  match models.mapM Requirement.ofModel with
  | .ok rs => .ok rs
  | .error fault => .error (.shape fault)

/-- The statements that create what the models of the given names require. -/
def statementsFor (registry : Registry) (names : Value) (enterprise : Bool) :
    Except Fault (List String) := do
  let models ← registry.select names
  let rs ← requirements models
  .ok (creates enterprise rs)

end GraphMapper.Schema
