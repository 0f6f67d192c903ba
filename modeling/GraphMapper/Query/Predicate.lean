import GraphMapper.Query.Issue
import GraphMapper.Text.Case
import GraphMapper.Value.Shape

/-!
# Predicates on nodes

A where condition is read once into a tree: groups of predicates joined by a connective, and tests
of a single field. A field whose operator cannot be stated keeps its place in the tree, so that it
is for the compiler to refuse it or to leave it out.

## Main definitions

* `Query.Predicate` — a predicate on a node
* `Query.Predicate.ofWhere` — the predicate that a where condition denotes
-/

namespace GraphMapper.Query

/-- The connectives that join predicates. -/
inductive Connective where
  /-- All of them hold. -/
  | and
  /-- One of them holds. -/
  | or
  /-- Not all of them hold. -/
  | not
  /-- An odd number of them hold. -/
  | xor
  deriving DecidableEq, Repr

/-- The connective that a key in lower case denotes. -/
def Connective.ofKey? : String → Option Connective
  | "and" => some .and
  | "or" => some .or
  | "not" => some .not
  | "xor" => some .xor
  | _ => none

/-- The tests of a single field. -/
inductive Comparison where
  /-- Equal to the operand. -/
  | eq
  /-- Different from the operand. -/
  | neq
  /-- Greater than the operand. -/
  | gt
  /-- At least the operand. -/
  | gte
  /-- Less than the operand. -/
  | lt
  /-- At most the operand. -/
  | lte
  /-- Strictly between the two items of the operand. -/
  | between
  /-- One of the items of the operand. -/
  | isIn
  /-- None of the items of the operand. -/
  | notIn
  /-- Holding a match of the pattern. -/
  | like
  /-- Holding no match of the pattern. -/
  | notLike
  /-- Without a value. -/
  | isNull
  deriving DecidableEq, Repr

/-- The comparison that an operator name in lower case denotes. -/
def Comparison.ofName? : String → Option Comparison
  | "eq" => some .eq
  | "neq" => some .neq
  | "gt" => some .gt
  | "gte" => some .gte
  | "lt" => some .lt
  | "lte" => some .lte
  | "between" => some .between
  | "inq" => some .isIn
  | "in" => some .isIn
  | "nin" => some .notIn
  | "like" => some .like
  | "nlike" => some .notLike
  | _ => none

/-- A predicate on a node. -/
inductive Predicate where
  /-- Predicates joined by a connective. -/
  | group (op : Connective) (children : List Predicate)
  /-- A test of one field. -/
  | test (field : String) (op : Comparison) (operand : Value)
  /-- A test of one field by an operator that has no counterpart in statements. -/
  | unsupported (field name : String) (operand : Value)
  /-- A value that stands where a predicate is expected. -/
  | foreign (value : Value)
  deriving Inhabited

namespace Predicate

/-- The conjunction of predicates: none for no predicate, and a single predicate itself. -/
def conjunction : List Predicate → Option Predicate
  | [] => none
  | [p] => some p
  | ps => some (.group .and ps)

/-- A group of predicates, if there are any. -/
def groupOf (op : Connective) (children : List Predicate) : Option Predicate :=
  if children.isEmpty then none else some (.group op children)

@[simp] theorem conjunction_nil : conjunction [] = none := rfl

@[simp] theorem conjunction_singleton (p : Predicate) : conjunction [p] = some p := rfl

@[simp] theorem groupOf_nil (op : Connective) : groupOf op [] = none := rfl

@[simp] theorem groupOf_cons (op : Connective) (p : Predicate) (ps : List Predicate) :
    groupOf op (p :: ps) = some (.group op (p :: ps)) := rfl

/-- The test of a field by a known operator. -/
def ofOperator (field name : String) (op : Comparison) (operand : Value) :
    Except Issue Predicate :=
  match op with
  | .eq => .ok (if operand.isNull then .test field .isNull .null else .test field .eq operand)
  | .between =>
    match operand.sequence? with
    | some [low, high] => .ok (.test field .between (.tuple [low, high]))
    | _ => .error (.rangeOperand field operand)
  | .isIn | .notIn =>
    match operand with
    | .list items | .tuple items | .set items => .ok (.test field op (.tuple items))
    | _ => .error (.listOperand name field operand)
  | .like | .notLike =>
    match operand with
    | .null | .map _ | .list _ | .tuple _ => .error (.patternOperand name field operand)
    | _ => .ok (.test field op (.text operand.display))
  | _ => .ok (.test field op operand)

/-- The test of a field by the first entry of an operator mapping. -/
def ofOperators (strict : Bool) (field : String) : Value.Entries → Except Issue Predicate
  | [] => .error (.emptyOperators field)
  | (name, operand) :: rest =>
    if strict && !rest.isEmpty then
      .error (.severalOperators field (((name, operand) :: rest).map (·.1.display)))
    else
      match Comparison.ofName? (Text.lower name.display) with
      | none => .ok (.unsupported field name.display operand)
      | some op => ofOperator field name.display op operand

/-- The test of a field by a condition: a mapping holds an operator, null asks for a missing value
and any other value for that value. -/
def ofCondition (strict : Bool) (field : String) : Value → Except Issue Predicate
  | .null => .ok (.test field .isNull .null)
  | .map operators => ofOperators strict field operators
  | v => .ok (.test field .eq v)

mutual

/-- The predicate that a key and its condition denote. A key that names a connective holds a list
of conditions, any other key is a field. -/
def ofEntry (strict : Bool) (key : String) : Value → Except Issue (Option Predicate)
  | .list items =>
    match Connective.ofKey? (Text.lower key) with
    | some op => (ofConditions strict key items).map (groupOf op)
    | none => (ofCondition strict key (.list items)).map some
  | .tuple items =>
    match Connective.ofKey? (Text.lower key) with
    | some op => (ofConditions strict key items).map (groupOf op)
    | none => (ofCondition strict key (.tuple items)).map some
  | v =>
    match Connective.ofKey? (Text.lower key) with
    | some _ => .error (.groupShape key v.shortTypeName)
    | none => (ofCondition strict key v).map some

/-- The predicates of the conditions in a group. -/
def ofConditions (strict : Bool) (key : String) : List Value → Except Issue (List Predicate)
  | [] => .ok []
  | .map entries :: rest => do
    let nodes ← ofEntries strict entries
    let others ← ofConditions strict key rest
    .ok ((conjunction nodes).toList ++ others)
  | v :: _ => .error (.conditionShape key v.shortTypeName)

/-- The predicates of the entries of a where condition. -/
def ofEntries (strict : Bool) : List (Value × Value) → Except Issue (List Predicate)
  | [] => .ok []
  | (key, condition) :: rest => do
    let node ← ofEntry strict key.display condition
    let others ← ofEntries strict rest
    .ok (node.toList ++ others)

end

/-- The predicate that a where condition denotes; none if it matches every node. -/
def ofWhere (strict : Bool) : Value → Except Issue (Option Predicate)
  | .null => .ok none
  | .map entries => (ofEntries strict entries).map conjunction
  | v => .error (.whereShape v.shortTypeName)

end Predicate

end GraphMapper.Query
