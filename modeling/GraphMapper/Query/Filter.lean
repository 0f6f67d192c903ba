import GraphMapper.Fault
import GraphMapper.Number.Numeral
import GraphMapper.Query.Predicate
import GraphMapper.Query.Projection

/-!
# Filters

A filter is a mapping that says which nodes to return (`where`), which of their fields (`fields`),
in which order (`order`) and which part of the result (`skip`, `limit`). What is to be included with
a node is kept but not looked at.

## Main definitions

* `Query.Filter` — a filter whose parts have been read
* `Query.Filter.ofValue` — reading a filter
* `Query.Filter.count` — reading the number of nodes to skip or to return
-/

namespace GraphMapper.Query

/-- A filter whose parts have been read. -/
structure Filter where
  /-- The predicate on the nodes. -/
  where? : Option Predicate := none
  /-- The fields to return; all if there are none. -/
  fields : List String := []
  /-- The keys to sort by. -/
  order : List SortKey := []
  /-- The number of nodes to skip, or null. -/
  skip : Value := .null
  /-- The number of nodes to return, or null. -/
  limit : Value := .null
  /-- What to include with a node. -/
  related : Value := .null

namespace Filter

/-- The integer that a value stands for, if it is not an integer itself: the integer part of a
number, or the integer that a text denotes. -/
def integerPart (name : String) (value : Value) : Except Fault Int :=
  match value with
  | .float x =>
    match x.truncate? with
    | some n => .ok n
    | none => if x = .nan then .error (.compile (.notInteger name value))
      else .error (.shape .infiniteInteger)
  | .text s =>
    match Numeral.integer? s with
    | some n => .ok n
    | none => .error (.compile (.notInteger name value))
  | _ => .error (.compile (.notInteger name value))

/-- An integer, unless it is negative. -/
def nonNegative (name : String) (n : Int) : Except Fault Value :=
  if n < 0 then .error (.compile (.negative name n)) else .ok (.int n)

/-- The number of nodes that a value stands for, or null. -/
def count (name : String) (value : Value) : Except Fault Value :=
  match value with
  | .null => .ok .null
  | .int n => nonNegative name n
  | v => (integerPart name v).bind (nonNegative name)

/-- A result whose issue is a fault. -/
def liftIssue {α : Type} : Except Issue α → Except Fault α
  | .ok a => .ok a
  | .error issue => .error (.compile issue)

/-- The filter that a mapping describes; null describes the filter that returns everything. -/
def ofValue (o : Options) (filter : Value) : Except Fault Filter :=
  match filter with
  | .null => .ok {}
  | .map entries => do
    let where? ← liftIssue (Predicate.ofWhere o.strictOperators (Value.getD entries "where"))
    let fields ← liftIssue (Projection.ofFields (Value.getD entries "fields"))
    let order ← liftIssue (SortKey.ofOrder o (Value.getD entries "order"))
    let skip ← count "skip" (Value.getD entries "skip")
    let limit ← count "limit" (Value.getD entries "limit")
    .ok ⟨where?, fields, order, skip, limit, Value.getD entries "include"⟩
  | v => .error (.compile (.filterShape v.shortTypeName))

/-- The filter that returns at most one node. -/
def single (f : Filter) : Filter := { f with limit := .int 1, related := .null }

@[simp] theorem limit_single (f : Filter) : f.single.limit = .int 1 := rfl

end Filter

end GraphMapper.Query
