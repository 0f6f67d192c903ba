import GraphMapper.Calendar.DateTime
import GraphMapper.Number.Binary64

/-!
# Dynamic values

Filters, property maps, model declarations and result rows are data whose shape is only known when
they are used. A mapping is the list of its entries in the order in which its keys first arrived.

## Main definitions

* `Value` — a dynamic value
* `Value.typeName` — the name of its type in messages
* `Value.truthy` — whether it counts as true where a condition is needed
* `Value.equals` — equality of values, across the kinds of numbers
* `Value.hashable` — whether it may be a key of a mapping
-/

namespace GraphMapper

/-- A dynamic value. -/
inductive Value where
  /-- No value. -/
  | null
  /-- A truth value. -/
  | bool (b : Bool)
  /-- An integer of any size. -/
  | int (n : Int)
  /-- A binary64 number. -/
  | float (x : Binary64)
  /-- A text. -/
  | text (s : String)
  /-- A list. -/
  | list (items : List Value)
  /-- A tuple. -/
  | tuple (items : List Value)
  /-- A set. -/
  | set (items : List Value)
  /-- A mapping, in the order of its keys. -/
  | map (entries : List (Value × Value))
  /-- A point in time. -/
  | datetime (t : DateTime)
  /-- A date. -/
  | date (d : Date)
  deriving Inhabited, Repr

namespace Value

/-- The entries of a mapping. -/
abbrev Entries := List (Value × Value)

/-- The name of a value's type in messages. -/
def typeName : Value → String
  | .null => "NoneType"
  | .bool _ => "bool"
  | .int _ => "int"
  | .float _ => "float"
  | .text _ => "str"
  | .list _ => "list"
  | .tuple _ => "tuple"
  | .set _ => "set"
  | .map _ => "dict"
  | .datetime _ => "datetime.datetime"
  | .date _ => "datetime.date"

/-- The last part of the type's name, under which a value is reported as unfit. -/
def shortTypeName (v : Value) : String :=
  match v with
  | .datetime _ => "datetime"
  | .date _ => "date"
  | v => v.typeName

/-- A value counts as false if it is null, false, zero or empty. -/
def truthy : Value → Bool
  | .null => false
  | .bool b => b
  | .int n => n != 0
  | .float x => !x.isZero
  | .text s => !s.isEmpty
  | .list items => !items.isEmpty
  | .tuple items => !items.isEmpty
  | .set items => !items.isEmpty
  | .map entries => !entries.isEmpty
  | .datetime _ => true
  | .date _ => true

/-- The value is null. -/
def isNull : Value → Bool
  | .null => true
  | _ => false

@[simp] theorem isNull_eq_true_iff {v : Value} : v.isNull = true ↔ v = .null := by
  cases v <;> simp [isNull]

/-- The number that a value stands for: truth values count as 0 and 1. -/
def number? : Value → Option (Int ⊕ Binary64)
  | .bool b => some (.inl (if b then 1 else 0))
  | .int n => some (.inl n)
  | .float x => some (.inr x)
  | _ => none

/-- Equality of numbers of different kinds. -/
def equalNumbers : Int ⊕ Binary64 → Int ⊕ Binary64 → Bool
  | .inl m, .inl n => m == n
  | .inr x, .inr y => x.equals y
  | .inl m, .inr y => y.integer? == some m
  | .inr x, .inl n => x.integer? == some n

/-- Equality of points in time: with offsets the instants count, without them the fields, and a
point with an offset differs from one without. -/
def equalTimes (s t : DateTime) : Bool :=
  match s.offset, t.offset with
  | none, none => s == t
  | some o, some o' => ((s.microseconds : Int) - o) == ((t.microseconds : Int) - o')
  | _, _ => false

mutual

/-- Equality of values. Numbers are compared as numbers, mappings and sets without regard to
order. -/
def equals : Value → Value → Bool
  | .null, .null => true
  | .text s, .text t => s == t
  | .list xs, .list ys => equalItems xs ys
  | .tuple xs, .tuple ys => equalItems xs ys
  | .set xs, .set ys => xs.length == ys.length && itemsWithin xs ys
  | .map xs, .map ys => xs.length == ys.length && entriesWithin xs ys
  | .datetime s, .datetime t => equalTimes s t
  | .date d, .date e => d == e
  | v, w =>
    match v.number?, w.number? with
    | some m, some n => equalNumbers m n
    | _, _ => false

/-- Equality of lists of values, item by item. -/
def equalItems : List Value → List Value → Bool
  | [], [] => true
  | x :: xs, y :: ys => equals x y && equalItems xs ys
  | _, _ => false

/-- Every item of the first list equals one of the second. -/
def itemsWithin : List Value → List Value → Bool
  | [], _ => true
  | x :: xs, ys => ys.any (fun y => equals x y) && itemsWithin xs ys

/-- Every entry of the first list has an equal entry in the second. -/
def entriesWithin : List (Value × Value) → List (Value × Value) → Bool
  | [], _ => true
  | (k, v) :: xs, ys => ys.any (fun (k', v') => equals k k' && equals v v') && entriesWithin xs ys

end

mutual

/-- A value that may be a key: lists, sets and mappings may not, nor a tuple that holds one. -/
def hashable : Value → Bool
  | .list _ => false
  | .set _ => false
  | .map _ => false
  | .tuple items => allHashable items
  | _ => true

/-- All values of a list may be keys. -/
def allHashable : List Value → Bool
  | [] => true
  | v :: vs => hashable v && allHashable vs

end

/-- The name of the type that keeps a value from being a key. -/
def unhashableType : Value → String
  | .tuple items =>
    match items.find? (!hashable ·) with
    | some v => v.typeName
    | none => "tuple"
  | v => v.typeName

/-- The value is a mapping. -/
def isMap : Value → Bool
  | .map _ => true
  | _ => false

/-- The items of a list or tuple. -/
def sequence? : Value → Option (List Value)
  | .list items => some items
  | .tuple items => some items
  | _ => none

end Value

end GraphMapper
