import GraphMapper.Value.Display

/-!
# Using values of unknown shape

The operations that data of unknown shape is put through: running through its items, taking it for
a mapping, looking up a key. Each fails with the reason why the value does not fit.

## Main definitions

* `ShapeFault` — why a value does not fit an operation
* `Value.items` — the items that a value runs through
* `Value.entries` — the entries of a mapping or of a sequence of pairs
* `Value.insert`, `Value.lookup?` — writing to and reading from the entries of a mapping
* `Value.member`, `Value.require`, `Value.first` — reading a key or the first item of a value
-/

namespace GraphMapper

/-- Why a value does not fit an operation. -/
inductive ShapeFault where
  /-- The value has no items. -/
  | notIterable (type : String)
  /-- The value has neither keys nor positions. -/
  | notIndexable (type : String)
  /-- A list or tuple is asked for a key. -/
  | wrongPosition (type : String)
  /-- A text is asked for a key. -/
  | textPosition
  /-- The value has no such operation. -/
  | noMember (type name : String)
  /-- The value may not be a key. -/
  | unhashable (type : String)
  /-- The item with this number has the wrong number of parts to be an entry. -/
  | pairLength (number length : Nat)
  /-- The item with this number has no parts. -/
  | notAPair (number : Nat)
  /-- The value is not a mapping whose entries can be added to others. -/
  | notMapping (type : String)
  /-- Entries to be added to others have keys that are no texts. -/
  | keyNotText
  /-- The mapping has no such key. -/
  | missingKey (key : Value)
  /-- The value cannot be taken apart into a fixed number of items. -/
  | notUnpackable (type : String)
  /-- There are not as many items as are taken apart. -/
  | itemCount (expected found : Nat)
  /-- Infinity has no integer part. -/
  | infiniteInteger
  /-- A mapping with such a key has no written form. -/
  | unwritableKey (type : String)
  /-- A number lies outside the range of what it should denote. -/
  | outOfRange
  /-- A text has no character where one is looked for. -/
  | noCharacter
  /-- An operation was called with arguments that it does not take. -/
  | wrongArguments
  deriving Repr

namespace ShapeFault

/-- The text of a shape fault. -/
def message : ShapeFault → String
  | .notIterable type => "'" ++ type ++ "' object is not iterable"
  | .notIndexable type => "'" ++ type ++ "' object is not subscriptable"
  | .wrongPosition type => type ++ " indices must be integers or slices, not str"
  | .textPosition => "string indices must be integers, not 'str'"
  | .noMember type name => "'" ++ type ++ "' object has no attribute '" ++ name ++ "'"
  | .unhashable type => "unhashable type: '" ++ type ++ "'"
  | .pairLength number length =>
    "dictionary update sequence element #" ++ toString number ++ " has length "
      ++ toString length ++ "; 2 is required"
  | .notAPair number =>
    "cannot convert dictionary update sequence element #" ++ toString number ++ " to a sequence"
  | .notMapping type => "'" ++ type ++ "' object is not a mapping"
  | .keyNotText => "keywords must be strings"
  | .missingKey key => key.inspect
  | .notUnpackable type => "cannot unpack non-iterable " ++ type ++ " object"
  | .itemCount expected found =>
    if found < expected then
      "not enough values to unpack (expected " ++ toString expected ++ ", got " ++ toString found
        ++ ")"
    else "too many values to unpack (expected " ++ toString expected ++ ")"
  | .infiniteInteger => "cannot convert float infinity to integer"
  | .unwritableKey type => "keys must be str, int, float, bool or None, not " ++ type
  | .outOfRange => "value out of range"
  | .noCharacter => "string index out of range"
  | .wrongArguments => "wrong arguments"

end ShapeFault

namespace Value

/-- The characters of a text, one text each. -/
def characters (s : String) : List Value := s.toList.map fun c => .text (String.singleton c)

/-- The items that a value runs through: of a mapping its keys, of a text its characters. -/
def items : Value → Except ShapeFault (List Value)
  | .list xs => .ok xs
  | .tuple xs => .ok xs
  | .set xs => .ok xs
  | .map entries => .ok (entries.map (·.1))
  | .text s => .ok (characters s)
  | v => .error (.notIterable v.typeName)

/-- The value stored under a key. -/
def lookup? (entries : Entries) (key : Value) : Option Value :=
  (entries.find? fun e => e.1.equals key).map (·.2)

/-- The value stored under a text. -/
def get? (entries : Entries) (key : String) : Option Value := lookup? entries (.text key)

/-- The value stored under a text, or null. -/
def getD (entries : Entries) (key : String) : Value := (get? entries key).getD .null

/-- The entries with a value stored under a key. A new key goes to the end, a known key keeps its
place. -/
def insert (entries : Entries) (key value : Value) : Entries :=
  match entries with
  | [] => [(key, value)]
  | (k, v) :: rest =>
    if k.equals key then (k, value) :: rest else (k, v) :: insert rest key value

/-- The entries with others stored over them one after the other. -/
def merge (entries others : Entries) : Entries :=
  others.foldl (fun acc e => insert acc e.1 e.2) entries

/-- The entry that an item of a sequence of pairs stands for. -/
def pairOf (number : Nat) (item : Value) : Except ShapeFault (Value × Value) :=
  match item.items with
  | .error _ => .error (.notAPair number)
  | .ok [k, v] => if k.hashable then .ok (k, v) else .error (.unhashable k.unhashableType)
  | .ok parts => .error (.pairLength number parts.length)

/-- The entries of a sequence of pairs, numbered from `number` on, stored over others. -/
def entriesFrom (number : Nat) (entries : Entries) : List Value → Except ShapeFault Entries
  | [] => .ok entries
  | item :: rest =>
    match pairOf number item with
    | .error fault => .error fault
    | .ok (k, v) => entriesFrom (number + 1) (insert entries k v) rest

/-- The entries of a mapping, or of a sequence of pairs. -/
def entries : Value → Except ShapeFault Entries
  | .map es => .ok es
  | v => v.items.bind (entriesFrom 0 [])

/-- The value under a key of a mapping, or null; other values have no such operation. -/
def member (v : Value) (key : String) : Except ShapeFault Value :=
  match v with
  | .map es => .ok (getD es key)
  | v => .error (.noMember v.typeName "get")

/-- The value under a key, which has to be there. -/
def require (v : Value) (key : String) : Except ShapeFault Value :=
  match v with
  | .map es =>
    match get? es key with
    | some x => .ok x
    | none => .error (.missingKey (.text key))
  | .list _ => .error (.wrongPosition "list")
  | .tuple _ => .error (.wrongPosition "tuple")
  | .text _ => .error .textPosition
  | v => .error (.notIndexable v.typeName)

/-- The first item of a value that is not empty; of a mapping, the value under 0. -/
def first : Value → Except ShapeFault Value
  | .list (x :: _) => .ok x
  | .tuple (x :: _) => .ok x
  | .text s =>
    match s.toList with
    | c :: _ => .ok (.text (String.singleton c))
    | [] => .error .textPosition
  | .map es =>
    match lookup? es (.int 0) with
    | some x => .ok x
    | none => .error (.missingKey (.int 0))
  | v => .error (.notIndexable v.typeName)

end Value

end GraphMapper
