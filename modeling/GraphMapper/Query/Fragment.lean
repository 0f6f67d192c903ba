import GraphMapper.Fault
import GraphMapper.Query.Naming
import GraphMapper.Query.Options
import GraphMapper.Query.Predicate

/-!
# Compiling predicates

A predicate is compiled to the text of a boolean expression and the values of the parameters in it.
Names of fields are written into the text, values only ever become parameters. A test that cannot be
stated leaves nothing behind, unless operators are strict, and a group of which nothing is left
leaves nothing either.

## Main definitions

* `Query.Bindings` — parameters and their values
* `Query.Fragment` — a piece of a statement
* `Query.Predicate.compile` — the fragment of a predicate
-/

namespace GraphMapper.Query

/-- Parameters and their values, in the order in which they were first bound. -/
abbrev Bindings := List (String × Value)

namespace Bindings

/-- The bindings with a value bound to a name. A new name goes to the end, a known name keeps its
place. -/
def bind (bindings : Bindings) (name : String) (value : Value) : Bindings :=
  match bindings with
  | [] => [(name, value)]
  | (n, v) :: rest =>
    if n == name then (n, value) :: rest else (n, v) :: bind rest name value

/-- The bindings with others bound after them. -/
def merge (bindings others : Bindings) : Bindings :=
  others.foldl (fun acc b => acc.bind b.1 b.2) bindings

/-- The value that is bound to a name. -/
def value? (bindings : Bindings) (name : String) : Option Value :=
  (bindings.find? fun b => b.1 == name).map (·.2)

/-- The names that are bound. -/
def names (bindings : Bindings) : List String := bindings.map (·.1)

@[simp] theorem merge_nil (bindings : Bindings) : bindings.merge [] = bindings := rfl

@[simp] theorem bind_nil (name : String) (value : Value) :
    bind [] name value = [(name, value)] := rfl

end Bindings

/-- A piece of a statement and the parameters in it. -/
structure Fragment where
  /-- The text. -/
  text : String
  /-- The parameters. -/
  params : Bindings

namespace Fragment

/-- The fragment that says nothing. -/
def empty : Fragment := ⟨"", []⟩

/-- The fragment says nothing. -/
def isEmpty (f : Fragment) : Bool := f.text.isEmpty

/-- The parameter of the given name as it stands in a statement. -/
def placeholder (name : String) : String := "$" ++ name

/-- The word between the parts of a group. -/
def keyword : Connective → String
  | .and | .not => " AND "
  | .or => " OR "
  | .xor => " XOR "

/-- The text of a group of which the given parts are left. -/
def joinText (op : Connective) (parts : List String) : String :=
  let inner := "(" ++ (keyword op).intercalate parts ++ ")"
  if op = .not then "NOT " ++ inner else inner

/-- The fragment of a group, from those of its children. -/
def join (op : Connective) (children : List Fragment) : Fragment :=
  let parts := children.filter (!·.isEmpty)
  if parts.isEmpty then empty
  else
    ⟨joinText op (parts.map fun f => "(" ++ f.text ++ ")"),
      parts.foldl (fun acc f => acc.merge f.params) []⟩

/-- A test of a property against one parameter. -/
def ofRelation (property symbol : String) (value : Value) (namer : Namer) (field : String) :
    Fragment × Namer :=
  let (name, namer) := namer.name field
  (⟨property ++ " " ++ symbol ++ " " ++ placeholder name, [(name, value)]⟩, namer)

/-- The fragment behind the word that negates it. -/
def negated (f : Fragment) : Fragment := ⟨"NOT " ++ f.text, f.params⟩

/-- The fragment, or its negation. -/
def negatedIf (negate : Bool) (f : Fragment) : Fragment := if negate then f.negated else f

/-- The values of a list, each bound to the base name followed by its place. -/
def numbered (base : String) (items : List Value) : Bindings :=
  items.mapIdx fun i v => (base ++ toString i, v)

/-- The membership test of a property in a list of parameters. -/
def ofMembership (property base : String) (items : List Value) : Fragment :=
  let params := numbered base items
  ⟨property ++ " IN [" ++ ", ".intercalate (params.names.map placeholder) ++ "]", params⟩

/-- The test that a property lies strictly between two parameters. -/
def ofRange (property lowName highName : String) (low high : Value) : Fragment :=
  ⟨"(" ++ property ++ " > " ++ placeholder lowName ++ " AND " ++ property ++ " < "
      ++ placeholder highName ++ ")",
    Bindings.bind [(lowName, low)] highName high⟩

end Fragment

/-- The two ends of a range. -/
def rangeEnds (operand : Value) : Except ShapeFault (Value × Value) :=
  match operand.items with
  | .error (.notIterable type) => .error (.notUnpackable type)
  | .error fault => .error fault
  | .ok [low, high] => .ok (low, high)
  | .ok items => .error (.itemCount 2 items.length)

/-- The pattern that matches every text holding a match of the operand. -/
def containing (operand : Value) : Value := .text (".*" ++ operand.display ++ ".*")

namespace Predicate

/-- The fragment of a test of one field. -/
def compileTest (o : Options) (field : String) (op : Comparison) (operand : Value)
    (namer : Namer) : Except Fault Fragment × Namer :=
  let property := o.nodeName ++ "." ++ field
  let relation (symbol : String) (value : Value) : Except Fault Fragment × Namer :=
    let (f, namer) := Fragment.ofRelation property symbol value namer field
    (.ok f, namer)
  let negatedRelation (symbol : String) (value : Value) : Except Fault Fragment × Namer :=
    let (f, namer) := Fragment.ofRelation property symbol value namer field
    (.ok f.negated, namer)
  let membership (negate : Bool) : Except Fault Fragment × Namer :=
    let (base, namer) := namer.name field
    match operand.items with
    | .error fault => (.error (.shape fault), namer)
    | .ok items => (.ok ((Fragment.ofMembership property base items).negatedIf negate), namer)
  match op with
  | .isNull => (.ok ⟨property ++ " IS NULL", []⟩, namer)
  | .eq =>
    if operand.isNull then (.ok ⟨property ++ " IS NULL", []⟩, namer) else relation "=" operand
  | .neq =>
    if operand.isNull then (.ok ⟨property ++ " IS NOT NULL", []⟩, namer)
    else negatedRelation "=" operand
  | .gt => relation ">" operand
  | .gte => relation ">=" operand
  | .lt => relation "<" operand
  | .lte => relation "<=" operand
  | .between =>
    match rangeEnds operand with
    | .error fault => (.error (.shape fault), namer)
    | .ok (low, high) =>
      let (lowName, namer) := namer.name field
      let (highName, namer) := namer.name field
      (.ok (Fragment.ofRange property lowName highName low high), namer)
  | .isIn => membership false
  | .notIn => membership true
  | .like => relation "=~" (containing operand)
  | .notLike => negatedRelation "=~" (containing operand)

mutual

/-- The fragment of a predicate. Names that were issued before a fault stay issued. -/
def compile (o : Options) : Predicate → Namer → Except Fault Fragment × Namer
  | .group op children, namer =>
    match compileAll o children namer with
    | (.ok fragments, namer) => (.ok (Fragment.join op fragments), namer)
    | (.error fault, namer) => (.error fault, namer)
  | .test field op operand, namer => compileTest o field op operand namer
  | .unsupported field name _, namer =>
    if o.strictOperators then (.error (.compile (.unsupportedOperator name field)), namer)
    else (.ok .empty, namer)
  | .foreign value, namer =>
    if value.isNull then (.ok .empty, namer) else (.error (.compile (.notAPredicate value)), namer)

/-- The fragments of predicates, from the first to the last. -/
def compileAll (o : Options) : List Predicate → Namer → Except Fault (List Fragment) × Namer
  | [], namer => (.ok [], namer)
  | p :: ps, namer =>
    match compile o p namer with
    | (.error fault, namer) => (.error fault, namer)
    | (.ok fragment, namer) =>
      match compileAll o ps namer with
      | (.error fault, namer) => (.error fault, namer)
      | (.ok fragments, namer) => (.ok (fragment :: fragments), namer)

end

/-- The fragment of an optional predicate; none compiles to nothing. -/
def compile? (o : Options) (p : Option Predicate) (namer : Namer) :
    Except Fault Fragment × Namer :=
  match p with
  | none => (.ok .empty, namer)
  | some p => p.compile o namer

/-- The fragment of a where condition. -/
def compileWhere (o : Options) (condition : Value) (namer : Namer) :
    Except Fault Fragment × Namer :=
  match ofWhere o.strictOperators condition with
  | .error issue => (.error (.compile issue), namer)
  | .ok p => compile? o p namer

end Predicate

end GraphMapper.Query
