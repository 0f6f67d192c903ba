import GraphMapper.Text.Blank
import GraphMapper.Text.Lines

/-!
# Files of variables

Each line of a file of variables assigns a value to a name, as in `NAME=value`, possibly after the
word `export`. Values may be quoted and may refer to other variables as `${NAME}` or
`${NAME:-default}`; `#` begins a comment. A line that does not fit says nothing.

## Main definitions

* `Settings.Assignment` — a name and its value
* `Settings.assignments` — the assignments in a text
* `Settings.expand` — a value with its references replaced
* `Settings.readVariables` — the variables that a text assigns
-/

namespace GraphMapper.Settings

/-- A name and the value that is assigned to it, if any. -/
structure Assignment where
  /-- The name. -/
  name : String
  /-- The value, with references still in it. -/
  value? : Option String

/-! ### Assignments -/

/-- A blank inside a line. -/
def isGap (c : Char) : Bool := Text.isBlank c && c != '\n'

/-- The characters after blanks inside the line. -/
def skipGap (cs : List Char) : List Char := cs.dropWhile isGap

/-- The characters after the end of the line. -/
def skipLine (cs : List Char) : List Char := (cs.dropWhile (· != '\n')).drop 1

/-- The characters after the word `export` and blanks. -/
def skipExport (cs : List Char) : List Char :=
  match cs with
  | 'e' :: 'x' :: 'p' :: 'o' :: 'r' :: 't' :: c :: rest =>
    if isGap c then skipGap rest else cs
  | _ => cs

/-- A name and the characters after it. A comment has no name. -/
def readName (cs : List Char) : Option (Option String × List Char) :=
  match cs with
  | '#' :: _ => some (none, cs)
  | '\'' :: rest =>
    match rest.takeWhile (· != '\''), rest.dropWhile (· != '\'') with
    | [], _ => none
    | _, [] => none
    | name, _ :: rest => some (some (String.ofList name), rest)
  | cs =>
    let isName (c : Char) : Bool := c != '=' && c != '#' && !Text.isBlank c
    match cs.takeWhile isName with
    | [] => none
    | name => some (some (String.ofList name), cs.dropWhile isName)

/-- The characters up to the closing quote and those after it. A quote after a backslash does not
close, unless it is the last quote. -/
def readQuoted (quote : Char) (value : List Char) (last? : Option (List Char × List Char)) :
    List Char → Option (List Char × List Char)
  | [] => last?
  | '\\' :: c :: cs =>
    if c == quote then
      -- Should no other quote follow, this one closes after all.
      readQuoted quote (c :: '\\' :: value) (some (('\\' :: value).reverse, cs)) cs
    else readQuoted quote ('\\' :: value) last? (c :: cs)
  | c :: cs =>
    if c == quote then some (value.reverse, cs) else readQuoted quote (c :: value) last? cs

/-- The escapes between single quotes. -/
def singleEscapes : List (Char × Char) := [('\\', '\\'), ('\'', '\'')]

/-- The escapes between double quotes. -/
def doubleEscapes : List (Char × Char) :=
  singleEscapes ++ [('"', '"'), ('a', '\x07'), ('b', '\x08'), ('f', '\x0c'), ('n', '\n'),
    ('r', '\r'), ('t', '\t'), ('v', '\x0b')]

/-- The characters that a quoted text stands for. -/
def unescape (escapes : List (Char × Char)) : List Char → List Char
  | '\\' :: c :: cs =>
    match escapes.lookup c with
    | some x => x :: unescape escapes cs
    | none => '\\' :: unescape escapes (c :: cs)
  | c :: cs => c :: unescape escapes cs
  | [] => []

/-- The characters in front of a comment, which starts with a blank. -/
def cutComment : List Char → List Char
  | [] => []
  | c :: cs =>
    if Text.isBlank c && (cs.dropWhile Text.isBlank).head? == some '#' then []
    else c :: cutComment cs

/-- A value and the characters after it. -/
def readValue (cs : List Char) : Option (String × List Char) :=
  let quoted (quote : Char) (escapes : List (Char × Char)) (cs : List Char) :
      Option (String × List Char) :=
    (readQuoted quote [] none cs).map fun (value, rest) =>
      (String.ofList (unescape escapes value), rest)
  match cs with
  | '\'' :: rest => quoted '\'' singleEscapes rest
  | '"' :: rest => quoted '"' doubleEscapes rest
  | cs =>
    let value := cutComment (cs.takeWhile (· != '\n'))
    some (String.ofList (value.reverse.dropWhile Text.isBlank).reverse, cs.dropWhile (· != '\n'))

/-- The characters after an optional comment and the end of the line, or those that stand in the way
of it. -/
def readEnd (cs : List Char) : Except (List Char) (List Char) :=
  match skipGap cs with
  | '#' :: rest => .ok (skipLine rest)
  | '\n' :: rest => .ok rest
  | [] => .ok []
  | _ => .error cs

/-- The assignment on a line and the characters after the line, or the characters from where on the
line does not fit. -/
def readAssignment (cs : List Char) : Except (List Char) (Option Assignment × List Char) :=
  let cs := skipExport cs
  match readName cs with
  | none => .error cs
  | some (name?, cs) =>
    match skipGap cs with
    | '=' :: rest =>
      let rest := skipGap rest
      match readValue rest with
      | none => .error rest
      | some (value, rest) =>
        (readEnd rest).map fun rest => (name?.map (Assignment.mk · (some value)), rest)
    | rest => (readEnd rest).map fun rest => (name?.map (Assignment.mk · none), rest)

/-- The assignments in a text of which at most `fuel` lines are read. -/
def assignmentsFrom : (fuel : Nat) → List Char → List Assignment
  | 0, _ => []
  | fuel + 1, cs =>
    let cs := cs.dropWhile Text.isBlank
    if cs.isEmpty then []
    else
      match readAssignment cs with
      | .ok (a?, rest) => a?.toList ++ assignmentsFrom fuel rest
      | .error rest => assignmentsFrom fuel (skipLine rest)

/-- The assignments in a text. -/
def assignments (text : String) : List Assignment :=
  let cs := ("\n".intercalate (Text.lines text)).toList
  assignmentsFrom (cs.length + 1) cs

/-! ### References -/

/-- The name and the default of a reference, and the characters after it. The characters are those
after `${`. -/
def reference? (cs : List Char) : Option (String × String × List Char) :=
  let isName (c : Char) : Bool := c != '\x7d' && c != ':'
  let name := String.ofList (cs.takeWhile isName)
  match cs.dropWhile isName with
  | '\x7d' :: rest => some (name, "", rest)
  | ':' :: '-' :: rest =>
    match rest.dropWhile (· != '\x7d') with
    | _ :: after => some (name, String.ofList (rest.takeWhile (· != '\x7d')), after)
    | [] => none
  | _ => none

/-- The characters with references replaced, of which there are fewer than `fuel`. The value of a
name is the result of `value` on it and its default. -/
def expandFrom (value : String → String → String) : (fuel : Nat) → List Char → List Char
  | 0, cs => cs
  | _, [] => []
  | fuel + 1, '$' :: '\x7b' :: cs =>
    match reference? cs with
    | some (name, default, rest) => (value name default).toList ++ expandFrom value fuel rest
    | none => '$' :: expandFrom value fuel ('\x7b' :: cs)
  | fuel + 1, c :: cs => c :: expandFrom value fuel cs

/-- A text with references replaced. -/
def expand (value : String → String → String) (s : String) : String :=
  String.ofList (expandFrom value (s.length + 1) s.toList)

/-! ### Variables -/

/-- The variables with one more assigned. A known name keeps its place. -/
def assign (name : String) (value? : Option String) :
    List (String × Option String) → List (String × Option String)
  | [] => [(name, value?)]
  | (n, v) :: rest =>
    if n = name then (n, value?) :: rest else (n, v) :: assign name value? rest

/-- The value of a name: as assigned before, else as in the surroundings, else the default. A name
assigned no value counts as empty. -/
def valueOf (surroundings : List (String × String)) (assigned : List (String × Option String))
    (name default : String) : String :=
  match assigned.lookup name with
  | some value? => value?.getD ""
  | none => (surroundings.lookup name).getD default

/-- The variables that a text assigns in the given surroundings. -/
def readVariables (surroundings : List (String × String)) (text : String) :
    List (String × Option String) :=
  (assignments text).foldl (fun assigned a =>
    assign a.name (a.value?.map (expand (valueOf surroundings assigned))) assigned) []

@[simp] theorem assign_nil (name : String) (value? : Option String) :
    assign name value? [] = [(name, value?)] := rfl

end GraphMapper.Settings
