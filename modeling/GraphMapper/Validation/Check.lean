import GraphMapper.Validation.Issue
import GraphMapper.Text.Case
import GraphMapper.Value.Display

/-!
# Checks

A check yields a value or everything that is wrong with it. Checks of several parts are joined so
that the issues of all parts are reported, in the order of the parts.

## Main definitions

* `Validation.Checked` — a checked value
* `Validation.Checked.zip`, `Validation.Checked.all` — joining checks
* `Validation.truth` — reading a truth value
* `Validation.text` — reading a text
-/

namespace GraphMapper.Validation

/-- A checked value, or what is wrong with it. -/
abbrev Checked (α : Type) := Except (List Issue) α

namespace Checked

variable {α β : Type}

/-- A value that breaks one rule. -/
def fails (rule : Rule) : Checked α := .error [⟨[], rule⟩]

/-- The check of a part that lies under a name. -/
def under (name : String) : Checked α → Checked α
  | .ok a => .ok a
  | .error issues => .error (issues.map (·.under name))

/-- Both values, or the issues of both checks. -/
def zip : Checked α → Checked β → Checked (α × β)
  | .ok a, .ok b => .ok (a, b)
  | .ok _, .error issues => .error issues
  | .error issues, .ok _ => .error issues
  | .error issues, .error others => .error (issues ++ others)

/-- All values, or the issues of all checks. -/
def all : List (Checked α) → Checked (List α)
  | [] => .ok []
  | c :: cs => (zip c (all cs)).map fun (a, as) => a :: as

/-- The first value that passes, or the issues of both checks. -/
def orElse : Checked α → Checked α → Checked α
  | .ok a, _ => .ok a
  | .error _, .ok b => .ok b
  | .error issues, .error others => .error (issues ++ others)

@[simp] theorem under_ok (name : String) (a : α) : under name (.ok a : Checked α) = .ok a := rfl

@[simp] theorem zip_ok (a : α) (b : β) : zip (.ok a) (.ok b) = .ok (a, b) := rfl

@[simp] theorem all_nil : all ([] : List (Checked α)) = .ok [] := rfl

end Checked

/-- The words that stand for true. -/
def trueWords : List String := ["1", "on", "t", "true", "y", "yes"]

/-- The words that stand for false. -/
def falseWords : List String := ["0", "off", "f", "false", "n", "no"]

/-- The truth value that a word stands for, in any case of its ASCII letters. -/
def wordTruth (s : String) : Checked Bool :=
  let word := String.ofList (s.toList.map Char.toLower)
  if trueWords.contains word then .ok true
  else if falseWords.contains word then .ok false
  else .fails .truthValue

/-- The truth value that a value stands for: itself, one of the numbers 0 and 1, or a word. -/
def truth : Value → Checked Bool
  | .bool b => .ok b
  | .int n => if n = 1 then .ok true else if n = 0 then .ok false else .fails .truthValue
  | .float x =>
    match x.integer? with
    | some n => if n = 1 then .ok true else if n = 0 then .ok false else .fails .truthType
    | none => .fails .truthType
  | .text s => wordTruth s
  | _ => .fails .truthType

/-- A text. -/
def text : Value → Checked String
  | .text s => .ok s
  | _ => .fails .text

/-- The name under which the value of a key is reported. -/
def keyName : Value → String
  | .bool b => if b then "1" else "0"
  | .text s => s
  | v => v.inspect

/-- A key of a mapping, which has to be a text. -/
def key (k : Value) : Checked String := ((text k).under "[key]").under (keyName k)

/-- A mapping whose keys are texts, with its values as they are. -/
def mapping : Value → Checked (List (String × Value))
  | .map entries => .all (entries.map fun (k, v) => (key k).map fun name => (name, v))
  | _ => .fails .mapping

end GraphMapper.Validation
