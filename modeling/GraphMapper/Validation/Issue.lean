/-!
# Validation issues

Declarations and settings are validated as a whole: every part that does not fit is reported with
the path that leads to it.

## Main definitions

* `Validation.Rule` — the rules that a value can break
* `Validation.Issue` — a broken rule and the path to the value
-/

namespace GraphMapper.Validation

/-- The rules that a value can break. -/
inductive Rule where
  /-- The value is there. -/
  | present
  /-- The value is a mapping of fields. -/
  | record
  /-- The value is a text. -/
  | text
  /-- The text can be encoded. -/
  | encoding
  /-- The text is not empty. -/
  | nonEmpty
  /-- The text has the required form. -/
  | form
  /-- The value is of a type that can stand for a truth value. -/
  | truthType
  /-- The value stands for a truth value. -/
  | truthValue
  /-- The value is a mapping. -/
  | mapping
  /-- The value is a list. -/
  | list
  /-- The value is of a type that can stand for an integer. -/
  | integerType
  /-- The text denotes an integer. -/
  | integerText
  /-- The number has no fractional part. -/
  | integerValue
  /-- The number is finite. -/
  | finite
  /-- The text of an integer is not too long. -/
  | integerLength
  deriving DecidableEq, Repr

/-- The code under which a broken rule is reported. -/
def Rule.code : Rule → String
  | .present => "missing"
  | .record => "model_type"
  | .text => "string_type"
  | .encoding => "string_unicode"
  | .nonEmpty => "string_too_short"
  | .form => "string_pattern_mismatch"
  | .truthType => "bool_type"
  | .truthValue => "bool_parsing"
  | .mapping => "dict_type"
  | .list => "list_type"
  | .integerType => "int_type"
  | .integerText => "int_parsing"
  | .integerValue => "int_from_float"
  | .finite => "finite_number"
  | .integerLength => "int_parsing_size"

/-- A broken rule and the path to the value that breaks it. -/
structure Issue where
  /-- The names and places that lead to the value. -/
  path : List String
  /-- The rule. -/
  rule : Rule
  deriving DecidableEq, Repr

/-- The issue as seen from outside a part with the given name. -/
def Issue.under (name : String) (issue : Issue) : Issue := ⟨name :: issue.path, issue.rule⟩

@[simp] theorem Issue.rule_under (name : String) (issue : Issue) :
    (issue.under name).rule = issue.rule := rfl

end GraphMapper.Validation
