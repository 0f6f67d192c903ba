import GraphMapper.Value.Display

/-!
# What keeps a filter from being compiled

Filters, sort orders, projections and property maps arrive as data of unknown shape. Whatever is
wrong with them is reported before any statement leaves the program.

## Main definitions

* `Query.Issue` — why a filter, a sort order or a projection has no statement
* `Query.Issue.message` — its text
-/

namespace GraphMapper.Query

/-- Why a filter, a sort order, a projection or a property map has no statement. -/
inductive Issue where
  /-- A where condition is no mapping. -/
  | whereShape (type : String)
  /-- A group of conditions is no list. -/
  | groupShape (key type : String)
  /-- A condition of a group is no mapping. -/
  | conditionShape (key type : String)
  /-- A field has an operator mapping without operators. -/
  | emptyOperators (field : String)
  /-- A field has several operators where only one is allowed. -/
  | severalOperators (field : String) (names : List String)
  /-- A range does not have two ends. -/
  | rangeOperand (field : String) (operand : Value)
  /-- A membership test has no list of values. -/
  | listOperand (name field : String) (operand : Value)
  /-- A pattern is no text. -/
  | patternOperand (name field : String) (operand : Value)
  /-- A value stands where a predicate is expected. -/
  | notAPredicate (value : Value)
  /-- The operator of a field has no counterpart in statements. -/
  | unsupportedOperator (name field : String)
  /-- A sort order is neither a text nor a list. -/
  | orderShape (type : String)
  /-- An entry of a sort order is not a field with an optional direction. -/
  | orderToken (token : String)
  /-- A projection is neither a text, a list nor a mapping. -/
  | fieldsShape (type : String)
  /-- A filter is no mapping. -/
  | filterShape (type : String)
  /-- A count is no integer. -/
  | notInteger (name : String) (value : Value)
  /-- A count is negative. -/
  | negative (name : String) (value : Int)
  /-- A node to be merged has no id. -/
  | idRequired (idName model : String)

/-- The text of an issue. -/
def Issue.message : Issue → String
  | .whereShape type => "Where must be a mapping, got " ++ type
  | .groupShape key type =>
    "Logical operator '" ++ key ++ "' expects a list of conditions, got " ++ type
  | .conditionShape key type =>
    "Conditions under '" ++ key ++ "' must be mappings, got " ++ type
  | .emptyOperators field => "Empty operator object for field '" ++ field ++ "'"
  | .severalOperators field names =>
    "Field '" ++ field ++ "' has several operators (" ++ ", ".intercalate names
      ++ "); combine them with 'and'"
  | .rangeOperand field operand =>
    "'between' on field '" ++ field ++ "' expects exactly two values, got " ++ operand.inspect
  | .listOperand name field operand =>
    "'" ++ name ++ "' on field '" ++ field ++ "' expects a list of values, got "
      ++ operand.inspect
  | .patternOperand name field operand =>
    "'" ++ name ++ "' on field '" ++ field ++ "' expects a pattern string, got "
      ++ operand.inspect
  | .notAPredicate value => "Not a predicate node: " ++ value.inspect
  | .unsupportedOperator name field =>
    "Operator '" ++ name ++ "' on field '" ++ field ++ "' is not supported"
  | .orderShape type => "Sort order must be a string or a list of strings, got " ++ type
  | .orderToken token => "Invalid sort token: " ++ Text.quoted token
  | .fieldsShape type => "Fields must be a list, string or mapping, got " ++ type
  | .filterShape type => "Filter must be a mapping, got " ++ type
  | .notInteger name value => "'" ++ name ++ "' must be an integer, got " ++ value.inspect
  | .negative name value => "'" ++ name ++ "' must not be negative, got " ++ toString value
  | .idRequired idName model => "'" ++ idName ++ "' is required to merge a " ++ model

end GraphMapper.Query
