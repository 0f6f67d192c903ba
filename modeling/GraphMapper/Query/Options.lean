/-!
# Compiler options

## Main definitions

* `Query.Options` — the switches that every compilation is given
-/

namespace GraphMapper.Query

/-- The switches of a compilation. -/
structure Options where
  /-- Refuse operators without a counterpart in statements, and several operators on one field. -/
  strictOperators : Bool := false
  /-- Accept a sort entry only if it is a word with an optional direction. -/
  strictDirection : Bool := false
  /-- The name that stands for the node in statements. -/
  nodeName : String := "n"
  deriving DecidableEq, Repr

end GraphMapper.Query
