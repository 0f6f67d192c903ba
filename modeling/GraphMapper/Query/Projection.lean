import GraphMapper.Query.Order

/-!
# Projections

A projection names the fields to return: in one text with commas between them, as a list, or as a
mapping of which the keys with a true value count.

## Main definitions

* `Query.Projection.ofFields` — the fields of a projection
* `Query.Projection.text` — the fields as they stand in a statement
-/

namespace GraphMapper.Query.Projection

/-- The keys of a mapping whose values count as true. -/
def kept (entries : Value.Entries) : List String :=
  (entries.filter (·.2.truthy)).map (·.1.display)

/-- The fields of a projection; a value that counts as false has none. -/
def ofFields (fields : Value) : Except Issue (List String) :=
  if fields.truthy then
    match fields with
    | .text s => .ok (Entries.trimmed (Entries.split s))
    | .map entries => .ok (Entries.trimmed (kept entries))
    | .list items => .ok (Entries.trimmed (items.map (·.display)))
    | .tuple items => .ok (Entries.trimmed (items.map (·.display)))
    | v => .error (.fieldsShape v.shortTypeName)
  else .ok []

/-- The fields as they stand in a statement. -/
def text (nodeName : String) (fields : List String) : String :=
  ", ".intercalate (fields.map fun name => nodeName ++ "." ++ name ++ " AS " ++ name)

end GraphMapper.Query.Projection
