import GraphMapper.Query.Issue
import GraphMapper.Query.Options
import GraphMapper.Text.Blank
import GraphMapper.Text.Case
import GraphMapper.Text.Parts
import GraphMapper.Value.Basic

/-!
# Sort orders

A sort order lists fields, each with an optional direction behind it, either in one text with commas
between them or as a list. Read loosely, an entry is a field with everything in front of the
direction; read strictly, it is a single word and a direction.

## Main definitions

* `Query.SortKey` — a field and a direction
* `Query.SortKey.ofOrder` — the keys of a sort order
* `Query.SortKey.listText` — the keys as they stand in a statement
-/

namespace GraphMapper.Query

/-- The directions of sorting. -/
inductive Direction where
  /-- From the least to the greatest. -/
  | ascending
  /-- From the greatest to the least. -/
  | descending
  deriving DecidableEq, Repr

/-- The word for a direction. -/
def Direction.word : Direction → String
  | .ascending => "ASC"
  | .descending => "DESC"

/-- A field to sort by. -/
structure SortKey where
  /-- The field. -/
  field : String
  /-- The direction. -/
  direction : Direction := .ascending
  deriving DecidableEq, Repr

namespace Entries

/-- The parts of a text between commas. -/
def split (s : String) : List String := Text.parts ',' s

/-- The texts without the blanks around them, leaving out those that are blank. -/
def trimmed (texts : List String) : List String := (texts.map Text.trim).filter (!·.isEmpty)

end Entries

namespace SortKey

/-- The word for a direction in any case. -/
def directionOf? (word : List Char) : Option Direction :=
  if Text.eqIgnoringCase ['A', 'S', 'C'] word then some .ascending
  else if Text.eqIgnoringCase ['D', 'E', 'S', 'C'] word then some .descending
  else none

/-- The last word of some characters and what stands in front of it, of which the last character is
blank unless it is empty. -/
def splitLastWord (cs : List Char) : List Char × List Char :=
  let reversed := cs.reverse
  ((reversed.dropWhile (!Text.isBlank ·)).reverse,
    (reversed.takeWhile (!Text.isBlank ·)).reverse)

/-- The key of an entry read loosely: a direction at the end counts, and all the rest is the
field. -/
def ofLooseToken (token : String) : SortKey :=
  let (front, word) := splitLastWord token.toList
  match directionOf? word with
  | some direction => if front.isEmpty then ⟨token, .ascending⟩
    else ⟨String.ofList (Text.trimChars front), direction⟩
  | none => ⟨token, .ascending⟩

/-- The key of an entry read strictly: a word, and behind it at most a direction. -/
def ofStrictToken? (token : String) : Option SortKey :=
  let cs := token.toList
  let word := cs.takeWhile (!Text.isBlank ·)
  let rest := (cs.dropWhile (!Text.isBlank ·)).dropWhile Text.isBlank
  if word.isEmpty then none
  else if rest.isEmpty then some ⟨token, .ascending⟩
  else (directionOf? rest).map fun direction => ⟨String.ofList word, direction⟩

/-- The key of an entry. -/
def ofToken (o : Options) (token : String) : Except Issue SortKey :=
  if o.strictDirection then
    match ofStrictToken? token with
    | some key => .ok key
    | none => .error (.orderToken token)
  else .ok (ofLooseToken token)

/-- The entries of a sort order. -/
def tokens : Value → Except Issue (List String)
  | .text s => .ok (Entries.trimmed (Entries.split s))
  | .list items => .ok (Entries.trimmed (items.map (·.display)))
  | .tuple items => .ok (Entries.trimmed (items.map (·.display)))
  | v => .error (.orderShape v.shortTypeName)

/-- The keys of a sort order; a value that counts as false has none. -/
def ofOrder (o : Options) (order : Value) : Except Issue (List SortKey) :=
  if order.truthy then (tokens order).bind fun ts => ts.mapM (ofToken o) else .ok []

/-- A key as it stands in a statement. -/
def text (nodeName : String) (key : SortKey) : String :=
  nodeName ++ "." ++ key.field ++ (match key.direction with
    | .ascending => ""
    | .descending => " DESC")

/-- The keys as they stand in a statement. -/
def listText (nodeName : String) (keys : List SortKey) : String :=
  ", ".intercalate (keys.map (text nodeName))

@[simp] theorem listText_nil (nodeName : String) : listText nodeName [] = "" := rfl

end SortKey

end GraphMapper.Query
