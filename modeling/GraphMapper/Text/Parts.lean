/-!
# Parts of texts

## Main definitions

* `Text.parts` — the parts of a text between separators
-/

namespace GraphMapper.Text

/-- The parts of some characters between separators. -/
def partsOf (separator : Char) : List Char → List (List Char)
  | [] => [[]]
  | c :: cs =>
    if c = separator then [] :: partsOf separator cs
    else
      match partsOf separator cs with
      | [] => [[c]]
      | part :: parts => (c :: part) :: parts

/-- The parts of a text between separators. -/
def parts (separator : Char) (s : String) : List String :=
  (partsOf separator s.toList).map String.ofList

theorem partsOf_ne_nil (separator : Char) (cs : List Char) : partsOf separator cs ≠ [] := by
  cases cs with
  | nil => simp [partsOf]
  | cons c cs =>
    unfold partsOf
    split
    · simp
    · split <;> simp

end GraphMapper.Text
