import GraphMapper.Text.Blank
import Mathlib.Data.List.TakeWhile

/-!
# Trimming

Trimming takes the blanks away at both ends of a text and nothing else: what is left neither begins
nor ends with a blank, and what was taken away is blank.

## Main definitions

* `Text.IsTrimmed` — a text that is not empty and has no blank at its ends
* `Text.IsWord`, `Text.IsGap` — a text without blanks, and a text of blanks

## Main results

* `Text.exists_eq_trimChars` — a text is what trimming leaves, with blanks around it
* `Text.head?_trimChars`, `Text.getLast?_trimChars` — what trimming leaves has no blank at its ends
* `Text.trimChars_eq_self` — what has no blank at its ends is left as it is
* `Text.isTrimmed_trim`, `Text.IsTrimmed.trim_eq` — trimming makes a text trimmed, unless it is
  blank, and leaves it as it is from then on
-/

namespace GraphMapper.Text

variable {cs blanks : List Char}

theorem dropWhile_isBlank_eq_self (head : ∀ c ∈ cs.head?, isBlank c = false) :
    cs.dropWhile isBlank = cs := by
  cases cs with
  | nil => rfl
  | cons c cs =>
    rw [List.dropWhile_cons_of_neg]
    simp [head c rfl]

/-- Behind the blanks at the beginning stands what trimming leaves, with blanks behind it. -/
theorem exists_dropWhile_eq (cs : List Char) :
    ∃ after, cs.dropWhile isBlank = trimChars cs ++ after ∧ ∀ c ∈ after, isBlank c = true := by
  let rest := cs.dropWhile isBlank
  refine ⟨(rest.reverse.takeWhile isBlank).reverse, ?_,
    fun c member => List.mem_takeWhile_imp (List.mem_reverse.1 member)⟩
  rw [trimChars, ← List.reverse_append, List.takeWhile_append_dropWhile, List.reverse_reverse]

/-- A text is what trimming leaves, with blanks around it. -/
theorem exists_eq_trimChars (cs : List Char) :
    ∃ before after, cs = before ++ trimChars cs ++ after ∧
      (∀ c ∈ before, isBlank c = true) ∧ ∀ c ∈ after, isBlank c = true := by
  obtain ⟨after, rest, blank⟩ := exists_dropWhile_eq cs
  refine ⟨cs.takeWhile isBlank, after, ?_, fun c member => List.mem_takeWhile_imp member, blank⟩
  rw [List.append_assoc, ← rest, List.takeWhile_append_dropWhile]

/-- What has been trimmed ends in no blank. -/
theorem getLast?_trimChars : ∀ c ∈ (trimChars cs).getLast?, isBlank c = false := by
  intro c last
  have first := List.head?_dropWhile_not isBlank (cs.dropWhile isBlank).reverse
  rw [trimChars, List.getLast?_reverse, Option.mem_def] at last
  rw [last] at first
  exact first

/-- What has been trimmed begins with no blank. -/
theorem head?_trimChars : ∀ c ∈ (trimChars cs).head?, isBlank c = false := by
  intro c head
  have first := List.head?_dropWhile_not isBlank cs
  obtain ⟨after, rest, -⟩ := exists_dropWhile_eq cs
  rw [rest, List.head?_append, head] at first
  exact first

/-- What has no blank at its ends is left as it is. -/
theorem trimChars_eq_self (head : ∀ c ∈ cs.head?, isBlank c = false)
    (last : ∀ c ∈ cs.getLast?, isBlank c = false) : trimChars cs = cs := by
  rw [trimChars, dropWhile_isBlank_eq_self head, dropWhile_isBlank_eq_self, List.reverse_reverse]
  rwa [List.head?_reverse]

/-- Blanks behind what neither begins nor ends with a blank are trimmed. -/
theorem trimChars_append (some : cs ≠ []) (head : ∀ c ∈ cs.head?, isBlank c = false)
    (last : ∀ c ∈ cs.getLast?, isBlank c = false) (blank : ∀ c ∈ blanks, isBlank c = true) :
    trimChars (cs ++ blanks) = cs := by
  have blank' : ∀ c ∈ blanks.reverse, isBlank c = true :=
    fun c member => blank c (List.mem_reverse.1 member)
  rw [trimChars, List.dropWhile_append, dropWhile_isBlank_eq_self head,
    if_neg (by simpa using some), List.reverse_append, List.dropWhile_append_of_pos blank',
    dropWhile_isBlank_eq_self, List.reverse_reverse]
  rwa [List.head?_reverse]

theorem trimChars_append_of_blank (blank : ∀ c ∈ blanks, isBlank c = true) :
    trimChars (blanks ++ cs) = trimChars cs := by
  rw [trimChars, List.dropWhile_append_of_pos blank, ← trimChars]

/-- Only blank texts are trimmed to nothing. -/
theorem trimChars_ne_nil {c : Char} (member : c ∈ cs) (plain : isBlank c = false) :
    trimChars cs ≠ [] := by
  intro none
  obtain ⟨before, after, split, front, back⟩ := exists_eq_trimChars cs
  rw [none, List.append_nil] at split
  rw [split, List.mem_append] at member
  rcases member with early | late
  · rw [front c early] at plain
    cases plain
  · rw [back c late] at plain
    cases plain

/-- The text is not empty and has no blank at either end. -/
structure IsTrimmed (s : String) : Prop where
  /-- There are characters. -/
  filled : s.toList ≠ []
  /-- The first character is not blank. -/
  head : ∀ c ∈ s.toList.head?, isBlank c = false
  /-- The last character is not blank. -/
  last : ∀ c ∈ s.toList.getLast?, isBlank c = false

variable {s : String}

theorem isTrimmed_trim (filled : trim s ≠ "") : IsTrimmed (trim s) := by
  refine ⟨?_, ?_, ?_⟩
  · exact fun none => filled (String.toList_inj.1 none)
  · rw [toList_trim]
    exact head?_trimChars
  · rw [toList_trim]
    exact getLast?_trimChars

theorem IsTrimmed.ne_empty (trimmed : IsTrimmed s) : s ≠ "" := by
  rintro rfl
  exact trimmed.filled rfl

theorem IsTrimmed.trim_eq (trimmed : IsTrimmed s) : trim s = s := by
  rw [trim, trimChars_eq_self trimmed.head trimmed.last, String.ofList_toList]

/-- A word has characters, of which none is blank. -/
def IsWord (s : String) : Prop := s.toList ≠ [] ∧ ∀ c ∈ s.toList, isBlank c = false

/-- A gap has characters, all of them blank. -/
def IsGap (s : String) : Prop := s.toList ≠ [] ∧ ∀ c ∈ s.toList, isBlank c = true

theorem IsWord.isTrimmed (word : IsWord s) : IsTrimmed s :=
  ⟨word.1, fun c head => word.2 c (List.mem_of_mem_head? head),
    fun c last => word.2 c (List.mem_of_mem_getLast? last)⟩

/-- A gap in front is trimmed away. -/
theorem IsTrimmed.trim_append {gap : String} (trimmed : IsTrimmed s) (blank : IsGap gap) :
    trim (gap ++ s) = s := by
  rw [trim, String.toList_append, trimChars_append_of_blank blank.2, ← trim, trimmed.trim_eq]

theorem isGap_space : IsGap " " := by
  refine ⟨by decide, fun c member => ?_⟩
  rw [show " ".toList = [' '] from rfl, List.mem_singleton] at member
  subst member
  decide

end GraphMapper.Text
