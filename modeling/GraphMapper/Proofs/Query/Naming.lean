import GraphMapper.Proofs.Query.Template
import Mathlib.Algebra.Group.Nat.Defs
import Std.Data.String.ToNat

/-!
# Names of parameters

The name of a parameter is glued together from what comes from the field, the digits of an
identifier and, for an item of a list, the index of the item. The first and the last part have no
fixed length, so the same name can be put together in two ways: if one field continues the other,
the digits behind the shorter one may read like the continuation.

## Main definitions

* `Query.isParameterName` — a name as statements may have it
* `Supply.Hexadecimal` — every identifier has thirty-two hexadecimal digits
* `Query.Slot.RunsInto` — two slots whose names are put together differently and look the same

## Main results

* `Slot.isParameterName_name` — whatever the field, the name of a slot is a parameter name
* `Slot.name_eq_iff` — when two slots have the same name
-/

namespace GraphMapper

/-- A lower-case hexadecimal digit. -/
def isHexDigit (c : Char) : Bool := c.isDigit || ('a' ≤ c && c ≤ 'f')

/-- Every identifier has thirty-two hexadecimal digits. -/
def Supply.Hexadecimal (supply : Supply) : Prop :=
  ∀ k, (supply.hex k).length = 32 ∧ ∀ c ∈ (supply.hex k).toList, isHexDigit c = true

theorem isHexDigit_hexDigit (n : Fin 16) : isHexDigit (Text.hexDigit n) = true := by
  revert n
  decide

theorem isHexDigit_of_mem_hexDigits {width n : Nat} {c : Char}
    (member : c ∈ Text.hexDigits width n) : isHexDigit c = true := by
  induction width generalizing n with
  | zero => simp [Text.hexDigits] at member
  | succ width ih =>
    rcases List.mem_append.1 member with front | last
    · exact ih front
    · obtain rfl := List.mem_singleton.1 last
      exact isHexDigit_hexDigit ⟨n % 16, Nat.mod_lt n (by decide)⟩

theorem Supply.hexadecimal_counting : Supply.counting.Hexadecimal := by
  intro k
  constructor
  · simp [counting]
  · intro c member
    simp only [counting, String.toList_ofList, List.mem_append, or_self] at member
    exact isHexDigit_of_mem_hexDigits member

theorem hexDigit_inj : ∀ m n : Fin 16, Text.hexDigit m = Text.hexDigit n → m = n := by decide

/-- A number can be told from enough of its digits. -/
theorem hexDigits_inj {width m n : Nat} (small : m < 16 ^ width) (small' : n < 16 ^ width)
    (same : Text.hexDigits width m = Text.hexDigits width n) : m = n := by
  induction width generalizing m n with
  | zero => omega
  | succ width ih =>
    rw [Text.hexDigits, Text.hexDigits] at same
    obtain ⟨front, last⟩ := List.append_inj' same rfl
    have high : m / 16 = n / 16 := ih (by omega) (by omega) front
    have low := hexDigit_inj ⟨m % 16, by omega⟩ ⟨n % 16, by omega⟩ (List.singleton_inj.1 last)
    rw [Fin.mk.injEq] at low
    omega

/-- The counting supply repeats itself only after all numbers of eight digits. -/
theorem Supply.counting_inj {i j : Nat} (small : i + 1 < 16 ^ 8) (small' : j + 1 < 16 ^ 8)
    (same : counting.hex i = counting.hex j) : i = j := by
  have digits := String.ofList_inj.1 same
  simp only [List.append_assoc] at digits
  have first := (List.append_inj digits (by simp)).1
  exact Nat.succ.inj (hexDigits_inj small small' first)

namespace Query

/-- A letter or underscore with letters, digits and underscores behind it. -/
def isParameterName (name : String) : Bool :=
  match name.toList with
  | [] => false
  | c :: cs => (c.isAlpha || c == '_') && cs.all isNameChar

/-! ### Characters -/

theorem isNameChar_of_isDigit {c : Char} (digit : c.isDigit = true) : isNameChar c = true := by
  simp [isNameChar, Char.isAlphanum, digit]

theorem isNameChar_of_isHexDigit {c : Char} (hex : isHexDigit c = true) :
    isNameChar c = true := by
  rw [isHexDigit, Bool.or_eq_true] at hex
  rcases hex with digit | letter
  · exact isNameChar_of_isDigit digit
  · rw [Bool.and_eq_true, decide_eq_true_eq, decide_eq_true_eq] at letter
    have last : c ≤ 'z' := Char.le_trans letter.2 (by decide)
    have lower : c.isLower = true :=
      Bool.and_eq_true_iff.2 ⟨decide_eq_true letter.1, decide_eq_true last⟩
    have alpha : c.isAlpha = true := Bool.or_eq_true_iff.2 (.inr lower)
    simp [isNameChar, Char.isAlphanum, alpha]

theorem isNameChar_of_mem_nameChars {cs : List Char} {c : Char} (member : c ∈ nameChars cs) :
    isNameChar c = true := by
  obtain ⟨d, -, rfl⟩ := List.mem_map.1 member
  split
  · assumption
  · rfl

theorem isNameChar_of_mem_nameBase {field : String} {c : Char} (member : c ∈ nameBase field) :
    isNameChar c = true := by
  have known (d : Char) (tail : d ∈ nameChars field.toList) := isNameChar_of_mem_nameChars tail
  unfold nameBase at member
  split at member
  · obtain rfl := List.mem_singleton.1 member
    rfl
  · next first rest chars =>
    rw [chars] at known
    split at member
    · rcases List.mem_cons.1 member with rfl | later
      · rfl
      · exact known c later
    · exact known c member

/-- What comes from a field starts with a letter or underscore. -/
theorem exists_nameBase_eq_cons (field : String) :
    ∃ c cs, nameBase field = c :: cs ∧ (c.isAlpha || c == '_') = true := by
  unfold nameBase
  split
  · exact ⟨_, _, rfl, rfl⟩
  · next first rest chars =>
    split
    · exact ⟨_, _, rfl, rfl⟩
    · next digit =>
      refine ⟨_, _, rfl, ?_⟩
      have known : isNameChar first = true :=
        isNameChar_of_mem_nameChars (chars ▸ List.mem_cons_self)
      simpa [isNameChar, Char.isAlphanum, digit] using known

/-- Digits written behind a parameter name leave it one. -/
theorem isParameterName_ofList {stem more : List Char} {field : String}
    (base : stem = nameBase field) (known : ∀ c ∈ more, isNameChar c = true) :
    isParameterName (String.ofList (stem ++ more)) = true := by
  obtain ⟨c, cs, split, first⟩ := exists_nameBase_eq_cons field
  have inside (d : Char) (member : d ∈ cs) : isNameChar d = true :=
    isNameChar_of_mem_nameBase (split ▸ List.mem_cons_of_mem c member)
  simp only [isParameterName, base, split, List.cons_append, String.toList_ofList, first,
    Bool.true_and, List.all_append, Bool.and_eq_true, List.all_eq_true]
  exact ⟨inside, known⟩

theorem isNameChar_of_isParameterName {name : String} (proper : isParameterName name = true)
    {c : Char} (member : c ∈ name.toList) : isNameChar c = true := by
  unfold isParameterName at proper
  split at proper
  · cases proper
  · next first rest split =>
    simp only [Bool.and_eq_true, List.all_eq_true] at proper
    rw [split] at member
    rcases List.mem_cons.1 member with rfl | later
    · have start := proper.1
      rw [Bool.or_eq_true] at start
      rcases start with letter | underscore <;> simp_all [isNameChar, Char.isAlphanum]
    · exact proper.2 c later

/-! ### Names of slots -/

namespace Slot

variable {a b : Slot}

theorem toList_name (s : Slot) :
    s.name.toList = s.stem ++ (s.hex.toList ++ s.indexDigits.toList) := by
  simp [name, List.append_assoc]

theorem isDigit_of_mem_indexDigits {s : Slot} {c : Char} (member : c ∈ s.indexDigits.toList) :
    c.isDigit = true := by
  unfold indexDigits at member
  split at member
  · simp at member
  · next i _ =>
    have digit : c ∈ Nat.toDigits 10 i := by simpa using member
    exact Nat.isDigit_of_mem_toDigits (by decide) (by decide) digit

theorem indexDigits_eq_empty_iff {s : Slot} : s.indexDigits = "" ↔ s.index? = none := by
  unfold indexDigits
  split
  · next none => simp [none]
  · next i some => simp [some]

/-- An index can be told from its digits. -/
theorem index?_eq_of_indexDigits_eq (same : a.indexDigits = b.indexDigits) :
    a.index? = b.index? := by
  cases left : a.index? with
  | none => rw [← indexDigits_eq_empty_iff.1 (same ▸ indexDigits_eq_empty_iff.2 left)]
  | some i =>
    cases right : b.index? with
    | none => simp [indexDigits, left, right] at same
    | some j =>
      simp only [indexDigits, left, right] at same
      exact congrArg some (Nat.repr_injective same)

/-- Whatever the field, the name of a slot is a parameter name. -/
theorem isParameterName_name {s : Slot} {field : String} (base : s.stem = nameBase field)
    (hex : ∀ c ∈ s.hex.toList, isHexDigit c = true) : isParameterName s.name = true := by
  have spelled : s.name = String.ofList (s.stem ++ (s.hex.toList ++ s.indexDigits.toList)) := by
    rw [← toList_name, String.ofList_toList]
  rw [spelled]
  refine isParameterName_ofList base fun c member => ?_
  rcases List.mem_append.1 member with digit | index
  · exact isNameChar_of_isHexDigit (hex c digit)
  · exact isNameChar_of_isDigit (isDigit_of_mem_indexDigits index)

/-- The first slot's field continues the second one's, and the digits behind the second one's read
like the continuation with the digits behind it: the names look the same. -/
def RunsInto (a b : Slot) : Prop :=
  ∃ more, more ≠ [] ∧ a.stem = b.stem ++ more ∧
    more ++ (a.hex.toList ++ a.indexDigits.toList) = b.hex.toList ++ b.indexDigits.toList

theorem RunsInto.name_eq (runs : RunsInto a b) : a.name = b.name := by
  obtain ⟨more, -, stem, digits⟩ := runs
  apply String.toList_inj.1
  rw [toList_name, toList_name, stem, List.append_assoc, digits]

/-- Only the name of an item of a list can be taken for another name. -/
theorem RunsInto.index?_ne_none (runs : RunsInto a b) (length : a.hex.length = b.hex.length) :
    b.index? ≠ none := by
  obtain ⟨more, nonempty, -, digits⟩ := runs
  intro none
  rw [← indexDigits_eq_empty_iff] at none
  -- without an index the second name is too short to hold the continuation
  have count := congrArg List.length digits
  have some := List.length_pos_iff.2 nonempty
  simp only [none, List.length_append, String.toList_empty, List.length_nil,
    String.length_toList] at count
  omega

/-- If the first slot's stem continues the second one's and the names look the same, the slots agree
or the first runs into the second. -/
theorem agree_or_runsInto {more : List Char} (length : a.hex.length = b.hex.length)
    (stem : a.stem = b.stem ++ more)
    (digits : b.hex.toList ++ b.indexDigits.toList =
      more ++ (a.hex.toList ++ a.indexDigits.toList)) :
    (a.stem = b.stem ∧ a.hex = b.hex ∧ a.index? = b.index?) ∨ a.RunsInto b := by
  by_cases nothing : more = []
  -- with equal stems both names are cut at the same places, since identifiers have one length
  · subst nothing
    rw [List.nil_append] at digits
    obtain ⟨hex, index⟩ := List.append_inj digits
      (by rw [String.length_toList, String.length_toList, length])
    exact .inl ⟨by simpa using stem, (String.toList_inj.1 hex).symm,
      index?_eq_of_indexDigits_eq (String.toList_inj.1 index).symm⟩
  · exact .inr ⟨more, nothing, stem, digits.symm⟩

/-- Two slots have the same name if they agree in all its parts, or if one runs into the other. -/
theorem name_eq_iff (length : a.hex.length = b.hex.length) :
    a.name = b.name ↔
      (a.stem = b.stem ∧ a.hex = b.hex ∧ a.index? = b.index?) ∨ a.RunsInto b ∨ b.RunsInto a := by
  constructor
  · intro equal
    have spelled : a.stem ++ (a.hex.toList ++ a.indexDigits.toList) =
        b.stem ++ (b.hex.toList ++ b.indexDigits.toList) := by
      rw [← toList_name, ← toList_name, equal]
    -- one of the stems continues the other
    rcases List.append_eq_append_iff.1 spelled with
      ⟨more, stem, digits⟩ | ⟨more, stem, digits⟩
    · rcases agree_or_runsInto length.symm stem digits with agree | runs
      · exact .inl ⟨agree.1.symm, agree.2.1.symm, agree.2.2.symm⟩
      · exact .inr (.inr runs)
    · rcases agree_or_runsInto length stem digits with agree | runs
      · exact .inl agree
      · exact .inr (.inl runs)
  · rintro (⟨stem, hex, index⟩ | runs | runs)
    · simp [name, indexDigits, stem, hex, index]
    · exact runs.name_eq
    · exact runs.name_eq.symm

end Slot

end Query

end GraphMapper
