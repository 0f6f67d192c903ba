import GraphMapper.Text.Case

/-!
# Words in upper case

A word can be compared without regard to case letter by letter, or by writing it in upper case
first. The two ways differ where a character is written as several capitals (`ß` as `SS`), where a
small letter of its own has an ASCII capital (the dotless `ı`), and at the Kelvin sign, which is a
capital itself. In a word without such letters they come to the same, the long s included.

## Main definitions

* `Text.plainCapitals` — the capitals at which the two ways do not differ

## Main results

* `Text.upperChar_eq_singleton_iff` — which characters have a given capital
* `Text.eqIgnoringCase_iff_upper` — equal without regard to case is equal in upper case
-/

namespace GraphMapper.Text

/-- The ASCII capitals other than `I` and `K`. -/
def plainCapitals : List Char :=
  ['A', 'B', 'C', 'D', 'E', 'F', 'G', 'H', 'J', 'L', 'M', 'N', 'O', 'P', 'Q', 'R', 'S', 'T', 'U',
    'V', 'W', 'X', 'Y', 'Z']

variable {u c : Char} {word cs : List Char}

theorem toNat_of_mem_plainCapitals (plain : u ∈ plainCapitals) : 0 < u.toNat ∧ u.toNat < 0x80 := by
  have each : (plainCapitals.all fun u => decide (0 < u.toNat ∧ u.toNat < 0x80)) = true := by decide
  simpa using List.all_eq_true.1 each u plain

/-- What no run of the table takes to a plain capital is not matched by it, and the other way
round. -/
theorem matchesLetter_of_run {first last step : Nat} {shift : Int}
    (run : (first, last, step, shift) ∈ upperRuns) (plain : u ∈ plainCapitals)
    (within : first ≤ c.toNat ∧ c.toNat ≤ last) (beyond : 0x80 ≤ c.toNat)
    (moved : (c.toNat : Int) + shift = u.toNat) : matchesLetter u c = true := by
  have table : (upperRuns.all fun run => plainCapitals.all fun u =>
      let n := ((u.toNat : Int) - run.2.2.2).toNat
      !(run.1 ≤ n && n ≤ run.2.1 && 0x80 ≤ n) || matchesLetter u (Char.ofNat n)) = true := by
    decide +kernel
  have entry := List.all_eq_true.1 (List.all_eq_true.1 table _ run) u plain
  have source : ((u.toNat : Int) - shift).toNat = c.toNat := by omega
  simpa [source, within, beyond] using entry

theorem toNat_eq_of_ofNat_eq {n : Nat} (same : Char.ofNat n = u) (positive : 0 < u.toNat) :
    n = u.toNat := by
  subst same
  by_cases valid : n.isValidChar
  · rw [Char.ofNat, dif_pos valid]
    rfl
  · simp [Char.ofNat, Char.toNat, valid] at positive

/-- A character outside ASCII is moved to a plain capital only if it is matched by it. -/
theorem matchesLetter_of_shifted (plain : u ∈ plainCapitals) (beyond : 0x80 ≤ c.toNat)
    (moved : shifted upperRuns c = u) : matchesLetter u c = true := by
  have bounds := toNat_of_mem_plainCapitals plain
  have place := toNat_eq_of_ofNat_eq moved bounds.1
  rw [shiftIn] at place
  split at place
  · next first last step shift found =>
    have within := List.find?_some found
    simp only [Bool.and_eq_true, decide_eq_true_eq] at within
    exact matchesLetter_of_run (List.mem_of_find?_eq_some found) plain within.1 beyond (by omega)
  · omega

/-- A plain capital is the upper-case form of its small letter, of the long s if it is an `S`, and
of no other character. -/
theorem upperChar_eq_singleton_iff (plain : u ∈ plainCapitals)
    (whole : ∀ e ∈ upperExpansions, e.2.map Char.ofNat ≠ [u]) :
    upperChar c = [u] ↔ matchesLetter u c = true := by
  constructor
  · intro capital
    rw [upperChar] at capital
    split at capital
    · next ascii =>
      have table : ((List.range 0x80).all fun n => plainCapitals.all fun u =>
          !((Char.ofNat n).toUpper == u) || matchesLetter u (Char.ofNat n)) = true := by
        decide +kernel
      have row := List.all_eq_true.1 table c.toNat (List.mem_range.2 ascii)
      have entry := List.all_eq_true.1 row u plain
      rw [Char.ofNat_toNat] at entry
      simpa [(List.cons.inj capital).1] using entry
    · next beyond =>
      split at capital
      · next codes found => exact absurd capital (whole _ (List.mem_of_find?_eq_some found))
      · exact matchesLetter_of_shifted plain (by omega) (List.cons.inj capital).1
  · intro same
    have table : (plainCapitals.all fun u => upperChar u == [u] && upperChar u.toLower == [u]) =
        true := by
      decide +kernel
    have each (u : Char) (plain : u ∈ plainCapitals) :
        upperChar u = [u] ∧ upperChar u.toLower = [u] := by
      simpa using List.all_eq_true.1 table u plain
    simp only [matchesLetter, Bool.or_eq_true, Bool.and_eq_true, beq_iff_eq] at same
    obtain ((rfl | rfl) | ⟨rfl, rfl⟩) | ⟨rfl, -⟩ := same
    · exact (each _ plain).1
    · exact (each u plain).2
    · decide +kernel
    · cases (show 'K' ∉ plainCapitals by decide) plain

/-- The upper-case form of a character is a single one, or one of the listed ones. -/
theorem upperChar_cases (c : Char) :
    (∃ u, upperChar c = [u]) ∨ ∃ e ∈ upperExpansions, upperChar c = e.2.map Char.ofNat := by
  rw [upperChar]
  split
  · exact .inl ⟨_, rfl⟩
  · split
    · next codes found => exact .inr ⟨_, List.mem_of_find?_eq_some found, rfl⟩
    · exact .inl ⟨_, rfl⟩

@[simp] theorem eqIgnoringCase_cons_cons (u : Char) (word : List Char) (c : Char)
    (cs : List Char) :
    eqIgnoringCase (u :: word) (c :: cs) = (matchesLetter u c && eqIgnoringCase word cs) := by
  simp [eqIgnoringCase, Bool.and_left_comm]

/-- The words equal to a word of plain capitals, whatever their case, are those of which it is the
upper-case form, provided that no part of it comes from a single character. -/
theorem eqIgnoringCase_iff_upper (plain : ∀ u ∈ word, u ∈ plainCapitals)
    (whole : ∀ e ∈ upperExpansions, ¬ e.2.map Char.ofNat <:+: word) :
    eqIgnoringCase word cs = true ↔ cs.flatMap upperChar = word := by
  induction cs generalizing word with
  | nil => cases word <;> simp [eqIgnoringCase]
  | cons c cs ih =>
    rw [List.flatMap_cons]
    cases word with
    | nil =>
      have filled : upperChar c ≠ [] := by
        rcases upperChar_cases c with ⟨u, single⟩ | ⟨e, listed, several⟩
        · simp [single]
        · intro none
          exact whole e listed (several ▸ none ▸ List.nil_infix)
      simp [eqIgnoringCase, filled]
    | cons u word =>
      rw [List.forall_mem_cons] at plain
      have inner := (List.suffix_cons u word).isInfix
      have rest := ih plain.2 fun e listed part => whole e listed (part.trans inner)
      have head : ∀ e ∈ upperExpansions, e.2.map Char.ofNat ≠ [u] := fun e listed same =>
        whole e listed (same ▸ (List.prefix_append [u] word).isInfix)
      rw [eqIgnoringCase_cons_cons, Bool.and_eq_true, rest,
        ← upperChar_eq_singleton_iff plain.1 head]
      constructor
      · rintro ⟨first, others⟩
        rw [first, others]
        rfl
      · intro both
        rcases upperChar_cases c with ⟨v, single⟩ | ⟨e, listed, several⟩
        · rw [single] at both ⊢
          obtain ⟨rfl, others⟩ := List.cons.inj both
          exact ⟨rfl, others⟩
        · have front : e.2.map Char.ofNat <+: u :: word := ⟨_, several ▸ both⟩
          exact absurd front.isInfix (whole e listed)

end GraphMapper.Text
