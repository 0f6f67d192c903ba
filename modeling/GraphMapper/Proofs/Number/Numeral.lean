import GraphMapper.Number.Numeral
import Mathlib.Data.List.TakeWhile
import Mathlib.Data.Nat.Digits.Defs

/-!
# What numerals denote

A numeral is a run of decimal digits with an optional sign in front of it and padding around it. The
digits may be of any script, and a single underscore may stand between two of them. The integer that
is read from a text is the one that the text denotes in positional notation, and every text that
denotes an integer with no more digits than are accepted is read.

## Main definitions

* `Numeral.Run` — the text of a run of digits
* `Numeral.Denotes` — a text denotes an integer

## Main results

* `Numeral.digits?_eq_some_iff` — a run of digits is read as its positional value
* `Numeral.integer?_eq_some_iff` — what is read from a text is what the text denotes
-/

namespace GraphMapper.Numeral

open Text (digitValue?)

/-- The text of a run of digits, and the values of the digits. -/
inductive Run : List Char → List Nat → Prop
  /-- A single digit. -/
  | one {c : Char} {d : Nat} : digitValue? c = some d → Run [c] [d]
  /-- A digit in front of others. -/
  | digit {c : Char} {d : Nat} {cs : List Char} {ds : List Nat} : digitValue? c = some d →
      Run cs ds → Run (c :: cs) (d :: ds)
  /-- A digit and an underscore in front of others. -/
  | underscore {c : Char} {d : Nat} {cs : List Char} {ds : List Nat} : digitValue? c = some d →
      Run cs ds → Run (c :: '_' :: cs) (d :: ds)

/-- The signs in front of a number. -/
inductive Sign : Bool → List Char → Prop
  | none : Sign false []
  | plus : Sign false ['+']
  | minus : Sign true ['-']

/-- The number that the values of digits have in positional notation, the first digit being the
highest. -/
def positional (ds : List Nat) : Nat := Nat.ofDigits 10 ds.reverse

/-- A text denotes an integer. -/
inductive Denotes (s : String) : Int → Prop
  | intro {before sign run after : List Char} {negative : Bool} {ds : List Nat} :
      s.toList = before ++ (sign ++ run) ++ after → (∀ c ∈ before, isPadding c = true) →
      (∀ c ∈ after, isPadding c = true) → Sign negative sign → Run run ds →
      ds.length ≤ maxDigits →
      Denotes s (if negative then -(positional ds : Int) else positional ds)

/-! ### Digits -/

variable {c : Char} {cs run : List Char} {d n : Nat} {ds : List Nat}

theorem positional_cons (d : Nat) (ds : List Nat) :
    positional (d :: ds) = d * 10 ^ ds.length + positional ds := by
  rw [positional, List.reverse_cons, Nat.ofDigits_append, Nat.ofDigits_singleton,
    List.length_reverse, positional]
  ring

/-- A digit stands in one of the runs of digits. -/
theorem exists_zero_of_digitValue? (value : digitValue? c = some d) :
    ∃ z ∈ Text.digitZeros, z ≤ c.toNat ∧ c.toNat < z + 10 := by
  rw [digitValue?, Option.map_eq_some_iff] at value
  obtain ⟨z, found, -⟩ := value
  have within := List.find?_some found
  simp only [Bool.and_eq_true, decide_eq_true_eq] at within
  exact ⟨z, List.mem_of_find?_eq_some found, within⟩

theorem not_isPadding_of_digitValue? (value : digitValue? c = some d) : isPadding c = false := by
  obtain ⟨z, zero, low, high⟩ := exists_zero_of_digitValue? value
  have apart : ∀ z ∈ Text.digitZeros, ∀ r ∈ Text.blankRanges, r.2 < z ∨ z + 10 ≤ r.1 := by decide
  have plain : Text.isBlank c = false := by
    rw [Text.isBlank, Bool.eq_false_iff, ne_eq, Text.inRanges_iff]
    rintro ⟨r, range, first, last⟩
    rcases apart z zero r range with below | above <;> omega
  rw [isPadding, plain, Bool.false_and]

theorem ne_of_digitValue? (value : digitValue? c = some d) (other : Char)
    (none : digitValue? other = none) : c ≠ other := by
  rintro rfl
  rw [value] at none
  cases none

/-- A digit is read as one, whatever stands behind it. -/
theorem digitsFrom_cons (value : digitValue? c = some d) (acc : Nat) :
    digitsFrom digitValue? acc (c :: cs) = digitsFrom digitValue? (acc * 10 + d) cs := by
  rw [digitsFrom, value, Option.bind_some]
  exact fun _ _ underscore _ => ne_of_digitValue? value '_' (by decide) underscore

namespace Run

theorem exists_cons (digits : Run cs ds) :
    ∃ c d rest, cs = c :: rest ∧ digitValue? c = some d := by
  cases digits with
  | one value => exact ⟨_, _, _, rfl, value⟩
  | digit value _ => exact ⟨_, _, _, rfl, value⟩
  | underscore value _ => exact ⟨_, _, _, rfl, value⟩

/-- An underscore in front of a run is passed over. -/
theorem digitsFrom_underscore (digits : Run cs ds) (acc : Nat) :
    digitsFrom digitValue? acc ('_' :: cs) = digitsFrom digitValue? acc cs := by
  obtain ⟨c, d, rest, rfl, value⟩ := digits.exists_cons
  rw [digitsFrom_cons value, digitsFrom, value, Option.bind_some]

/-- A run continues a number by its digits. -/
theorem digitsFrom_eq (digits : Run cs ds) (acc : Nat) :
    digitsFrom digitValue? acc cs = some (acc * 10 ^ ds.length + positional ds) := by
  -- every digit changes the number that the others continue
  induction digits generalizing acc with
  | one value => simp [digitsFrom_cons value, digitsFrom, positional]
  | digit value _ ih =>
    rw [digitsFrom_cons value, ih, positional_cons, List.length_cons]
    congr 1
    ring
  | underscore value digits ih =>
    rw [digitsFrom_cons value, digits.digitsFrom_underscore, ih, positional_cons, List.length_cons]
    congr 1
    ring

/-- A run has as many digits as characters other than underscores. -/
theorem length_filter (digits : Run cs ds) : (cs.filter (· != '_')).length = ds.length := by
  induction digits with
  | one value => simp [ne_of_digitValue? value '_' (by decide)]
  | digit value _ ih => simp [ne_of_digitValue? value '_' (by decide), ih]
  | underscore value _ ih => simp [ne_of_digitValue? value '_' (by decide), ih]

/-- A run ends in a digit. -/
theorem exists_getLast? (digits : Run cs ds) :
    ∃ c d, cs.getLast? = some c ∧ digitValue? c = some d := by
  induction digits with
  | one value => exact ⟨_, _, rfl, value⟩
  | digit _ _ ih | underscore _ _ ih =>
    obtain ⟨last, d, ends, value⟩ := ih
    exact ⟨last, d, by simp [List.getLast?_cons, ends], value⟩

end Run

/-- Digits that continue a number make a run with a digit in front of them. -/
theorem exists_run_of_digitsFrom {acc : Nat} (value : digitValue? c = some d)
    (reads : digitsFrom digitValue? acc cs = some n) : ∃ ds, Run (c :: cs) (d :: ds) := by
  induction acc, cs using digitsFrom.induct generalizing c d with
  | case1 acc => exact ⟨[], .one value⟩
  | case2 acc c' rest ih =>
    -- an underscore, which the digit in front of it takes along
    rw [digitsFrom, Option.bind_eq_some_iff] at reads
    obtain ⟨d', value', reads⟩ := reads
    obtain ⟨ds, digits⟩ := ih d' value' reads
    exact ⟨d' :: ds, .underscore value digits⟩
  | case3 acc c' rest single ih =>
    rw [digitsFrom, Option.bind_eq_some_iff] at reads
    · obtain ⟨d', value', reads⟩ := reads
      obtain ⟨ds, digits⟩ := ih d' value' reads
      exact ⟨d' :: ds, .digit value digits⟩
    · exact single

/-- What is read from characters is the positional value of the run of digits that they are. -/
theorem digits?_eq_some_iff :
    digits? digitValue? cs = some n ↔ ∃ ds, Run cs ds ∧ n = positional ds := by
  constructor
  · intro reads
    cases cs with
    | nil => cases reads
    | cons c rest =>
      rw [digits?, Option.bind_eq_some_iff] at reads
      obtain ⟨d, value, reads⟩ := reads
      obtain ⟨ds, digits⟩ := exists_run_of_digitsFrom value reads
      refine ⟨d :: ds, digits, ?_⟩
      have whole := digits.digitsFrom_eq 0
      rw [digitsFrom_cons value, Nat.zero_mul, Nat.zero_add, reads, Nat.zero_mul, Nat.zero_add]
        at whole
      exact Option.some.inj whole
  · rintro ⟨ds, digits, rfl⟩
    have whole := digits.digitsFrom_eq 0
    obtain ⟨c, d, rest, rfl, value⟩ := digits.exists_cons
    rw [digitsFrom_cons value, Nat.zero_mul, Nat.zero_add, Nat.zero_mul, Nat.zero_add] at whole
    rw [digits?, value, Option.bind_some, whole]

/-! ### Padding and signs -/

/-- Padding is trimmed off what neither starts nor ends with it. -/
theorem trimPadding_append {before middle after : List Char}
    (left : ∀ c ∈ before, isPadding c = true) (right : ∀ c ∈ after, isPadding c = true)
    (first : ∀ c ∈ middle.head?, isPadding c = false)
    (last : ∀ c ∈ middle.getLast?, isPadding c = false) :
    trimPadding (before ++ middle ++ after) = middle := by
  have keeps {cs : List Char} (starts : ∀ c ∈ cs.head?, isPadding c = false) :
      cs.dropWhile isPadding = cs := by
    cases cs with
    | nil => rfl
    | cons c rest => rw [List.dropWhile_cons_of_neg (by simp [starts c rfl])]
  have right' : ∀ c ∈ after.reverse, isPadding c = true := fun c mem => right c (by simpa using mem)
  rw [trimPadding, List.append_assoc, List.dropWhile_append_of_pos left]
  cases middle with
  | nil =>
    rw [List.nil_append, List.dropWhile_eq_nil_iff.mpr right]
    rfl
  | cons c rest =>
    have first' : ∀ c' ∈ (c :: rest ++ after).head?, isPadding c' = false := first
    have last' : ∀ c' ∈ (c :: rest).reverse.head?, isPadding c' = false := by
      rwa [List.head?_reverse]
    rw [keeps first', List.reverse_append, List.dropWhile_append_of_pos right', keeps last',
      List.reverse_reverse]

/-- What is trimmed off at either end is padding. -/
theorem exists_eq_append_trimPadding (cs : List Char) :
    ∃ before after, cs = before ++ trimPadding cs ++ after ∧
      (∀ c ∈ before, isPadding c = true) ∧ ∀ c ∈ after, isPadding c = true := by
  have front := List.takeWhile_append_dropWhile (p := isPadding) (l := cs)
  have back := List.takeWhile_append_dropWhile (p := isPadding)
    (l := (cs.dropWhile isPadding).reverse)
  refine ⟨cs.takeWhile isPadding, ((cs.dropWhile isPadding).reverse.takeWhile isPadding).reverse,
    ?_, fun c mem => List.mem_takeWhile_imp mem,
    fun c mem => List.mem_takeWhile_imp (List.mem_reverse.mp mem)⟩
  rw [trimPadding, List.append_assoc, ← List.reverse_append, back, List.reverse_reverse, front]

/-- A sign is split off. -/
theorem exists_sign (cs : List Char) :
    ∃ sign, Sign (splitSign cs).1 sign ∧ cs = sign ++ (splitSign cs).2 := by
  match cs with
  | [] => exact ⟨[], .none, rfl⟩
  | c :: rest =>
    rw [splitSign.eq_def]
    split
    next _ found => exact ⟨['-'], .minus, found⟩
    next _ found => exact ⟨['+'], .plus, found⟩
    next => exact ⟨[], .none, rfl⟩

theorem Sign.splitSign_append {negative : Bool} {sign : List Char} (signed : Sign negative sign)
    (digits : Run run ds) : splitSign (sign ++ run) = (negative, run) := by
  cases signed with
  | plus | minus => rfl
  | none =>
    obtain ⟨c, d, rest, rfl, value⟩ := digits.exists_cons
    have minus := ne_of_digitValue? value '-' (by decide)
    have plus := ne_of_digitValue? value '+' (by decide)
    simp [splitSign, minus, plus]

/-- Neither end of a run of digits with a sign in front of it is padding. -/
theorem Sign.ends {negative : Bool} {sign : List Char} (signed : Sign negative sign)
    (digits : Run run ds) :
    (∀ c ∈ (sign ++ run).head?, isPadding c = false) ∧
      ∀ c ∈ (sign ++ run).getLast?, isPadding c = false := by
  obtain ⟨first, d, rest, starts, value⟩ := digits.exists_cons
  obtain ⟨last, d', ends, value'⟩ := digits.exists_getLast?
  have left := not_isPadding_of_digitValue? value
  have right := not_isPadding_of_digitValue? value'
  refine ⟨?_, by simp [List.getLast?_append, ends, right]⟩
  cases signed with
  | none => simp [starts, left]
  | plus | minus =>
    rintro c ⟨rfl⟩
    decide

/-! ### Numerals -/

/-- The integer that is read from a text is the integer that the text denotes. -/
theorem integer?_eq_some_iff {s : String} {i : Int} : integer? s = some i ↔ Denotes s i := by
  constructor
  · intro reads
    obtain ⟨before, after, whole, left, right⟩ := exists_eq_append_trimPadding s.toList
    obtain ⟨sign, signed, split⟩ := exists_sign (trimPadding s.toList)
    rw [integer?] at reads
    generalize splitSign (trimPadding s.toList) = parts at signed split reads
    obtain ⟨negative, run⟩ := parts
    rw [Option.ite_none_left_eq_some, Option.map_eq_some_iff] at reads
    obtain ⟨few, n, found, rfl⟩ := reads
    obtain ⟨m, read, ⟨rfl⟩⟩ := Option.bind_eq_some_iff.mp found
    obtain ⟨ds, digits, rfl⟩ := digits?_eq_some_iff.mp read
    rw [digits.length_filter] at few
    exact .intro (split ▸ whole) left right signed digits (by omega)
  · rintro ⟨whole, left, right, signed, digits, few⟩
    -- a run ends in digits, so trimming stops at it on either side
    obtain ⟨first, last⟩ := signed.ends digits
    have reads := digits?_eq_some_iff.mpr ⟨_, digits, rfl⟩
    rw [integer?, whole, trimPadding_append left right first last, signed.splitSign_append digits]
    simp only [digits.length_filter, reads]
    rw [if_neg (by omega)]
    rfl

end GraphMapper.Numeral
