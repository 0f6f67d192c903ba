import GraphMapper.Json.Reader
import GraphMapper.Json.Writer
import GraphMapper.Proofs.Number.Shortest

/-!
# Numbers in JSON texts

A number is spelled with an optional sign, digits, an optional fraction and an optional exponent.
Such a spelling is read to its end if nothing follows it that could continue it. Integers and
binary64 numbers are written in spellings that denote them, so they are read as what was written.

## Main definitions

* `Json.Spelling` — a number as it is spelled
* `Json.Spelling.text`, `Json.Spelling.value` — its characters and what it denotes
* `Json.Closes` — what may follow a value

## Main results

* `Json.Spelling.readNumber_text` — a spelling is read as what it denotes
* `Json.exists_spelling_int`, `Json.exists_spelling_float` — how numbers are written
-/

namespace GraphMapper.Json

variable {ds rest : List Char}

/-- A printable ASCII character. -/
def IsPlain (c : Char) : Prop := 0x20 ≤ c.toNat ∧ c.toNat < 0x7F

instance (c : Char) : Decidable (IsPlain c) := by
  unfold IsPlain
  infer_instance

/-! ### Digits -/

/-- What may follow a value: nothing, or what ends an item. -/
def Closes (rest : List Char) : Prop := ∀ c ∈ rest.head?, c = ',' ∨ c = ']' ∨ c = '\x7d'

theorem closes_nil : Closes [] := by simp [Closes]

theorem spanDigits_append (digits : ∀ c ∈ ds, c.isDigit = true)
    (stops : ∀ c ∈ rest.head?, c.isDigit = false) : spanDigits (ds ++ rest) = (ds, rest) := by
  rw [spanDigits, List.takeWhile_append_of_pos digits, List.dropWhile_append_of_pos digits]
  cases rest with
  | nil => simp
  | cons c rest => simp [stops c rfl]

theorem naturalOf_eq (ds : List Char) : naturalOf ds = Nat.ofDigitChars 10 ds 0 := by
  simp only [naturalOf, Nat.ofDigitChars, Nat.mul_comm]
  rfl

theorem naturalOf_append (ds es : List Char) :
    naturalOf (ds ++ es) = naturalOf ds * 10 ^ es.length + naturalOf es := by
  simp only [naturalOf_eq, Nat.ofDigitChars_append]
  rw [Nat.ofDigitChars_eq_ofDigitChars_zero, Nat.mul_comm]

theorem naturalOf_toDigits (n : Nat) : naturalOf (Nat.toDigits 10 n) = n := by
  rw [naturalOf_eq, Nat.ofDigitChars_ten_toDigits]

theorem naturalOf_zeros (k : Nat) : naturalOf (List.replicate k '0') = 0 := by
  rw [naturalOf_eq, Nat.ofDigitChars_replicate_zero, Nat.mul_zero]

theorem isDigit_of_mem_toDigits {n : Nat} : ∀ c ∈ Nat.toDigits 10 n, c.isDigit = true :=
  fun _ member => Nat.isDigit_of_mem_toDigits (by decide) (by decide) member

theorem isDigit_of_mem_zero : ∀ c ∈ ['0'], c.isDigit = true := List.forall_mem_singleton.2 rfl

theorem isDigit_of_mem_zeros {k : Nat} : ∀ c ∈ List.replicate k '0', c.isDigit = true := by
  intro c member
  rw [(List.mem_replicate.1 member).2]
  rfl

theorem digitChar_ne_zero : ∀ n : Fin 10, 0 < n.val → n.val.digitChar ≠ '0' := by decide

/-- The digits of a number that is not zero do not begin with a zero. -/
theorem exists_toDigits_eq_cons {n : Nat} (some : 0 < n) :
    ∃ d ds, Nat.toDigits 10 n = d :: ds ∧ d ≠ '0' := by
  induction n using Nat.strongRecOn with
  | ind n ih =>
    by_cases small : n < 10
    · exact ⟨n.digitChar, [], Nat.toDigits_of_lt_base small, digitChar_ne_zero ⟨n, small⟩ some⟩
    · obtain ⟨d, ds, front, first⟩ := ih (n / 10) (by omega) (by omega)
      have parts : 10 * (n / 10) + n % 10 = n := by omega
      have appended := Nat.toDigits_append_toDigits (b := 10) (by decide)
        (n := n / 10) (by omega) (Nat.mod_lt n (by decide))
      rw [parts, front] at appended
      exact ⟨d, ds ++ Nat.toDigits 10 (n % 10), appended.symm, first⟩

/-! ### Spellings -/

/-- A number as it is spelled. -/
structure Spelling where
  /-- There is a minus sign in front. -/
  negative : Bool
  /-- The digits before the point. -/
  whole : List Char
  /-- The digits behind the point; without any there is no point. -/
  fraction : List Char
  /-- The exponent: whether it is negative, and its digits. -/
  exponent : Option (Bool × List Char)
  /-- What stands before the point are digits. -/
  whole_digits : ∀ c ∈ whole, c.isDigit = true
  /-- They are a zero alone or begin with another digit. -/
  whole_start : whole = ['0'] ∨ ∃ d ds, whole = d :: ds ∧ d ≠ '0'
  /-- What stands behind the point are digits. -/
  fraction_digits : ∀ c ∈ fraction, c.isDigit = true
  /-- An exponent has digits. -/
  exponent_digits : ∀ e ∈ exponent, e.2 ≠ [] ∧ ∀ c ∈ e.2, c.isDigit = true

namespace Spelling

/-- The minus sign of a negative number. -/
def signText (negative : Bool) : List Char := if negative then ['-'] else []

/-- A fraction behind its point. -/
def fractionText (fraction : List Char) : List Char :=
  if fraction.isEmpty then [] else '.' :: fraction

theorem fractionText_of_ne_nil {fraction : List Char} (some : fraction ≠ []) :
    fractionText fraction = '.' :: fraction := by
  rw [fractionText, if_neg (by simpa using some)]

/-- An exponent with its mark and its sign. -/
def exponentText : Option (Bool × List Char) → List Char
  | none => []
  | some (negative, ds) => 'e' :: (if negative then '-' else '+') :: ds

/-- The characters of a spelling. -/
def text (s : Spelling) : List Char :=
  signText s.negative ++ (s.whole ++ (fractionText s.fraction ++ exponentText s.exponent))

/-- The number that an exponent denotes. -/
def exponentValue (exponent : Option (Bool × List Char)) : Option Int :=
  exponent.map fun e => if e.1 then -(naturalOf e.2 : Int) else naturalOf e.2

/-- What a spelling denotes. -/
def value (s : Spelling) : Value :=
  numberOf s.negative s.whole s.fraction (exponentValue s.exponent)

variable {s : Spelling}

/-- The digits before the point begin with one. -/
theorem exists_whole_eq (s : Spelling) : ∃ d ds, s.whole = d :: ds ∧ d.isDigit = true := by
  rcases s.whole_start with zero | ⟨d, ds, other, -⟩
  · exact ⟨'0', [], zero, rfl⟩
  · exact ⟨d, ds, other, s.whole_digits d (by rw [other]; exact List.mem_cons_self)⟩

theorem wholePart?_append (s : Spelling) (stops : ∀ c ∈ rest.head?, c.isDigit = false) :
    wholePart? (s.whole ++ rest) = some (s.whole, rest) := by
  rcases s.whole_start with zero | ⟨d, ds, other, first⟩
  · rw [zero]
    rfl
  · have span := spanDigits_append s.whole_digits stops
    rw [other] at span ⊢
    rw [List.cons_append] at span ⊢
    rw [wholePart?, span]
    rintro more same
    exact first (List.cons.inj same).1

theorem fractionPart_append {fraction : List Char} (digits : ∀ c ∈ fraction, c.isDigit = true)
    (stops : ∀ c ∈ rest.head?, c.isDigit = false ∧ c ≠ '.') :
    fractionPart (fractionText fraction ++ rest) = (fraction, rest) := by
  cases fraction with
  | nil =>
    cases rest with
    | nil => rfl
    | cons c rest =>
      have other : c ≠ '.' := (stops c rfl).2
      change fractionPart (c :: rest) = _
      rw [fractionPart]
      rintro more same
      exact other (List.cons.inj same).1
  | cons d ds =>
    have span := spanDigits_append digits fun c head => (stops c head).1
    rw [List.cons_append] at span
    rw [fractionText_of_ne_nil (by simp), List.cons_append, List.cons_append, fractionPart, span]

theorem exponentPart_append {exponent : Option (Bool × List Char)}
    (digits : ∀ e ∈ exponent, e.2 ≠ [] ∧ ∀ c ∈ e.2, c.isDigit = true)
    (stops : ∀ c ∈ rest.head?, c.isDigit = false ∧ c ≠ 'e' ∧ c ≠ 'E') :
    exponentPart (exponentText exponent ++ rest) = (exponentValue exponent, rest) := by
  rcases exponent with - | ⟨negative, ds⟩
  · cases rest with
    | nil => rfl
    | cons c rest =>
      obtain ⟨-, lower, upper⟩ := stops c rfl
      simp [exponentText, exponentPart, exponentValue, lower, upper]
  · obtain ⟨nonempty, digits⟩ := digits _ rfl
    obtain ⟨d, ds, rfl⟩ := List.exists_cons_of_ne_nil nonempty
    have span := spanDigits_append digits fun c head => (stops c head).1
    rw [List.cons_append] at span
    cases negative <;>
      simp [exponentText, exponentPart, exponentValue, Numeral.splitSign, span]

/-- What closes a value continues no number. -/
theorem stops_of_closes (closes : Closes rest) :
    ∀ c ∈ rest.head?, c.isDigit = false ∧ c ≠ '.' ∧ c ≠ 'e' ∧ c ≠ 'E' := by
  intro c head
  rcases closes c head with rfl | rfl | rfl <;> decide

/-- What stands behind the digits before the point is no digit. -/
theorem stops_whole (s : Spelling) (closes : Closes rest) :
    ∀ c ∈ (fractionText s.fraction ++ (exponentText s.exponent ++ rest)).head?,
      c.isDigit = false := by
  intro c head
  rw [fractionText] at head
  split at head
  · rcases exponent : s.exponent with - | ⟨negative, ds⟩
    · rw [exponent] at head
      exact (stops_of_closes closes c head).1
    · rw [exponent] at head
      obtain rfl : 'e' = c := Option.some.inj head
      decide
  · obtain rfl : '.' = c := Option.some.inj head
    decide

theorem stops_fraction (s : Spelling) (closes : Closes rest) :
    ∀ c ∈ (exponentText s.exponent ++ rest).head?, c.isDigit = false ∧ c ≠ '.' := by
  intro c head
  rcases exponent : s.exponent with - | ⟨negative, ds⟩
  · rw [exponent] at head
    have stops := stops_of_closes closes c head
    exact ⟨stops.1, stops.2.1⟩
  · rw [exponent] at head
    obtain rfl : 'e' = c := Option.some.inj head
    decide

/-- A spelling is read as what it denotes. -/
theorem readNumber_text (s : Spelling) (closes : Closes rest) :
    readNumber (s.text ++ rest) = .ok (s.value, rest) := by
  have whole := s.wholePart?_append (s.stops_whole closes)
  have fraction := fractionPart_append s.fraction_digits (s.stops_fraction closes)
  have exponent := exponentPart_append s.exponent_digits fun c head =>
    have stops := stops_of_closes closes c head
    ⟨stops.1, stops.2.2⟩
  rw [readNumber, text]
  simp only [List.append_assoc]
  cases sign : s.negative with
  | true => simp [signText, whole, fraction, exponent, value, sign]
  | false =>
    obtain ⟨d, ds, first, digit⟩ := s.exists_whole_eq
    have plain : ((s.whole ++ (fractionText s.fraction ++
        (exponentText s.exponent ++ rest))).head? == some '-') = false := by
      rw [first, List.cons_append, List.head?_cons]
      exact beq_false_of_ne fun same => by
        obtain rfl := Option.some.inj same
        exact absurd digit (by decide)
    simp only [signText, Bool.false_eq_true, if_false, List.nil_append, plain, whole, fraction,
      exponent, value, sign]

/-! ### What spellings look like -/

/-- A spelling begins with a digit, or with a minus sign and a digit. -/
theorem exists_text_eq (s : Spelling) :
    ∃ d more, d.isDigit = true ∧ (s.text = d :: more ∨ s.text = '-' :: d :: more) := by
  obtain ⟨d, ds, first, digit⟩ := s.exists_whole_eq
  refine ⟨d, ds ++ (fractionText s.fraction ++ exponentText s.exponent), digit, ?_⟩
  rw [text, first]
  cases s.negative with
  | true => exact .inr rfl
  | false => exact .inl rfl

theorem isPlain_of_isDigit {c : Char} (digit : c.isDigit = true) : IsPlain c := by
  simp only [Char.isDigit, Bool.and_eq_true, decide_eq_true_eq, ge_iff_le,
    UInt32.le_iff_toNat_le] at digit
  have low : 48 ≤ c.toNat := digit.1
  have high : c.toNat ≤ 57 := digit.2
  constructor <;> omega

/-- A spelling has no control characters and no characters outside ASCII. -/
theorem isPlain_of_mem_text {s : Spelling} {c : Char} (member : c ∈ s.text) : IsPlain c := by
  rw [text, List.mem_append, List.mem_append, List.mem_append] at member
  rcases member with sign | whole | fraction | exponent
  · rw [signText] at sign
    split at sign
    · rw [List.mem_singleton.1 sign]
      decide
    · cases sign
  · exact isPlain_of_isDigit (s.whole_digits c whole)
  · rw [fractionText] at fraction
    split at fraction
    · cases fraction
    · rcases List.mem_cons.1 fraction with rfl | digit
      · decide
      · exact isPlain_of_isDigit (s.fraction_digits c digit)
  · rcases found : s.exponent with - | ⟨negative, ds⟩
    · rw [found] at exponent
      cases exponent
    · have digits := (s.exponent_digits _ found).2
      rw [found, exponentText, List.mem_cons, List.mem_cons] at exponent
      rcases exponent with rfl | rfl | digit
      · decide
      · cases negative <;> decide
      · exact isPlain_of_isDigit (digits c digit)

/-- No word that stands for a value begins like a number. -/
theorem literal?_text (s : Spelling) (rest : List Char) : literal? (s.text ++ rest) = none := by
  obtain ⟨d, more, digit, first | first⟩ := s.exists_text_eq <;>
    · rw [first]
      have differs (c : Char) (other : c.isDigit = false) : (c == d) = false :=
        beq_false_of_ne fun same => by rw [same, digit] at other; cases other
      simp [literal?, literals, List.isPrefixOf, differs]

end Spelling

/-! ### How numbers are written -/

open Spelling

/-- A natural number is written as its digits. -/
theorem toDigits_start (n : Nat) :
    Nat.toDigits 10 n = ['0'] ∨ ∃ d ds, Nat.toDigits 10 n = d :: ds ∧ d ≠ '0' := by
  rcases Nat.eq_zero_or_pos n with rfl | some
  · exact .inl (Nat.toDigits_zero 10)
  · exact .inr (exists_toDigits_eq_cons some)

theorem toList_toString_int (n : Int) :
    (toString n).toList = signText (n < 0) ++ Nat.toDigits 10 n.natAbs := by
  rw [Int.toString_eq_repr, Int.repr_eq_if]
  split
  · next positive =>
    have plain : ¬ n < 0 := by omega
    have size : n.toNat = n.natAbs := by omega
    simp [signText, plain, size]
  · next negative =>
    have minus : n < 0 := by omega
    have size : (-n).toNat = n.natAbs := by omega
    simp [signText, minus, size]

/-- An integer is written in a spelling that denotes it. -/
theorem exists_spelling_int (n : Int) :
    ∃ s : Spelling, (toString n).toList = s.text ∧ s.value = .int n := by
  refine ⟨⟨n < 0, Nat.toDigits 10 n.natAbs, [], none, isDigit_of_mem_toDigits,
    toDigits_start n.natAbs, by simp, by simp⟩, ?_, ?_⟩
  · rw [toList_toString_int, text]
    simp [fractionText, exponentText]
  · have sign : (if n < 0 then -(n.natAbs : Int) else n.natAbs) = n := by split <;> omega
    simpa [value, numberOf, exponentValue, naturalOf_toDigits] using sign

/-- A spelling with a fraction or an exponent denotes a binary64 number. -/
theorem Spelling.value_eq_float {s : Spelling} {d : Decimal}
    (inexact : s.fraction ≠ [] ∨ s.exponent ≠ none)
    (same : Decimal.rank ⟨naturalOf (s.whole ++ s.fraction),
      (exponentValue s.exponent).getD 0 - (s.fraction.length : Int)⟩ = d.rank) :
    s.value = .float (.ofDecimal s.negative d) := by
  have notInt : (s.fraction.isEmpty && (exponentValue s.exponent).isNone) = false := by
    rcases inexact with fraction | exponent
    · simp [fraction]
    · obtain ⟨e, found⟩ := Option.ne_none_iff_exists'.1 exponent
      simp [exponentValue, found]
  rw [value, numberOf, notInt, if_neg Bool.false_ne_true, Binary64.ofDecimal, Binary64.ofDecimal]
  simp only [same]

variable {digits : List Char}

/-- Zeros fill the places between the digits and the point. -/
theorem exists_spelling_whole (negative : Bool) {e : Int} (large : 0 ≤ e)
    (isDigits : ∀ c ∈ digits, c.isDigit = true) (start : ∃ d ds, digits = d :: ds ∧ d ≠ '0') :
    ∃ s : Spelling,
      signText negative ++ (digits ++ List.replicate e.toNat '0' ++ ['.', '0']) = s.text ∧
      s.value = .float (.ofDecimal negative ⟨naturalOf digits, e⟩) := by
  let zeros := List.replicate e.toNat '0'
  have whole : ∀ c ∈ digits ++ zeros, c.isDigit = true :=
    List.forall_mem_append.2 ⟨isDigits, isDigit_of_mem_zeros⟩
  obtain ⟨d, ds, rfl, first⟩ := start
  refine ⟨⟨negative, (d :: ds) ++ zeros, ['0'], none, whole, .inr ⟨d, ds ++ zeros, rfl, first⟩,
    isDigit_of_mem_zero, by simp⟩, ?_, value_eq_float (by simp) ?_⟩
  · simp [text, fractionText, exponentText, zeros]
  · have value : naturalOf ((d :: ds) ++ zeros ++ ['0']) =
        naturalOf (d :: ds) * 10 ^ (e.toNat + 1) := by
      rw [naturalOf_append, naturalOf_append, naturalOf_zeros, List.length_replicate, pow_succ]
      simp [naturalOf, Nat.mul_assoc]
    have exponent : (0 : Int) - 1 = e - (e.toNat + 1 : Nat) := by omega
    rw [value]
    simp only [exponentValue, Option.map_none, Option.getD_none, List.length_singleton,
      Nat.cast_one, exponent]
    exact Decimal.rank_scaled _ _ _

/-- The point stands among the digits. -/
theorem exists_spelling_parted (negative : Bool) {e : Int} {places : Nat} (some : 0 < places)
    (within : (places : Int) = digits.length + e) (small : e < 0)
    (isDigits : ∀ c ∈ digits, c.isDigit = true) (start : ∃ d ds, digits = d :: ds ∧ d ≠ '0') :
    ∃ s : Spelling,
      signText negative ++ (digits.take places ++ ['.'] ++ digits.drop places) = s.text ∧
      s.value = .float (.ofDecimal negative ⟨naturalOf digits, e⟩) := by
  obtain ⟨k, rfl⟩ : ∃ k, places = k + 1 := ⟨places - 1, by omega⟩
  obtain ⟨d, ds, rfl, first⟩ := start
  have behind : (d :: ds).drop (k + 1) ≠ [] := by
    rw [Ne, List.drop_eq_nil_iff]
    omega
  refine ⟨⟨negative, (d :: ds).take (k + 1), (d :: ds).drop (k + 1), none,
    fun c member => isDigits c (List.mem_of_mem_take member), .inr ⟨d, ds.take k, rfl, first⟩,
    fun c member => isDigits c (List.mem_of_mem_drop member), by simp⟩, ?_,
    value_eq_float (.inl behind) ?_⟩
  · rw [text, fractionText_of_ne_nil behind]
    simp [exponentText]
  · have exponent : (0 : Int) - ((d :: ds).drop (k + 1)).length = e := by
      rw [List.length_drop]
      omega
    simp only [exponentValue, Option.map_none, Option.getD_none, exponent, List.take_append_drop]

/-- Zeros stand between the point and the digits. -/
theorem exists_spelling_fraction (negative : Bool) {e : Int} (small : (digits.length : Int) + e ≤ 0)
    (isDigits : ∀ c ∈ digits, c.isDigit = true) (some : digits ≠ []) :
    ∃ s : Spelling,
      signText negative ++ (['0', '.'] ++
        List.replicate (-((digits.length : Int) + e)).toNat '0' ++ digits) = s.text ∧
      s.value = .float (.ofDecimal negative ⟨naturalOf digits, e⟩) := by
  let zeros := List.replicate (-((digits.length : Int) + e)).toNat '0'
  have behind : ∀ c ∈ zeros ++ digits, c.isDigit = true :=
    List.forall_mem_append.2 ⟨isDigit_of_mem_zeros, isDigits⟩
  have nonempty : zeros ++ digits ≠ [] := by simp [some]
  refine ⟨⟨negative, ['0'], zeros ++ digits, none, isDigit_of_mem_zero, .inl rfl, behind,
    by simp⟩, ?_, value_eq_float (.inl nonempty) ?_⟩
  · rw [text, fractionText_of_ne_nil nonempty]
    simp [exponentText, zeros]
  · have value : naturalOf (['0'] ++ (zeros ++ digits)) = naturalOf digits := by
      rw [naturalOf_append, naturalOf_append, naturalOf_zeros]
      simp [naturalOf]
    have exponent : (0 : Int) - (zeros ++ digits).length = e := by
      rw [List.length_append, List.length_replicate]
      omega
    simp only [exponentValue, Option.map_none, Option.getD_none, exponent, value]

/-- Digits with a point among them, in front of them or behind them. -/
theorem exists_spelling_positional (negative : Bool) (e : Int)
    (isDigits : ∀ c ∈ digits, c.isDigit = true) (start : ∃ d ds, digits = d :: ds ∧ d ≠ '0') :
    ∃ s : Spelling, signText negative ++ Decimal.positional digits e = s.text ∧
      s.value = .float (.ofDecimal negative ⟨naturalOf digits, e⟩) := by
  rw [Decimal.positional]
  split_ifs with large middle
  · exact exists_spelling_whole negative large isDigits start
  · exact exists_spelling_parted negative (by omega) (Int.toNat_of_nonneg middle.le) (by omega)
      isDigits start
  · have some : digits ≠ [] := by
      obtain ⟨d, ds, rfl, -⟩ := start
      simp
    exact exists_spelling_fraction negative (by omega) isDigits some

/-- The exponent as it is written. -/
theorem exists_exponentText_eq (e : Int) :
    ∃ ds, Decimal.exponentText e = exponentText (some (decide (e < 0), ds)) ∧ ds ≠ [] ∧
      (∀ c ∈ ds, c.isDigit = true) ∧ exponentValue (some (decide (e < 0), ds)) = some e := by
  have sign : (if e < 0 then -(e.natAbs : Int) else e.natAbs) = e := by split <;> omega
  let ds := Nat.toDigits 10 e.natAbs
  by_cases short : ds.length < 2
  · refine ⟨'0' :: ds, ?_, by simp, ?_, ?_⟩
    · simp [Decimal.exponentText, exponentText, ds, short]
    · exact List.forall_mem_cons.2 ⟨by decide, isDigit_of_mem_toDigits⟩
    · have value : naturalOf ('0' :: ds) = e.natAbs := by
        rw [← List.singleton_append, naturalOf_append, naturalOf_toDigits]
        simp [naturalOf]
      simpa [exponentValue, value] using sign
  · refine ⟨ds, ?_, Nat.toDigits_ne_nil, isDigit_of_mem_toDigits, ?_⟩
    · simp [Decimal.exponentText, exponentText, ds, short]
    · simpa [exponentValue, ds, naturalOf_toDigits] using sign

/-- One digit before the point, and an exponent. -/
theorem exists_spelling_scientific (negative : Bool) (e : Int) {leading : Int}
    (isDigits : ∀ c ∈ digits, c.isDigit = true) (start : ∃ d ds, digits = d :: ds ∧ d ≠ '0')
    (place : leading = (digits.length : Int) + e - 1) :
    ∃ s : Spelling, signText negative ++ Decimal.scientific digits leading = s.text ∧
      s.value = .float (.ofDecimal negative ⟨naturalOf digits, e⟩) := by
  obtain ⟨d, ds, rfl, first⟩ := start
  obtain ⟨es, written, nonempty, exponentDigits, value⟩ := exists_exponentText_eq leading
  obtain ⟨digit, others⟩ := List.forall_mem_cons.1 isDigits
  refine ⟨⟨negative, [d], ds, some (decide (leading < 0), es), by simpa using digit,
    .inr ⟨d, [], rfl, first⟩, others, by simpa using ⟨nonempty, exponentDigits⟩⟩, ?_,
    value_eq_float (by simp) ?_⟩
  · cases ds with
    | nil => simp [text, fractionText, Decimal.scientific, written]
    | cons d' ds => simp [text, fractionText, Decimal.scientific, written]
  · have exponent : leading - (ds.length : Int) = e := by
      rw [place, List.length_cons]
      omega
    rw [value, Option.getD_some, exponent]
    rfl

/-- A decimal is written in a spelling that denotes the number nearest to it. -/
theorem exists_spelling_decimal (negative : Bool) (d : Decimal) :
    ∃ s : Spelling, signText negative ++ d.write = s.text ∧
      s.value = .float (.ofDecimal negative d) := by
  rw [Decimal.write]
  split_ifs with zero near
  · refine ⟨⟨negative, ['0'], ['0'], none, isDigit_of_mem_zero, .inl rfl, isDigit_of_mem_zero,
      by simp⟩, rfl, value_eq_float (by simp) ?_⟩
    simp [Decimal.rank, zero, naturalOf]
  · have digits := exists_toDigits_eq_cons (Nat.pos_of_ne_zero zero)
    have found := exists_spelling_positional negative d.exponent isDigit_of_mem_toDigits digits
    rwa [naturalOf_toDigits] at found
  · have digits := exists_toDigits_eq_cons (Nat.pos_of_ne_zero zero)
    have found :=
      exists_spelling_scientific negative d.exponent isDigit_of_mem_toDigits digits rfl
    rwa [naturalOf_toDigits] at found

/-- A finite number is written in a spelling that denotes it. -/
theorem exists_spelling_float (negative : Bool)
    {rank : Fin (Binary64.infinityRank + 1)} (finite : rank.val ≠ Binary64.infinityRank) :
    ∃ s : Spelling, (writeFloat (.signed negative rank)).toList = s.text ∧
      s.value = .float (.signed negative rank) := by
  obtain ⟨s, spelled, denoted⟩ := exists_spelling_decimal negative (Decimal.shortest rank)
  refine ⟨s, ?_, ?_⟩
  · rw [← spelled, writeFloat, Binary64.write, if_neg finite]
    cases negative <;> simp [signText]
  · have back : (Decimal.shortest rank).rank = rank :=
      Decimal.rank_shortest (Nat.lt_of_le_of_ne (Nat.le_of_lt_succ rank.isLt) finite)
    rw [denoted, Binary64.ofDecimal]
    simp only [back]

end GraphMapper.Json
