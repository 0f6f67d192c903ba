import GraphMapper.Proofs.Number.Numeral
import GraphMapper.Proofs.Number.Rational
import GraphMapper.Proofs.Query.Layout
import GraphMapper.Proofs.Query.Reading

/-!
# The counts of a filter

A filter says how many nodes to skip and how many to return. A count is an integer that is not
negative, or something else that stands for one. A text stands for the integer it denotes, and for
nothing if it denotes none. A number stands for its integer part, so one that has a fraction is not
refused but rounded toward zero. A negative fraction becomes zero that way, and a count of zero is
left out of the statement, which then returns every node.

## Main definitions

* `Query.Exact` — the count that a value denotes
* `Query.Rounded` — the count that a number with a fraction is taken for
* `Query.Vanishes` — the values that stand for no count or for zero
* `Query.Filter.Reads` — what the parts of a filter are read from

## Main results

* `Filter.count_eq_ok_iff` — which values are taken for counts
* `Filter.count_eq_error` — why others are refused
* `Filter.reads_counts` — which filters are read, and which of their counts are left out
-/

namespace GraphMapper.Query

/-- A value denotes a count, or is null and denotes none. -/
inductive Exact : Value → Value → Prop
  | null : Exact .null .null
  | int {n : Int} : 0 ≤ n → Exact (.int n) (.int n)
  | float {x : Binary64} {n : Int} : x.value? = some (n : ℚ) → 0 ≤ n → Exact (.float x) (.int n)
  | text {s : String} {n : Int} : Numeral.Denotes s n → 0 ≤ n → Exact (.text s) (.int n)

/-- A number with a fraction is taken for a count. -/
inductive Rounded : Value → Value → Prop
  | intro {x : Binary64} {q : ℚ} : x.value? = some q → (∀ n : Int, q ≠ n) → -1 < q →
      Rounded (.float x) (.int (Binary64.towardZero q))

/-- A value is an infinite number. -/
def IsInfinite (v : Value) : Prop := ∃ negative, v = .float (.infinity negative)

/-- A value is null, or a number or text that stands for a count of zero. -/
inductive Vanishes : Value → Prop
  | null : Vanishes .null
  | int : Vanishes (.int 0)
  | float {x : Binary64} {q : ℚ} : x.value? = some q → |q| < 1 → Vanishes (.float x)
  | text {s : String} : Numeral.Denotes s 0 → Vanishes (.text s)

variable {o : Options} {entries : Value.Entries} {f : Filter} {name : String} {u v : Value}
  {fault : Fault} {n : Int}

/-! ### Taking a value for an integer -/

/-- A value is taken for an integer: an integer for itself, a number for its value rounded toward
zero, a text for what it denotes. -/
inductive Taken : Value → Int → Prop
  | int (n : Int) : Taken (.int n) n
  | float {x : Binary64} {q : ℚ} : x.value? = some q → Taken (.float x) (Binary64.towardZero q)
  | text {s : String} {n : Int} : Numeral.Denotes s n → Taken (.text s) n

/-- What is taken for a count either denotes it or is rounded to it. -/
theorem Taken.exact_or_rounded (taken : Taken v n) (nonneg : 0 ≤ n) :
    Exact v (.int n) ∨ Rounded v (.int n) := by
  cases taken with
  | int => exact .inl (.int nonneg)
  | text denoted => exact .inl (.text denoted nonneg)
  | @float x q value =>
    -- rounding changes a number exactly if it has a fraction
    by_cases whole : ∃ i : Int, q = i
    · obtain ⟨i, rfl⟩ := whole
      exact .inl (.float (by rw [value, Binary64.towardZero_intCast]) nonneg)
    · exact .inr (.intro value (fun i same => whole ⟨i, same⟩)
        (Binary64.towardZero_nonneg_iff.mp nonneg))

/-- A value is taken for zero if it vanishes. -/
theorem Taken.eq_zero_iff (taken : Taken v n) : n = 0 ↔ Vanishes v := by
  cases taken with
  | int =>
    constructor
    · rintro rfl
      exact .int
    · rintro ⟨⟩
      rfl
  | float value =>
    rw [Binary64.towardZero_eq_zero_iff]
    constructor
    · exact .float value
    · rintro (_ | _ | ⟨value', small⟩)
      rw [value, Option.some.injEq] at value'
      exact value' ▸ small
  | text denoted =>
    constructor
    · rintro rfl
      exact .text denoted
    · rintro (_ | _ | _ | denoted')
      rw [← Numeral.integer?_eq_some_iff] at denoted denoted'
      rw [denoted, Option.some.injEq] at denoted'
      exact denoted'

/-- A count is null for null, and otherwise an integer that the value is taken for. -/
theorem exact_or_rounded_iff : Exact v u ∨ Rounded v u ↔
    v = .null ∧ u = .null ∨ ∃ n, Taken v n ∧ 0 ≤ n ∧ u = .int n := by
  constructor
  · rintro (exact | rounded)
    · cases exact with
      | null => exact .inl ⟨rfl, rfl⟩
      | int nonneg => exact .inr ⟨_, .int _, nonneg, rfl⟩
      | text denoted nonneg => exact .inr ⟨_, .text denoted, nonneg, rfl⟩
      | float value nonneg =>
        have taken := Taken.float value
        rw [Binary64.towardZero_intCast] at taken
        exact .inr ⟨_, taken, nonneg, rfl⟩
    · obtain ⟨value, -, above⟩ := rounded
      exact .inr ⟨_, .float value, Binary64.towardZero_nonneg_iff.mpr above, rfl⟩
  · rintro (⟨rfl, rfl⟩ | ⟨n, taken, nonneg, rfl⟩)
    · exact .inl .null
    · exact taken.exact_or_rounded nonneg

namespace Filter

/-! ### Reading a count -/

theorem nonNegative_eq_ok_iff : nonNegative name n = .ok u ↔ 0 ≤ n ∧ u = .int n := by
  rw [nonNegative]
  split
  · simp
    omega
  · next nonneg => simp [not_lt.mp nonneg, eq_comm]

theorem integerPart_float (x : Binary64) : integerPart name (.float x) =
    match x.value? with
    | some q => .ok (Binary64.towardZero q)
    | none => if x = .nan then .error (.compile (.notInteger name (.float x)))
      else .error (.shape .infiniteInteger) := by
  rw [integerPart, Binary64.truncate?_eq_map]
  cases x.value? <;> rfl

theorem count_float (x : Binary64) :
    count name (.float x) = (integerPart name (.float x)).bind (nonNegative name) := rfl

theorem taken_of_integerPart (part : integerPart name v = .ok n) : Taken v n := by
  cases v with
  | float x =>
    rw [integerPart_float] at part
    cases value : x.value? with
    | none =>
      simp only [value] at part
      split at part <;> cases part
    | some q =>
      simp only [value, Except.ok.injEq] at part
      exact part ▸ .float value
  | text s =>
    rw [integerPart] at part
    cases read : Numeral.integer? s with
    | none =>
      rw [read] at part
      cases part
    | some i =>
      simp only [read, Except.ok.injEq] at part
      exact part ▸ .text (Numeral.integer?_eq_some_iff.mp read)
  | _ => cases part

theorem integerPart_eq_error (failed : integerPart name v = .error fault) :
    fault = .compile (.notInteger name v) ∨ IsInfinite v ∧ fault = .shape .infiniteInteger := by
  cases v with
  | float x =>
    rw [integerPart_float] at failed
    cases value : x.value? with
    | none =>
      simp only [value] at failed
      rcases Binary64.value?_eq_none_iff.mp value with rfl | ⟨negative, rfl⟩
      · cases failed
        exact .inl rfl
      · cases failed
        exact .inr ⟨⟨negative, rfl⟩, rfl⟩
    | some q =>
      simp only [value] at failed
      cases failed
  | text s =>
    rw [integerPart] at failed
    split at failed
    · cases failed
    · cases failed
      exact .inl rfl
  | _ =>
    cases failed
    exact .inl rfl

/-- The values that are taken for counts: those that denote one, and numbers with a fraction that
are greater than minus one. -/
theorem count_eq_ok_iff : count name v = .ok u ↔ Exact v u ∨ Rounded v u := by
  rw [exact_or_rounded_iff]
  constructor
  · intro done
    cases v with
    | null =>
      cases done
      exact .inl ⟨rfl, rfl⟩
    | int n => exact .inr ⟨n, .int n, nonNegative_eq_ok_iff.mp done⟩
    | _ =>
      obtain ⟨n, part, done⟩ := Except.bind_eq_ok_iff.mp done
      exact .inr ⟨n, taken_of_integerPart part, nonNegative_eq_ok_iff.mp done⟩
  · rintro (⟨rfl, rfl⟩ | ⟨n, taken, nonneg, rfl⟩)
    · rfl
    · have counted : nonNegative name n = .ok (.int n) := nonNegative_eq_ok_iff.mpr ⟨nonneg, rfl⟩
      cases taken with
      | int => exact counted
      | float value =>
        rw [count_float, integerPart_float, value]
        exact counted
      | text denoted =>
        change (integerPart name _).bind _ = _
        rw [integerPart, Numeral.integer?_eq_some_iff.mpr denoted]
        exact counted

/-- A value that is not taken for a count is reported as one that cannot be compiled, with the name
of the count, unless it is an infinite number. -/
theorem count_eq_error (failed : count name v = .error fault) :
    fault = .compile (.notInteger name v) ∨
      (∃ n, Taken v n ∧ n < 0 ∧ fault = .compile (.negative name n)) ∨
      IsInfinite v ∧ fault = .shape .infiniteInteger := by
  have negative {n : Int} (taken : Taken v n) (failed : nonNegative name n = .error fault) :
      ∃ n, Taken v n ∧ n < 0 ∧ fault = .compile (.negative name n) := by
    rw [nonNegative] at failed
    split at failed
    · next below =>
      cases failed
      exact ⟨n, taken, below, rfl⟩
    · cases failed
  cases v with
  | null => cases failed
  | int n => exact .inr (.inl (negative (.int n) failed))
  | _ =>
    rcases Except.bind_eq_error_iff.mp failed with failed | ⟨n, part, failed⟩
    · rcases integerPart_eq_error failed with refused | infinite
      · exact .inl refused
      · exact .inr (.inr infinite)
    · exact .inr (.inl (negative (taken_of_integerPart part) failed))

/-- Only infinite numbers are refused otherwise than by an issue. -/
theorem exists_issue_of_count (failed : count name v = .error fault) (finite : ¬ IsInfinite v) :
    ∃ issue, fault = .compile issue := by
  rcases count_eq_error failed with rfl | ⟨n, -, -, rfl⟩ | ⟨infinite, -⟩
  · exact ⟨_, rfl⟩
  · exact ⟨_, rfl⟩
  · exact absurd infinite finite

theorem count_infinite (name : String) (infinite : IsInfinite v) :
    count name v = .error (.shape .infiniteInteger) := by
  obtain ⟨negative, rfl⟩ := infinite
  rw [count_float, integerPart_float, Binary64.value?_eq_none_iff.mpr (.inr ⟨negative, rfl⟩)]
  rfl

/-! ### Filters -/

/-- What a filter says besides its counts. -/
def parts (o : Options) (entries : Value.Entries) :
    Except Issue (Option Predicate × List String × List SortKey) := do
  let where? ← Predicate.ofWhere o.strictOperators (Value.getD entries "where")
  let fields ← Projection.ofFields (Value.getD entries "fields")
  let order ← SortKey.ofOrder o (Value.getD entries "order")
  .ok (where?, fields, order)

/-- A filter is put together from what is read of a mapping. -/
structure Reads (o : Options) (entries : Value.Entries) (f : Filter) : Prop where
  parts : parts o entries = .ok (f.where?, f.fields, f.order)
  skip : Exact (Value.getD entries "skip") f.skip ∨ Rounded (Value.getD entries "skip") f.skip
  limit : Exact (Value.getD entries "limit") f.limit ∨ Rounded (Value.getD entries "limit") f.limit
  related : f.related = Value.getD entries "include"

/-- The counts are read last. -/
theorem ofValue_map (o : Options) (entries : Value.Entries) :
    ofValue o (.map entries) = (do
      let (p, fields, order) ← liftIssue (parts o entries)
      let skip ← count "skip" (Value.getD entries "skip")
      let limit ← count "limit" (Value.getD entries "limit")
      .ok ⟨p, fields, order, skip, limit, Value.getD entries "include"⟩) := by
  rw [ofValue, parts]
  cases Predicate.ofWhere o.strictOperators (Value.getD entries "where") with
  | error issue => rfl
  | ok p =>
    cases Projection.ofFields (Value.getD entries "fields") with
    | error issue => rfl
    | ok fields => cases SortKey.ofOrder o (Value.getD entries "order") <;> rfl

theorem ofValue_map_eq_ok_iff : ofValue o (.map entries) = .ok f ↔ Reads o entries f := by
  rw [ofValue_map]
  constructor
  · intro done
    obtain ⟨⟨p, fields, order⟩, read, done⟩ := Except.bind_eq_ok_iff.mp done
    obtain ⟨skip, skipped, done⟩ := Except.bind_eq_ok_iff.mp done
    obtain ⟨limit, limited, done⟩ := Except.bind_eq_ok_iff.mp done
    cases done
    exact ⟨liftIssue_eq_ok_iff.mp read, count_eq_ok_iff.mp skipped, count_eq_ok_iff.mp limited, rfl⟩
  · rintro ⟨read, skip, limit, related⟩
    rw [liftIssue_eq_ok_iff.mpr read, count_eq_ok_iff.mpr skip, count_eq_ok_iff.mpr limit,
      ← related]
    rfl

/-- Everything in front of the first count that is infinite can be read. -/
def HasInfiniteCount (o : Options) (entries : Value.Entries) : Prop :=
  (∃ read, parts o entries = .ok read) ∧
    (IsInfinite (Value.getD entries "skip") ∨
      (∃ u, Exact (Value.getD entries "skip") u ∨ Rounded (Value.getD entries "skip") u) ∧
        IsInfinite (Value.getD entries "limit"))

theorem ofValue_map_infinite (infinite : HasInfiniteCount o entries) :
    ofValue o (.map entries) = .error (.shape .infiniteInteger) := by
  obtain ⟨⟨read, found⟩, skip | ⟨⟨u, skipped⟩, limit⟩⟩ := infinite
  · rw [ofValue_map, liftIssue_eq_ok_iff.mpr found, count_infinite "skip" skip]
    rfl
  · rw [ofValue_map, liftIssue_eq_ok_iff.mpr found, count_eq_ok_iff.mpr skipped,
      count_infinite "limit" limit]
    rfl

theorem exists_of_liftIssue_eq_error {α : Type} {x : Except Issue α}
    (failed : liftIssue x = .error fault) : ∃ issue, fault = .compile issue := by
  cases x with
  | ok a => cases failed
  | error issue =>
    cases failed
    exact ⟨issue, rfl⟩

/-- A filter that is not read is reported as one that cannot be compiled, unless the first thing
wrong with it is an infinite count. -/
theorem exists_issue_of_error (failed : ofValue o (.map entries) = .error fault)
    (finite : ¬ HasInfiniteCount o entries) : ∃ issue, fault = .compile issue := by
  rw [ofValue_map] at failed
  -- the parts are read in their order, and each of them only if those in front of it are
  rcases Except.bind_eq_error_iff.mp failed with refused | ⟨read, found, failed⟩
  · exact exists_of_liftIssue_eq_error refused
  have found := liftIssue_eq_ok_iff.mp found
  rcases Except.bind_eq_error_iff.mp failed with refused | ⟨u, skipped, failed⟩
  · exact exists_issue_of_count refused fun infinite => finite ⟨⟨read, found⟩, .inl infinite⟩
  have skipped := count_eq_ok_iff.mp skipped
  rcases Except.bind_eq_error_iff.mp failed with refused | ⟨w, -, failed⟩
  · exact exists_issue_of_count refused fun infinite =>
      finite ⟨⟨read, found⟩, .inr ⟨⟨u, skipped⟩, infinite⟩⟩
  · cases failed

/-! ### Counts in statements -/

theorem countClause_eq_empty_iff (word field : String) (d : Draft) :
    (countClause word field u d).1 = "" ↔ u.truthy = false := by
  rw [countClause]
  split
  · next truthy => simp [truthy, ← String.toList_inj]
  · next falsy => simpa using falsy

/-- A count is left out of a statement exactly if it is null or stands for zero. -/
theorem countClause_eq_empty_iff_vanishes (counted : Exact v u ∨ Rounded v u)
    (word field : String) (d : Draft) : (countClause word field u d).1 = "" ↔ Vanishes v := by
  rw [countClause_eq_empty_iff]
  rcases exact_or_rounded_iff.mp counted with ⟨rfl, rfl⟩ | ⟨n, taken, nonneg, rfl⟩
  · exact iff_of_true rfl .null
  · rw [← taken.eq_zero_iff]
    simp [Value.truthy]

/-- A filter is read exactly if everything else in it is and each of its counts is null, or denotes
an integer that is not negative, or is a number with a fraction above minus one, which is rounded
toward zero. A count is left out of the statement if it is null or stands for zero, and so is a
fraction that became zero. What is not read is reported as something that cannot be compiled, unless
the first thing wrong with it is an infinite count. -/
theorem reads_counts (o : Options) (entries : Value.Entries) :
    match ofValue o (.map entries) with
    | .ok f => Reads o entries f ∧ ∀ word field d,
        ((countClause word field f.skip d).1 = "" ↔ Vanishes (Value.getD entries "skip")) ∧
        ((countClause word field f.limit d).1 = "" ↔ Vanishes (Value.getD entries "limit"))
    | .error fault => (∀ f, ¬ Reads o entries f) ∧
        (HasInfiniteCount o entries → fault = .shape .infiniteInteger) ∧
        (¬ HasInfiniteCount o entries → fault.kind = .compile) := by
  cases done : ofValue o (.map entries) with
  | ok f =>
    have reads := ofValue_map_eq_ok_iff.mp done
    exact ⟨reads, fun word field d => ⟨countClause_eq_empty_iff_vanishes reads.skip word field d,
      countClause_eq_empty_iff_vanishes reads.limit word field d⟩⟩
  | error fault =>
    refine ⟨fun f reads => ?_, fun infinite => ?_, fun finite => ?_⟩
    · rw [ofValue_map_eq_ok_iff.mpr reads] at done
      cases done
    · rw [ofValue_map_infinite infinite, Except.error.injEq] at done
      exact done.symm
    · obtain ⟨issue, rfl⟩ := exists_issue_of_error done finite
      rfl

/-- A limit of minus one half denotes no count. It is read as zero all the same, and no limit stands
in the statement. -/
theorem reads_counts_half :
    let half : Binary64 := .signed true ⟨1022 * 2 ^ 52, by decide⟩
    let limit : Value := .float half
    half.value? = some (-1 / 2) ∧ (∀ u, ¬ Exact limit u) ∧
      ∃ f, ofValue {} (.map [(.text "limit", limit)]) = .ok f ∧ f.limit = .int 0 ∧
        ∀ word field d, (countClause word field f.limit d).1 = "" := by
  intro half limit
  have value : half.value? = some (-1 / 2) := by
    have digits : Binary64.significand (1022 * 2 ^ 52) = 2 ^ 52 := by decide
    have power : Binary64.scale (1022 * 2 ^ 52) = -53 := by decide
    have finite : (1022 * 2 ^ 52 : Nat) ≠ Binary64.infinityRank := by decide
    rw [Binary64.value?, if_neg finite, digits, power]
    norm_num
  have found : Value.getD [(.text "limit", limit)] "limit" = limit := by
    with_unfolding_all rfl
  have read : ofValue {} (.map [(.text "limit", limit)]) = .ok { limit := .int 0 } := by
    with_unfolding_all rfl
  have counts := reads_counts {} [(.text "limit", limit)]
  rw [read, found] at counts
  refine ⟨value, fun u exact => ?_, _, read, rfl, fun word field d => ?_⟩
  · change Exact (.float half) u at exact
    cases exact with
    | @float _ n whole _ =>
      rw [value, Option.some.injEq] at whole
      have twice : (2 * n : Int) = -1 := by
        have : (2 * n : ℚ) = -1 := by linarith
        exact_mod_cast this
      omega
  · exact (counts.2 word field d).2.mpr (.float value (by norm_num [abs_lt]))

end Filter

end GraphMapper.Query
