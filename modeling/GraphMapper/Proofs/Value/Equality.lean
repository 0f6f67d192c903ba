import GraphMapper.Proofs.Number.Rank
import GraphMapper.Proofs.Value.Entries

/-!
# Equality of values

Values are equal across the kinds of numbers, and containers are equal if their items are. Equality
is transitive, as it is among numbers. It is not reflexive, as what is not a number equals nothing.

## Main results

* `Value.equals_trans` — what equals a value that equals a third one equals the third one
-/

namespace GraphMapper

namespace Value

variable {v : Value}

theorem equalNumbers_trans {m n o : Int ⊕ Binary64} (first : equalNumbers m n = true)
    (second : equalNumbers n o = true) : equalNumbers m o = true := by
  rcases m with m | x <;> rcases n with n | y <;> rcases o with o | z <;>
    simp only [equalNumbers, beq_iff_eq] at first second ⊢
  · exact first.trans second
  · rw [first, second]
  · rw [first] at second
    exact Option.some.inj second
  · rw [← Binary64.integer?_eq_of_equals second, first]
  · rw [first, second]
  · exact Binary64.equals_of_integer? first second
  · rw [Binary64.integer?_eq_of_equals first, second]
  · exact Binary64.equals_trans first second

theorem equalTimes_trans {s t u : DateTime} (first : equalTimes s t = true)
    (second : equalTimes t u = true) : equalTimes s u = true := by
  unfold equalTimes at first second ⊢
  cases hs : s.offset <;> cases ht : t.offset <;> cases hu : u.offset <;>
    simp_all only [beq_iff_eq, reduceCtorEq]

theorem equals_null_iff : Value.null.equals v = true ↔ .null = v := by
  cases v <;> simp [equals, number?]

theorem list_equals_iff {xs : List Value} :
    (Value.list xs).equals v = true ↔ ∃ ys, v = .list ys ∧ equalItems xs ys = true := by
  cases v <;> simp [equals, number?]

theorem tuple_equals_iff {xs : List Value} :
    (Value.tuple xs).equals v = true ↔ ∃ ys, v = .tuple ys ∧ equalItems xs ys = true := by
  cases v <;> simp [equals, number?]

theorem set_equals_iff {xs : List Value} :
    (Value.set xs).equals v = true ↔
      ∃ ys, v = .set ys ∧ xs.length = ys.length ∧ itemsWithin xs ys = true := by
  cases v <;> simp [equals, number?]

theorem map_equals_iff {xs : Entries} :
    (Value.map xs).equals v = true ↔
      ∃ ys, v = .map ys ∧ xs.length = ys.length ∧ entriesWithin xs ys = true := by
  cases v <;> simp [equals, number?]

theorem datetime_equals_iff {t : DateTime} :
    (Value.datetime t).equals v = true ↔ ∃ u, v = .datetime u ∧ equalTimes t u = true := by
  cases v <;> simp [equals, number?]

theorem date_equals_iff {d : Date} : (Value.date d).equals v = true ↔ .date d = v := by
  cases v <;> simp [equals, number?]

theorem number_equals_iff {x : Value} {m : Int ⊕ Binary64} (known : x.number? = some m) :
    x.equals v = true ↔ ∃ n, v.number? = some n ∧ equalNumbers m n = true := by
  cases x <;> cases v <;> simp_all [equals, number?]

theorem itemsWithin_iff {xs ys : List Value} :
    itemsWithin xs ys = true ↔ ∀ x ∈ xs, ∃ y ∈ ys, x.equals y = true := by
  induction xs with
  | nil => simp [itemsWithin]
  | cons x rest ih => simp [itemsWithin, ih]

theorem entriesWithin_iff {xs ys : Entries} :
    entriesWithin xs ys = true ↔
      ∀ e ∈ xs, ∃ e' ∈ ys, e.1.equals e'.1 = true ∧ e.2.equals e'.2 = true := by
  induction xs with
  | nil => simp [entriesWithin]
  | cons e rest ih =>
    rw [entriesWithin, Bool.and_eq_true, ih, List.any_eq_true, List.forall_mem_cons]
    simp only [Bool.and_eq_true]

theorem number_trans {x y z : Value} {m : Int ⊕ Binary64} (known : x.number? = some m)
    (first : x.equals y = true) (second : y.equals z = true) : x.equals z = true := by
  obtain ⟨n, known', same⟩ := (number_equals_iff known).1 first
  obtain ⟨o, known'', same'⟩ := (number_equals_iff known').1 second
  exact (number_equals_iff known).2 ⟨o, known'', equalNumbers_trans same same'⟩

mutual

/-- Equality of values is transitive, numbers of different types included. -/
theorem equals_trans {x y z : Value} (first : x.equals y = true) (second : y.equals z = true) :
    x.equals z = true := by
  match x with
  | .null => rwa [equals_null_iff.1 first]
  | .text s => rwa [text_equals_iff.1 first]
  | .date d => rwa [date_equals_iff.1 first]
  | .bool b => exact number_trans rfl first second
  | .int n => exact number_trans rfl first second
  | .float f => exact number_trans rfl first second
  | .datetime t =>
    obtain ⟨u, rfl, same⟩ := datetime_equals_iff.1 first
    obtain ⟨w, rfl, same'⟩ := datetime_equals_iff.1 second
    exact datetime_equals_iff.2 ⟨w, rfl, equalTimes_trans same same'⟩
  | .list xs =>
    obtain ⟨ys, rfl, same⟩ := list_equals_iff.1 first
    obtain ⟨zs, rfl, same'⟩ := list_equals_iff.1 second
    exact list_equals_iff.2 ⟨zs, rfl, equalItems_trans same same'⟩
  | .tuple xs =>
    obtain ⟨ys, rfl, same⟩ := tuple_equals_iff.1 first
    obtain ⟨zs, rfl, same'⟩ := tuple_equals_iff.1 second
    exact tuple_equals_iff.2 ⟨zs, rfl, equalItems_trans same same'⟩
  | .set xs =>
    obtain ⟨ys, rfl, length, within⟩ := set_equals_iff.1 first
    obtain ⟨zs, rfl, length', within'⟩ := set_equals_iff.1 second
    exact set_equals_iff.2 ⟨zs, rfl, length.trans length', itemsWithin_trans within within'⟩
  | .map xs =>
    obtain ⟨ys, rfl, length, within⟩ := map_equals_iff.1 first
    obtain ⟨zs, rfl, length', within'⟩ := map_equals_iff.1 second
    exact map_equals_iff.2 ⟨zs, rfl, length.trans length', entriesWithin_trans within within'⟩

theorem equalItems_trans {xs ys zs : List Value} (first : equalItems xs ys = true)
    (second : equalItems ys zs = true) : equalItems xs zs = true := by
  match xs, ys, zs with
  | [], [], [] => simp [equalItems]
  | x :: xs, y :: ys, z :: zs =>
    rw [equalItems, Bool.and_eq_true] at first second ⊢
    exact ⟨equals_trans first.1 second.1, equalItems_trans first.2 second.2⟩
  | [], _ :: _, _ | _ :: _, [], _ => simp [equalItems] at first
  | _, [], _ :: _ | _, _ :: _, [] => simp [equalItems] at second

theorem itemsWithin_trans {xs ys zs : List Value} (first : itemsWithin xs ys = true)
    (second : itemsWithin ys zs = true) : itemsWithin xs zs = true := by
  match xs with
  | [] => simp [itemsWithin]
  | x :: xs =>
    rw [itemsWithin, Bool.and_eq_true, List.any_eq_true] at first ⊢
    obtain ⟨⟨y, member, same⟩, others⟩ := first
    obtain ⟨z, member', same'⟩ := itemsWithin_iff.1 second y member
    exact ⟨⟨z, member', equals_trans same same'⟩, itemsWithin_trans others second⟩

theorem entriesWithin_trans {xs ys zs : Entries} (first : entriesWithin xs ys = true)
    (second : entriesWithin ys zs = true) : entriesWithin xs zs = true := by
  match xs with
  | [] => simp [entriesWithin]
  | (k, v) :: xs =>
    rw [entriesWithin, Bool.and_eq_true, List.any_eq_true] at first ⊢
    obtain ⟨⟨e', member, same⟩, others⟩ := first
    rw [Bool.and_eq_true] at same
    obtain ⟨e'', member', key, value⟩ := entriesWithin_iff.1 second e' member
    refine ⟨⟨e'', member', ?_⟩, entriesWithin_trans others second⟩
    rw [Bool.and_eq_true]
    exact ⟨equals_trans same.1 key, equals_trans same.2 value⟩

end

end Value

end GraphMapper
