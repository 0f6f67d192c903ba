import Mathlib.Data.List.Forall2

/-!
# Results

A computation that may fail has a result or fails. Made for every item of a list, it fails only if
it fails for one of them, and otherwise it has a result for each.

## Main results

* `Except.bind_eq_ok_iff`, `Except.bind_eq_error_iff`, `Except.map_eq_ok_iff` — what comes of a
  computation that goes on with the result of another
* `exists_mapM` — there are results if there is one for every item
* `mapM_eq_ok_iff`, `mapM_eq_error_iff` — the results belong to the items in their order, and the
  failure is the one of the first item without a result
* `exists_of_mem_mapM`, `exists_of_mem_items` — every result is the one of an item, and every item
  has one
* `exists_foldlM_iff`, `foldlM_eq_error_iff` — items that are taken in one after the other: nothing
  fails unless an item is refused, and then it is the first such item
-/

namespace GraphMapper

namespace Except

variable {ε α β : Type} {x : Except ε α} {b : β} {e : ε}

theorem bind_eq_ok_iff {f : α → Except ε β} : x >>= f = .ok b ↔ ∃ a, x = .ok a ∧ f a = .ok b := by
  cases x <;> simp [bind, Except.bind]

theorem bind_eq_error_iff {f : α → Except ε β} :
    x >>= f = .error e ↔ x = .error e ∨ ∃ a, x = .ok a ∧ f a = .error e := by
  cases x <;> simp [bind, Except.bind]

theorem map_eq_ok_iff {f : α → β} : x.map f = .ok b ↔ ∃ a, x = .ok a ∧ f a = b := by
  cases x <;> simp [Except.map]

theorem exists_eq_ok_of_isOk (fine : x.isOk = true) : ∃ a, x = .ok a := by
  cases x with
  | error e => cases fine
  | ok a => exact ⟨a, rfl⟩

end Except

/-! ### A result for every item -/

variable {ε α β : Type} {f : α → Except ε β} {xs : List α} {ys : List β}

theorem exists_mapM (each : ∀ x ∈ xs, ∃ y, f x = .ok y) : ∃ ys, xs.mapM f = .ok ys := by
  induction xs with
  | nil => exact ⟨[], rfl⟩
  | cons x rest ih =>
    rw [List.forall_mem_cons] at each
    obtain ⟨⟨y, first⟩, others⟩ := each
    obtain ⟨ys, remaining⟩ := ih others
    exact ⟨y :: ys, by rw [List.mapM_cons, first, remaining]; rfl⟩

/-- Where it is known of every item that there is a result, and which one, these are the results. -/
theorem mapM_eq_map {g : α → β} (each : ∀ x ∈ xs, f x = .ok (g x)) :
    xs.mapM f = .ok (xs.map g) := by
  induction xs with
  | nil => rfl
  | cons x rest ih =>
    rw [List.forall_mem_cons] at each
    rw [List.mapM_cons, each.1, ih each.2]
    rfl

theorem forall₂_of_mapM (done : xs.mapM f = .ok ys) :
    List.Forall₂ (fun x y => f x = .ok y) xs ys := by
  induction xs generalizing ys with
  | nil =>
    cases done
    exact .nil
  | cons x rest ih =>
    rw [List.mapM_cons] at done
    cases first : f x with
    | error fault =>
      rw [first] at done
      cases done
    | ok y =>
      cases others : rest.mapM f with
      | error fault =>
        rw [first, others] at done
        cases done
      | ok zs =>
        rw [first, others] at done
        cases done
        exact .cons first (ih others)

/-- What pairs have in common may be replaced where it is known of the items. -/
theorem forall₂_iff_of_mem {R S : α → β → Prop} (each : ∀ x ∈ xs, ∀ y, R x y ↔ S x y) :
    List.Forall₂ R xs ys ↔ List.Forall₂ S xs ys := by
  have replaced {R S : α → β → Prop} (each : ∀ x ∈ xs, ∀ y, R x y → S x y)
      (pairs : List.Forall₂ R xs ys) : List.Forall₂ S xs ys :=
    ((List.forall₂_and_left xs ys).2 ⟨fun _ member => member, pairs⟩).imp
      fun x y both => each x both.1 y both.2
  exact ⟨replaced fun x member y => (each x member y).1,
    replaced fun x member y => (each x member y).2⟩

/-- There are results exactly if every item has one, and they are those of the items in their
order. -/
theorem mapM_eq_ok_iff :
    xs.mapM f = .ok ys ↔ List.Forall₂ (fun x y => f x = .ok y) xs ys := by
  refine ⟨forall₂_of_mapM, fun each => ?_⟩
  induction each with
  | nil => rfl
  | cons first _ remaining =>
    rw [List.mapM_cons, first, remaining]
    rfl

/-- The first item of one kind, with items of another kind before it, is the head of a list or the
first such item behind it. -/
theorem exists_first_cons {P Q : α → Prop} {x : α} :
    (∃ before y after, x :: xs = before ++ y :: after ∧ (∀ z ∈ before, P z) ∧ Q y) ↔
      Q x ∨ P x ∧ ∃ before y after, xs = before ++ y :: after ∧ (∀ z ∈ before, P z) ∧ Q y := by
  constructor
  · rintro ⟨before, y, after, split, others, here⟩
    cases before with
    | nil =>
      cases split
      exact .inl here
    | cons z before =>
      cases split
      rw [List.forall_mem_cons] at others
      exact .inr ⟨others.1, before, y, after, rfl, others.2, here⟩
  · rintro (here | ⟨first, before, y, after, rfl, others, here⟩)
    · exact ⟨[], x, xs, rfl, by simp, here⟩
    · exact ⟨x :: before, y, after, rfl, List.forall_mem_cons.2 ⟨first, others⟩, here⟩

/-- The failure is the one of the first item without a result. -/
theorem mapM_eq_error_iff {e : ε} :
    xs.mapM f = .error e ↔ ∃ before x after, xs = before ++ x :: after ∧
      (∀ y ∈ before, ∃ z, f y = .ok z) ∧ f x = .error e := by
  induction xs with
  | nil => simp [pure, Except.pure]
  | cons x rest ih =>
    rw [exists_first_cons, ← ih, List.mapM_cons]
    cases first : f x with
    | error e' => simp [bind, Except.bind]
    | ok y => cases rest.mapM f <;> simp [bind, Except.bind, pure, Except.pure]

/-- Every result is the one of an item. -/
theorem exists_of_mem_mapM {y : β} (done : xs.mapM f = .ok ys) (member : y ∈ ys) :
    ∃ x ∈ xs, f x = .ok y := by
  obtain ⟨k, within, rfl⟩ := List.mem_iff_getElem.1 member
  have pairs := List.forall₂_iff_get.1 (forall₂_of_mapM done)
  have within' : k < xs.length := pairs.1 ▸ within
  exact ⟨xs[k], List.getElem_mem within', pairs.2 k within' within⟩

/-- Every item has a result. -/
theorem exists_of_mem_items {x : α} (done : xs.mapM f = .ok ys) (member : x ∈ xs) :
    ∃ y ∈ ys, f x = .ok y := by
  obtain ⟨k, within, rfl⟩ := List.mem_iff_getElem.1 member
  have pairs := List.forall₂_iff_get.1 (forall₂_of_mapM done)
  have within' : k < ys.length := pairs.1 ▸ within
  exact ⟨ys[k], List.getElem_mem within', pairs.2 k within within'⟩

/-! ### Taking in one item after the other -/

section

variable {g : β → α → Except ε β} {R : α → ε → Prop} {b : β}

/-- Where it only depends on an item whether it is refused, all items are taken in exactly if none
is refused. -/
theorem exists_foldlM_iff (fails : ∀ b x e, g b x = .error e ↔ R x e) :
    (∃ b', xs.foldlM g b = .ok b') ↔ ∀ x ∈ xs, ∀ e, ¬ R x e := by
  induction xs generalizing b with
  | nil => simp [pure, Except.pure]
  | cons x rest ih =>
    rw [List.foldlM_cons, List.forall_mem_cons]
    cases first : g b x with
    | error e =>
      have known : ¬ ∀ e, ¬ R x e := fun none => none e ((fails b x e).1 first)
      simp [bind, Except.bind, known]
    | ok b' =>
      have none : ∀ e, ¬ R x e := fun e known => by
        rw [← fails b, first] at known
        cases known
      simpa [bind, Except.bind, none] using ih

/-- The failure is the one of the first item that is refused. -/
theorem foldlM_eq_error_iff (fails : ∀ b x e, g b x = .error e ↔ R x e) {e : ε} :
    xs.foldlM g b = .error e ↔ ∃ before x after, xs = before ++ x :: after ∧
      (∀ y ∈ before, ∀ e, ¬ R y e) ∧ R x e := by
  induction xs generalizing b with
  | nil => simp [pure, Except.pure]
  | cons x rest ih =>
    rw [exists_first_cons, List.foldlM_cons]
    cases first : g b x with
    | error e' =>
      -- an item is refused for one reason only
      simp [bind, Except.bind, ← fails b, first]
    | ok b' =>
      have fine : ∀ e, ¬ R x e := fun e known => by
        rw [← fails b, first] at known
        cases known
      simpa [bind, Except.bind, fine] using ih

end

end GraphMapper
