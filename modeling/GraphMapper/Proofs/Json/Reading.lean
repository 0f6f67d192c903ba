import GraphMapper.Proofs.Json.Values

/-!
# What is read from JSON texts

Whatever is read from a text is a value that JSON represents: an object keeps one entry for each of
its keys, so the keys of a mapping are distinct texts. Together with the texts that are written this
says exactly which values can be read.

## Main definitions

* `Json.Keyed` — entries that an object can hold

## Main results

* `Json.representable_of_read` — what is read is represented
* `Json.exists_read_iff` — a value is read from some text exactly if JSON represents it
-/

namespace GraphMapper.Json

variable {v : Value} {cs rest : List Char} {entries : Value.Entries}

/-- Entries under distinct texts, each of which holds what JSON represents. -/
structure Keyed (entries : Value.Entries) : Prop where
  texts : ∀ e ∈ entries, ∃ key, e.1 = .text key
  distinct : (entries.map (·.1)).Nodup
  each : ∀ e ∈ entries, Representable e.2

theorem Keyed.nil : Keyed [] := ⟨by simp, .nil, by simp⟩

theorem Keyed.representable (keyed : Keyed entries) : Representable (.map entries) :=
  .map keyed.texts keyed.distinct keyed.each

/-- One more entry is stored. -/
theorem Keyed.insert (keyed : Keyed entries) (key : String) (represented : Representable v) :
    Keyed (Value.insert entries (.text key) v) where
  texts e member := by
    rcases Value.mem_insert member with known | ⟨-, same | known⟩
    · exact keyed.texts e known
    · exact ⟨key, same⟩
    · obtain ⟨e', member', same⟩ := List.mem_map.1 known
      exact same ▸ keyed.texts e' member'
  distinct := Value.nodup_insert keyed.distinct
  each e member := by
    rcases Value.mem_insert member with known | ⟨rfl, -⟩
    · exact keyed.each e known
    · exact represented

theorem representable_numberOf (negative : Bool) (whole fraction : List Char)
    (exponent : Option Int) : Representable (numberOf negative whole fraction exponent) := by
  rw [numberOf]
  split
  · exact .int _
  · exact .float _

theorem representable_of_readNumber (done : readNumber cs = .ok (v, rest)) : Representable v := by
  rw [readNumber] at done
  split at done
  · cases done
  · cases done
    exact representable_numberOf _ _ _ _

theorem representable_of_literal? (found : literal? cs = some (v, rest)) : Representable v := by
  rw [literal?, Option.map_eq_some_iff] at found
  obtain ⟨⟨word, v'⟩, first, same⟩ := found
  cases same
  have known := List.mem_of_find?_eq_some first
  simp only [literals, List.mem_cons, Prod.mk.injEq, List.not_mem_nil, or_false] at known
  rcases known with ⟨-, rfl⟩ | ⟨-, rfl⟩ | ⟨-, rfl⟩ | ⟨-, rfl⟩ | ⟨-, rfl⟩ | ⟨-, rfl⟩
  · exact .null
  · exact .bool true
  · exact .bool false
  · exact .float _
  · exact .float _
  · exact .float _

-- a list is read item by item and an object entry by entry, each with less fuel
mutual

theorem representable_of_readValue : ∀ (fuel : Nat) {cs rest : List Char} {v : Value},
    readValue fuel cs = .ok (v, rest) → Representable v
  | 0, _, _, _, done => by cases done
  | fuel + 1, cs, rest, v, done => by
    rw [readValue.eq_def] at done
    dsimp only at done
    split at done
    · split at done
      · cases done
      · cases done
        exact .text _
    · split at done
      · cases done
        exact .list (by simp)
      · split at done
        · cases done
        · next items _ read =>
          cases done
          exact .list (representable_of_readItems fuel read)
    · split at done
      · cases done
        exact Keyed.nil.representable
      · split at done
        · cases done
        · next entries _ read =>
          cases done
          exact (keyed_of_readEntries fuel .nil read).representable
    · -- what begins neither like a text nor like a list or an object
      split at done
      · next found =>
        cases done
        exact representable_of_literal? found
      · exact representable_of_readNumber done

theorem representable_of_readItems : ∀ (fuel : Nat) {cs rest : List Char} {items : List Value},
    readItems fuel cs = .ok (items, rest) → ∀ v ∈ items, Representable v
  | 0, _, _, _, done => by cases done
  | fuel + 1, cs, rest, items, done => by
    rw [readItems] at done
    split at done
    · cases done
    · next v _ read =>
      have first := representable_of_readValue fuel read
      split at done
      · cases done
        exact List.forall_mem_singleton.2 first
      · split at done
        · cases done
        · next others _ later =>
          cases done
          exact List.forall_mem_cons.2 ⟨first, representable_of_readItems fuel later⟩
      · cases done

theorem keyed_of_readEntries : ∀ (fuel : Nat) {acc entries : Value.Entries} {cs rest : List Char},
    Keyed acc → readEntries fuel acc cs = .ok (entries, rest) → Keyed entries
  | 0, _, _, _, _, _, done => by cases done
  | fuel + 1, acc, entries, cs, rest, keyed, done => by
    rw [readEntries.eq_def] at done
    dsimp only at done
    split at done
    · split at done
      · cases done
      · next key _ _ =>
        split at done
        · split at done
          · cases done
          · next v _ read =>
            -- a repeated key keeps its place, so keys stay distinct
            have stored := keyed.insert key (representable_of_readValue fuel read)
            split at done
            · cases done
              exact stored
            · exact keyed_of_readEntries fuel stored done
            · cases done
        · cases done
    · cases done

end

/-- What is read is represented. -/
theorem representable_of_read {text : String} (done : read text = .ok v) : Representable v := by
  rw [read] at done
  split at done
  · next all =>
    cases done
    rw [readAll] at all
    split at all
    · cases all
    · split at all
      · cases all
      · next found =>
        split at all
        · cases all
          exact representable_of_readValue _ found
        · cases all
  · cases done

/-- A value is read from some text exactly if JSON represents it. -/
theorem exists_read_iff : (∃ text, read text = .ok v) ↔ Representable v := by
  constructor
  · rintro ⟨text, done⟩
    exact representable_of_read done
  · intro represented
    obtain ⟨text, -, reads⟩ := represented.exists_write
    exact ⟨text, reads.read⟩

end GraphMapper.Json
