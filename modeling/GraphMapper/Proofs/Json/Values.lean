import GraphMapper.Proofs.Json.Texts
import GraphMapper.Proofs.Value.Entries

/-!
# Values in JSON texts

Null, truth values, numbers and texts, lists of such values and mappings of such values under
distinct texts are what JSON represents. Such a value has a JSON text, which is printable ASCII on
one line and is read as the value.

## Main definitions

* `Json.Representable` — a value that JSON represents
* `Json.Reads` — characters that are read as a value, whatever closes them

## Main results

* `Json.Representable.exists_write` — the text of such a value is read as the value
* `Json.Representable.read_write` — so writing and reading is the identity
-/

namespace GraphMapper.Json

/-- A value that JSON represents. -/
inductive Representable : Value → Prop
  /-- No value. -/
  | null : Representable .null
  /-- A truth value. -/
  | bool (b : Bool) : Representable (.bool b)
  /-- An integer of any size. -/
  | int (n : Int) : Representable (.int n)
  /-- A binary64 number, or what is not a number. -/
  | float (x : Binary64) : Representable (.float x)
  /-- A text. -/
  | text (s : String) : Representable (.text s)
  /-- A list. -/
  | list {items : List Value} (each : ∀ v ∈ items, Representable v) : Representable (.list items)
  /-- A mapping whose keys are texts. -/
  | map {entries : Value.Entries} (texts : ∀ e ∈ entries, ∃ key, e.1 = .text key)
    (distinct : (entries.map (·.1)).Nodup) (each : ∀ e ∈ entries, Representable e.2) :
    Representable (.map entries)

/-- Characters that are read as a value, whatever closes them. -/
structure Reads (v : Value) (cs : List Char) : Prop where
  /-- They begin neither with a blank nor with the end of a list. -/
  start : ∃ c more, cs = c :: more ∧ isSpace c = false ∧ c ≠ ']'
  /-- They are printable ASCII. -/
  plain : ∀ c ∈ cs, IsPlain c
  /-- They are read as the value. -/
  value : ∀ {fuel : Nat} {rest : List Char}, 2 * cs.length ≤ fuel → Closes rest →
    readValue fuel (cs ++ rest) = .ok (v, rest)

variable {v : Value} {cs rest : List Char} {fuel : Nat}

/-! ### Between values -/

theorem skipSpace_cons {c : Char} (visible : isSpace c = false) (rest : List Char) :
    skipSpace (c :: rest) = c :: rest := by
  simp [skipSpace, visible]

theorem skipSpace_blank (rest : List Char) : skipSpace (' ' :: rest) = skipSpace rest := rfl

theorem skipSpace_append (visible : ∃ c more, cs = c :: more ∧ isSpace c = false)
    (rest : List Char) : skipSpace (cs ++ rest) = cs ++ rest := by
  obtain ⟨c, more, rfl, visible⟩ := visible
  exact skipSpace_cons visible (more ++ rest)

theorem Reads.visible (reads : Reads v cs) : ∃ c more, cs = c :: more ∧ isSpace c = false := by
  obtain ⟨c, more, first, visible, -⟩ := reads.start
  exact ⟨c, more, first, visible⟩

/-- The characters of several items with commas and blanks between them. -/
abbrev separated (parts : List (List Char)) : List Char := List.intercalate [',', ' '] parts

theorem separated_singleton (cs : List Char) : separated [cs] = cs := by
  simp [separated, List.intercalate]

theorem separated_cons_cons (cs cs' : List Char) (parts : List (List Char)) :
    separated (cs :: cs' :: parts) = cs ++ ',' :: ' ' :: separated (cs' :: parts) := by
  simp [separated, List.intercalate]

/-- What items begin with is what the first of them begins with. -/
theorem exists_separated_eq {c : Char} {more : List Char} (start : cs = c :: more)
    (parts : List (List Char)) : ∃ more', separated (cs :: parts) = c :: more' := by
  rw [start]
  cases parts with
  | nil => exact ⟨more, separated_singleton _⟩
  | cons cs' parts => exact ⟨_, separated_cons_cons (c :: more) cs' parts⟩

theorem skipSpace_separated (visible : ∃ c more, cs = c :: more ∧ isSpace c = false)
    (parts : List (List Char)) (rest : List Char) :
    skipSpace (separated (cs :: parts) ++ rest) = separated (cs :: parts) ++ rest := by
  obtain ⟨c, more, start, visible⟩ := visible
  exact skipSpace_append ⟨c, _, (exists_separated_eq start parts).choose_spec, visible⟩ rest

theorem isPlain_of_mem_separated {parts : List (List Char)}
    (plain : ∀ cs ∈ parts, ∀ c ∈ cs, IsPlain c) : ∀ c ∈ separated parts, IsPlain c := by
  induction parts with
  | nil => simp [separated, List.intercalate]
  | cons cs parts ih =>
    obtain ⟨first, others⟩ := List.forall_mem_cons.1 plain
    cases parts with
    | nil => rwa [separated_singleton]
    | cons cs' parts =>
      intro c member
      rw [separated_cons_cons, List.mem_append, List.mem_cons, List.mem_cons] at member
      rcases member with front | rfl | rfl | back
      · exact first c front
      · decide
      · decide
      · exact ih others c back

theorem closes_cons {c : Char} (ends : c = ',' ∨ c = ']' ∨ c = '\x7d') (rest : List Char) :
    Closes (c :: rest) := by
  rintro d head
  obtain rfl := Option.some.inj head
  exact ends

/-! ### Words and numbers -/

/-- What begins neither like a text nor like a list or an object is a word or a number. -/
theorem readValue_word {c : Char} (quote : c ≠ '"') (bracket : c ≠ '[') (brace : c ≠ '\x7b')
    (fuel : Nat) (more : List Char) :
    readValue (fuel + 1) (c :: more) =
      (literal? (c :: more)).elim (readNumber (c :: more)) .ok := by
  rw [readValue]
  · cases literal? (c :: more) <;> rfl
  · rintro rest same
    exact quote (List.cons.inj same).1
  · rintro rest same
    exact bracket (List.cons.inj same).1
  · rintro rest same
    exact brace (List.cons.inj same).1

theorem literal?_of_mem {word : List Char} (known : (word, v) ∈ literals) (rest : List Char) :
    literal? (word ++ rest) = some (v, rest) := by
  simp only [literals, List.mem_cons, Prod.mk.injEq, List.not_mem_nil, or_false] at known
  rcases known with ⟨rfl, rfl⟩ | ⟨rfl, rfl⟩ | ⟨rfl, rfl⟩ | ⟨rfl, rfl⟩ | ⟨rfl, rfl⟩ | ⟨rfl, rfl⟩ <;>
    rfl

/-- A word is read as the value that it stands for. -/
theorem reads_literal {word : List Char} (known : (word, v) ∈ literals) : Reads v word := by
  have shape : ∃ c more, word = c :: more ∧ isSpace c = false ∧ c ≠ ']' ∧ c ≠ '"' ∧ c ≠ '[' ∧
      c ≠ '\x7b' ∧ ∀ d ∈ word, IsPlain d := by
    simp only [literals, List.mem_cons, Prod.mk.injEq, List.not_mem_nil, or_false] at known
    rcases known with ⟨rfl, -⟩ | ⟨rfl, -⟩ | ⟨rfl, -⟩ | ⟨rfl, -⟩ | ⟨rfl, -⟩ | ⟨rfl, -⟩ <;>
      exact ⟨_, _, rfl, by decide, by decide, by decide, by decide, by decide, by simp [IsPlain]⟩
  obtain ⟨c, more, rfl, visible, close, quote, bracket, brace, plain⟩ := shape
  refine ⟨⟨c, more, rfl, visible, close⟩, plain, fun {fuel rest} enough _ => ?_⟩
  obtain ⟨fuel, rfl⟩ : ∃ k, fuel = k + 1 := ⟨fuel - 1, by simp at enough; omega⟩
  have found := literal?_of_mem known rest
  rw [List.cons_append] at found ⊢
  rw [readValue_word quote bracket brace, found, Option.elim_some]

/-- A spelling is read as the number that it denotes. -/
theorem reads_spelling (s : Spelling) : Reads s.value s.text := by
  have shape : ∃ c more, s.text = c :: more ∧ isSpace c = false ∧ c ≠ ']' ∧ c ≠ '"' ∧ c ≠ '[' ∧
      c ≠ '\x7b' := by
    obtain ⟨d, more, digit, first | first⟩ := s.exists_text_eq
    · refine ⟨d, more, first, ?_⟩
      have differs (c : Char) (other : c.isDigit = false) : d ≠ c := by
        rintro rfl
        rw [digit] at other
        cases other
      simp [isSpace, differs]
    · exact ⟨'-', d :: more, first, by decide⟩
  obtain ⟨c, more, first, visible, close, quote, bracket, brace⟩ := shape
  refine ⟨⟨c, more, first, visible, close⟩, fun c member => Spelling.isPlain_of_mem_text member,
    fun {fuel rest} enough closes => ?_⟩
  obtain ⟨fuel, rfl⟩ : ∃ k, fuel = k + 1 := ⟨fuel - 1, by simp [first] at enough; omega⟩
  have word := s.literal?_text rest
  have number := s.readNumber_text closes
  rw [first, List.cons_append] at word number ⊢
  rw [readValue_word quote bracket brace, word, Option.elim_none, number]

/-- A text is read as what was written. -/
theorem reads_text (s : String) : Reads (.text s) (writeText s).toList := by
  refine ⟨⟨'"', _, toList_writeText s, by decide⟩, isPlain_of_mem_writeText s,
    fun {fuel rest} enough _ => ?_⟩
  rw [toList_writeText] at enough ⊢
  obtain ⟨fuel, rfl⟩ : ∃ k, fuel = k + 1 := ⟨fuel - 1, by simp at enough; omega⟩
  rw [List.cons_append, List.append_assoc, List.singleton_append, readValue, readText_writeText]

/-! ### Lists and mappings -/

theorem forall_mem_of_forall₂ {α β : Type} {R : α → β → Prop} {P : β → Prop} {xs : List α}
    {ys : List β} (related : List.Forall₂ R xs ys) (each : ∀ x y, R x y → P y) :
    ∀ y ∈ ys, P y := by
  induction related with
  | nil => simp
  | cons first _ ih => exact List.forall_mem_cons.2 ⟨each _ _ first, ih⟩

/-- Items that are read one by one are read as a list. -/
theorem readItems_separated {items : List Value} {parts : List (List Char)}
    (reads : List.Forall₂ Reads items parts) (some : items ≠ [])
    (enough : 2 * (separated parts).length + 1 ≤ fuel) :
    readItems fuel (separated parts ++ ']' :: rest) = .ok (items, rest) := by
  induction reads generalizing fuel with
  | nil => exact absurd rfl some
  | cons first others ih =>
    obtain ⟨fuel, rfl⟩ : ∃ k, fuel = k + 1 := ⟨fuel - 1, by omega⟩
    cases others with
    | nil =>
      rw [separated_singleton] at enough ⊢
      rw [readItems, first.value (by omega) (closes_cons (by decide) rest)]
      rfl
    | @cons v' cs' items parts next others =>
      rw [separated_cons_cons, List.length_append, List.length_cons, List.length_cons] at enough
      have later : readItems fuel (separated (cs' :: parts) ++ ']' :: rest) =
          .ok (v' :: items, rest) := ih (by simp) (by omega)
      rw [separated_cons_cons, List.append_assoc, List.cons_append, List.cons_append, readItems,
        first.value (by omega) (closes_cons (by decide) _)]
      simp only [skipSpace_cons (c := ',') (by decide), skipSpace_blank,
        skipSpace_separated next.visible, later]

/-- Characters that are read as an entry under a text. -/
def ReadsEntry (e : Value × Value) (cs : List Char) : Prop :=
  ∃ key part, e.1 = .text key ∧ Reads e.2 part ∧ cs = (writeText key).toList ++ ':' :: ' ' :: part

theorem ReadsEntry.visible {e : Value × Value} (reads : ReadsEntry e cs) :
    ∃ c more, cs = c :: more ∧ isSpace c = false := by
  obtain ⟨key, part, -, -, text⟩ := reads
  exact ⟨'"', _, by rw [text, toList_writeText, List.cons_append], by decide⟩

theorem ReadsEntry.plain {e : Value × Value} (reads : ReadsEntry e cs) : ∀ c ∈ cs, IsPlain c := by
  obtain ⟨key, part, -, value, text⟩ := reads
  rw [text, List.forall_mem_append, List.forall_mem_cons, List.forall_mem_cons]
  exact ⟨isPlain_of_mem_writeText key, by decide, by decide, value.plain⟩

/-- The last entry of an object is stored. -/
theorem readEntries_last (acc : Value.Entries) (key : String) (reads : Reads v cs)
    (enough : 2 * cs.length ≤ fuel) (left : List Char) :
    readEntries (fuel + 1) acc ((writeText key).toList ++ ':' :: ' ' :: cs ++ '\x7d' :: left) =
      .ok (Value.insert acc (.text key) v, left) := by
  have closes : Closes ('\x7d' :: left) := closes_cons (by decide) left
  rw [toList_writeText]
  simp only [List.cons_append, List.append_assoc, List.nil_append]
  rw [readEntries, readText_writeText]
  simp only [skipSpace_cons (c := ':') (by decide), skipSpace_blank,
    skipSpace_append reads.visible, reads.value enough closes,
    skipSpace_cons (c := '\x7d') (by decide)]

/-- Another entry of an object is stored, and the next one follows. -/
theorem readEntries_next (acc : Value.Entries) (key : String) (reads : Reads v cs)
    (enough : 2 * cs.length ≤ fuel) (more : List Char) :
    readEntries (fuel + 1) acc
        ((writeText key).toList ++ ':' :: ' ' :: cs ++ ',' :: ' ' :: more) =
      readEntries fuel (Value.insert acc (.text key) v) (skipSpace more) := by
  have closes : Closes (',' :: ' ' :: more) := closes_cons (by decide) (' ' :: more)
  rw [toList_writeText]
  simp only [List.cons_append, List.append_assoc, List.nil_append]
  rw [readEntries, readText_writeText]
  simp only [skipSpace_cons (c := ':') (by decide), skipSpace_blank,
    skipSpace_append reads.visible, reads.value enough closes,
    skipSpace_cons (c := ',') (by decide)]

/-- Entries that are read one by one are stored over those before them. -/
theorem readEntries_separated {entries acc : Value.Entries} {parts : List (List Char)}
    (reads : List.Forall₂ ReadsEntry entries parts) (some : entries ≠ [])
    (enough : 2 * (separated parts).length + 1 ≤ fuel) :
    readEntries fuel acc (separated parts ++ '\x7d' :: rest) =
      .ok (Value.merge acc entries, rest) := by
  induction reads generalizing fuel acc with
  | nil => exact absurd rfl some
  | @cons e _ _ _ first others ih =>
    obtain ⟨fuel, rfl⟩ : ∃ k, fuel = k + 1 := ⟨fuel - 1, by omega⟩
    obtain ⟨k, v⟩ := e
    obtain ⟨key, part, rfl, value, text⟩ := first
    rw [text] at enough ⊢
    cases others with
    | nil =>
      rw [separated_singleton, List.length_append, List.length_cons, List.length_cons] at enough
      rw [separated_singleton, readEntries_last acc key value (by omega)]
      rfl
    | @cons e' cs' entries parts next others =>
      rw [separated_cons_cons, List.length_append, List.length_append, List.length_cons,
        List.length_cons, List.length_cons, List.length_cons] at enough
      have later : readEntries fuel (Value.insert acc (.text key) v)
          (separated (cs' :: parts) ++ '\x7d' :: rest) =
            .ok (Value.merge (Value.insert acc (.text key) v) (e' :: entries), rest) :=
        ih (by simp) (by omega)
      rw [separated_cons_cons, List.append_assoc, List.cons_append, List.cons_append,
        readEntries_next acc key value (by omega), skipSpace_separated next.visible, later]
      rfl

/-- Items between brackets are read as a list. -/
theorem reads_list {items : List Value} {parts : List (List Char)}
    (reads : List.Forall₂ Reads items parts) :
    Reads (.list items) ('[' :: (separated parts ++ [']'])) := by
  refine ⟨⟨'[', _, rfl, by decide⟩, ?_, fun {fuel rest} enough _ => ?_⟩
  · have plain : ∀ cs ∈ parts, ∀ c ∈ cs, IsPlain c :=
      forall_mem_of_forall₂ reads fun v cs reads => reads.plain
    rw [List.forall_mem_cons, List.forall_mem_append, List.forall_mem_singleton]
    exact ⟨by decide, isPlain_of_mem_separated plain, by decide⟩
  · rw [List.length_cons, List.length_append, List.length_singleton] at enough
    obtain ⟨fuel, rfl⟩ : ∃ k, fuel = k + 1 := ⟨fuel - 1, by omega⟩
    rw [List.cons_append, List.append_assoc, List.singleton_append]
    cases reads with
    | nil => rfl
    | @cons v cs items parts first others =>
      have inside : readItems fuel (separated (cs :: parts) ++ ']' :: rest) =
          .ok (v :: items, rest) :=
        readItems_separated (.cons first others) (by simp) (by omega)
      obtain ⟨c, more, start, -, other⟩ := first.start
      obtain ⟨more', front⟩ := exists_separated_eq start parts
      rw [readValue, skipSpace_separated first.visible]
      rw [front, List.cons_append] at inside ⊢
      simp [other, inside]

/-- Entries between braces are read as a mapping. -/
theorem reads_map {entries : Value.Entries} {parts : List (List Char)}
    (distinct : (entries.map (·.1)).Nodup) (reads : List.Forall₂ ReadsEntry entries parts) :
    Reads (.map entries) ('\x7b' :: (separated parts ++ ['\x7d'])) := by
  refine ⟨⟨'\x7b', _, rfl, by decide⟩, ?_, fun {fuel rest} enough _ => ?_⟩
  · have plain : ∀ cs ∈ parts, ∀ c ∈ cs, IsPlain c :=
      forall_mem_of_forall₂ reads fun e cs reads => reads.plain
    rw [List.forall_mem_cons, List.forall_mem_append, List.forall_mem_singleton]
    exact ⟨by decide, isPlain_of_mem_separated plain, by decide⟩
  · rw [List.length_cons, List.length_append, List.length_singleton] at enough
    obtain ⟨fuel, rfl⟩ : ∃ k, fuel = k + 1 := ⟨fuel - 1, by omega⟩
    rw [List.cons_append, List.append_assoc, List.singleton_append]
    have texts : ∀ e ∈ entries, ∃ key, e.1 = .text key :=
      forall_mem_of_forall₂ reads.flip fun cs e reads => ⟨_, reads.choose_spec.choose_spec.1⟩
    cases reads with
    | nil => rfl
    | @cons e cs entries parts first others =>
      have inside : readEntries fuel [] (separated (cs :: parts) ++ '\x7d' :: rest) =
          .ok (e :: entries, rest) := by
        rw [readEntries_separated (.cons first others) (by simp) (by omega),
          Value.merge_eq_append texts distinct]
        rfl
      rw [readValue, skipSpace_separated first.visible]
      obtain ⟨key, part, -, -, start⟩ := first
      rw [toList_writeText, List.cons_append] at start
      obtain ⟨more, front⟩ := exists_separated_eq start parts
      rw [front, List.cons_append] at inside ⊢
      simp [inside]

/-! ### Writing and reading -/

/-- An integer is read as what was written. -/
theorem reads_int (n : Int) : Reads (.int n) (toString n).toList := by
  obtain ⟨s, spelled, denoted⟩ := exists_spelling_int n
  rw [spelled, ← denoted]
  exact reads_spelling s

/-- A binary64 number is read as what was written. -/
theorem reads_float (x : Binary64) : Reads (.float x) (writeFloat x).toList := by
  rcases x with - | ⟨negative, rank⟩
  · exact reads_literal (by simp [literals, writeFloat, Binary64.write, specialNames])
  · by_cases infinite : rank.val = Binary64.infinityRank
    · obtain rfl : rank = ⟨Binary64.infinityRank, Nat.lt_succ_self _⟩ := Fin.ext infinite
      rw [writeFloat, Binary64.write, if_pos rfl]
      cases negative <;> exact reads_literal (by simp [literals, Binary64.infinity, specialNames])
    · obtain ⟨s, spelled, denoted⟩ := exists_spelling_float negative infinite
      rw [spelled, ← denoted]
      exact reads_spelling s

theorem exists_reads_items {items : List Value}
    (each : ∀ v ∈ items, ∃ text, write v = .ok text ∧ Reads v text.toList) :
    ∃ parts, writeItems items = .ok parts ∧
      List.Forall₂ Reads items (parts.map String.toList) := by
  induction items with
  | nil => exact ⟨[], rfl, .nil⟩
  | cons v items ih =>
    obtain ⟨⟨text, written, reads⟩, others⟩ := List.forall_mem_cons.1 each
    obtain ⟨parts, written', reads'⟩ := ih others
    refine ⟨text :: parts, ?_, .cons reads reads'⟩
    rw [writeItems, written, written']
    rfl

theorem exists_reads_entries {entries : Value.Entries}
    (texts : ∀ e ∈ entries, ∃ key, e.1 = .text key)
    (each : ∀ e ∈ entries, ∃ text, write e.2 = .ok text ∧ Reads e.2 text.toList) :
    ∃ parts, writeEntries entries = .ok parts ∧
      List.Forall₂ ReadsEntry entries (parts.map String.toList) := by
  induction entries with
  | nil => exact ⟨[], rfl, .nil⟩
  | cons e entries ih =>
    obtain ⟨k, v⟩ := e
    obtain ⟨⟨key, rfl⟩, texts'⟩ := List.forall_mem_cons.1 texts
    obtain ⟨⟨text, written, reads⟩, others⟩ := List.forall_mem_cons.1 each
    obtain ⟨parts, written', reads'⟩ := ih texts' others
    refine ⟨(writeText key ++ ": " ++ text) :: parts, ?_, .cons ⟨key, _, rfl, reads, ?_⟩ reads'⟩
    · rw [writeEntries, keyText, written, written']
      rfl
    · simp

theorem toList_intercalate_parts (parts : List String) :
    (", ".intercalate parts).toList = separated (parts.map String.toList) := by
  rw [String.toList_intercalate]
  rfl

/-- A value that JSON represents has a text, which is read as the value. -/
theorem Representable.exists_write (represented : Representable v) :
    ∃ text, write v = .ok text ∧ Reads v text.toList := by
  induction represented with
  | null => exact ⟨"null", rfl, reads_literal (by simp [literals])⟩
  | bool b => cases b <;> exact ⟨_, rfl, reads_literal (by simp [literals])⟩
  | int n => exact ⟨_, rfl, reads_int n⟩
  | float x => exact ⟨_, rfl, reads_float x⟩
  | text s => exact ⟨_, rfl, reads_text s⟩
  | list each ih =>
    obtain ⟨parts, written, reads⟩ := exists_reads_items ih
    refine ⟨"[" ++ ", ".intercalate parts ++ "]", ?_, ?_⟩
    · rw [write, written]
      rfl
    · rw [String.toList_append, String.toList_append, toList_intercalate_parts]
      exact reads_list reads
  | map texts distinct each ih =>
    obtain ⟨parts, written, reads⟩ := exists_reads_entries texts ih
    refine ⟨"\x7b" ++ ", ".intercalate parts ++ "\x7d", ?_, ?_⟩
    · rw [write, written]
      rfl
    · rw [String.toList_append, String.toList_append, toList_intercalate_parts]
      exact reads_map distinct reads

/-- Characters that are read as a value, whatever closes them, are read as the value alone. -/
theorem Reads.read {text : String} (reads : Reads v text.toList) : read text = .ok v := by
  obtain ⟨c, more, start, visible, -⟩ := reads.start
  have ordinary : c ≠ '\ufeff' := by
    rintro rfl
    have plain := reads.plain _ (start ▸ List.mem_cons_self)
    exact absurd plain (by decide)
  have value := reads.value (Nat.le_add_right (2 * text.toList.length) 2) closes_nil
  rw [List.append_nil] at value
  have all : readAll text.toList = .ok v := by
    have blank := skipSpace_append ⟨c, more, start, visible⟩ []
    rw [List.append_nil] at blank
    have unmarked : (text.toList.head? == some '\ufeff') = false := by simpa [start] using ordinary
    rw [readAll, unmarked, blank, value]
    rfl
  rw [Json.read, all]

/-- What JSON represents is read as what was written. -/
theorem Representable.read_write (represented : Representable v) {text : String}
    (written : write v = .ok text) : read text = .ok v := by
  obtain ⟨text', written', reads⟩ := represented.exists_write
  obtain rfl := Except.ok.inj (written'.symm.trans written)
  exact reads.read

end GraphMapper.Json
