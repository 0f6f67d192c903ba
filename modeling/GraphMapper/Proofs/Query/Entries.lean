import GraphMapper.Proofs.Text.Trim
import GraphMapper.Proofs.Value.Entries
import GraphMapper.Query.Projection
import Mathlib.Data.List.Nodup

/-!
# Spellings of sort orders and projections

A sort order and a projection may each be written as one text with commas in it or as a sequence of
texts, and a projection also as a mapping of names to truth values. Whatever they are written as,
they are read from the same entries: the parts, without the blanks around them and without those
that are blank.

## Main definitions

* `Query.Spells` — the parts that a text or a sequence is made of
* `Query.IsListing` — the values that have parts
* `Query.Projection.chosen` — names that are mapped to true

## Main results

* `Entries.split_intercalate`, `Entries.intercalate_split` — parts without commas are what a text
  with commas between them is split into
* `SortKey.tokens_of_spells` — what the entries of a sort order are
* `Projection.spellings_agree` — a text with commas, a list and a mapping of names to true are read
  alike
-/

namespace GraphMapper.Query

namespace Entries

variable {texts : List String}

/-! ### Parts between commas -/

theorem partsOf_eq_splitOn (cs : List Char) : Text.partsOf ',' cs = cs.splitOn ',' := by
  induction cs with
  | nil => rfl
  | cons c cs ih =>
    rw [Text.partsOf, List.splitOn_cons_eq_if_modifyHead, ih]
    by_cases comma : c = ','
    · simp [comma]
    · cases parts : cs.splitOn ',' with
      | nil => exact absurd (ih.trans parts) (Text.partsOf_ne_nil ',' cs)
      | cons part rest => simp [comma]

/-- A text is its parts with commas between them. -/
theorem intercalate_split (s : String) : ",".intercalate (split s) = s := by
  rw [← String.toList_inj, String.toList_intercalate, split, Text.parts, List.map_map]
  have same : (String.toList ∘ String.ofList) = id := by
    funext cs
    simp
  rw [same, List.map_id, partsOf_eq_splitOn]
  exact List.intercalate_splitOn ','

/-- Parts without commas are found again when there are commas between them. -/
theorem split_intercalate (some : texts ≠ []) (plain : ∀ t ∈ texts, ',' ∉ t.toList) :
    split (",".intercalate texts) = texts := by
  have plain' : ∀ cs ∈ texts.map String.toList, ',' ∉ cs := List.forall_mem_map.2 plain
  have parts := List.splitOn_intercalate ',' plain' (by simpa using some)
  rw [split, Text.parts, partsOf_eq_splitOn, String.toList_intercalate]
  change ((([','] : List Char).intercalate (texts.map String.toList)).splitOn ',').map _ = texts
  rw [parts, List.map_map]
  simp [Function.comp_def]

theorem comma_notMem_of_mem_partsOf {cs part : List Char} (member : part ∈ Text.partsOf ',' cs) :
    ',' ∉ part := by
  induction cs generalizing part with
  | nil => simp_all [Text.partsOf]
  | cons c cs ih =>
    rw [Text.partsOf] at member
    split at member
    · rcases List.mem_cons.1 member with rfl | later
      · simp
      · exact ih later
    · next other =>
      split at member
      · next none => exact absurd none (Text.partsOf_ne_nil ',' cs)
      · next first rest parts =>
        rw [parts] at ih
        rcases List.mem_cons.1 member with rfl | later
        · simpa [Ne.symm other] using ih List.mem_cons_self
        · exact ih (List.mem_cons_of_mem first later)

/-! ### Trimmed entries -/

@[simp] theorem trimmed_nil : trimmed [] = [] := rfl

@[simp] theorem trimmed_append (texts more : List String) :
    trimmed (texts ++ more) = trimmed texts ++ trimmed more := by
  simp [trimmed]

theorem trimmed_cons_of_blank {t : String} (blank : Text.trim t = "") (texts : List String) :
    trimmed (t :: texts) = trimmed texts := by
  simp [trimmed, blank]

theorem trimmed_cons_of_ne {t : String} (filled : Text.trim t ≠ "") (texts : List String) :
    trimmed (t :: texts) = Text.trim t :: trimmed texts := by
  simp [trimmed, filled]

/-- Every entry is trimmed. -/
theorem isTrimmed_of_mem_trimmed {t : String} (member : t ∈ trimmed texts) : Text.IsTrimmed t := by
  obtain ⟨mapped, filled⟩ := List.mem_filter.1 member
  obtain ⟨text, -, rfl⟩ := List.mem_map.1 mapped
  exact Text.isTrimmed_trim (by simpa using filled)

end Entries

/-- The parts of a text lie between its commas, and those of a sequence are its items as they are
written. -/
inductive Spells : Value → List String → Prop
  /-- Parts without commas, with commas between them. -/
  | joined {texts : List String} : texts ≠ [] → (∀ t ∈ texts, ',' ∉ t.toList) →
      Spells (.text (",".intercalate texts)) texts
  /-- The items of a list. -/
  | list (items : List Value) : Spells (.list items) (items.map (·.display))
  /-- The items of a tuple. -/
  | tuple (items : List Value) : Spells (.tuple items) (items.map (·.display))

/-- The values that have parts: texts and sequences. -/
def IsListing : Value → Prop
  | .text _ | .list _ | .tuple _ => True
  | _ => False

/-- Every text has parts. -/
theorem spells_split (s : String) : Spells (.text s) (Entries.split s) := by
  have plain : ∀ t ∈ Entries.split s, ',' ∉ t.toList := by
    intro t member
    obtain ⟨cs, part, rfl⟩ := List.mem_map.1 member
    simpa using Entries.comma_notMem_of_mem_partsOf part
  have some : Entries.split s ≠ [] := by
    simpa [Entries.split, Text.parts] using Text.partsOf_ne_nil ',' s.toList
  have spelled := Spells.joined some plain
  rwa [Entries.intercalate_split] at spelled

theorem IsListing.exists_spells {v : Value} (listing : IsListing v) : ∃ texts, Spells v texts := by
  cases v with
  | text s => exact ⟨_, spells_split s⟩
  | list items => exact ⟨_, .list items⟩
  | tuple items => exact ⟨_, .tuple items⟩
  | _ => cases listing

namespace SortKey

variable {o : Options} {order : Value} {ts texts : List String}

/-- The entries of a sort order are its parts without the blanks around them, leaving out the blank
ones. -/
theorem tokens_of_spells (spelled : Spells order texts) :
    tokens order = .ok (Entries.trimmed texts) := by
  cases spelled with
  | joined some plain => rw [tokens, Entries.split_intercalate some plain]
  | list items | tuple items => rfl

/-- A sort order is read entry by entry; one that counts as false has none. -/
theorem ofOrder_of_tokens (listed : tokens order = .ok ts) :
    ofOrder o order = ts.mapM (ofToken o) := by
  rw [ofOrder]
  split
  · rw [listed]
    rfl
  · next falsy =>
    -- only an empty text and an empty sequence count as false
    have none : ts = [] := by
      cases order with
      | text s =>
        have empty : s = "" := by simpa [Value.truthy] using falsy
        subst empty
        cases listed
        rfl
      | list items | tuple items =>
        have empty : items = [] := by simpa [Value.truthy] using falsy
        subst empty
        cases listed
        rfl
      | _ => cases listed
    subst none
    rfl

end SortKey

namespace Projection

variable {fields : Value} {texts names known : List String}

theorem ofFields_of_spells (spelled : Spells fields texts) :
    ofFields fields = .ok (Entries.trimmed texts) := by
  have falsy {v : Value} (empty : Entries.trimmed texts = [])
      (none : v.truthy = false) : ofFields v = .ok (Entries.trimmed texts) := by
    simp [ofFields, none, empty]
  cases spelled with
  | joined some plain =>
    have parts := Entries.split_intercalate some plain
    by_cases empty : ",".intercalate texts = ""
    · refine falsy ?_ (by simp [Value.truthy, empty])
      rw [← parts, empty]
      rfl
    · rw [ofFields, if_pos (by simpa [Value.truthy] using empty), parts]
  | list items =>
    cases items with
    | nil => rfl
    | cons v rest => rfl
  | tuple items =>
    cases items with
    | nil => rfl
    | cons v rest => rfl

/-! ### Names mapped to true -/

/-- Names that are mapped to true. -/
def chosen (names : List String) : Value.Entries := names.map fun name => (.text name, .bool true)

theorem kept_chosen (names : List String) : kept (chosen names) = names := by
  induction names with
  | nil => rfl
  | cons name rest ih => exact congrArg (name :: ·) ih

theorem ofFields_chosen (names : List String) :
    ofFields (.map (chosen names)) = .ok (Entries.trimmed names) := by
  cases names with
  | nil => rfl
  | cons name rest =>
    change Except.ok (Entries.trimmed (kept (chosen (name :: rest)))) = _
    rw [kept_chosen]

/-- A name that is mapped to true once more changes nothing, and a new one goes to the end. -/
theorem insert_chosen (names : List String) (name : String) :
    Value.insert (chosen names) (.text name) (.bool true) =
      chosen (if name ∈ names then names else names ++ [name]) := by
  induction names with
  | nil => rfl
  | cons first rest ih =>
    change (if (Value.text first).equals (.text name) = true then _ else _) = _
    by_cases same : first = name
    · simp [same, Value.equals_text_iff, chosen]
    · have apart : ¬ (Value.text first).equals (.text name) = true := by
        simpa [Value.equals_text_iff] using same
      rw [if_neg apart]
      change _ :: Value.insert (chosen rest) _ _ = _
      rw [ih]
      have other : name ≠ first := fun equal => same equal.symm
      by_cases later : name ∈ rest <;> simp [chosen, later, other]

/-- If no entry occurs twice, mapping the names to true one after the other loses none. -/
theorem exists_merge_chosen (distinct : (Entries.trimmed (known ++ names)).Nodup) :
    ∃ all, Value.merge (chosen known) (chosen names) = chosen all ∧
      Entries.trimmed all = Entries.trimmed (known ++ names) := by
  induction names generalizing known with
  | nil => exact ⟨known, rfl, by simp⟩
  | cons name rest ih =>
    change ∃ all, Value.merge (Value.insert (chosen known) _ _) (chosen rest) = _ ∧ _
    rw [insert_chosen]
    split
    · next again =>
      -- a name that is known already is blank, or its entry would occur twice
      have blank : Text.trim name = "" := by
        by_contra filled
        have first : Text.trim name ∈ Entries.trimmed known := by
          refine List.mem_filter.2 ⟨List.mem_map_of_mem again, ?_⟩
          simpa using filled
        rw [Entries.trimmed_append, Entries.trimmed_cons_of_ne filled,
          List.nodup_append] at distinct
        exact distinct.2.2 _ first _ List.mem_cons_self rfl
      have skipped : Entries.trimmed (known ++ name :: rest) = Entries.trimmed (known ++ rest) := by
        rw [Entries.trimmed_append, Entries.trimmed_cons_of_blank blank, Entries.trimmed_append]
      rw [skipped] at distinct ⊢
      exact ih distinct
    · have appended : known ++ name :: rest = known ++ [name] ++ rest := by simp
      rw [appended] at distinct ⊢
      exact ih distinct

/-- Names without commas are read alike, as a sort order and as a projection, whether they stand in
a list or in a text with commas between them. The same projection is read from a mapping of the
names to true, provided that no entry occurs twice. -/
theorem spellings_agree (o : Options) {names : List String}
    (plain : ∀ name ∈ names, ',' ∉ name.toList) :
    let listed : Value := .list (names.map .text)
    let joined : Value := .text (",".intercalate names)
    SortKey.ofOrder o listed = SortKey.ofOrder o joined ∧ ofFields listed = ofFields joined ∧
      ((Entries.trimmed names).Nodup →
        ofFields (.map (Value.merge [] (chosen names))) = ofFields listed) := by
  intro listed joined
  have list : Spells listed names := by
    have spelled := Spells.list (names.map .text)
    rwa [List.map_map, show ((·.display) ∘ Value.text : String → String) = id from rfl,
      List.map_id] at spelled
  -- a text without any part is empty, and so is the only part of an empty text
  obtain ⟨texts, text, same⟩ :
      ∃ texts, Spells joined texts ∧ Entries.trimmed texts = Entries.trimmed names := by
    by_cases some : names = []
    · subst some
      exact ⟨[""], Spells.joined (List.cons_ne_nil "" []) (by simp), rfl⟩
    · exact ⟨names, .joined some plain, rfl⟩
  refine ⟨?_, ?_, fun distinct => ?_⟩
  · rw [SortKey.ofOrder_of_tokens (SortKey.tokens_of_spells list),
      SortKey.ofOrder_of_tokens (SortKey.tokens_of_spells text), same]
  · rw [ofFields_of_spells list, ofFields_of_spells text, same]
  · have distinct' : (Entries.trimmed ([] ++ names)).Nodup := distinct
    obtain ⟨all, merged, kept⟩ := exists_merge_chosen distinct'
    rw [ofFields_of_spells list]
    change ofFields (.map (Value.merge (chosen []) (chosen names))) = _
    rw [merged, ofFields_chosen, kept]
    rfl

/-- Two names among blanks, one of which is mapped to true only once though it stands there twice;
as a sort order they are read strictly. -/
theorem spellings_agree_blanks :
    let strict : Options := { strictDirection := true }
    let names := [" title", "", "id\t", "   ", ""]
    let listed : Value := .list [.text " title", .text "", .text "id\t", .text "   ", .text ""]
    let joined : Value := .text " title,,id\t,   ,"
    let mapped : Value := .map [(.text " title", .bool true), (.text "", .bool true),
      (.text "id\t", .bool true), (.text "   ", .bool true)]
    (∀ name ∈ names, ',' ∉ name.toList) ∧ (Entries.trimmed names).Nodup ∧
      SortKey.ofOrder strict listed = SortKey.ofOrder strict joined ∧
      ofFields listed = ofFields joined ∧ ofFields mapped = ofFields listed ∧
      ofFields joined = .ok ["title", "id"] := by
  intro strict names listed joined mapped
  have plain : ∀ name ∈ names, ',' ∉ name.toList := by decide
  have distinct : (Entries.trimmed names).Nodup := by decide +kernel
  have read : ofFields joined = .ok ["title", "id"] := by rfl
  have merged : .map (Value.merge [] (chosen names)) = mapped := by
    simp [names, mapped, chosen, Value.merge, Value.insert, Value.equals_text_iff]
  obtain ⟨sorted, projected, all⟩ := spellings_agree strict plain
  exact ⟨plain, distinct, sorted, projected, merged ▸ all distinct, read⟩

end Projection

end GraphMapper.Query
