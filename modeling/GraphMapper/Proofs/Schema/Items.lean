import GraphMapper.Schema.Plan
import Mathlib.Data.List.Basic

/-!
# Names of what is created

A plan creates a list of items: objects of some kind on a label and a property. The name of an
object is put together from its label, its property and a word for its kind, with `_` between them
and `_` for every character that may not occur in a name. The kind can be told from the name. The
label and the property cannot: an underscore may stand for another character, and it may belong to
the label, to the property, or between them.

## Main definitions

* `Schema.Item` — what a label and a property are required to have
* `Schema.items` — the items of a plan
* `Schema.Item.ReadsLike`, `Schema.Item.RunsInto` — the two ways in which names look the same

## Main results

* `creates_eq_map` — a plan creates its items
* `Item.name_eq_iff` — when two items have the same name
* `Item.eq_of_name_eq` — labels of letters and digits keep the names apart
* `names_apart_iff` — when the names in a plan tell its items apart
-/

namespace GraphMapper.Schema

open Query (nameChars isNameChar)

/-! ### What a plan creates -/

/-- The kinds of objects that models require. -/
inductive Purpose where
  /-- A constraint that makes the values of a property unique. -/
  | unique
  /-- An index. -/
  | index
  /-- A constraint that a property is there. -/
  | existence
  deriving DecidableEq, Repr

/-- The word for a kind at the end of a name. -/
def Purpose.suffix : Purpose → String
  | .unique => "unique"
  | .index => "index"
  | .existence => "exists"

/-- What a label and a property are required to have. -/
structure Item where
  /-- The label. -/
  label : String
  /-- The property. -/
  property : String
  /-- What is required. -/
  purpose : Purpose
  deriving DecidableEq, Repr

namespace Item

/-- The name of the object that is created. -/
def name (i : Item) : String := objectName i.label i.property i.purpose.suffix

/-- The statement that creates it. -/
def statement (i : Item) : String :=
  match i.purpose with
  | .unique => createConstraint i.label i.property "unique" "IS UNIQUE"
  | .index => createIndex i.label i.property
  | .existence => createConstraint i.label i.property "exists" "IS NOT NULL"

end Item

/-- The items that a label requires. -/
def Requirement.items (enterprise : Bool) (r : Requirement) : List Item :=
  r.unique.map (fun p => ⟨r.label, p.display, .unique⟩)
    ++ r.index.map (fun p => ⟨r.label, p.display, .index⟩)
    ++ (if enterprise then r.existence.map fun p => ⟨r.label, p.display, .existence⟩ else [])

/-- The items that several labels require. -/
def items (enterprise : Bool) (requirements : List Requirement) : List Item :=
  requirements.flatMap (·.items enterprise)

variable {enterprise : Bool} {requirements : List Requirement}

theorem createsOf_eq_map (enterprise : Bool) (r : Requirement) :
    createsOf enterprise r = (r.items enterprise).map Item.statement := by
  rw [createsOf, Requirement.items, List.map_append, List.map_append, List.map_map, List.map_map]
  cases enterprise with
  | false => rfl
  | true =>
    rw [if_pos rfl, if_pos rfl, List.map_map]
    rfl

/-- A plan creates its items, one after the other. -/
theorem creates_eq_map (enterprise : Bool) (requirements : List Requirement) :
    creates enterprise requirements = (items enterprise requirements).map Item.statement := by
  rw [creates, items, List.map_flatMap]
  exact congrArg (requirements.flatMap ·) (funext fun r => createsOf_eq_map enterprise r)

theorem label_of_mem_items {r : Requirement} {i : Item} (member : i ∈ r.items enterprise) :
    i.label = r.label := by
  simp only [Requirement.items, List.mem_append, List.mem_map] at member
  rcases member with (⟨p, -, rfl⟩ | ⟨p, -, rfl⟩) | later
  · rfl
  · rfl
  · split at later
    · obtain ⟨p, -, rfl⟩ := List.mem_map.1 later
      rfl
    · cases later

/-! ### How names are put together -/

theorem nameChars_append (cs ds : List Char) :
    nameChars (cs ++ ds) = nameChars cs ++ nameChars ds :=
  List.map_append

theorem nameChars_underscore (cs : List Char) : nameChars ('_' :: cs) = '_' :: nameChars cs := rfl

theorem nameChars_eq_self {cs : List Char} (proper : ∀ c ∈ cs, isNameChar c = true) :
    nameChars cs = cs := by
  have each : ∀ c ∈ cs, (if isNameChar c then c else '_') = c := by
    intro c member
    rw [if_pos (proper c member)]
  rw [nameChars, List.map_congr_left each, List.map_id']

namespace Item

variable {i j : Item}

/-- The part of a name that comes from the label and the property. -/
def stem (i : Item) : List Char :=
  nameChars i.label.toList ++ '_' :: nameChars i.property.toList

theorem toList_name (i : Item) : i.name.toList = i.stem ++ '_' :: i.purpose.suffix.toList := by
  have suffix : nameChars i.purpose.suffix.toList = i.purpose.suffix.toList := by
    cases i.purpose <;> decide
  simp [name, objectName, stem, nameChars_append, nameChars_underscore, suffix]

/-- The last letter of a name tells what it is the name of. -/
theorem purpose_eq_of_name_eq (same : i.name = j.name) : i.purpose = j.purpose := by
  have ends (i : Item) : i.name.toList.getLast? = i.purpose.suffix.toList.getLast? := by
    rw [toList_name, List.getLast?_append_cons]
    cases i.purpose <;> rfl
  have last : i.purpose.suffix.toList.getLast? = j.purpose.suffix.toList.getLast? := by
    rw [← ends i, ← ends j, same]
  revert last
  cases i.purpose <;> cases j.purpose <;> decide

theorem name_eq_iff_stem_eq : i.name = j.name ↔ i.purpose = j.purpose ∧ i.stem = j.stem := by
  constructor
  · intro same
    have purpose := purpose_eq_of_name_eq same
    refine ⟨purpose, ?_⟩
    have spelled : i.stem ++ '_' :: i.purpose.suffix.toList =
        j.stem ++ '_' :: i.purpose.suffix.toList := by
      rw [← toList_name, same, toList_name, purpose]
    exact List.append_cancel_right spelled
  · rintro ⟨purpose, stem⟩
    apply String.toList_inj.1
    rw [toList_name, toList_name, purpose, stem]

/-- Label and property differ at most in characters that may not occur in a name. -/
def ReadsLike (i j : Item) : Prop :=
  nameChars i.label.toList = nameChars j.label.toList ∧
    nameChars i.property.toList = nameChars j.property.toList

/-- The first item's label continues the second one's behind an underscore, and the second one's
property starts with the continuation. -/
def RunsInto (i j : Item) : Prop :=
  ∃ more, nameChars i.label.toList = nameChars j.label.toList ++ '_' :: more ∧
    nameChars j.property.toList = more ++ '_' :: nameChars i.property.toList

theorem RunsInto.stem_eq (runs : i.RunsInto j) : i.stem = j.stem := by
  obtain ⟨more, label, property⟩ := runs
  rw [stem, stem, label, property, List.append_assoc, List.cons_append]

/-- If the first label continues the second one and the stems are the same, the items read alike or
the first runs into the second. -/
theorem readsLike_or_runsInto {more : List Char}
    (label : nameChars i.label.toList = nameChars j.label.toList ++ more)
    (rest : '_' :: nameChars j.property.toList = more ++ '_' :: nameChars i.property.toList) :
    i.ReadsLike j ∨ i.RunsInto j := by
  cases more with
  | nil =>
    left
    exact ⟨by rw [label, List.append_nil], (List.cons.inj rest).2.symm⟩
  | cons c more =>
    right
    obtain ⟨rfl, property⟩ := List.cons.inj rest
    exact ⟨more, label, property⟩

/-- Two items have the same name if they are of the same kind and read alike, or if one runs into
the other. -/
theorem name_eq_iff : i.name = j.name ↔
    i.purpose = j.purpose ∧ (i.ReadsLike j ∨ i.RunsInto j ∨ j.RunsInto i) := by
  rw [name_eq_iff_stem_eq]
  refine and_congr_right fun _ => ⟨fun same => ?_, ?_⟩
  · -- one of the labels continues the other
    rcases List.append_eq_append_iff.1 same with ⟨more, label, rest⟩ | ⟨more, label, rest⟩
    · rcases readsLike_or_runsInto label rest with ⟨label', property'⟩ | runs
      · exact .inl ⟨label'.symm, property'.symm⟩
      · exact .inr (.inr runs)
    · rcases readsLike_or_runsInto label rest with alike | runs
      · exact .inl alike
      · exact .inr (.inl runs)
  · rintro (⟨label, property⟩ | runs | runs)
    · rw [stem, stem, label, property]
    · exact runs.stem_eq
    · exact runs.stem_eq.symm

/-- The label has only letters and digits, and the property could itself be a name. -/
structure IsPlain (i : Item) : Prop where
  /-- The label has no underscore, and nothing that turns into one. -/
  label : ∀ c ∈ i.label.toList, c.isAlphanum = true
  /-- No character of the property turns into an underscore. -/
  property : ∀ c ∈ i.property.toList, isNameChar c = true

theorem IsPlain.nameChars_label (plain : i.IsPlain) :
    nameChars i.label.toList = i.label.toList := by
  refine nameChars_eq_self fun c member => ?_
  rw [isNameChar, plain.label c member, Bool.true_or]

theorem IsPlain.not_runsInto (plain : i.IsPlain) : ¬ i.RunsInto j := by
  rintro ⟨more, label, -⟩
  rw [plain.nameChars_label] at label
  have underscore : '_' ∈ i.label.toList := by
    rw [label]
    exact List.mem_append_right _ List.mem_cons_self
  exact absurd (plain.label '_' underscore) (by decide)

/-- Labels of letters and digits keep the names apart. -/
theorem eq_of_name_eq (plain : i.IsPlain) (plain' : j.IsPlain) (same : i.name = j.name) :
    i = j := by
  obtain ⟨purpose, alike | runs | runs⟩ := name_eq_iff.1 same
  · obtain ⟨label, property⟩ := alike
    rw [plain.nameChars_label, plain'.nameChars_label] at label
    rw [nameChars_eq_self plain.property, nameChars_eq_self plain'.property] at property
    cases i
    cases j
    simp_all [String.toList_inj]
  · exact absurd runs plain.not_runsInto
  · exact absurd runs plain'.not_runsInto

end Item

/-! ### The names in a plan -/

/-- A plan creates its items, and the names tell them apart exactly if no two items of the same kind
read alike or run into each other. -/
theorem names_apart_iff (enterprise : Bool) (requirements : List Requirement) :
    creates enterprise requirements = (items enterprise requirements).map Item.statement ∧
      ((∀ i ∈ items enterprise requirements, ∀ j ∈ items enterprise requirements,
          i.name = j.name → i = j) ↔
        ∀ i ∈ items enterprise requirements, ∀ j ∈ items enterprise requirements,
          i.purpose = j.purpose → i.ReadsLike j ∨ i.RunsInto j → i = j) := by
  refine ⟨creates_eq_map enterprise requirements, fun apart => ?_, fun apart => ?_⟩
  · intro i member j member' purpose alike
    refine apart i member j member' (Item.name_eq_iff.2 ⟨purpose, ?_⟩)
    rcases alike with alike | runs
    · exact .inl alike
    · exact .inr (.inl runs)
  · intro i member j member' same
    obtain ⟨purpose, alike | runs | runs⟩ := Item.name_eq_iff.1 same
    · exact apart i member j member' purpose (.inl alike)
    · exact apart i member j member' purpose (.inr runs)
    · exact (apart j member' i member purpose.symm (.inr runs)).symm

/-- An underscore in a label or in a property makes two different items look the same. -/
example : (Item.mk "A_b" "c" .unique).name = (Item.mk "A" "b_c" .unique).name := by
  decide +kernel

end GraphMapper.Schema
