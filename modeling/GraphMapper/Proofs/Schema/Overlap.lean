import GraphMapper.Proofs.Results
import GraphMapper.Proofs.Schema.Declarations
import GraphMapper.Proofs.Schema.Items

/-!
# Properties that are unique and indexed

A unique constraint brings its own index, so a model requires no plain index on a property that is
unique. A plan puts together what several models require, one model after the other, and models may
share a label: what one of them requires unique another may require indexed. Nor does a model see
that two of its properties are written alike, such as a number and its digits. The statements of a
plan ask for both a unique constraint and an index on a property in these two cases only.

## Main definitions

* `Schema.Overlaps` — some property is made unique and indexed as well
* `Schema.Requirement.Disputes` — what one requirement makes unique another one indexes

## Main results

* `overlaps_items_iff` — a plan overlaps if two of its requirements, or twice the same, dispute a
  property
* `overlaps_creates_iff` — a plan for models overlaps if two models share a label and dispute a
  property, or if one model has two properties that are written alike
-/

namespace GraphMapper.Schema

variable {enterprise : Bool} {r s : Requirement} {rs : List Requirement}
  {label property : String}

/-- A property of a label is made unique, and a plain index is made on it as well. -/
def Overlaps (plan : List Item) : Prop :=
  ∃ label property, ⟨label, property, .unique⟩ ∈ plan ∧ ⟨label, property, .index⟩ ∈ plan

namespace Requirement

/-- Both requirements are for the same label, and a property that the first one makes unique is
written like one that the second one indexes. -/
def Disputes (r s : Requirement) : Prop :=
  r.label = s.label ∧ ∃ p ∈ r.unique, ∃ q ∈ s.index, p.display = q.display

/-- A property that is made unique is written like another one that is indexed. -/
def WritesAlike (r : Requirement) : Prop :=
  ∃ p ∈ r.unique, ∃ q ∈ r.index, p.equals q = false ∧ p.display = q.display

theorem unique_mem_items_iff : ⟨label, property, .unique⟩ ∈ r.items enterprise ↔
    r.label = label ∧ ∃ p ∈ r.unique, p.display = property := by
  cases enterprise <;> simp [items, and_left_comm]

theorem index_mem_items_iff : ⟨label, property, .index⟩ ∈ r.items enterprise ↔
    r.label = label ∧ ∃ p ∈ r.index, p.display = property := by
  cases enterprise <;> simp [items, and_left_comm]

/-- A property that is a text is written like no other text. -/
theorem not_writesAlike (texts : ∀ p ∈ r.unique ++ r.index, ∃ name, p = .text name) :
    ¬ r.WritesAlike := by
  rintro ⟨p, unique, q, indexed, differ, alike⟩
  obtain ⟨name, rfl⟩ := texts p (List.mem_append_left _ unique)
  obtain ⟨name', rfl⟩ := texts q (List.mem_append_right _ indexed)
  have same : (Value.text name).equals (.text name') = true :=
    Value.text_equals_iff.2 (congrArg Value.text alike)
  rw [differ] at same
  cases same

/-- What a model requires is disputed within the model only where two properties are written
alike. -/
theorem disputes_self_iff {m : Model} (computed : ofModel m = .ok r) :
    r.Disputes r ↔ r.WritesAlike := by
  constructor
  · rintro ⟨-, p, unique, q, indexed, alike⟩
    exact ⟨p, unique, q, indexed, apart_of_ofModel computed unique indexed, alike⟩
  · rintro ⟨p, unique, q, indexed, -, alike⟩
    exact ⟨rfl, p, unique, q, indexed, alike⟩

end Requirement

/-- A plan overlaps exactly if two of its requirements, or twice the same, dispute a property. -/
theorem overlaps_items_iff :
    Overlaps (items enterprise rs) ↔ ∃ r ∈ rs, ∃ s ∈ rs, r.Disputes s := by
  simp only [Overlaps, items, List.mem_flatMap, Requirement.unique_mem_items_iff,
    Requirement.index_mem_items_iff]
  constructor
  · rintro ⟨label, property, ⟨r, member, same, p, unique, written⟩,
      ⟨s, member', same', q, indexed, written'⟩⟩
    exact ⟨r, member, s, member', same.trans same'.symm, p, unique, q, indexed,
      written.trans written'.symm⟩
  · rintro ⟨r, member, s, member', same, p, unique, q, indexed, alike⟩
    exact ⟨r.label, p.display, ⟨r, member, rfl, p, unique, rfl⟩,
      ⟨s, member', same.symm, q, indexed, alike.symm⟩⟩

/-- Every requirement that is computed for some models is the one of a model. -/
theorem exists_ofModel_of_requirements {models : List Model}
    (computed : Schema.requirements models = .ok rs) (member : r ∈ rs) :
    ∃ m ∈ models, Requirement.ofModel m = .ok r := by
  rw [Schema.requirements] at computed
  cases each : models.mapM Requirement.ofModel with
  | error fault =>
    rw [each] at computed
    cases computed
  | ok found =>
    rw [each] at computed
    cases computed
    exact exists_of_mem_mapM each member

/-- The statements of a plan for models make a property unique and indexed as well exactly if two
models share a label and one of them requires unique what the other one requires indexed, or if one
model requires unique what is written like another property that it requires indexed. So a property
is not made both as long as no label is shared and all properties are texts. -/
theorem overlaps_creates_iff {models : List Model}
    (computed : Schema.requirements models = .ok rs) (enterprise : Bool) :
    creates enterprise rs = (items enterprise rs).map Item.statement ∧
      (Overlaps (items enterprise rs) ↔
        (∃ (k l : Nat) (r s : Requirement),
          k ≠ l ∧ rs[k]? = some r ∧ rs[l]? = some s ∧ r.Disputes s) ∨
        ∃ r ∈ rs, r.WritesAlike) ∧
      ((rs.map (·.label)).Nodup →
        (∀ r ∈ rs, ∀ p ∈ r.unique ++ r.index, ∃ name, p = .text name) →
        ¬ Overlaps (items enterprise rs)) := by
  have split : Overlaps (items enterprise rs) ↔
      (∃ (k l : Nat) (r s : Requirement),
        k ≠ l ∧ rs[k]? = some r ∧ rs[l]? = some s ∧ r.Disputes s) ∨
      ∃ r ∈ rs, r.WritesAlike := by
    rw [overlaps_items_iff]
    constructor
    · rintro ⟨r, member, s, member', disputed⟩
      obtain ⟨k, found⟩ := List.mem_iff_getElem?.1 member
      obtain ⟨l, found'⟩ := List.mem_iff_getElem?.1 member'
      by_cases same : k = l
      · -- the dispute is within one model
        subst same
        obtain rfl : r = s := Option.some.inj (found.symm.trans found')
        obtain ⟨m, -, read⟩ := exists_ofModel_of_requirements computed member
        exact .inr ⟨r, member, (Requirement.disputes_self_iff read).1 disputed⟩
      · exact .inl ⟨k, l, r, s, same, found, found', disputed⟩
    · rintro (⟨k, l, r, s, -, found, found', disputed⟩ | ⟨r, member, alike⟩)
      · exact ⟨r, List.mem_of_getElem? found, s, List.mem_of_getElem? found', disputed⟩
      · obtain ⟨m, -, read⟩ := exists_ofModel_of_requirements computed member
        exact ⟨r, member, r, member, (Requirement.disputes_self_iff read).2 alike⟩
  refine ⟨creates_eq_map enterprise rs, split, fun apart texts overlaps => ?_⟩
  rcases split.1 overlaps with ⟨k, l, r, s, differ, found, found', same, -⟩ | ⟨r, member, alike⟩
  · -- the labels are the same at both positions
    have labels : (rs.map (·.label))[k]? = (rs.map (·.label))[l]? := by
      rw [List.getElem?_map, List.getElem?_map, found, found', Option.map_some, Option.map_some,
        same]
    obtain ⟨within, -⟩ := List.getElem?_eq_some_iff.1 found
    exact differ ((List.getElem?_inj (by rwa [List.length_map]) apart).1 labels)
  · exact Requirement.not_writesAlike (texts r member) alike

/-- Two models for one label, of which the first one makes unique what the second one indexes. -/
theorem overlaps_creates_iff_shared :
    let user (name : String) (unique : Bool) : Model :=
      { name, labelOverride := some "User",
        properties := [("mail", { index := .flag true, unique })] }
    let rs : List Requirement :=
      [⟨"User", .text "id", [.text "id", .text "mail"], [], [.text "id"]⟩,
        ⟨"User", .text "id", [.text "id"], [.text "mail"], [.text "id"]⟩]
    Schema.requirements [user "Member" true, user "Guest" false] = .ok rs ∧
      Overlaps (items false rs) ∧ (items false rs).map Item.statement =
        ["CREATE CONSTRAINT User_id_unique IF NOT EXISTS FOR (n:User) REQUIRE n.id IS UNIQUE",
          "CREATE CONSTRAINT User_mail_unique IF NOT EXISTS FOR (n:User) REQUIRE n.mail IS UNIQUE",
          "CREATE CONSTRAINT User_id_unique IF NOT EXISTS FOR (n:User) REQUIRE n.id IS UNIQUE",
          "CREATE INDEX User_mail_index IF NOT EXISTS FOR (n:User) ON (n.mail)"] := by
  intro user rs
  have computed : Schema.requirements [user "Member" true, user "Guest" false] = .ok rs := by
    with_unfolding_all rfl
  have disputed : Requirement.Disputes rs[0] rs[1] :=
    ⟨rfl, .text "mail", List.mem_cons_of_mem _ List.mem_cons_self, .text "mail",
      List.mem_cons_self, rfl⟩
  obtain ⟨-, split, -⟩ := overlaps_creates_iff computed false
  exact ⟨computed, split.2 (.inl ⟨0, 1, rs[0], rs[1], Nat.zero_ne_one, rfl, rfl, disputed⟩),
    by decide +kernel⟩

end GraphMapper.Schema
