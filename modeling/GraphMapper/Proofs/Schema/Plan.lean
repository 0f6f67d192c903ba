import GraphMapper.Schema.Plan

/-!
# What is planned

If the labels that a server reports are texts or null, planning does not fail, and the plan is a
selection of what was reported, in the order of the report.

## Main definitions

* `Schema.LiveEntry.Labelled` — an entry whose label is a text or null
* `Schema.plannedConstraintDrops`, `Schema.plannedIndexDrops` — the statements that are planned

## Main results

* `Schema.constraintDrops_eq`, `Schema.indexDrops_eq` — planning yields these statements
-/

namespace GraphMapper.Schema

namespace LiveEntry

/-- The label of the entry is a text or null. -/
def Labelled (e : LiveEntry) : Prop := e.label = .null ∨ ∃ label, e.label = .text label

/-- The entry is on one of the labels. -/
def isOn (labels : List String) (e : LiveEntry) : Bool :=
  match e.label with
  | .text label => labels.contains label
  | _ => false

end LiveEntry

/-- The statements that drop the unique constraints on some labels, in the order of the report. -/
def plannedConstraintDrops (labels : List String) (live : List LiveEntry) : List String :=
  (live.filter fun e => e.kind = .uniqueConstraint && e.isOn labels).map fun e =>
    "DROP CONSTRAINT " ++ e.name.display ++ " IF EXISTS"

/-- The statements that drop the indexes on some labels, in the order of the report. What belongs to
a constraint is left out. -/
def plannedIndexDrops (labels : List String) (live : List LiveEntry) : List String :=
  (live.filter fun e => e.kind = .index && e.isOn labels && !e.owned).map fun e =>
    "DROP INDEX " ++ e.name.display ++ " IF EXISTS"

variable {labels : List String} {live : List LiveEntry}

theorem targets_texts (labels : List String) :
    targets (labels.map .text) = .ok (labels.map .text) := by
  have none : (labels.map Value.text).find? (!·.hashable) = none := by
    simp [List.find?_eq_none, Value.hashable]
  rw [targets, none]

theorem isTarget_of_labelled {e : LiveEntry} (labelled : e.Labelled) :
    isTarget (labels.map .text) e.label = .ok (e.isOn labels) := by
  have among : ((labels.map Value.text).any (·.equals e.label)) = e.isOn labels := by
    rw [Bool.eq_iff_iff, List.any_map, List.any_eq_true, LiveEntry.isOn]
    rcases labelled with null | ⟨label, text⟩
    · simp [null, Value.equals, Value.number?]
    · simp [text, Value.equals]
  rcases labelled with null | ⟨label, text⟩
  · rw [isTarget, among, if_pos (by rw [null]; rfl)]
  · rw [isTarget, among, if_pos (by rw [text]; rfl)]

/-- Planning looks at one entry after the other, and drops those on the labels. -/
theorem dropsOf_eq (kind : EntryKind) (word : String) (skipOwned : Bool)
    (labelled : ∀ e ∈ live, e.Labelled) :
    dropsOf kind word skipOwned (labels.map .text) live =
      .ok ((live.filter fun e => e.kind = kind && e.isOn labels && !(skipOwned && e.owned)).map
        fun e => "DROP " ++ word ++ " " ++ e.name.display ++ " IF EXISTS") := by
  induction live with
  | nil => rfl
  | cons e live ih =>
    have later := ih fun e' member => labelled e' (List.mem_cons_of_mem e member)
    have hit : isTarget (labels.map .text) e.label = .ok (e.isOn labels) :=
      isTarget_of_labelled (labelled e List.mem_cons_self)
    rw [dropsOf]
    by_cases same : e.kind = kind
    · rw [if_pos same, hit, later, List.filter_cons]
      simp only [bind, Except.bind, same, decide_true, Bool.true_and]
      split <;> rfl
    · rw [if_neg same, later, List.filter_cons_of_neg (by simp [same])]

theorem constraintDrops_eq (labelled : ∀ e ∈ live, e.Labelled) :
    constraintDrops live (labels.map .text) = .ok (plannedConstraintDrops labels live) := by
  rw [constraintDrops, targets_texts]
  simp [Except.bind, dropsOf_eq _ _ _ labelled, plannedConstraintDrops]

theorem indexDrops_eq (labelled : ∀ e ∈ live, e.Labelled) :
    indexDrops live (labels.map .text) = .ok (plannedIndexDrops labels live) := by
  rw [indexDrops, targets_texts]
  simp [Except.bind, dropsOf_eq _ _ _ labelled, plannedIndexDrops]

end GraphMapper.Schema
