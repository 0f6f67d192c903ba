import GraphMapper.Proofs.Schema.Effects
import GraphMapper.Proofs.Schema.Memory

/-!
# Migrations converge

A full migration in which no call fails leaves what the models require on their labels, and
everything else as it was. Migrating again changes nothing.

## Main definitions

* `Schema.Fits` — a catalogue in which names do not get in the way of what is required
* `Schema.settled` — a catalogue in which the target labels have only what is required
* `Schema.Converged` — what a migration has done to a catalogue
* `Schema.Migrator.FaultFree` — a run in which no call raises a fault

## Main results

* `Fits.settled` — names do not get in the way afterwards either
* `settled_settled` — what is settled stays as it is
* `Migrator.Keeps.ensures_migrate` — a migration settles the catalogue
* `Migrator.migrate_converges` — a migration converges
-/

namespace GraphMapper.Schema

open Act
open Query (isIdentifier)

variable {σ : Type} {foreign : Char → Bool} {c : Set Object} {labels : List String}
  {wanted : List Item}

/-! ### Settled catalogues -/

/-- Names do not get in the way when the target labels of the catalogue are cleared and what is
wanted is created. -/
structure Fits (foreign : Char → Bool) (c : Set Object) (labels : List String)
    (wanted : List Item) : Prop where
  /-- The objects have names of their own. -/
  named : IsNamed foreign c
  /-- Labels and properties are identifiers. -/
  spelled : ∀ i ∈ wanted, isIdentifier foreign i.label.toList = true ∧
    isIdentifier foreign i.property.toList = true
  /-- Different items have different names. -/
  apart : ∀ i ∈ wanted, ∀ j ∈ wanted, i.name = j.name → i = j
  /-- What is left has the name of an item only if it is what the item requires. -/
  free : ∀ o ∈ survivors c labels, ∀ i ∈ wanted, o.name = i.name → o = i.object

/-- What is there when the target labels have been cleared and what is wanted has been created. -/
def settled (c : Set Object) (labels : List String) (wanted : List Item) : Set Object :=
  {o | o ∈ survivors c labels ∨ ∃ i ∈ wanted, o = i.object}

/-- What is settled stays as it is. -/
theorem settled_settled (c : Set Object) (labels : List String) (wanted : List Item) :
    settled (settled c labels wanted) labels wanted = settled c labels wanted := by
  ext o
  constructor
  · rintro (⟨there, -⟩ | required)
    · exact there
    · exact .inr required
  · rintro (survives | required)
    · exact .inl ⟨.inl survives, survives.2⟩
    · exact .inr required

/-- Names do not get in the way in a settled catalogue. -/
theorem Fits.settled (fits : Fits foreign c labels wanted) :
    Fits foreign (settled c labels wanted) labels wanted where
  named := by
    constructor
    · rintro o (survives | ⟨i, required, rfl⟩)
      · exact fits.named.identified o survives.1
      · exact Item.isIdentifier_name (fits.spelled i required).1
    · rintro o (survives | ⟨i, required, rfl⟩) o' (survives' | ⟨j, required', rfl⟩) same
      · exact fits.named.distinct o survives.1 o' survives'.1 same
      · exact fits.free o survives j required' same
      · exact (fits.free o' survives' i required same.symm).symm
      · rw [fits.apart i required j required' same]
  spelled := fits.spelled
  apart := fits.apart
  free := by
    rintro o ⟨survives | ⟨j, required', rfl⟩, -⟩ i required same
    · exact fits.free o survives i required same
    · rw [fits.apart j required' i required same]

/-- What a migration has done to a catalogue. -/
structure Converged (c c' : Set Object) (labels : List String) (wanted : List Item) : Prop where
  /-- The unique constraints and the free-standing indexes on the target labels are those that are
  wanted. -/
  exact : ∀ portion, {o | o ∈ c' ∧ o.IsTarget portion labels} =
    {o | ∃ i ∈ wanted, i.purpose = portion.purpose ∧ o = i.object}
  /-- On other labels nothing has changed. -/
  unrelated : ∀ o, o.label ∉ labels → (o ∈ c' ↔ o ∈ c)
  /-- Other constraints on the target labels have stayed, and only those have been added that are
  wanted. -/
  kept : ∀ o, (∀ portion, ¬ o.IsTarget portion labels) →
    (o ∈ c' ↔ o ∈ c ∨ ∃ i ∈ wanted, i.purpose = .existence ∧ o = i.object)

theorem Item.isTarget_object_iff {i : Item} (targeted : i.label ∈ labels) (portion : Portion) :
    i.object.IsTarget portion labels ↔ i.purpose = portion.purpose := by
  rw [Object.IsTarget, and_iff_left (show i.object.label ∈ labels from targeted), Item.object]
  simp

/-- A catalogue has converged if it is settled and all items are on target labels. -/
theorem converged_settled (c : Set Object) (targeted : ∀ i ∈ wanted, i.label ∈ labels) :
    Converged c (settled c labels wanted) labels wanted where
  exact := by
    intro portion
    ext o
    constructor
    · rintro ⟨survives | ⟨i, required, rfl⟩, target⟩
      · exact absurd target (survives.2 portion)
      · exact ⟨i, required, (Item.isTarget_object_iff (targeted i required) portion).1 target, rfl⟩
    · rintro ⟨i, required, purpose, rfl⟩
      exact ⟨.inr ⟨i, required, rfl⟩,
        (Item.isTarget_object_iff (targeted i required) portion).2 purpose⟩
  unrelated := by
    intro o elsewhere
    constructor
    · rintro (survives | ⟨i, required, rfl⟩)
      · exact survives.1
      · exact absurd (targeted i required) elsewhere
    · intro there
      exact .inl ⟨there, fun portion target => elsewhere target.2⟩
  kept := by
    intro o other
    constructor
    · rintro (survives | ⟨i, required, rfl⟩)
      · exact .inl survives.1
      · right
        refine ⟨i, required, ?_, rfl⟩
        -- the item is neither of the kinds that are dropped
        have unique := mt (Item.isTarget_object_iff (targeted i required) .constraints).2
          (other .constraints)
        have index := mt (Item.isTarget_object_iff (targeted i required) .indexes).2
          (other .indexes)
        cases purpose : i.purpose <;> simp_all [Portion.purpose]
    · rintro (there | ⟨i, required, -, rfl⟩)
      · exact .inl ⟨there, other⟩
      · exact .inr ⟨i, required, rfl⟩

/-! ### Full migrations -/

theorem label_mem_labelsOf {enterprise : Bool} {requirements : List Requirement} {i : Item}
    (required : i ∈ items enterprise requirements) :
    i.label ∈ Migrator.labelsOf requirements := by
  obtain ⟨r, member, from'⟩ := List.mem_flatMap.1 required
  rw [Migrator.labelsOf, List.mem_eraseDups, label_of_mem_items from']
  exact List.mem_map_of_mem member

namespace Migrator

variable {m : Migrator σ} {catalogue : σ → Set Object} {models : List Model}
  {requirements : List Requirement}

theorem Keeps.labelled (keeps : m.Keeps foreign catalogue) : Labelled m.inspector := by
  intro portion server live asked e member
  obtain ⟨-, rows, read, -⟩ := keeps.reports portion server live _ (Prod.ext asked rfl)
  rw [portion.mapM_read_records] at read
  cases read
  obtain ⟨r, -, rfl⟩ := List.mem_map.1 member
  exact r.labelled_entry portion

/-- A full migration settles the catalogue: it clears the target labels and then creates what the
models require. -/
theorem Keeps.ensures_migrate (keeps : m.Keeps foreign catalogue)
    (computed : Schema.requirements models = .ok requirements)
    (fits : Fits foreign c (labelsOf requirements) (items m.enterprise requirements)) :
    Ensures (fun run => catalogue run.server = c) (m.migrate .fullMigrate models)
      fun _ run => catalogue run.server =
        settled c (labelsOf requirements) (items m.enterprise requirements) := by
  let after := settled c (labelsOf requirements) (items m.enterprise requirements)
  have steps : Ensures (fun run => catalogue run.server = c)
      (m.runSteps .fullMigrate (labelsOf requirements) requirements)
      fun _ run => catalogue run.server = after := by
    rw [runSteps, creates_eq_map]
    refine (keeps.ensures_drop _ fits.named).bind fun _ => ?_
    exact (keeps.ensures_create fits.spelled fits.apart fits.free).bind fun _ => .yield _
  rw [migrate, computed]
  refine (Ensures.result _).bind fun _ => .assume ?_
  rintro ⟨⟩
  refine (ensures_tell _ (catalogue · = c)).bind fun _ => steps.attempt.bind fun r => ?_
  -- a fault is raised again once the log has been told, so only the other case gets to the end
  cases r with
  | error fault =>
    dsimp only
    split
    · exact ((ensures_tell _ fun _ => True).strengthen fun _ _ => trivial).bind fun _ => .fail _
    · exact .fail _
  | ok outcome =>
    have ended : Ensures (fun run => catalogue run.server = after)
        (m.tell (fun now => RunLog.runComplete now .null outcome.summary) >>= fun _ => pure outcome)
        fun _ run => catalogue run.server = after :=
      (ensures_tell _ (catalogue · = after)).bind fun _ => .yield _
    exact ended.strengthen fun run holds => holds outcome rfl

/-- A run of a migration in which no call raises a fault. It may keep a log that can be written. -/
def FaultFree (m : Migrator σ) (mode : Mode) (models : List Model) (server : σ)
    (outcome : Except Fault Outcome) (server' : σ) : Prop :=
  ∃ log? calls log?', Writable log? ∧
    (m.recorded.migrate mode models).perform ⟨(server, []), log?⟩ =
      (outcome, ⟨(server', calls), log?'⟩) ∧
    ∀ c ∈ calls, c.fault? = none

namespace FaultFree

variable {mode : Mode} {server server' : σ} {outcome : Except Fault Outcome}

/-- It is seen from the record whether a run was one without a fault. -/
theorem of_recorded {log? : Option RunLog} (writable : Writable log?)
    {ended : Except Fault Outcome × Run (σ × List Call)}
    (ran : (m.recorded.migrate mode models).perform ⟨(server, []), log?⟩ = ended)
    (fine : ∀ c ∈ ended.2.server.2, c.fault? = none) :
    m.FaultFree mode models server ended.1 ended.2.server.1 :=
  ⟨log?, _, _, writable, ran, fine⟩

/-- The run is one of the migration itself. -/
theorem exists_perform (ran : m.FaultFree mode models server outcome server') :
    ∃ log? log?', (m.migrate mode models).perform ⟨server, log?⟩ = (outcome, ⟨server', log?'⟩) := by
  obtain ⟨log?, calls, log?', -, recorded, -⟩ := ran
  refine ⟨log?, log?', ?_⟩
  rw [m.perform_migrate_recorded mode models server [] log?, recorded]
  rfl

/-- The migration gets to its end. -/
theorem exists_ok (ran : m.FaultFree mode models server outcome server')
    (computed : Schema.requirements models = .ok requirements) (labelled : Labelled m.inspector) :
    ∃ done, outcome = .ok done := by
  obtain ⟨log?, calls, log?', writable, recorded, fine⟩ := ran
  obtain ⟨live, calls', failure?, run', migrated, -, added, followed, -⟩ :=
    exists_obeys_migrate m.traced_recorded (labelled_recorded labelled) writable mode computed
      (server, [])
  obtain ⟨rfl, rfl⟩ := Prod.mk.inj (recorded.symm.trans migrated)
  cases added
  cases failure? with
  | none => exact ⟨_, rfl⟩
  | some fault =>
    -- calls that stop early end with one that has raised a fault
    obtain ⟨c, last, raised⟩ := followed.exists_getLast?
    exact absurd (fine c (List.mem_of_getLast? last)) raised

end FaultFree

/-- A full migration in which no call raises a fault gets to its end. It leaves exactly the unique
constraints and free-standing indexes on the target labels that the models require, and everything
else as it was, apart from what is required besides. Another one changes nothing. -/
theorem migrate_converges {server server' : σ} {outcome : Except Fault Outcome}
    (keeps : m.Keeps foreign catalogue) (computed : Schema.requirements models = .ok requirements)
    (fits : Fits foreign (catalogue server) (labelsOf requirements)
      (items m.enterprise requirements))
    (ran : m.FaultFree .fullMigrate models server outcome server') :
    (∃ done, outcome = .ok done) ∧
      Converged (catalogue server) (catalogue server') (labelsOf requirements)
        (items m.enterprise requirements) ∧
      ∀ again outcome' again', catalogue again = catalogue server' →
        m.FaultFree .fullMigrate models again outcome' again' →
        (∃ done, outcome' = .ok done) ∧ catalogue again' = catalogue server' := by
  -- a run that gets to its end settles the catalogue
  have settles {before after : σ} {outcome : Except Fault Outcome}
      (fits : Fits foreign (catalogue before) (labelsOf requirements)
        (items m.enterprise requirements))
      (ran : m.FaultFree .fullMigrate models before outcome after) :
      catalogue after = settled (catalogue before) (labelsOf requirements)
        (items m.enterprise requirements) := by
    obtain ⟨done, rfl⟩ := ran.exists_ok computed keeps.labelled
    obtain ⟨log?, log?', migrated⟩ := ran.exists_perform
    exact keeps.ensures_migrate computed fits ⟨before, log?⟩ done ⟨after, log?'⟩ rfl migrated
  have first := settles fits ran
  refine ⟨ran.exists_ok computed keeps.labelled, ?_, ?_⟩
  · rw [first]
    exact converged_settled _ fun i required => label_mem_labelsOf required
  · -- names do not get in the way of another run either, and it settles what is settled
    intro again outcome' again' same ran'
    have start : catalogue again = settled (catalogue server) (labelsOf requirements)
        (items m.enterprise requirements) := same.trans first
    refine ⟨ran'.exists_ok computed keeps.labelled, ?_⟩
    rw [settles (start ▸ fits.settled) ran', start, settled_settled, first]

/-- A catalogue in which one wanted name is taken by an index that will be dropped, and another one
by the very constraint that is wanted. -/
theorem migrate_converges_mixed :
    let typed : OtherType := ⟨"NODE_PROPERTY_TYPE", by decide +kernel⟩
    let initial : List Object :=
      [⟨"by_mail", "User", ["mail", "id"], .required .unique⟩,
        ⟨"User_name_index", "User", ["age"], .required .index⟩,
        ⟨"User_id_unique", "User", ["id"], .required .unique⟩,
        ⟨"User_id_exists", "User", ["id"], .required .existence⟩,
        ⟨"typed", "User", ["age"], .other typed⟩,
        ⟨"account", "Account", ["number"], .required .unique⟩]
    let models : List Model :=
      [{ name := "User", properties := [("name", { index := .flag true })] }]
    let requirements : List Requirement :=
      [⟨"User", .text "id", [.text "id"], [.text "name"], [.text "id"]⟩]
    let m := Memory.migrator true
    ∃ outcome final outcome' again, m.FaultFree .fullMigrate models initial (.ok outcome) final ∧
      final.map (·.name) =
        ["User_id_exists", "typed", "account", "User_id_unique", "User_name_index"] ∧
      Converged (Memory.catalogue initial) (Memory.catalogue final) ["User"]
        (items true requirements) ∧
      m.FaultFree .fullMigrate models final (.ok outcome') again ∧
      Memory.catalogue again = Memory.catalogue final := by
  intro typed initial models requirements m
  have computed : Schema.requirements models = .ok requirements := by with_unfolding_all rfl
  have identified : ∀ o ∈ initial, isIdentifier (fun _ => false) o.name.toList = true := by
    decide +kernel
  have distinct : ∀ o ∈ initial, ∀ o' ∈ initial, o.name = o'.name → o = o' := by decide +kernel
  have taken : ∀ o ∈ initial, ∀ i ∈ items true requirements, o.name = i.name →
      o = i.object ∨ o.kind = .required .index ∧ o.label ∈ labelsOf requirements := by
    decide +kernel
  have fits : Fits (fun _ => false) (Memory.catalogue initial) (labelsOf requirements)
      (items true requirements) :=
    { named := ⟨identified, distinct⟩
      spelled := by decide +kernel
      apart := by decide +kernel
      free := by
        intro o survives i required same
        rcases taken o survives.1 i required same with object | target
        · exact object
        · exact absurd target (survives.2 .indexes) }
  have unkept : Writable none := fun _ kept => nomatch kept
  let first := (m.recorded.migrate .fullMigrate models).perform ⟨(initial, []), none⟩
  let second := (m.recorded.migrate .fullMigrate models).perform ⟨(first.2.server.1, []), none⟩
  have done : (∀ c ∈ first.2.server.2, c.fault? = none) ∧
      (∀ c ∈ second.2.server.2, c.fault? = none) ∧ first.2.server.1.map (·.name) =
        ["User_id_exists", "typed", "account", "User_id_unique", "User_name_index"] := by
    decide +kernel
  obtain ⟨fine, fine', names⟩ := done
  have ran : m.FaultFree .fullMigrate models initial first.1 first.2.server.1 :=
    .of_recorded unkept rfl fine
  have ran' : m.FaultFree .fullMigrate models first.2.server.1 second.1 second.2.server.1 :=
    .of_recorded unkept rfl fine'
  obtain ⟨⟨outcome, ended⟩, converged, repeats⟩ :=
    migrate_converges (Memory.keeps_migrator true fun _ => false) computed fits ran
  obtain ⟨⟨outcome', ended'⟩, same⟩ := repeats _ _ _ rfl ran'
  rw [ended] at ran
  rw [ended'] at ran'
  exact ⟨outcome, _, outcome', _, ran, names, converged, ran', same⟩

end Migrator

end GraphMapper.Schema
