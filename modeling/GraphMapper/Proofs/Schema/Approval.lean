import GraphMapper.Proofs.Schema.Abort
import GraphMapper.Proofs.Schema.Items

/-!
# Migrations as they were planned

What a migration creates is known before the server has been asked for anything: it follows from
what the models require. The statements that create something are those of the plan, whatever the
live schema is, and a fault can only keep the last ones from being run.

## Main definitions

* `Schema.creations` — the statements among some calls that create something
* `Schema.CarriesOut` — a migration that creates what was planned

## Main results

* `creationsOf_plan` — the live schema has no influence on what a plan creates
* `Migrator.Abides.exists_carriesOut` — a migration creates what was planned
-/

namespace GraphMapper.Schema

open Act (Records)

variable {σ : Type} {m : Migrator σ} {requirements : List Requirement}
  {live : Portion → List LiveEntry} {enterprise : Bool}

/-! ### Statements that create something -/

/-- The statement creates something. -/
def isCreation (text : String) : Bool := "CREATE ".toList.isPrefixOf text.toList

/-- The statements among some requests that create something. -/
def creationsOf (requests : List Request) : List String :=
  (requests.filterMap Request.statement?).filter isCreation

/-- The statements among some calls that create something. -/
def creations (calls : List Call) : List String := creationsOf (calls.map Call.request)

/-- Whether a statement creates something is told from its beginning. -/
theorem isCreation_append {text : String} (creating : isCreation text = true) (rest : String) :
    isCreation (text ++ rest) = true := by
  rw [isCreation, List.isPrefixOf_iff_prefix] at creating ⊢
  rw [String.toList_append]
  exact creating.trans (List.prefix_append _ _)

theorem isCreation_createConstraint (label property suffix condition : String) :
    isCreation (createConstraint label property suffix condition) = true := by
  have word : isCreation "CREATE CONSTRAINT " = true := by decide +kernel
  unfold createConstraint
  iterate 7 apply isCreation_append
  exact word

theorem isCreation_createIndex (label property : String) :
    isCreation (createIndex label property) = true := by
  have word : isCreation "CREATE INDEX " = true := by decide +kernel
  unfold createIndex
  iterate 6 apply isCreation_append
  exact word

theorem isCreation_of_mem_creates {text : String}
    (member : text ∈ creates enterprise requirements) : isCreation text = true := by
  rw [creates_eq_map] at member
  obtain ⟨⟨label, property, purpose⟩, -, rfl⟩ := List.mem_map.1 member
  cases purpose with
  | unique | existence => exact isCreation_createConstraint _ _ _ _
  | index => exact isCreation_createIndex _ _

theorem not_isCreation_of_mem_plannedDrops {portion : Portion} {labels : List String}
    {text : String} (member : text ∈ portion.plannedDrops labels (live portion)) :
    isCreation text = false := by
  cases portion <;> obtain ⟨e, -, rfl⟩ := List.mem_map.1 member <;>
    simp [isCreation, List.isPrefixOf]

/-- The live schema has no influence on what a plan creates. -/
theorem creationsOf_plan (mode : Mode) :
    creationsOf ((m.plan mode requirements live).map Task.request) =
      creates m.enterprise requirements := by
  have made : (creates m.enterprise requirements).filter isCreation =
      creates m.enterprise requirements :=
    List.filter_eq_self.2 fun text => isCreation_of_mem_creates
  have dropped (portion : Portion) (labels : List String) :
      (portion.plannedDrops labels (live portion)).filter isCreation = [] :=
    List.filter_eq_nil_iff.2 fun text member => by simp [not_isCreation_of_mem_plannedDrops member]
  rw [creationsOf, List.filterMap_map]
  change ((m.plan mode requirements live).filterMap (·.request.statement?)).filter isCreation = _
  rw [← Migrator.statements_success]
  cases mode with
  | updateOnly => simp [Migrator.success, Outcome.statements, made]
  | fullMigrate => simp [Migrator.success, Outcome.statements, made, dropped]

/-! ### Plans carried out -/

/-- A migration creates what was planned: the statements that create something are the planned ones
in their order, up to the first fault. If there is none, they are all of them, and the outcome lists
them. -/
structure CarriesOut (statements : List String) (calls : List Call)
    (outcome : Except Fault Outcome) : Prop where
  /-- Nothing else is created. -/
  isPrefix : creations calls <+: statements
  /-- If no call raises a fault, all is created and listed. -/
  complete : (∀ c ∈ calls, c.fault? = none) →
    creations calls = statements ∧ ∃ o, outcome = .ok o ∧ o.created = statements

theorem created_success (mode : Mode) :
    (m.success mode requirements live).created = creates m.enterprise requirements := by
  cases mode <;> rfl

/-- Calls that follow the plan of a migration create what was planned. -/
theorem carriesOut_of_follows {mode : Mode} {calls : List Call} {failure? : Option Fault}
    (followed : Follows (m.plan mode requirements live) calls failure?) :
    CarriesOut (creates m.enterprise requirements) calls
      (barring failure? (m.success mode requirements live)) where
  isPrefix := by
    rw [← creationsOf_plan mode]
    exact (followed.isPrefix.filterMap _).filter _
  complete := by
    intro fine
    cases failure? with
    | none =>
      refine ⟨?_, _, rfl, created_success mode⟩
      rw [creations, (followed.complete rfl).1, creationsOf_plan]
    | some fault =>
      obtain ⟨c, last, raised⟩ := followed.exists_getLast?
      exact absurd (fine c (List.mem_of_getLast? last)) raised

namespace Migrator

variable {m' : Migrator (σ × List Call)} {models : List Model} {log? : Option RunLog}

/-- A migration creates what was planned, whatever the live schema is. -/
theorem Abides.exists_carriesOut (abides : Abides (.free Prod.mk) m m')
    (traced : m'.Traced Prod.snd) (labelled : Labelled m.inspector)
    (writable : Writable log?) (mode : Mode)
    (computed : Schema.requirements models = .ok requirements) (server : σ) :
    ∃ calls outcome run, Records (Run.keeping Prod.mk) (m.migrate mode models)
      (m'.migrate mode models) ⟨server, log?⟩ calls outcome run ∧
      CarriesOut (creates m.enterprise requirements) calls outcome := by
  obtain ⟨live, calls, failure?, run', migrated, -, added, followed, -⟩ :=
    exists_obeys_migrate traced (abides.labelled labelled) writable mode computed (server, [])
  obtain ⟨entries, outcome, run, records, -, -⟩ := abides.migrate mode models ⟨server, log?⟩ trivial
  obtain ⟨rfl, rfl⟩ := Prod.mk.inj (migrated.symm.trans (records.recorded []))
  cases added
  refine ⟨calls, _, run, records, ?_⟩
  rw [← abides.enterprise]
  exact carriesOut_of_follows followed

end Migrator

end GraphMapper.Schema
