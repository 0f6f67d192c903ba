import GraphMapper.CommandLine.Report
import GraphMapper.Proofs.Model.Selection
import GraphMapper.Proofs.Repository.Calls
import GraphMapper.Proofs.RunLog.Writing
import GraphMapper.Proofs.Schema.Approval

/-!
# What is printed as a plan is what is carried out

The statements that create what models require can be looked at before anything is done. A migration
of the same models that has the same setting for the server creates just these, whether it is given
an executor, makes a connection of its own or is asked of a repository. If a name is unknown there
is neither a plan nor a migration.

## Main definitions

* `Server.Preparation.CarriesOut` — a prepared migration that creates the given statements
* `Repository.CarriesOut` — a repository whose migrations create the given statements

## Main results

* `Preparation.carriesOut` — a prepared migration creates what its models require
* `Repository.carriesOut` — so do the migrations of a repository
* `carriesOut_statementsFor` — these are the statements of the plan
-/

namespace GraphMapper

open Act (Records)
open Schema (Call Labelled Mode Run Writable)

variable {σ : Type}

/-! ### Migrations that record their calls -/

/-- The inspector that records what it is asked to report. -/
def Inspector.recorded (i : Inspector σ) : Inspector (σ × List Call) where
  constraints := i.constraints.recorded (.report .constraints)
  indexes := i.indexes.recorded (.report .indexes)

theorem Executor.inspector?_recorded {x : Executor σ} {i : Inspector σ}
    (inspects : x.inspector? = some i) : x.recorded.inspector? = some i.recorded := by
  rw [recorded, inspects]
  rfl

namespace Schema.Migrator

variable (x : Executor σ) (i : Inspector σ) (clock : σ → Instant) (enterprise : Bool)

theorem abides_mk_recorded : Abides (.free Prod.mk) ⟨x, i, clock, enterprise⟩
    ⟨x.recorded, i.recorded, fun s => clock s.1, enterprise⟩ where
  execute text params := Act.abides_recorded (Call.execute text params) _
  constraints := Act.abides_recorded (Call.report .constraints) _
  indexes := Act.abides_recorded (Call.report .indexes) _
  clock _ _ := rfl
  enterprise := rfl

theorem traced_mk_recorded :
    (Migrator.mk x.recorded i.recorded (fun s => clock s.1) enterprise).Traced Prod.snd where
  execute _ _ _ := rfl
  report portion _ := by cases portion <;> rfl

end Schema.Migrator

namespace Server.Preparation

variable {p : Preparation} {requirements : List Schema.Requirement}

/-- The migration creates the statements, by any executor and through any connection of its own. A
connection that is made for it is used as an executor in between. -/
structure CarriesOut (p : Preparation) (statements : List String) : Prop where
  /-- What an executor is asked to run, with its own report of the live schema. -/
  byExecutor : ∀ {σ : Type} (x : Executor σ) (i : Inspector σ) (clock : σ → Instant) (mode : Mode)
    (server : σ), Labelled i → ∃ calls outcome run,
      Records (Run.keeping Prod.mk) (p.migrateBy x i clock mode)
        (p.migrateBy x.recorded i.recorded (fun s => clock s.1) mode) ⟨server, p.log?⟩ calls
        outcome run ∧
      Schema.CarriesOut statements calls outcome
  /-- What a connection is asked to run once it has been made. Its outcome is that of the migration
  if it can be closed. -/
  throughConnection : ∀ {σ : Type} (driver? : Option (Driver σ)) (clock : σ → Instant) (mode : Mode)
    (server : σ) (link : Link σ),
    let c : Connection σ := ⟨p.settings, driver?⟩
    let time : Link σ → Instant := fun link => clock link.server
    Labelled c.inspector → c.connect.perform ⟨false, server⟩ = (.ok (), link) →
    ∃ calls outcome run,
      Records (Run.keeping Prod.mk) (p.migrateBy c.executor c.inspector time mode)
        (p.migrateBy c.executor.recorded c.inspector.recorded (fun s => time s.1) mode)
        ⟨link, p.log?⟩ calls outcome run ∧
      Schema.CarriesOut statements calls outcome ∧
      ∀ link', c.disconnect.perform run.server = (.ok (), link') →
        (p.migrateThrough driver? clock mode).perform ⟨⟨false, server⟩, p.log?⟩ =
          (outcome, ⟨link', run.log?⟩)

/-- A prepared migration creates what its models require. -/
theorem carriesOut (computed : Schema.requirements p.models = .ok requirements)
    (writable : Writable p.log?) :
    p.CarriesOut (Schema.creates p.settings.enterprise requirements) where
  byExecutor x i clock mode server labelled :=
    (Schema.Migrator.abides_mk_recorded x i clock _).exists_carriesOut
      (Schema.Migrator.traced_mk_recorded x i clock _) labelled writable mode computed server
  throughConnection := by
    intro σ driver? clock mode server link c time labelled connected
    obtain ⟨calls, outcome, run, records, carried⟩ :=
      (Schema.Migrator.abides_mk_recorded c.executor c.inspector time _).exists_carriesOut
        (Schema.Migrator.traced_mk_recorded c.executor c.inspector time _) labelled writable mode
        computed link
    refine ⟨calls, outcome, run, records, carried, fun link' disconnected => ?_⟩
    refine Act.perform_between ?_ records.plain ?_
    · rw [Schema.Migrator.onServer, Act.perform_on, connected]
    · rw [Schema.Migrator.onServer, Act.perform_on, disconnected]

/-- A migration is prepared where the names are known and the settings are valid. -/
theorem exists_ofSettings {registry : Registry} {names : Value} {models : List Model}
    {e : Settings.Environment} {g : Settings.Migration} {settings : Settings.Server}
    (selected : registry.select names = .ok models) (migration : Settings.migration e = .ok g)
    (server : Settings.server e [] = .ok settings) (now : Instant) {supply : Supply}
    (drawn : '/' ∉ supply.current.toList) :
    ∃ log?, ofSettings registry names e now supply = .ok ⟨models, log?, settings⟩ ∧
      Writable log? := by
  refine ⟨if g.runLog then some (RunLog.start g.logDirectory .null now supply).1 else none, ?_, ?_⟩
  · rw [ofSettings, selected, migration, server]
    rfl
  · split
    · rintro _ ⟨⟩
      exact RunLog.writable_start g.logDirectory (.inl rfl) now drawn
    · nofun

end Server.Preparation

namespace Repository

/-- The migrations of the repository create the statements, if its executor can report the live
schema. -/
def CarriesOut (r : Repository σ) (names : Value) (statements : List String) : Prop :=
  ∀ (i : Inspector σ) (mode : Mode) (st : State σ), r.executor.inspector? = some i → Labelled i →
    ∃ calls outcome st', r.Goes (fun _ r => r.migrate mode names) st calls outcome st' ∧
      Schema.CarriesOut statements calls outcome

variable {r : Repository σ} {names : Value} {models : List Model}
  {requirements : List Schema.Requirement}

/-- A repository selects models as they are selected elsewhere, unless it is given an empty list of
names. -/
theorem exists_modelNames (distinct : r.registry.names.Nodup) (known : r.registry.Knows names)
    (given : names ≠ .list []) :
    ∃ items, r.modelNames names = .ok items ∧
      items.mapM r.registry.get = r.registry.select names := by
  rcases known with rfl | ⟨ns, rfl, -⟩
  · exact ⟨_, rfl, Registry.mapM_get_names distinct⟩
  · have some : ns ≠ [] := by
      rintro rfl
      exact given rfl
    exact ⟨_, rfl, (Registry.select_list some).symm⟩

/-- A repository hands its models to a migration that keeps no log. -/
theorem perform_migrate {i : Inspector σ} {items : List Value} (mode : Mode) (st : State σ)
    {outcome : Except Fault Schema.Outcome} {run : Run σ}
    (inspects : r.executor.inspector? = some i) (named : r.modelNames names = .ok items)
    (looked : items.mapM r.registry.get = .ok models)
    (migrated : ((Schema.Migrator.mk r.executor i r.clock r.enterprise).migrate mode models).perform
      ⟨st.server, none⟩ = (outcome, run)) :
    (r.migrate mode names).perform st = (outcome, { st with server := run.server }) := by
  simp only [migrate, inspects, shaped, named, Except.mapError, Act.perform_bind,
    Act.perform_result, looked, onServer, Act.perform_on, migrated]

/-- The migrations of a repository create what its models require. -/
theorem carriesOut (distinct : r.registry.names.Nodup) (known : r.registry.Knows names)
    (given : names ≠ .list []) (selected : r.registry.select names = .ok models)
    (computed : Schema.requirements models = .ok requirements) :
    r.CarriesOut names (Schema.creates r.enterprise requirements) := by
  intro i mode st inspects labelled
  obtain ⟨items, named, looked⟩ := exists_modelNames distinct known given
  rw [selected] at looked
  have unlogged : Writable none := fun _ => nofun
  obtain ⟨calls, outcome, run, records, carried⟩ :=
    (Schema.Migrator.abides_mk_recorded r.executor i r.clock r.enterprise).exists_carriesOut
      (Schema.Migrator.traced_mk_recorded r.executor i r.clock r.enterprise) labelled unlogged mode
      computed st.server
  refine ⟨calls, outcome, { st with server := run.server }, ⟨?_, fun before => ?_⟩, carried⟩
  · exact perform_migrate mode st inspects named looked records.plain
  · have inspects' : r.recorded.executor.inspector? = some i.recorded :=
      Executor.inspector?_recorded inspects
    exact perform_migrate mode (st.keeping before) inspects' named looked (records.recorded before)

end Repository

namespace Server

open CommandLine (Surroundings Command)

/-- A command that is given an unknown name is refused, and leaves the server and the logs alone. -/
theorem migrateText_of_error {registry : Registry} {names : List String} {fault : Fault}
    (s : Surroundings σ) (file? : Option String) (mode : Mode) (server : σ)
    (loaded : Command.loadModels s file? = .ok registry)
    (failed : Preparation.ofSettings registry (.list (names.map .text)) s.environment
      (s.clock server) s.supply = .error fault) :
    Command.migrateText s names file? mode server =
      (CommandLine.telling CommandLine.migrationKinds (.error fault), server, none) := by
  rw [Command.migrateText]
  simp only [loaded, failed]

/-- For models whose requirements are known there is a plan, and every migration of them that has
the same setting for the server creates what the plan says, in its order. If a name is not
registered, there is neither a plan nor anything to migrate with; the first such name is the
fault. -/
theorem carriesOut_statementsFor {registry : Registry} (distinct : registry.names.Nodup)
    (computing : ∀ e ∈ registry.models, ∃ r, Schema.Requirement.ofModel e.2 = .ok r) :
    (∀ (names : Value) (enterprise : Bool), registry.Knows names → ∃ statements,
      Schema.statementsFor registry names enterprise = .ok statements ∧
      (∀ (e : Settings.Environment) (g : Settings.Migration) (settings : Settings.Server)
          (now : Instant) (supply : Supply),
        Settings.migration e = .ok g → Settings.server e [] = .ok settings →
        settings.enterprise = enterprise → '/' ∉ supply.current.toList →
        ∃ p, Preparation.ofSettings registry names e now supply = .ok p ∧
          p.CarriesOut statements) ∧
      ∀ {σ : Type} (r : Repository σ), r.registry = registry → r.enterprise = enterprise →
        names ≠ .list [] → r.CarriesOut names statements) ∧
    ∀ ns : List String, (∃ n ∈ ns, n ∉ registry.names) → ∃ n ∈ ns, n ∉ registry.names ∧
      let fault : Fault := .unknownModel (.text n)
      fault.kind = .key ∧
      (∀ enterprise,
        Schema.statementsFor registry (.list (ns.map .text)) enterprise = .error fault) ∧
      (∀ e now supply,
        Preparation.ofSettings registry (.list (ns.map .text)) e now supply = .error fault) ∧
      ∀ {σ : Type} (s : Surroundings σ) (file? : Option String) (mode : Mode) (server : σ),
        Command.loadModels s file? = .ok registry →
        Command.migrateText s ns file? mode server =
          (.error (.told ("Error: " ++ fault.message)), server, none) := by
  refine ⟨fun names enterprise known => ?_, fun ns unknown => ?_⟩
  · obtain ⟨models, selected, registered⟩ := Registry.exists_select known
    obtain ⟨requirements, each⟩ : ∃ rs, models.mapM Schema.Requirement.ofModel = .ok rs := by
      refine exists_mapM fun m member => ?_
      obtain ⟨e, listed, rfl⟩ := registered m member
      exact computing e listed
    have computed : Schema.requirements models = .ok requirements := by
      rw [Schema.requirements, each]
    refine ⟨Schema.creates enterprise requirements, ?_, ?_, ?_⟩
    · rw [Schema.statementsFor, selected]
      simp only [bind, Except.bind, computed]
    · rintro e g settings now supply migration server rfl drawn
      obtain ⟨log?, prepared, writable⟩ :=
        Preparation.exists_ofSettings selected migration server now drawn
      exact ⟨_, prepared, Preparation.carriesOut computed writable⟩
    · rintro σ r rfl rfl given
      exact Repository.carriesOut distinct known given selected computed
  · obtain ⟨n, listed, missing, failed⟩ := Registry.exists_unknown unknown
    have unprepared (e : Settings.Environment) (now : Instant) (supply : Supply) :
        Preparation.ofSettings registry (.list (ns.map .text)) e now supply =
          .error (.unknownModel (.text n)) := by
      rw [Preparation.ofSettings, failed]
      rfl
    refine ⟨n, listed, missing, rfl, fun enterprise => ?_, unprepared, ?_⟩
    · rw [Schema.statementsFor, failed]
      rfl
    · intro σ s file? mode server loaded
      exact migrateText_of_error s file? mode server loaded (unprepared _ _ _)

/-- A full migration that finds an index on the label drops it and creates what the plan says. -/
theorem carriesOut_statementsFor_indexed :
    let registry := Registry.ofList
      [{ name := "User", properties := [("email", { index := .flag true })] }]
    let statements :=
      ["CREATE CONSTRAINT User_id_unique IF NOT EXISTS FOR (n:User) REQUIRE n.id IS UNIQUE",
        "CREATE INDEX User_email_index IF NOT EXISTS FOR (n:User) ON (n.email)"]
    let e : Settings.Environment := { surroundings := [("MIGRATION_RUN_LOG", "false")] }
    let x : Executor Unit := ⟨"server", fun _ _ => pure .null, none⟩
    let i : Inspector Unit := ⟨pure [], pure [⟨.text "people", .text "User", [], .index, false⟩]⟩
    Schema.statementsFor registry .null false = .ok statements ∧
      ∃ p calls o run, Preparation.ofSettings registry .null e 0 Supply.counting = .ok p ∧
        Records (Run.keeping Prod.mk) (p.migrateBy x i (fun _ => 0) .fullMigrate)
          (p.migrateBy x.recorded i.recorded (fun _ => 0) .fullMigrate) ⟨(), p.log?⟩ calls (.ok o)
          run ∧
        Schema.creations calls = statements ∧ o.created = statements := by
  intro registry statements e x i
  have computing : ∀ entry ∈ registry.models, ∃ r, Schema.Requirement.ofModel entry.2 = .ok r := by
    intro entry member
    obtain rfl := List.mem_singleton.1 member
    exact ⟨_, rfl⟩
  have labelled : Labelled i := by
    rintro (_ | _) server live ⟨⟩
    · nofun
    · simp [Schema.LiveEntry.Labelled]
  obtain ⟨planned, -⟩ := carriesOut_statementsFor (Registry.nodup_names_ofList _) computing
  obtain ⟨found, plan, prepares, -⟩ := planned .null false (.inl rfl)
  have plan' : Schema.statementsFor registry .null false = .ok statements := by
    with_unfolding_all rfl
  cases plan.symm.trans plan'
  -- the settings are read by the kernel, of which only what is needed is told
  have unlogged : (Settings.migration e).map (·.runLog) = .ok false := by decide +kernel
  have community : (Settings.server e []).map (·.enterprise) = .ok false := by decide +kernel
  obtain ⟨g, migration, -⟩ := Except.map_eq_ok_iff.1 unlogged
  obtain ⟨settings, server, same⟩ := Except.map_eq_ok_iff.1 community
  obtain ⟨p, prepared, carried⟩ :=
    prepares e g settings 0 Supply.counting migration server same (by decide +kernel)
  obtain ⟨calls, outcome, run, records, created⟩ :=
    carried.byExecutor x i (fun _ => 0) .fullMigrate () labelled
  have answered : (Preparation.ofSettings registry .null e 0 Supply.counting).toOption.map
      (fun p => ((p.migrateBy x.recorded i.recorded (fun _ => 0) .fullMigrate).perform
        ⟨((), []), p.log?⟩).2.server.2.all fun c => c.fault?.isNone) = some true := by
    decide +kernel
  have recorded : (p.migrateBy x.recorded i.recorded (fun _ => 0) .fullMigrate).perform
      ⟨((), []), p.log?⟩ = (outcome, Run.keeping Prod.mk run calls) := records.recorded []
  have fine : ∀ c ∈ calls, c.fault? = none := by
    rw [prepared] at answered
    simp only [Except.toOption, Option.map_some, recorded] at answered
    simpa [Run.keeping] using answered
  obtain ⟨made, o, rfl, listed⟩ := created.complete fine
  exact ⟨plan', p, calls, o, run, prepared, records, made, listed⟩

end Server

end GraphMapper
