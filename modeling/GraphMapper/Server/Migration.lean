import GraphMapper.Schema.Migration
import GraphMapper.Server.Connection

/-!
# Migrations by settings

The settings say whether a run log is kept and where, how to connect to the server, and what
constraints it has.

## Main definitions

* `Server.Preparation` — what has been settled before a migration
* `Server.Preparation.ofSettings` — settling it
* `Server.Preparation.migrateBy`, `Server.Preparation.migrateThrough` — the migration, by an
  executor or through a connection of its own
-/

namespace GraphMapper.Server

/-- What has been settled before a migration. -/
structure Preparation where
  /-- The models. -/
  models : List Model
  /-- The run log, if one is kept. -/
  log? : Option RunLog
  /-- The settings of the connection. -/
  settings : Settings.Server

namespace Preparation

variable {σ : Type}

/-- A checked setting. -/
def settled {α : Type} (c : Validation.Checked α) : Except Fault α := c.mapError Fault.invalid

/-- Settles a migration of the models of the given names, or of all models. The models are selected
before a log is started. Making the directory of the log is no effect here, so that none is made for
unknown names holds by the types alone. -/
def ofSettings (registry : Registry) (names : Value) (e : Settings.Environment) (now : Instant)
    (supply : Supply) : Except Fault Preparation := do
  let models ← registry.select names
  let migration ← settled (Settings.migration e)
  let log? :=
    if migration.runLog then some (RunLog.start migration.logDirectory .null now supply).1 else none
  let settings ← settled (Settings.server e [])
  .ok ⟨models, log?, settings⟩

/-- The migration by an executor. -/
def migrateBy (p : Preparation) (executor : Executor σ) (inspector : Inspector σ)
    (clock : σ → Instant) (mode : Schema.Mode) : Act (Schema.Run σ) Schema.Outcome :=
  (Schema.Migrator.mk executor inspector clock p.settings.enterprise).migrate mode p.models

/-- The migration through a connection that is made for it. -/
def migrateThrough (p : Preparation) (driver? : Option (Driver σ)) (clock : σ → Instant)
    (mode : Schema.Mode) : Act (Schema.Run (Link σ)) Schema.Outcome :=
  let c : Connection σ := ⟨p.settings, driver?⟩
  Act.between (Schema.Migrator.onServer c.connect) (Schema.Migrator.onServer c.disconnect)
    (p.migrateBy c.executor c.inspector (fun link => clock link.server) mode)

end Preparation

end GraphMapper.Server
