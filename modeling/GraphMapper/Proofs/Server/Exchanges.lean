import GraphMapper.Proofs.Act.Outcomes
import GraphMapper.Proofs.Results
import GraphMapper.Server.Connection

/-!
# What a connection asks of its driver

A connection deals with the server through its driver only. The driver can be made to record
everything it is asked together with its answer, whatever the answers are. So it can be told what
each operation of a connection asks of the driver, and what it makes of the answers.

## Main definitions

* `Server.Exchange` — what a driver was asked, and its answer
* `Server.Connection.recorded` — a connection whose driver records its exchanges
* `Server.Connection.Goes` — what becomes of an operation, and its exchanges
* `Server.Session`, `Server.Connects` — how running a statement goes, and how connecting does

## Main results

* `Connection.exists_goes_execute` — a statement is run in a session of its own
* `Connection.exists_goes_connect` — a driver is held if it has been verified
* `Connection.exists_goes_disconnect` — a driver is no longer held if it has been closed
-/

namespace GraphMapper.Server

open Act (Records)

variable {σ α : Type}

/-- What a driver was asked, and its answer. -/
inductive Exchange where
  /-- To set itself up. -/
  | start (answer : Except Fault Unit)
  /-- To find out whether the server can be reached. -/
  | verify (answer : Except Fault Unit)
  /-- To open a session. -/
  | openSession (answer : Except Fault Unit)
  /-- To run a statement. -/
  | run (text : String) (params : Value) (answer : Except Fault Value)
  /-- To close the open session. -/
  | closeSession (answer : Except Fault Unit)
  /-- To close itself. -/
  | close (answer : Except Fault Unit)

/-- The driver that records its exchanges. -/
def Driver.recorded (d : Driver σ) : Driver (σ × List Exchange) where
  start uri options := (d.start uri options).recorded .start
  verify := d.verify.recorded .verify
  openSession database := (d.openSession database).recorded .openSession
  run text params := (d.run text params).recorded (.run text params)
  closeSession := d.closeSession.recorded .closeSession
  close := d.close.recorded .close

/-- The state of a connection with the exchanges that have been recorded. -/
def Link.keeping (link : Link σ) (exchanges : List Exchange) : Link (σ × List Exchange) :=
  ⟨link.connected, (link.server, exchanges)⟩

/-- How running a statement goes: the exchanges of its session, and the outcome. -/
inductive Session (text : String) (params : Value) :
    List Exchange → Except Fault (List Value) → Prop
  /-- There is no session. -/
  | unopened {fault : Fault} : Session text params [.openSession (.error fault)] (.error fault)
  /-- The session cannot be closed. -/
  | unclosed {answer : Except Fault Value} {fault : Fault} :
    Session text params
      [.openSession (.ok ()), .run text params answer, .closeSession (.error fault)] (.error fault)
  /-- The statement fails, and the session is closed. -/
  | failed {fault : Fault} :
    Session text params
      [.openSession (.ok ()), .run text params (.error fault), .closeSession (.ok ())]
      (.error fault)
  /-- The result has no records, or its records are no mappings, and the session is closed. -/
  | unreadable {result : Value} {fault : ShapeFault}
    (read : Connection.records result = .error fault) :
    Session text params
      [.openSession (.ok ()), .run text params (.ok result), .closeSession (.ok ())]
      (.error (.shape fault))
  /-- The result is yielded with one mapping for each record, and the session is closed. -/
  | yielded {result : Value} {records rows : List Value} (items : result.items = .ok records)
    (each : List.Forall₂ (fun record row => record.entries.map Value.map = .ok row) records rows) :
    Session text params
      [.openSession (.ok ()), .run text params (.ok result), .closeSession (.ok ())] (.ok rows)

/-- How connecting goes: the exchanges, and the outcome. -/
inductive Connects : List Exchange → Except Fault Unit → Prop
  /-- No driver is installed. -/
  | driverless : Connects [] (.error .driverMissing)
  /-- The driver cannot be set up. -/
  | unstarted {fault : Fault} : Connects [.start (.error fault)] (.error (.connection fault))
  /-- The server cannot be reached. -/
  | unverified {fault : Fault} :
    Connects [.start (.ok ()), .verify (.error fault)] (.error (.connection fault))
  /-- The server can be reached. -/
  | verified : Connects [.start (.ok ()), .verify (.ok ())] (.ok ())

namespace Connection

/-- The connection whose driver records its exchanges. -/
def recorded (c : Connection σ) : Connection (σ × List Exchange) where
  settings := c.settings
  driver? := c.driver?.map Driver.recorded

/-- From one state to another the operation asks the driver for what the exchanges tell and has the
outcome: so it does on the server, and so it does where the exchanges are recorded. -/
abbrev Goes (c : Connection σ) (act : (τ : Type) → Connection τ → Act (Link τ) α) (link : Link σ)
    (exchanges : List Exchange) (outcome : Except Fault α) (link' : Link σ) : Prop :=
  Records Link.keeping (act σ c) (act (σ × List Exchange) c.recorded) link exchanges outcome link'

/-! ### Acts on the server -/

variable {c : Connection σ} {driver : Driver σ} {link link' : Link σ} {exchanges : List Exchange}
  {outcome : Except Fault α}

theorem records_onServer {a : Act σ α} {a' : Act (σ × List Exchange) α} {server : σ}
    (done : Records Prod.mk a a' link.server exchanges outcome server) :
    Records Link.keeping (onServer a) (onServer a') link exchanges outcome
      { link with server := server } where
  plain := by rw [onServer, Act.perform_on, done.plain]
  recorded before := by
    rw [onServer, Act.perform_on]
    exact congrArg (fun p => (p.1, (⟨link.connected, p.2⟩ : Link _))) (done.recorded before)

theorem records_hold (connected : Bool) :
    Records Link.keeping (hold connected) (hold connected) link [] (.ok ())
      { link with connected := connected } where
  plain := rfl
  recorded before := by rw [List.append_nil]; rfl

/-- A statement is run in a session of its own, which is closed whatever becomes of it. -/
theorem exists_records_inSession (driver : Driver σ) (database : Value) (text : String)
    (params : Value) (s : σ) :
    ∃ exchanges outcome s',
      Records Prod.mk (inSession driver database text params)
        (inSession driver.recorded database text params) s exchanges outcome s' ∧
      Session text params exchanges outcome := by
  rcases opened : (driver.openSession database).perform s with ⟨fault | _, s₁⟩
  · exact ⟨_, _, _, (Records.recorded_act Exchange.openSession opened).stop, .unopened⟩
  have first := Records.recorded_act Exchange.openSession opened
  rcases ran : (driver.run text params).perform s₁ with ⟨answer, s₂⟩
  -- the outcome between opening and closing is known before the session is closed
  have second : Records Prod.mk
      (driver.run text params >>= fun result => Act.result ((records result).mapError .shape))
      (driver.recorded.run text params >>= fun result =>
        Act.result ((records result).mapError .shape))
      s₁ [.run text params answer] (answer.bind fun result => (records result).mapError .shape)
      s₂ := by
    have ran := Records.recorded_act (Exchange.run text params) ran
    cases answer with
    | error fault => exact ran.stop
    | ok result => exact ran.bind (.result _)
  rcases closed : driver.closeSession.perform s₂ with ⟨ended, s₃⟩
  have whole : Records Prod.mk (inSession driver database text params)
      (inSession driver.recorded database text params) s
      [.openSession (.ok ()), .run text params answer, .closeSession ended]
      (ended.bind fun _ => answer.bind fun result => (records result).mapError .shape) s₃ :=
    first.between second (.recorded_act Exchange.closeSession closed)
  refine ⟨_, _, _, whole, ?_⟩
  rcases ended with fault | _
  · exact .unclosed
  rcases answer with fault | result
  · exact .failed
  · rcases read : records result with fault | rows
    · simp only [Except.bind, read]
      exact .unreadable read
    · simp only [Except.bind, read]
      rcases items : result.items with fault | found
      · rw [records, items] at read
        cases read
      · rw [records, items] at read
        exact .yielded items (forall₂_of_mapM read)

/-! ### Operations -/

/-- Runs a statement by a driver that is held. -/
def runBy (driver : Driver σ) (database : Value) (text : String) (params : Value) :
    Act (Link σ) (List Value) := do
  match ← (onServer (inSession driver database text params)).attempt with
  | .ok rows => pure rows
  | .error fault => Act.fail (.execution text fault)

/-- Sets a driver up and finds out whether the server can be reached. -/
def reach (driver : Driver σ) (uri : String) (options : List (String × Value)) : Act σ Unit := do
  driver.start uri options
  driver.verify

/-- Sets a driver up, and holds it if the server can be reached. -/
def setUp (driver : Driver σ) (uri : String) (options : List (String × Value)) :
    Act (Link σ) Unit := do
  match ← (onServer (reach driver uri options)).attempt with
  | .ok () => hold true
  | .error fault => Act.fail (.connection fault)

theorem driver?_recorded (installed : c.driver? = some driver) :
    c.recorded.driver? = some driver.recorded := by
  rw [recorded, installed, Option.map_some]

theorem perform_execute_of_connected (installed : c.driver? = some driver)
    (connected : link.connected = true) (text : String) (params database : Value) :
    (c.execute text params database).perform link =
      (runBy driver (c.databaseOr database) text
        (if params.isNull then .map [] else params)).perform link := by
  rw [execute, Act.perform_get_bind, connected, installed]
  rfl

theorem perform_execute_of_disconnected (disconnected : link.connected = false) (text : String)
    (params database : Value) :
    (c.execute text params database).perform link = (.error .notConnected, link) := by
  rw [execute, Act.perform_get_bind, disconnected]
  rfl

theorem perform_connect_of_connected (connected : link.connected = true) :
    c.connect.perform link = (.ok (), link) := by
  rw [connect, Act.perform_get_bind, connected]
  rfl

theorem perform_connect_of_disconnected (installed : c.driver? = some driver)
    (disconnected : link.connected = false) :
    c.connect.perform link = (setUp driver c.settings.uri c.options).perform link := by
  rw [connect, Act.perform_get_bind, disconnected, installed]
  rfl

theorem perform_disconnect_of_connected (installed : c.driver? = some driver)
    (connected : link.connected = true) :
    c.disconnect.perform link = (onServer driver.close >>= fun _ => hold false).perform link := by
  rw [disconnect, Act.perform_get_bind, connected, installed]
  rfl

theorem perform_disconnect_of_disconnected (disconnected : link.connected = false) :
    c.disconnect.perform link = (.ok (), link) := by
  rw [disconnect, Act.perform_get_bind, disconnected]
  rfl

/-- A connection that holds a driver runs a statement in a session of its own. What goes wrong there
is the cause of the fault of the statement. -/
theorem exists_goes_execute (installed : c.driver? = some driver)
    (connected : link.connected = true) (text : String) (params database : Value) :
    ∃ exchanges outcome server,
      c.Goes (fun _ c => c.execute text params database) link exchanges
        (outcome.mapError (.execution text)) { link with server := server } ∧
      Session text (if params.isNull then .map [] else params) exchanges outcome := by
  obtain ⟨exchanges, outcome, server, ran, session⟩ := exists_records_inSession driver
    (c.databaseOr database) text (if params.isNull then .map [] else params) link.server
  have run : Records Link.keeping
      (runBy driver (c.databaseOr database) text (if params.isNull then .map [] else params))
      (runBy driver.recorded (c.databaseOr database) text
        (if params.isNull then .map [] else params))
      link exchanges (outcome.mapError (.execution text)) { link with server := server } := by
    have attempted := (records_onServer ran).attempt
    rw [← List.append_nil exchanges]
    cases outcome with
    | ok rows => exact attempted.bind (.pure rows)
    | error fault => exact attempted.bind (.result _)
  refine ⟨exchanges, outcome, server, run.congr ?_ fun before => ?_, session⟩
  · exact perform_execute_of_connected installed connected text params database
  · exact perform_execute_of_connected (driver?_recorded installed) connected text params database

/-- A connection that holds no driver runs no statement. -/
theorem goes_execute_of_disconnected (disconnected : link.connected = false) (text : String)
    (params database : Value) :
    c.Goes (fun _ c => c.execute text params database) link [] (.error .notConnected) link :=
  .of_nothing (perform_execute_of_disconnected disconnected text params database) fun before =>
    have disconnected : (link.keeping before).connected = false := disconnected
    perform_execute_of_disconnected disconnected text params database

/-- Whether the server answers is told from a statement alone. -/
theorem exists_goes_ping {rows : Except Fault (List Value)}
    (goes : c.Goes (fun _ c => c.execute probe .null .null) link exchanges rows link') :
    ∃ answered, c.Goes (fun _ c => c.ping) link exchanges answered link' := by
  have attempted := goes.attempt
  rw [← List.append_nil exchanges]
  cases rows with
  | ok rows => exact ⟨.ok (isAlive rows), attempted.bind (.pure _)⟩
  | error fault =>
    -- only the fault of a statement tells that the server does not answer; others are passed on
    by_cases refused : fault.kind = .execution
    · refine ⟨.ok false, attempted.bind ?_⟩
      simp only [refused, if_true]
      exact .pure false
    · refine ⟨.error fault, attempted.bind ?_⟩
      simp only [refused, if_false]
      exact .result _

/-- A connection that holds a driver does not connect again. -/
theorem goes_connect_of_connected (connected : link.connected = true) :
    c.Goes (fun _ c => c.connect) link [] (.ok ()) link :=
  .of_nothing (perform_connect_of_connected connected) fun _ =>
    perform_connect_of_connected connected

theorem exists_records_reach (driver : Driver σ) (uri : String) (options : List (String × Value))
    (s : σ) :
    ∃ exchanges outcome s',
      Records Prod.mk (reach driver uri options) (reach driver.recorded uri options) s exchanges
        outcome s' ∧
      Connects exchanges (outcome.mapError .connection) := by
  rcases started : (driver.start uri options).perform s with ⟨fault | _, s₁⟩
  · exact ⟨_, _, _, (Records.recorded_act Exchange.start started).stop, .unstarted⟩
  have first := Records.recorded_act Exchange.start started
  rcases verified : driver.verify.perform s₁ with ⟨fault | _, s₂⟩
  · exact ⟨_, _, _, first.bind (.recorded_act Exchange.verify verified), .unverified⟩
  · exact ⟨_, _, _, first.bind (.recorded_act Exchange.verify verified), .verified⟩

/-- A connection that holds no driver holds one afterwards if it has been verified. -/
theorem exists_goes_connect (c : Connection σ) (disconnected : link.connected = false) :
    ∃ exchanges outcome server, c.Goes (fun _ c => c.connect) link exchanges outcome
      ⟨outcome.isOk, server⟩ ∧ Connects exchanges outcome ∧
        (outcome.isOk = true → ∃ driver, c.driver? = some driver) := by
  rcases installed : c.driver? with _ | driver
  · have missing {τ : Type} {c : Connection τ} {link : Link τ} (installed : c.driver? = none)
        (disconnected : link.connected = false) :
        c.connect.perform link = (.error .driverMissing, link) := by
      rw [connect, Act.perform_get_bind, disconnected, installed]
      rfl
    obtain ⟨_, server⟩ := link
    cases disconnected
    refine ⟨[], _, server, .of_nothing (missing installed rfl) fun before => ?_, .driverless, ?_⟩
    · exact missing (by rw [recorded, installed, Option.map_none]) rfl
    · exact fun fine => by cases fine
  obtain ⟨exchanges, outcome, server, reached, connects⟩ :=
    exists_records_reach driver c.settings.uri c.options link.server
  have run : Records Link.keeping (setUp driver c.settings.uri c.options)
      (setUp driver.recorded c.settings.uri c.options) link exchanges (outcome.mapError .connection)
      ⟨(outcome.mapError Fault.connection).isOk, server⟩ := by
    have attempted := (records_onServer reached).attempt
    rw [← List.append_nil exchanges]
    cases outcome with
    | ok _ => exact attempted.bind (records_hold true)
    | error fault =>
      rw [disconnected] at attempted
      exact attempted.bind (.result _)
  refine ⟨exchanges, _, server, run.congr ?_ fun before => ?_, connects, fun _ => ⟨driver, rfl⟩⟩
  · exact perform_connect_of_disconnected installed disconnected
  · exact perform_connect_of_disconnected (driver?_recorded installed) disconnected

/-- A connection that holds no driver has nothing to close. -/
theorem goes_disconnect_of_disconnected (disconnected : link.connected = false) :
    c.Goes (fun _ c => c.disconnect) link [] (.ok ()) link :=
  .of_nothing (perform_disconnect_of_disconnected disconnected) fun _ =>
    perform_disconnect_of_disconnected disconnected

/-- A connection that holds a driver closes it, and no longer holds it afterwards unless it cannot
be closed. -/
theorem exists_goes_disconnect (installed : c.driver? = some driver)
    (connected : link.connected = true) :
    ∃ answer server, c.Goes (fun _ c => c.disconnect) link [.close answer] answer
      ⟨!answer.isOk, server⟩ := by
  rcases closed : driver.close.perform link.server with ⟨answer, server⟩
  have run : Records Link.keeping (onServer driver.close >>= fun _ => hold false)
      (onServer driver.recorded.close >>= fun _ => hold false) link [.close answer] answer
      ⟨!answer.isOk, server⟩ := by
    have closed := records_onServer (Records.recorded_act Exchange.close closed)
    cases answer with
    | error fault =>
      rw [connected] at closed
      exact closed.stop
    | ok _ => exact closed.bind (records_hold false)
  refine ⟨answer, server, run.congr ?_ fun before => ?_⟩
  · exact perform_disconnect_of_connected installed connected
  · exact perform_disconnect_of_connected (driver?_recorded installed) connected

end Connection

end GraphMapper.Server
