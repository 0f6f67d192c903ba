import GraphMapper.Proofs.Server.Exchanges
import Mathlib.Data.List.Induction

/-!
# The lifecycle of a connection

Whatever operations are carried out on a connection, and whatever its driver answers, the exchanges
follow a protocol: a driver is set up and verified, then sessions are opened and closed one by one,
each with one statement, and then the driver is closed. Between operations the connection is either
idle or connected, and only then are statements run.

## Main definitions

* `Server.Operation` — the operations on a connection
* `Server.Phase`, `Server.Phase.Steps` — the protocol of a driver
* `Server.Connection.Proceeds` — an operation that follows the protocol
* `Server.Orderly` — what the protocol means for the exchanges of a connection

## Main results

* `Connection.proceeds_act` — every operation follows the protocol
* `Connection.proceeds_runAll` — so does every sequence of operations
* `Phase.Steps.orderly` — exchanges that follow the protocol are orderly
* `Connection.keeps_lifecycle` — any sequence of operations is orderly, and what follows on it
-/

namespace GraphMapper.Server

variable {σ α β : Type}

/-! ### Operations -/

/-- The operations on a connection. -/
inductive Operation where
  /-- To connect. -/
  | connect
  /-- To disconnect. -/
  | disconnect
  /-- To begin something that is done while connected. -/
  | enter
  /-- To end it. -/
  | leave
  /-- To run a statement. -/
  | execute (text : String) (params database : Value)
  /-- To find out whether the server answers. -/
  | ping
  /-- To ask for the constraints. -/
  | constraints
  /-- To ask for the indexes. -/
  | indexes

namespace Operation

/-- What an operation yields. -/
abbrev Answer : Operation → Type
  | .execute _ _ _ => List Value
  | .ping => Bool
  | .constraints | .indexes => List Schema.LiveEntry
  | .connect | .disconnect | .enter | .leave => Unit

/-- What an operation does. -/
def act (c : Connection σ) : (op : Operation) → Act (Link σ) op.Answer
  | .connect | .enter => c.connect
  | .disconnect | .leave => c.disconnect
  | .execute text params database => c.execute text params database
  | .ping => c.ping
  | .constraints => c.inspector.constraints
  | .indexes => c.inspector.indexes

end Operation

/-- Carries out operations one after the other, also after one that fails. -/
def Connection.runAll (c : Connection σ) : List Operation → Act (Link σ) Unit
  | [] => pure ()
  | op :: rest => do
    let _ ← (op.act c).attempt
    c.runAll rest

/-- A failure does not keep the other operations from being carried out. -/
theorem Connection.outcome_runAll (c : Connection σ) (ops : List Operation) (link : Link σ) :
    ((c.runAll ops).perform link).1 = .ok () := by
  induction ops generalizing link with
  | nil => rfl
  | cons op rest ih =>
    rw [runAll, Act.perform_bind, Act.perform_attempt]
    exact ih _

/-! ### The protocol -/

/-- How far a driver has got. -/
inductive Phase where
  /-- There is no driver. -/
  | idle
  /-- There is a driver that has not been verified. -/
  | started
  /-- There is a driver that has been verified. -/
  | connected
  /-- It has opened a session. -/
  | opened
  /-- It has run a statement in the session. -/
  | answered
  deriving DecidableEq

namespace Phase

/-- An exchange that is in order, from the phase before it to the phase after it. -/
inductive Step : Phase → Exchange → Phase → Prop
  /-- The driver cannot be set up. -/
  | unstarted {fault : Fault} : Step .idle (.start (.error fault)) .idle
  /-- The driver is set up. -/
  | started : Step .idle (.start (.ok ())) .started
  /-- The server cannot be reached, and the driver is dropped. -/
  | unverified {fault : Fault} : Step .started (.verify (.error fault)) .idle
  /-- The server can be reached. -/
  | verified : Step .started (.verify (.ok ())) .connected
  /-- There is no session. -/
  | unopened {fault : Fault} : Step .connected (.openSession (.error fault)) .connected
  /-- There is a session. -/
  | opened : Step .connected (.openSession (.ok ())) .opened
  /-- A statement is run in the session, with any answer. -/
  | ran {text : String} {params : Value} {answer : Except Fault Value} :
    Step .opened (.run text params answer) .answered
  /-- The session is closed, with any answer. -/
  | ended {answer : Except Fault Unit} : Step .answered (.closeSession answer) .connected
  /-- The driver cannot be closed. -/
  | unclosed {fault : Fault} : Step .connected (.close (.error fault)) .connected
  /-- The driver is closed. -/
  | closed : Step .connected (.close (.ok ())) .idle

/-- Exchanges that are in order one after the other, from phase to phase. -/
inductive Steps : Phase → List Exchange → Phase → Prop
  /-- There is no exchange. -/
  | nil {p : Phase} : Steps p [] p
  /-- An exchange is in order, and so are those behind it. -/
  | cons {p q r : Phase} {e : Exchange} {rest : List Exchange} (first : Step p e q)
    (others : Steps q rest r) : Steps p (e :: rest) r

/-- There is a driver that has been verified and not been closed. -/
def holds : Phase → Bool
  | .idle | .started => false
  | .connected | .opened | .answered => true

namespace Steps

variable {p q r : Phase} {e : Exchange} {exchanges exchanges' before after : List Exchange}

theorem append (first : Steps p exchanges q) (second : Steps q exchanges' r) :
    Steps p (exchanges ++ exchanges') r := by
  induction first with
  | nil => exact second
  | cons step _ ih => exact .cons step (ih second)

/-- Exchanges in order can be parted anywhere. -/
theorem split (steps : Steps p (exchanges ++ exchanges') r) :
    ∃ q, Steps p exchanges q ∧ Steps q exchanges' r := by
  induction exchanges generalizing p with
  | nil => exact ⟨p, .nil, steps⟩
  | cons e rest ih =>
    cases steps with
    | cons step others =>
      obtain ⟨q, front, back⟩ := ih others
      exact ⟨q, .cons step front, back⟩

/-- Each exchange is in order between those before and those behind it. -/
theorem split_at (steps : Steps p (before ++ e :: after) r) :
    ∃ q q', Steps p before q ∧ Step q e q' ∧ Steps q' after r := by
  obtain ⟨q, front, back⟩ := steps.split
  cases back with
  | cons step others => exact ⟨q, _, front, step, others⟩

end Steps

end Phase

/-- The phase of a connection between operations. -/
def Link.phase (link : Link σ) : Phase := if link.connected then .connected else .idle

theorem Link.holds_phase (link : Link σ) : link.phase.holds = link.connected := by
  rw [phase]
  cases link.connected <;> rfl

/-- Between operations there is no session. -/
theorem Link.phase_eq (link : Link σ) : link.phase = .idle ∨ link.phase = .connected := by
  rw [phase]
  cases link.connected
  · exact .inl rfl
  · exact .inr rfl

/-! ### Operations follow the protocol -/

theorem Session.steps {text : String} {params : Value} {exchanges : List Exchange}
    {outcome : Except Fault (List Value)} (session : Session text params exchanges outcome) :
    Phase.Steps .connected exchanges .connected := by
  cases session with
  | unopened => exact .cons .unopened .nil
  | unclosed | failed | unreadable | yielded => exact .cons .opened (.cons .ran (.cons .ended .nil))

theorem Connects.steps {exchanges : List Exchange} {outcome : Except Fault Unit}
    (connects : Connects exchanges outcome) :
    Phase.Steps .idle exchanges (if outcome.isOk then .connected else .idle) := by
  cases connects with
  | driverless => exact .nil
  | unstarted => exact .cons .unstarted .nil
  | unverified => exact .cons .started (.cons .unverified .nil)
  | verified => exact .cons .started (.cons .verified .nil)

namespace Connection

/-- A connection that holds a driver has one installed. -/
def Valid (c : Connection σ) (link : Link σ) : Prop :=
  link.connected = true → ∃ driver, c.driver? = some driver

/-- Wherever it begins, the operation takes the connection from phase to phase by exchanges in
order. -/
def Proceeds (c : Connection σ) (act : (τ : Type) → Connection τ → Act (Link τ) α) : Prop :=
  ∀ link, c.Valid link → ∃ exchanges outcome link', c.Goes act link exchanges outcome link' ∧
    Phase.Steps link.phase exchanges link'.phase ∧ c.Valid link'

variable {c : Connection σ}

namespace Proceeds

variable {act : (τ : Type) → Connection τ → Act (Link τ) α}
  {next : (τ : Type) → Connection τ → α → Act (Link τ) β}

theorem result (r : Except Fault α) : c.Proceeds fun _ _ => Act.result r := fun link valid =>
  ⟨[], r, link, .result r, .nil, valid⟩

protected theorem pure (x : α) : c.Proceeds fun _ _ => pure x := result (.ok x)

theorem bind (first : c.Proceeds act) (second : ∀ x, c.Proceeds fun τ c => next τ c x) :
    c.Proceeds fun τ c => act τ c >>= next τ c := by
  intro link valid
  obtain ⟨exchanges, fault | x, link', goes, steps, valid'⟩ := first link valid
  · exact ⟨exchanges, .error fault, link', goes.stop, steps, valid'⟩
  · obtain ⟨exchanges', outcome, link'', goes', steps', valid''⟩ := second x link' valid'
    exact ⟨exchanges ++ exchanges', outcome, link'', goes.bind goes', steps.append steps', valid''⟩

theorem attempt (done : c.Proceeds act) : c.Proceeds fun τ c => (act τ c).attempt := by
  intro link valid
  obtain ⟨exchanges, outcome, link', goes, steps, valid'⟩ := done link valid
  exact ⟨exchanges, .ok outcome, link', goes.attempt, steps, valid'⟩

end Proceeds

theorem proceeds_execute (c : Connection σ) (text : String) (params database : Value) :
    c.Proceeds fun _ c => c.execute text params database := by
  intro link valid
  cases connected : link.connected with
  | false =>
    -- without a driver the statement is refused before anything is asked
    exact ⟨[], _, link, goes_execute_of_disconnected connected text params database, .nil, valid⟩
  | true =>
    obtain ⟨driver, installed⟩ := valid connected
    obtain ⟨exchanges, outcome, server, goes, session⟩ :=
      exists_goes_execute installed connected text params database
    refine ⟨exchanges, _, _, goes, ?_, valid⟩
    rw [Link.phase, Link.phase, connected]
    exact session.steps

theorem proceeds_connect (c : Connection σ) : c.Proceeds fun _ c => c.connect := by
  intro link valid
  cases connected : link.connected with
  | true => exact ⟨[], _, link, goes_connect_of_connected connected, .nil, valid⟩
  | false =>
    obtain ⟨exchanges, outcome, server, goes, connects, installed⟩ :=
      exists_goes_connect c connected
    refine ⟨exchanges, outcome, _, goes, ?_, installed⟩
    rw [Link.phase, connected]
    exact connects.steps

theorem proceeds_disconnect (c : Connection σ) : c.Proceeds fun _ c => c.disconnect := by
  intro link valid
  cases connected : link.connected with
  | false => exact ⟨[], _, link, goes_disconnect_of_disconnected connected, .nil, valid⟩
  | true =>
    obtain ⟨driver, installed⟩ := valid connected
    obtain ⟨answer, server, goes⟩ := exists_goes_disconnect installed connected
    refine ⟨_, answer, _, goes, ?_, fun _ => ⟨driver, installed⟩⟩
    rw [Link.phase, connected]
    cases answer with
    | error fault => exact .cons .unclosed .nil
    | ok _ => exact .cons .closed .nil

theorem proceeds_entriesOf (c : Connection σ) (text : String)
    (read : Value → Except ShapeFault Schema.LiveEntry) :
    c.Proceeds fun _ c => c.entriesOf text read :=
  (c.proceeds_execute text .null .null).bind fun _ => .result _

theorem proceeds_ping (c : Connection σ) : c.Proceeds fun _ c => c.ping := by
  intro link valid
  obtain ⟨exchanges, rows, link', goes, steps, valid'⟩ :=
    c.proceeds_execute probe .null .null link valid
  obtain ⟨answered, goes⟩ := exists_goes_ping goes
  exact ⟨exchanges, answered, link', goes, steps, valid'⟩

/-- Every operation follows the protocol. -/
theorem proceeds_act (c : Connection σ) (op : Operation) : c.Proceeds fun _ c => op.act c := by
  cases op with
  | connect | enter => exact c.proceeds_connect
  | disconnect | leave => exact c.proceeds_disconnect
  | execute text params database => exact c.proceeds_execute text params database
  | ping => exact c.proceeds_ping
  | constraints => exact c.proceeds_entriesOf showConstraints _
  | indexes => exact c.proceeds_entriesOf showIndexes _

/-- Every sequence of operations follows the protocol. -/
theorem proceeds_runAll (c : Connection σ) (ops : List Operation) :
    c.Proceeds fun _ c => c.runAll ops := by
  induction ops with
  | nil => exact .pure ()
  | cons op rest ih => exact (c.proceeds_act op).attempt.bind fun _ => ih

end Connection

/-! ### Exchanges in order -/

namespace Exchange

/-- A driver has been verified. -/
def verifies : Exchange → Bool
  | .verify (.ok ()) => true
  | _ => false

/-- A driver has been closed. -/
def closes : Exchange → Bool
  | .close (.ok ()) => true
  | _ => false

/-- Another driver comes into play, or one goes out of it. -/
def changesDriver : Exchange → Bool
  | .start _ | .verify _ | .close (.ok ()) => true
  | _ => false

end Exchange

namespace Phase.Steps

variable {p q : Phase} {e : Exchange} {exchanges before : List Exchange}

/-- The last of exchanges in order. -/
theorem split_last (steps : Steps p (before ++ [e]) q) : ∃ r, Steps p before r ∧ Step r e q := by
  obtain ⟨r, _, front, step, back⟩ := steps.split_at
  cases back
  exact ⟨r, front, step⟩

/-- Another phase is reached by a last exchange. -/
theorem exists_last (steps : Steps p exchanges q) (moved : p ≠ q) :
    ∃ before e r, exchanges = before ++ [e] ∧ Step r e q := by
  rcases List.eq_nil_or_concat exchanges with rfl | ⟨before, e, rfl⟩
  · cases steps
    exact absurd rfl moved
  · rw [List.concat_eq_append] at steps ⊢
    obtain ⟨r, -, step⟩ := steps.split_last
    exact ⟨before, e, r, rfl, step⟩

/-- A driver that is still to be verified has just been set up. -/
theorem exists_of_started (steps : Steps .idle exchanges .started) :
    ∃ before, exchanges = before ++ [.start (.ok ())] := by
  obtain ⟨before, e, r, rfl, step⟩ := steps.exists_last nofun
  cases step
  exact ⟨before, rfl⟩

/-- A session in which nothing has been run has just been opened. -/
theorem exists_of_opened (steps : Steps .idle exchanges .opened) :
    ∃ before, exchanges = before ++ [.openSession (.ok ())] := by
  obtain ⟨before, e, r, rfl, step⟩ := steps.exists_last nofun
  cases step
  exact ⟨before, rfl⟩

/-- A driver that is held has been set up and verified, and no other one has come into play. -/
theorem exists_of_holds (steps : Steps .idle exchanges p) (holds : p.holds = true) :
    ∃ earlier since, exchanges = earlier ++ .start (.ok ()) :: .verify (.ok ()) :: since ∧
      ∀ e ∈ since, e.changesDriver = false := by
  -- from the end: the last exchange has brought the driver in, or left alone the one before it
  induction exchanges using List.reverseRecOn generalizing p with
  | nil =>
    cases steps
    cases holds
  | append_singleton before e ih =>
    obtain ⟨q, front, step⟩ := steps.split_last
    have later (held : q.holds = true) (same : e.changesDriver = false) :
        ∃ earlier since,
          before ++ [e] = earlier ++ .start (.ok ()) :: .verify (.ok ()) :: since ∧
            ∀ e ∈ since, e.changesDriver = false := by
      obtain ⟨earlier, since, rfl, unchanged⟩ := ih front held
      refine ⟨earlier, since ++ [e], by simp, ?_⟩
      simpa [or_imp, forall_and] using ⟨unchanged, same⟩
    cases step with
    | unstarted | started | unverified | closed => cases holds
    | verified =>
      obtain ⟨earlier, rfl⟩ := front.exists_of_started
      exact ⟨earlier, [], by simp, nofun⟩
    | unopened | opened | ran | ended | unclosed => exact later rfl rfl

/-- There is one more driver that has been verified than there are closed ones if one is held, and
there are as many if none is. -/
theorem countP_verifies (steps : Steps .idle exchanges p) :
    exchanges.countP Exchange.verifies = exchanges.countP Exchange.closes + p.holds.toNat := by
  induction exchanges using List.reverseRecOn generalizing p with
  | nil =>
    cases steps
    rfl
  | append_singleton before e ih =>
    obtain ⟨q, front, step⟩ := steps.split_last
    rw [List.countP_append, List.countP_append, ih front]
    cases step <;> simp [Exchange.verifies, Exchange.closes, holds]

/-- After a statement the session is closed before anything else happens. -/
theorem exists_of_answered (steps : Steps .answered exchanges p)
    (between : p = .idle ∨ p = .connected) :
    ∃ ended rest, exchanges = .closeSession ended :: rest := by
  cases steps with
  | nil => rcases between with same | same <;> cases same
  | cons step others =>
    cases step
    exact ⟨_, _, rfl⟩

/-- In a session that has been opened one statement is run, and then it is closed. -/
theorem exists_after_opened (steps : Steps .opened exchanges p)
    (between : p = .idle ∨ p = .connected) :
    ∃ text params answer ended rest,
      exchanges = .run text params answer :: .closeSession ended :: rest := by
  cases steps with
  | nil => rcases between with same | same <;> cases same
  | cons step others =>
    cases step
    obtain ⟨ended, rest, rfl⟩ := others.exists_of_answered between
    exact ⟨_, _, _, ended, rest, rfl⟩

end Phase.Steps

/-- Exchanges of a connection that are in order. -/
structure Orderly (exchanges : List Exchange) : Prop where
  /-- A statement is run only by a driver that has been set up and verified, and that has neither
  been closed nor replaced since. -/
  guarded : ∀ before text params answer after,
    exchanges = before ++ .run text params answer :: after →
    ∃ earlier since, before = earlier ++ .start (.ok ()) :: .verify (.ok ()) :: since ∧
      ∀ e ∈ since, e.changesDriver = false
  /-- In a session that is opened one statement is run, and then the session is closed, before
  anything else happens. -/
  closed : ∀ before after, exchanges = before ++ .openSession (.ok ()) :: after →
    ∃ text params answer ended rest,
      after = .run text params answer :: .closeSession ended :: rest
  /-- A statement is run just between the beginning and the end of a session. -/
  within : ∀ before text params answer after,
    exchanges = before ++ .run text params answer :: after →
    ∃ earlier ended rest, before = earlier ++ [.openSession (.ok ())] ∧
      after = .closeSession ended :: rest
  /-- There is never more than one driver that has been verified and not been closed. -/
  single : ∀ before, before <+: exchanges →
    before.countP Exchange.closes ≤ before.countP Exchange.verifies ∧
      before.countP Exchange.verifies ≤ before.countP Exchange.closes + 1

/-- Exchanges that follow the protocol between operations are orderly. -/
theorem Phase.Steps.orderly {exchanges : List Exchange} {link : Link σ}
    (steps : Steps .idle exchanges link.phase) : Orderly exchanges where
  guarded := by
    rintro before text params answer after rfl
    obtain ⟨q, _, front, step, -⟩ := steps.split_at
    cases step
    exact front.exists_of_holds rfl
  closed := by
    rintro before after rfl
    obtain ⟨q, _, -, step, back⟩ := steps.split_at
    cases step
    exact back.exists_after_opened link.phase_eq
  within := by
    rintro before text params answer after rfl
    obtain ⟨q, _, front, step, back⟩ := steps.split_at
    cases step
    obtain ⟨earlier, rfl⟩ := front.exists_of_opened
    obtain ⟨ended, rest, rfl⟩ := back.exists_of_answered link.phase_eq
    exact ⟨earlier, ended, rest, rfl, rfl⟩
  single := by
    rintro before ⟨after, rfl⟩
    obtain ⟨q, front, -⟩ := steps.split
    rw [front.countP_verifies]
    cases q.holds <;> simp

/-! ### The lifecycle -/

namespace Connection

/-- Whatever has been done with a connection and whatever its driver has answered, its exchanges are
orderly, and it holds a driver exactly if one more has been verified than closed. While it holds
one, connecting does nothing, disconnecting closes the driver, and running a statement either yields
one mapping for each record or fails with the statement and with what went wrong in its session.
While it holds none, connecting leads to one only if it succeeds, and neither disconnecting nor
running a statement asks a driver for anything; the statement fails. -/
theorem keeps_lifecycle (c : Connection σ) (server : σ) (ops : List Operation) :
    ∃ exchanges link, c.Goes (fun _ c => c.runAll ops) ⟨false, server⟩ exchanges (.ok ()) link ∧
      Orderly exchanges ∧
      exchanges.countP Exchange.verifies = exchanges.countP Exchange.closes + link.connected.toNat ∧
      (link.connected = true →
        c.Goes (fun _ c => c.connect) link [] (.ok ()) link ∧
        (∃ answer server',
          c.Goes (fun _ c => c.disconnect) link [.close answer] answer ⟨!answer.isOk, server'⟩) ∧
        ∀ text params database, ∃ asked outcome server',
          c.Goes (fun _ c => c.execute text params database) link asked
            (outcome.mapError (.execution text)) ⟨true, server'⟩ ∧
          Session text (if params.isNull then .map [] else params) asked outcome) ∧
      (link.connected = false →
        (∃ asked outcome server',
          c.Goes (fun _ c => c.connect) link asked outcome ⟨outcome.isOk, server'⟩ ∧
          Connects asked outcome) ∧
        c.Goes (fun _ c => c.disconnect) link [] (.ok ()) link ∧
        ∀ text params database,
          c.Goes (fun _ c => c.execute text params database) link [] (.error .notConnected)
            link) := by
  have unconnected : c.Valid ⟨false, server⟩ := nofun
  obtain ⟨exchanges, outcome, link, goes, steps, valid⟩ := c.proceeds_runAll ops _ unconnected
  obtain rfl : outcome = .ok () := by
    rw [← c.outcome_runAll ops ⟨false, server⟩, goes.plain]
  have steps : Phase.Steps .idle exchanges link.phase := steps
  refine ⟨exchanges, link, goes, steps.orderly, ?_, fun connected => ?_, fun disconnected => ?_⟩
  · rw [steps.countP_verifies, link.holds_phase]
  · obtain ⟨driver, installed⟩ := valid connected
    refine ⟨goes_connect_of_connected connected, exists_goes_disconnect installed connected, ?_⟩
    intro text params database
    have run := exists_goes_execute installed connected text params database
    rw [connected] at run
    exact run
  · obtain ⟨asked, outcome, server', goes, connects, -⟩ := exists_goes_connect c disconnected
    exact ⟨⟨asked, outcome, server', goes, connects⟩, goes_disconnect_of_disconnected disconnected,
      goes_execute_of_disconnected disconnected⟩

/-- A connection outlives a statement that fails: the next one is run in a session of its own. Once
it has been left, no statement is run. -/
theorem keeps_lifecycle_refused :
    let driver : Driver Unit :=
      { start := fun _ _ => pure (), verify := pure (), openSession := fun _ => pure (),
        run := fun _ _ => Act.fail (.reported .runtime "refused"), closeSession := pure (),
        close := pure () }
    let settings : Settings.Server :=
      { uri := "bolt://localhost:7687", username := "", password := "", database := "neo4j",
        encrypted := false, maxLifetime := 3600, maxPoolSize := 50, acquisitionTimeout := 60,
        logQueries := false, enterprise := false }
    let c : Connection Unit := ⟨settings, some driver⟩
    let refused : Operation := .execute "RETURN 1" .null .null
    (∃ exchanges link asked outcome server',
      c.Goes (fun _ c => c.runAll [.enter, refused]) ⟨false, ()⟩ exchanges (.ok ()) link ∧
      Orderly exchanges ∧
      c.Goes (fun _ c => c.execute "RETURN 1" .null .null) link asked
        (outcome.mapError (.execution "RETURN 1")) ⟨true, server'⟩ ∧
      Session "RETURN 1" (.map []) asked outcome) ∧
    ∃ exchanges link,
      c.Goes (fun _ c => c.runAll [.enter, refused, .leave]) ⟨false, ()⟩ exchanges (.ok ()) link ∧
      c.Goes (fun _ c => c.execute "RETURN 1" .null .null) link [] (.error .notConnected) link := by
  intro driver settings c refused
  obtain ⟨exchanges, link, goes, orderly, -, whileConnected, -⟩ :=
    keeps_lifecycle c () [.enter, refused]
  obtain ⟨exchanges', link', goes', -, -, -, whileIdle⟩ :=
    keeps_lifecycle c () [.enter, refused, .leave]
  have connected : link.connected = true := (congrArg (·.2.connected) goes.plain).symm
  have idle : link'.connected = false := (congrArg (·.2.connected) goes'.plain).symm
  obtain ⟨-, -, runs⟩ := whileConnected connected
  obtain ⟨asked, outcome, server', ran, session⟩ := runs "RETURN 1" .null .null
  obtain ⟨-, -, fails⟩ := whileIdle idle
  exact ⟨⟨exchanges, link, asked, outcome, server', goes, orderly, ran, session⟩,
    exchanges', link', goes', fails "RETURN 1" .null .null⟩

end Connection

end GraphMapper.Server
