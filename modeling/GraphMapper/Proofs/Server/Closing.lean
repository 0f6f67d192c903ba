import GraphMapper.Proofs.Schema.Recording
import GraphMapper.Proofs.Server.Lifecycle
import GraphMapper.Server.Migration

/-!
# What becomes of drivers

A driver that has been set up is held by the connection if it can be verified, and it is closed once
when the connection is left, whatever became of what was done with it. A driver that cannot be
verified is dropped by the connection without being closed. So as many drivers are closed as have
been set up, except for those that could not be verified and for one that may still be held.

## Main definitions

* `Server.Fate` — what becomes of a driver that has been set up
* `Server.Accounted` — exchanges that tell what becomes of every driver
* `Server.Visit` — the exchanges of a connection that is made for one purpose

## Main results

* `Phase.Steps.exists_fate` — every driver that is set up has a fate
* `Phase.Steps.countP_creates` — how many drivers are set up, closed, refused and held
* `Phase.Steps.accounted` — exchanges that follow the protocol account for every driver
* `Connection.exists_goes_within` — what is done while connected is a visit
* `Preparation.exists_records_migrateThrough` — so is a migration through its own connection
* `drivers_accounted` — all of this, for every driver
-/

namespace GraphMapper.Server

open Act (Abides Records Rule)

variable {σ τ α : Type}

namespace Exchange

/-- A driver has been set up. -/
def creates : Exchange → Bool
  | .start (.ok ()) => true
  | _ => false

/-- A driver could not be verified. -/
def refuses : Exchange → Bool
  | .verify (.error _) => true
  | _ => false

/-- A driver is to close itself. -/
def asksToClose : Exchange → Bool
  | .close _ => true
  | _ => false

/-- Something is asked for a session. -/
def inSession : Exchange → Bool
  | .openSession _ | .run _ _ _ | .closeSession _ => true
  | _ => false

end Exchange

/-! ### Drivers one after the other -/

/-- What becomes of a driver that has been set up: the exchanges with it that follow, and whether it
is still held after them. -/
inductive Fate : List Exchange → Bool → Prop
  /-- It cannot be verified, and it is dropped. -/
  | dropped {fault : Fault} : Fate [.verify (.error fault)] false
  /-- It is used and then closed. -/
  | closed {used : List Exchange} (kept : ∀ e ∈ used, e.changesDriver = false) :
    Fate (.verify (.ok ()) :: (used ++ [.close (.ok ())])) false
  /-- It is used and has not been closed. -/
  | held {used : List Exchange} (kept : ∀ e ∈ used, e.changesDriver = false) :
    Fate (.verify (.ok ()) :: used) true

namespace Phase

/-- There is a driver that has been set up and neither been dropped nor closed. -/
def live : Phase → Bool
  | .idle => false
  | .started | .connected | .opened | .answered => true

/-- A driver that comes into play by an exchange is there afterwards, and one that was there before
has gone out of it by being closed or refused, or is there still. -/
theorem Step.balance {p q : Phase} {e : Exchange} (step : Step p e q) :
    (if e.creates then 1 else 0) + p.live.toNat =
      (if e.closes then 1 else 0) + (if e.refuses then 1 else 0) + q.live.toNat := by
  cases step <;> rfl

namespace Steps

variable {p q : Phase} {exchanges : List Exchange}

/-- Without a driver the next thing that is done is to set one up. -/
theorem exists_of_idle (steps : Steps .idle exchanges q) :
    exchanges = [] ∨ ∃ answer rest, exchanges = .start answer :: rest := by
  cases steps with
  | nil => exact .inl rfl
  | cons step others => cases step <;> exact .inr ⟨_, _, rfl⟩

/-- A driver that is held stays the same, until it is closed if it is closed at all. -/
theorem exists_used (steps : Steps p exchanges q) (holds : p.holds = true) :
    q.holds = true ∧ (∀ e ∈ exchanges, e.changesDriver = false) ∨
      ∃ used rest, exchanges = used ++ .close (.ok ()) :: rest ∧
        (∀ e ∈ used, e.changesDriver = false) ∧ Steps .idle rest q := by
  induction steps with
  | nil => exact .inl ⟨holds, nofun⟩
  | @cons p p' q e rest step others ih =>
    have later (holds' : p'.holds = true) (same : e.changesDriver = false) :
        q.holds = true ∧ (∀ e' ∈ e :: rest, e'.changesDriver = false) ∨
          ∃ used rest', e :: rest = used ++ .close (.ok ()) :: rest' ∧
            (∀ e ∈ used, e.changesDriver = false) ∧ Steps .idle rest' q := by
      rcases ih holds' with ⟨held, kept⟩ | ⟨used, rest', rfl, kept, idle⟩
      · exact .inl ⟨held, List.forall_mem_cons.2 ⟨same, kept⟩⟩
      · exact .inr ⟨e :: used, rest', rfl, List.forall_mem_cons.2 ⟨same, kept⟩, idle⟩
    cases step with
    | unstarted | started | unverified | verified => cases holds
    | unopened | opened | ran | ended | unclosed => exact later rfl rfl
    | closed => exact .inr ⟨[], rest, rfl, nofun, others⟩

/-- Every driver that is set up has a fate, and nothing is done with it afterwards. -/
theorem exists_fate (steps : Steps .started exchanges q) (between : q = .idle ∨ q = .connected) :
    ∃ own rest held, exchanges = own ++ rest ∧ Fate own held ∧
      (rest = [] ∨ ∃ answer others, rest = .start answer :: others) ∧
      (held = true → rest = [] ∧ q.holds = true) := by
  cases steps with
  | nil => rcases between with same | same <;> cases same
  | cons step others =>
    cases step with
    | unverified => exact ⟨_, _, _, rfl, .dropped, others.exists_of_idle, nofun⟩
    | verified =>
      rcases others.exists_used rfl with ⟨held, kept⟩ | ⟨used, rest, rfl, kept, idle⟩
      · exact ⟨_, [], _, (List.append_nil _).symm, .held kept, .inl rfl, fun _ => ⟨rfl, held⟩⟩
      · exact ⟨_, rest, _, by simp, .closed kept, idle.exists_of_idle, nofun⟩

/-- Each driver that has been set up has been closed or could not be verified, or there is still
one. -/
theorem countP_creates (steps : Steps p exchanges q) :
    exchanges.countP Exchange.creates + p.live.toNat =
      exchanges.countP Exchange.closes + exchanges.countP Exchange.refuses + q.live.toNat := by
  induction steps with
  | nil => rw [List.countP_nil, List.countP_nil, List.countP_nil, Nat.zero_add]
  | cons step others ih =>
    have balance := step.balance
    rw [List.countP_cons, List.countP_cons, List.countP_cons]
    omega

end Steps

end Phase

/-- The exchanges of a connection tell what becomes of every driver, one of which may still be held
in the end. -/
structure Accounted (exchanges : List Exchange) (holds : Bool) : Prop where
  /-- As many drivers have been closed as have been set up, except for those that could not be
  verified and for the one that is held. -/
  count : exchanges.countP Exchange.creates =
    exchanges.countP Exchange.closes + exchanges.countP Exchange.refuses + holds.toNat
  /-- Every driver has a fate, and nothing is done with it afterwards. Only the last one may be
  held. -/
  fate : ∀ before after, exchanges = before ++ .start (.ok ()) :: after →
    ∃ own rest held, after = own ++ rest ∧ Fate own held ∧
      (rest = [] ∨ ∃ answer others, rest = .start answer :: others) ∧
      (held = true → rest = [] ∧ holds = true)

/-- Exchanges that follow the protocol account for every driver. -/
theorem Phase.Steps.accounted {exchanges : List Exchange} {link : Link σ}
    (steps : Steps .idle exchanges link.phase) : Accounted exchanges link.connected where
  count := by
    have live : link.phase.live = link.connected := by
      rw [Link.phase]
      cases link.connected <;> rfl
    rw [← live]
    exact steps.countP_creates
  fate := by
    rintro before after rfl
    obtain ⟨q, _, -, step, back⟩ := steps.split_at
    cases step
    obtain ⟨own, rest, held, same, fate, next, still⟩ := back.exists_fate link.phase_eq
    exact ⟨own, rest, held, same, fate, next, link.holds_phase ▸ still⟩

/-! ### Connections for one purpose -/

/-- The exchanges of a connection that is made for one purpose. -/
inductive Visit : List Exchange → Prop
  /-- There is no connection, so nothing is done. -/
  | failed {exchanges : List Exchange} {fault : Fault}
    (connects : Connects exchanges (.error fault)) : Visit exchanges
  /-- Some sessions are held, and in the end the driver is closed, with any answer. -/
  | made {used : List Exchange} {answer : Except Fault Unit}
    (sessions : ∀ e ∈ used, e.inSession = true) :
    Visit (.start (.ok ()) :: .verify (.ok ()) :: (used ++ [.close answer]))

theorem Session.forall_inSession {text : String} {params : Value} {exchanges : List Exchange}
    {outcome : Except Fault (List Value)} (session : Session text params exchanges outcome) :
    ∀ e ∈ exchanges, e.inSession = true := by
  cases session <;> simp [Exchange.inSession]

/-- A driver that has been set up is asked to close itself, or it could not be verified. -/
theorem Visit.countP_creates {exchanges : List Exchange} (visit : Visit exchanges) :
    exchanges.countP Exchange.creates =
      exchanges.countP Exchange.asksToClose + exchanges.countP Exchange.refuses := by
  cases visit with
  | failed connects => cases connects <;> rfl
  | @made used answer sessions =>
    -- in a session no driver comes into play or goes out of it
    have none {f : Exchange → Bool} (other : ∀ e, e.inSession = true → f e = false) :
        used.countP f = 0 :=
      List.countP_eq_zero.2 fun e member => by simp [other e (sessions e member)]
    have created : used.countP Exchange.creates = 0 := none fun e known => by
      cases e <;> first | rfl | cases known
    have asked : used.countP Exchange.asksToClose = 0 := none fun e known => by
      cases e <;> first | rfl | cases known
    have refused : used.countP Exchange.refuses = 0 := none fun e known => by
      cases e <;> first | rfl | cases known
    simp only [List.countP_cons, List.countP_append, created, asked, refused]
    rfl

/-- What is done between connecting and disconnecting is a visit if it holds sessions only. -/
theorem exists_visit (rule : Rule σ τ Exchange) {start stop : Act σ Unit}
    {start' stop' : Act τ Unit} {body : Act σ α} {body' : Act τ α} {s : σ}
    (first : ∃ exchanges outcome s₁, Records rule.keep start start' s exchanges outcome s₁ ∧
      Connects exchanges outcome ∧ (outcome.isOk = true → rule.valid s₁))
    (second : Abides rule body body') (sessions : ∀ e, rule.allows e → e.inSession = true)
    (third : ∀ s₂, rule.valid s₂ → ∃ answer s₃,
      Records rule.keep stop stop' s₂ [.close answer] answer s₃) :
    ∃ exchanges outcome s', Records rule.keep (Act.between start stop body)
      (Act.between start' stop' body') s exchanges outcome s' ∧ Visit exchanges := by
  obtain ⟨exchanges, fault | _, s₁, started, connects, valid⟩ := first
  · exact ⟨exchanges, .error fault, s₁, started.stop, .failed connects⟩
  obtain ⟨used, outcome, s₂, done, allowed, valid'⟩ := second s₁ (valid rfl)
  obtain ⟨answer, s₃, stopped⟩ := third s₂ valid'
  cases connects
  exact ⟨_, _, _, started.between done stopped,
    .made fun e member => sessions e (allowed e member)⟩

namespace Connection

/-- The connection holds a driver, and there is one that it can hold. -/
def Holds (c : Connection σ) (link : Link σ) : Prop :=
  link.connected = true ∧ ∃ driver, c.driver? = some driver

/-- The rule to hold sessions only. -/
def sessions (c : Connection σ) : Rule (Link σ) (Link (σ × List Exchange)) Exchange where
  keep := Link.keeping
  valid := c.Holds
  allows e := e.inSession = true

variable {c : Connection σ}

theorem abides_execute (c : Connection σ) (text : String) (params database : Value) :
    Abides c.sessions (c.execute text params database)
      (c.recorded.execute text params database) := by
  rintro link ⟨connected, driver, installed⟩
  obtain ⟨exchanges, outcome, server, goes, session⟩ :=
    exists_goes_execute installed connected text params database
  exact ⟨exchanges, _, _, goes, session.forall_inSession, connected, driver, installed⟩

theorem abides_entriesOf (c : Connection σ) (text : String)
    (read : Value → Except ShapeFault Schema.LiveEntry) :
    Abides c.sessions (c.entriesOf text read) (c.recorded.entriesOf text read) :=
  (c.abides_execute text .null .null).bind fun _ => .result _

theorem abides_ping (c : Connection σ) : Abides c.sessions c.ping c.recorded.ping := by
  intro link holds
  obtain ⟨exchanges, rows, link', goes, sessions, holds'⟩ :=
    c.abides_execute probe .null .null link holds
  obtain ⟨answered, goes⟩ := exists_goes_ping goes
  exact ⟨exchanges, answered, link', goes, sessions, holds'⟩

/-- A migration through a connection holds sessions only. -/
theorem abides_migrator (c : Connection σ) (clock : σ → Instant) (enterprise : Bool) :
    Schema.Migrator.Abides c.sessions
      ⟨c.executor, c.inspector, fun link => clock link.server, enterprise⟩
      ⟨c.recorded.executor, c.recorded.inspector, fun link => clock link.server.1, enterprise⟩ where
  execute text params := (c.abides_execute text params .null).bind fun _ => .pure _
  constraints := c.abides_entriesOf showConstraints _
  indexes := c.abides_entriesOf showIndexes _
  clock _ _ := rfl
  enterprise := rfl

theorem exists_records_connect (c : Connection σ) (server : σ) :
    ∃ exchanges outcome link, Records Link.keeping c.connect c.recorded.connect ⟨false, server⟩
      exchanges outcome link ∧ Connects exchanges outcome ∧
        (outcome.isOk = true → c.Holds link) := by
  have idle : (⟨false, server⟩ : Link σ).connected = false := rfl
  obtain ⟨exchanges, outcome, server', goes, connects, installed⟩ := exists_goes_connect c idle
  exact ⟨exchanges, outcome, _, goes, connects, fun fine => ⟨fine, installed fine⟩⟩

theorem exists_records_disconnect {link : Link σ} (holds : c.Holds link) :
    ∃ answer link', Records Link.keeping c.disconnect c.recorded.disconnect link [.close answer]
      answer link' := by
  obtain ⟨connected, driver, installed⟩ := holds
  obtain ⟨answer, server, goes⟩ := exists_goes_disconnect installed connected
  exact ⟨answer, _, goes⟩

/-- A connection that fails to connect holds no driver. -/
theorem disconnected_of_connect {fault : Fault} {link link' : Link σ}
    (failed : c.connect.perform link = (.error fault, link')) : link'.connected = false := by
  cases connected : link.connected with
  | true =>
    rw [perform_connect_of_connected connected] at failed
    cases failed
  | false =>
    obtain ⟨exchanges, outcome, server, goes, -⟩ := exists_goes_connect c connected
    cases goes.plain.symm.trans failed
    rfl

/-- A connection that has been disconnected holds no driver. -/
theorem disconnected_of_disconnect {link link' : Link σ} (valid : c.Valid link)
    (done : c.disconnect.perform link = (.ok (), link')) : link'.connected = false := by
  cases connected : link.connected with
  | false =>
    rw [perform_disconnect_of_disconnected connected] at done
    cases done
    exact connected
  | true =>
    obtain ⟨driver, installed⟩ := valid connected
    obtain ⟨answer, server, goes⟩ := exists_goes_disconnect installed connected
    cases goes.plain.symm.trans done
    rfl

/-- What is done while connected is a visit if it holds sessions only. -/
theorem exists_goes_within (c : Connection σ) (server : σ)
    {body : (τ : Type) → Connection τ → Act (Link τ) α}
    (abides : Abides c.sessions (body σ c) (body (σ × List Exchange) c.recorded)) :
    ∃ exchanges outcome link, c.Goes (fun τ c => c.within (body τ c)) ⟨false, server⟩ exchanges
      outcome link ∧ Visit exchanges :=
  exists_visit c.sessions (c.exists_records_connect server) abides (fun _ known => known)
    fun _ => exists_records_disconnect

end Connection

/-- A migration through a connection of its own is a visit. -/
theorem Preparation.exists_records_migrateThrough (p : Preparation) (driver? : Option (Driver σ))
    (clock : σ → Instant) (mode : Schema.Mode) (server : σ) (log? : Option RunLog) :
    ∃ exchanges outcome run, Records (Schema.Run.keeping Link.keeping)
      (p.migrateThrough driver? clock mode)
      (p.migrateThrough (driver?.map Driver.recorded) (fun s => clock s.1) mode)
      ⟨⟨false, server⟩, log?⟩ exchanges outcome run ∧ Visit exchanges := by
  let c : Connection σ := ⟨p.settings, driver?⟩
  refine exists_visit (Schema.Run.rule c.sessions) ?_
    ((c.abides_migrator clock p.settings.enterprise).migrate mode p.models) (fun _ known => known)
    fun run holds => ?_
  · obtain ⟨exchanges, outcome, link, connected, connects, holds⟩ :=
      c.exists_records_connect server
    exact ⟨exchanges, outcome, _, Schema.Migrator.records_onServer connected, connects, holds⟩
  · obtain ⟨answer, link, disconnected⟩ := Connection.exists_records_disconnect holds
    exact ⟨answer, _, Schema.Migrator.records_onServer disconnected⟩

/-- Whatever has been done with a connection, every driver that was set up has been closed once or
could not be verified, except for the one that may still be held; none is held when connecting has
failed or disconnecting has succeeded. What asks through a connection of its own whether the server
answers, or migrates through one, sets up at most one driver, and in the end it asks this driver to
close itself, whatever failed, unless the driver could not be verified. -/
theorem drivers_accounted (driver? : Option (Driver σ)) (server : σ) :
    (∀ (settings : Settings.Server) (ops : List Operation),
      let c : Connection σ := ⟨settings, driver?⟩
      ∃ exchanges link, c.Goes (fun _ c => c.runAll ops) ⟨false, server⟩ exchanges (.ok ()) link ∧
        Accounted exchanges link.connected ∧
        (∀ fault link', c.connect.perform link = (.error fault, link') → link'.connected = false) ∧
        ∀ link', c.disconnect.perform link = (.ok (), link') → link'.connected = false) ∧
    (∀ settings : Settings.Server,
      let c : Connection σ := ⟨settings, driver?⟩
      ∃ exchanges outcome link,
        c.Goes (fun _ c => c.within c.ping) ⟨false, server⟩ exchanges outcome link ∧
        Visit exchanges ∧ exchanges.countP Exchange.creates =
          exchanges.countP Exchange.asksToClose + exchanges.countP Exchange.refuses) ∧
    ∀ (p : Preparation) (clock : σ → Instant) (mode : Schema.Mode) (log? : Option RunLog),
      ∃ exchanges outcome run, Records (Schema.Run.keeping Link.keeping)
        (p.migrateThrough driver? clock mode)
        (p.migrateThrough (driver?.map Driver.recorded) (fun s => clock s.1) mode)
        ⟨⟨false, server⟩, log?⟩ exchanges outcome run ∧
        Visit exchanges ∧ exchanges.countP Exchange.creates =
          exchanges.countP Exchange.asksToClose + exchanges.countP Exchange.refuses := by
  refine ⟨fun settings ops => ?_, fun settings => ?_, fun p clock mode log? => ?_⟩
  · intro c
    have unconnected : c.Valid ⟨false, server⟩ := nofun
    obtain ⟨exchanges, outcome, link, goes, steps, valid⟩ := c.proceeds_runAll ops _ unconnected
    obtain rfl : outcome = .ok () := by
      rw [← c.outcome_runAll ops ⟨false, server⟩, goes.plain]
    have steps : Phase.Steps .idle exchanges link.phase := steps
    exact ⟨exchanges, link, goes, steps.accounted, fun _ _ => c.disconnected_of_connect,
      fun _ => c.disconnected_of_disconnect valid⟩
  · intro c
    obtain ⟨exchanges, outcome, link, goes, visit⟩ := c.exists_goes_within server c.abides_ping
    exact ⟨exchanges, outcome, link, goes, visit, visit.countP_creates⟩
  · obtain ⟨exchanges, outcome, run, records, visit⟩ :=
      p.exists_records_migrateThrough driver? clock mode server log?
    exact ⟨exchanges, outcome, run, records, visit, visit.countP_creates⟩

/-- A driver that cannot reach the server is set up, and the connection fails without closing it. -/
example (settings : Settings.Server) :
    let refused : Fault := .reported .system "refused"
    let driver : Driver Unit :=
      { start := fun _ _ => pure (), verify := Act.fail refused, openSession := fun _ => pure (),
        run := fun _ _ => pure (.list []), closeSession := pure (), close := pure () }
    let c : Connection Unit := ⟨settings, some driver⟩
    (c.recorded.within c.recorded.ping).perform ⟨false, ((), [])⟩ =
      (.error (.connection refused), ⟨false, ((), [.start (.ok ()), .verify (.error refused)])⟩) :=
  rfl

end GraphMapper.Server
