import GraphMapper.Calendar.Instant
import GraphMapper.Server.Connection

/-!
# Scripted servers

A scripted server answers statements from a script, keeps a clock that only statements move, and
remembers what it was asked. It can be used directly, or through a driver.

## Main definitions

* `Server.Event` — what a server is asked
* `Server.Script` — what it answers
* `Server.Stage` — a server in the course of its script
* `Server.Stage.executor` — using it directly
* `Server.Stage.driver` — using it through a driver
-/

namespace GraphMapper.Server

/-- What a server is asked. -/
inductive Event where
  /-- A driver is set up. -/
  | started (uri : String) (options : List (String × Value))
  /-- The driver is asked whether it reaches the server. -/
  | verified
  /-- A session is opened. -/
  | sessionOpened (database : Value)
  /-- A statement is run in the open session. -/
  | ran (text : String) (params : Value)
  /-- The session is closed. -/
  | sessionClosed
  /-- The driver is closed. -/
  | closed
  /-- A statement is run directly. -/
  | executed (text : String) (params : Value)
  /-- The constraints are asked for. -/
  | constraintsAsked
  /-- The indexes are asked for. -/
  | indexesAsked

/-- What a server answers. -/
structure Script where
  /-- The answers to statements, one after the other. -/
  responses : List (Except Fault Value) := []
  /-- What happens on statements with a certain text in them. -/
  failure? : Option (String × Fault) := none
  /-- The answer to the question for the constraints. -/
  constraints? : Option (Except Fault Value) := none
  /-- The answer to the question for the indexes. -/
  indexes? : Option (Except Fault Value) := none
  /-- What becomes of the setting up of a driver. -/
  start : Except Fault Unit := .ok ()
  /-- What becomes of the verification of a driver. -/
  verify : Except Fault Unit := .ok ()
  /-- The microseconds that a statement takes. -/
  delay : Int := 0

/-- A server in the course of its script. -/
structure Stage where
  /-- The script, without the answers that have been given. -/
  script : Script
  /-- The time. -/
  now : Instant
  /-- What the server was asked. -/
  events : List Event := []

namespace Stage

/-- Remembers what the server is asked. -/
def note (event : Event) : Act Stage Unit :=
  modify fun stage => { stage with events := stage.events ++ [event] }

/-- A text occurs in another. -/
def occursIn (part : List Char) : List Char → Bool
  | [] => part.isEmpty
  | c :: cs => part.isPrefixOf (c :: cs) || occursIn part cs

/-- Lets the time of a statement pass, and fails if it has the text on which the script fails. -/
def begin (text : String) : Act Stage Unit := do
  modify fun stage => { stage with now := stage.now + stage.script.delay }
  match (← get).script.failure? with
  | some (part, fault) =>
    if occursIn part.toList text.toList then Act.fail fault else pure ()
  | none => pure ()

/-- The next answer of the script, which is an empty list if there is none. -/
def respond : Act Stage Value := do
  let stage ← get
  match stage.script.responses with
  | [] => pure (.list [])
  | answer :: rest =>
    set { stage with script := { stage.script with responses := rest } }
    Act.result answer

/-- Parameters have to be a mapping. -/
def checkParams : Value → Act Stage Unit
  | .map _ => pure ()
  | v => Act.fail (.shape (.noMember v.typeName "items"))

/-- Runs a statement directly. -/
def execute (text : String) (params : Value) : Act Stage Value := do
  if params.isNull then pure () else checkParams params
  note (.executed text params)
  begin text
  respond

/-- The entries that scripted records describe; none if there are no records. -/
def inspect (records? : Option (Except Fault Value))
    (read : Value → Except ShapeFault Schema.LiveEntry) : Except Fault (List Schema.LiveEntry) :=
  match records? with
  | none => .ok []
  | some (.error fault) => .error fault
  | some (.ok records) =>
    (records.items.bind fun records => records.mapM read).mapError Fault.shape

/-- The reports of the live schema. -/
def inspector : Inspector Stage where
  constraints := do
    note .constraintsAsked
    Act.result (inspect (← get).script.constraints? Schema.LiveEntry.ofConstraint)
  indexes := do
    note .indexesAsked
    Act.result (inspect (← get).script.indexes? Schema.LiveEntry.ofIndex)

/-- The server as what runs statements under a name. -/
def executor (name : String) (inspects : Bool) : Executor Stage :=
  ⟨name, execute, if inspects then some inspector else none⟩

/-- Runs a statement in the open session. The statements that ask for the live schema have answers
of their own. -/
def run (text : String) (params : Value) : Act Stage Value := do
  checkParams params
  note (.ran text params)
  begin text
  let script := (← get).script
  let own? :=
    if text == showConstraints then script.constraints?
    else if text == showIndexes then script.indexes?
    else none
  match own? with
  | some answer => Act.result answer
  | none => respond

/-- The driver of the server. -/
def driver : Driver Stage where
  start uri options := do
    note (.started uri options)
    Act.result (← get).script.start
  verify := do
    note .verified
    Act.result (← get).script.verify
  openSession database := note (.sessionOpened database)
  run := run
  closeSession := note .sessionClosed
  close := note .closed

end Stage

end GraphMapper.Server
