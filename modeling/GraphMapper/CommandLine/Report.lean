import GraphMapper.CommandLine.Command
import GraphMapper.CommandLine.Table
import GraphMapper.Model.Document
import GraphMapper.Query.Statement
import GraphMapper.Server.Migration

/-!
# Carrying out commands

A command reads the models from a file and reports what it found out or did. What the user can have
brought about is reported on the error output; any other fault is passed on.

Output is written text by text. Each text is encoded, and one with half of a surrogate pair cannot
be; on the error output halves are escaped. Lines are as long as they need, but tables are laid out
for the console.

## Main definitions

* `CommandLine.Surroundings` — what a command finds around it
* `CommandLine.Report` — what a command reports
* `CommandLine.Command.run` — carrying a command out
-/

namespace GraphMapper.CommandLine

/-- What a command finds around it, with a server of states of type `σ`. -/
structure Surroundings (σ : Type) where
  /-- The texts of the files that are there. -/
  files : String → Option String
  /-- The variables. -/
  environment : Settings.Environment
  /-- The driver of the server, if one is installed. -/
  driver? : Option (Server.Driver σ)
  /-- The time. -/
  clock : σ → Instant
  /-- The identifiers. -/
  supply : Supply
  /-- How the console lays out a table with its visible title. -/
  layout : Table → String → String := Table.unbounded

/-- What a command reports. -/
structure Report where
  /-- The exit code. -/
  code : Nat := 0
  /-- What it writes to the output. -/
  output : String := ""
  /-- What it writes to the error output. -/
  errors : String := ""
  /-- The fault that it passes on. -/
  fault? : Option Fault := none

/-- Why a command comes to no good end. -/
inductive Refusal where
  /-- The user is told. -/
  | told (line : String)
  /-- The fault is passed on. -/
  | passedOn (fault : Fault)

namespace Report

/-- The report of an outcome. Texts are written one after the other, up to one that cannot be
encoded. -/
def ofOutcome : Except Refusal (List String) → Report
  | .ok texts =>
    if texts.any Text.hasHalf then
      { code := 1, output := String.join (texts.takeWhile fun text => !Text.hasHalf text)
        fault? := some .encoding }
    else { output := String.join texts }
  | .error (.told line) =>
    { code := 1, errors := Text.escapeHalves (Text.dropEscapes line) ++ "\n" }
  | .error (.passedOn fault) => { code := 1, fault? := some fault }

end Report

/-- An outcome in which faults of some kinds are told and all others passed on. -/
def telling {α : Type} (kinds : List Fault.Kind) : Except Fault α → Except Refusal α
  | .ok a => .ok a
  | .error fault =>
    if kinds.contains fault.kind then .error (.told ("Error: " ++ fault.message))
    else .error (.passedOn fault)

/-- The kinds of faults that compiling a query tells. -/
def compileKinds : List Fault.Kind := [.key, .compile, .execution, .migration]

/-- The kinds of faults that a migration tells. -/
def migrationKinds : List Fault.Kind := .connection :: compileKinds

/-- A text as a line of output. -/
def outputLine (s : String) : String := shown s ++ "\n"

/-- The kinds of queries that can be compiled. -/
def queryKinds : List String := ["find", "count", "destroy-all", "update-all"]

/-- The operation of a query of the given kind. -/
def operationOf (kind : String) (filter data : Value) : Query.Operation :=
  if kind = "find" then .find (.value filter)
  else if kind = "count" then .count (.value filter)
  else if kind = "destroy-all" then .destroyAll (.value filter)
  else .updateAll (.value filter) data

/-- The value of an option that is written in JSON, and null if the option is not given. Only what
is wrong with the form of the text is told. -/
def jsonOption (option : String) : Option String → Except Refusal Value
  | none => .ok .null
  | some text =>
    if Json.hasLongInteger text then .error (.passedOn (.shape .outOfRange))
    else
      match Json.read text with
      | .ok v => .ok v
      | .error fault =>
        .error (.told ("Error: " ++ option ++ " is not valid JSON: " ++ fault.message))

/-- The table of the parameters of a statement. -/
def parameterTable (params : Query.Bindings) : Except ShapeFault Table := do
  let rows ← params.mapM fun (name, value) => do
    let text ← Json.write value
    .ok [name, Json.showHalves text]
  .ok ⟨"Parameters", ["Name", "Value"], rows⟩

/-- The text of a table in a layout. -/
def drawn (layout : Table → String → String) (t : Table) : Except Fault String :=
  (t.draw layout).mapError Fault.markup

/-- A statement and the table of its parameters, if it has any. -/
def statementTexts (layout : Table → String → String) (s : Query.Statement) :
    Except Fault (List String) := do
  if s.params.isEmpty then .ok [outputLine s.text]
  else
    let table ← (parameterTable s.params).mapError Fault.shape
    .ok [outputLine s.text, ← drawn layout table]

/-- The table of what a migration has done. -/
def outcomeTable (o : Schema.Outcome) : Table where
  title := "Schema " ++ o.mode.name ++ ": " ++ ", ".intercalate o.labels
  heads := ["Phase", "Statement"]
  rows := o.droppedConstraints.map (["drop constraint", ·])
    ++ o.droppedIndexes.map (["drop index", ·]) ++ o.created.map (["create", ·])

namespace Command

variable {σ : Type}

/-- The path of the file with the models: the given one, or that of the settings. -/
def modelsPath (e : Settings.Environment) (path? : Option String) : String :=
  match path? with
  | some path => if path.isEmpty then Settings.modelsFile e else path
  | none => Settings.modelsFile e

/-- The models of the file at a path. -/
def loadModels (s : Surroundings σ) (path? : Option String) : Except Refusal Registry :=
  let path := modelsPath s.environment path?
  match s.files path with
  | none => .error (.told ("Error: models file not found: " ++ path))
  | some text => (Registry.load text).mapError .passedOn

/-- Settings that have been checked. -/
def settled {α : Type} (c : Validation.Checked α) : Except Refusal α :=
  c.mapError fun issues => .passedOn (.invalid issues)

/-- The texts of a query. -/
def compileText (s : Surroundings σ) (kind model : String)
    (modelsFile? filter? data? : Option String) : Except Refusal (List String) := do
  if !queryKinds.contains kind then
    .error (.told ("Error: kind must be one of " ++ ", ".intercalate queryKinds ++ ", got '" ++ kind
      ++ "'"))
  else
    -- The file comes first: what is wrong with the options shows only if it can be read.
    let registry ← loadModels s modelsFile?
    let filter ← jsonOption "--filter" filter?
    let data ← jsonOption "--data" data?
    let data := if data.truthy then data else .map []
    let options ← settled (Settings.compiler s.environment)
    let (statement, _) ← telling compileKinds do
      let m ← registry.get (.text model)
      (operationOf kind filter data).compile options m s.supply
    (statementTexts s.layout statement).mapError Refusal.passedOn

/-- The statements that create what models require. -/
def planText (s : Surroundings σ) (models : List String) (modelsFile? : Option String)
    (enterprise? : Option Bool) : Except Refusal (List String) := do
  let registry ← loadModels s modelsFile?
  let enterprise ←
    match enterprise? with
    | some b => .ok b
    | none => (settled (Settings.server s.environment [])).map (·.enterprise)
  let statements ← telling [.key]
    (Schema.statementsFor registry (.list (models.map .text)) enterprise)
  .ok (if statements.isEmpty then ["No constraints or indexes required.\n"]
    else statements.map outputLine)

/-- A migration: the text of what it has done, the server and the run log. -/
def migrateText (s : Surroundings σ) (models : List String) (modelsFile? : Option String)
    (mode : Schema.Mode) (server : σ) : Except Refusal (List String) × σ × Option RunLog :=
  match loadModels s modelsFile? with
  | .error refusal => (.error refusal, server, none)
  | .ok registry =>
    match Server.Preparation.ofSettings registry (.list (models.map .text)) s.environment
        (s.clock server) s.supply with
    | .error fault => (telling migrationKinds (.error fault), server, none)
    | .ok p =>
      let (r, run) := (p.migrateThrough s.driver? s.clock mode).perform ⟨⟨false, server⟩, p.log?⟩
      let outcome := do
        let o ← telling migrationKinds r
        ((drawn s.layout (outcomeTable o)).map ([·])).mapError Refusal.passedOn
      (outcome, run.server.server, run.log?)

/-- Whether the server answers, and the server. -/
def pingText (s : Surroundings σ) (server : σ) : Except Refusal (List String) × σ :=
  match settled (Settings.server s.environment []) with
  | .error refusal => (.error refusal, server)
  | .ok settings =>
    let c : Server.Connection σ := ⟨settings, s.driver?⟩
    let (r, link) := (c.within c.ping).perform ⟨false, server⟩
    let place := "Neo4j at " ++ settings.uri
    let outcome :=
      match telling [.connection] r with
      | .error refusal => .error refusal
      | .ok true => .ok [Text.dropEscapes place ++ " is reachable\n"]
      | .ok false => .error (.told (place ++ " did not answer"))
    (outcome, link.server)

/-- Carries a command out. Yields the report, the server and the run log, if one was kept. -/
def run (s : Surroundings σ) (server : σ) : Command → Report × σ × Option RunLog
  | .compile kind model modelsFile? filter? data? =>
    (.ofOutcome (compileText s kind model modelsFile? filter? data?), server, none)
  | .plan models modelsFile? enterprise? =>
    (.ofOutcome (planText s models modelsFile? enterprise?), server, none)
  | .migrate models modelsFile? updateOnly =>
    let (outcome, server, log?) :=
      migrateText s models modelsFile? (if updateOnly then .updateOnly else .fullMigrate) server
    (.ofOutcome outcome, server, log?)
  | .ping =>
    let (outcome, server) := pingText s server
    (.ofOutcome outcome, server, none)

end Command

end GraphMapper.CommandLine
