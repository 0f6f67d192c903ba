import GraphMapper.Executor
import GraphMapper.Settings.Basic
import GraphMapper.Value.Arguments

/-!
# Connections

A connection holds a driver of the server from the time it is connected to the time it is
disconnected. Each statement runs in a session of its own, which is closed whatever happens in it.

## Main definitions

* `Server.Driver` — what a driver of the server can do
* `Server.Connection` — a connection to a server
* `Server.Connection.connect`, `Server.Connection.disconnect` — its beginning and end
* `Server.Connection.execute` — running a statement
* `Server.Connection.ping`, `Server.Connection.inspector` — questions to the server
* `Server.Connection.within` — doing something while connected
-/

namespace GraphMapper.Server

/-- What a driver of the server can do, with states of type `σ`. -/
structure Driver (σ : Type) where
  /-- Sets the driver up for an address. -/
  start : (uri : String) → (options : List (String × Value)) → Act σ Unit
  /-- Finds out whether the server can be reached. -/
  verify : Act σ Unit
  /-- Opens a session on a database. -/
  openSession : (database : Value) → Act σ Unit
  /-- Runs a statement in the open session and yields the records. -/
  run : (text : String) → (params : Value) → Act σ Value
  /-- Closes the open session. -/
  closeSession : Act σ Unit
  /-- Closes the driver. -/
  close : Act σ Unit

/-- A connection to a server with states of type `σ`. -/
structure Connection (σ : Type) where
  /-- Its settings. -/
  settings : Settings.Server
  /-- The driver, if one is installed. -/
  driver? : Option (Driver σ)

/-- The state of a connection and of its server. -/
structure Link (σ : Type) where
  /-- The connection holds a driver. -/
  connected : Bool
  /-- The server. -/
  server : σ

/-- The statement that asks for the constraints. -/
def showConstraints : String := "SHOW CONSTRAINTS YIELD name, type, labelsOrTypes, properties"

/-- The statement that asks for the indexes. -/
def showIndexes : String :=
  "SHOW INDEXES YIELD name, type, labelsOrTypes, properties, owningConstraint"

/-- The statement that any server answers with a row in which `ok` is 1. -/
def probe : String := "RETURN 1 AS ok"

namespace Connection

variable {σ α : Type}

/-- An act on the server. -/
def onServer (a : Act σ α) : Act (Link σ) α :=
  a.on (·.server) fun s link => { link with server := s }

/-- Notes whether the connection holds a driver. -/
def hold (connected : Bool) : Act (Link σ) Unit :=
  modify fun link => { link with connected := connected }

/-- The name and the password, unless both are empty. -/
def login (c : Connection σ) : Value :=
  if c.settings.username.isEmpty && c.settings.password.isEmpty then .null
  else .tuple [.text c.settings.username, .text c.settings.password]

/-- What the driver is set up with. -/
def options (c : Connection σ) : List (String × Value) :=
  [("auth", c.login), ("max_connection_lifetime", .int c.settings.maxLifetime),
    ("max_connection_pool_size", .int c.settings.maxPoolSize),
    ("connection_acquisition_timeout", .int c.settings.acquisitionTimeout),
    ("encrypted", .bool c.settings.encrypted)]

/-- Connects, unless the connection holds a driver already. -/
def connect (c : Connection σ) : Act (Link σ) Unit := do
  if (← get).connected then pure ()
  else
    match c.driver? with
    | none => Act.fail .driverMissing
    | some driver =>
      match ← (onServer (do driver.start c.settings.uri c.options; driver.verify)).attempt with
      -- A driver that cannot reach the server is not held.
      | .ok () => hold true
      | .error fault => Act.fail (.connection fault)

/-- Closes the driver, if the connection holds one. -/
def disconnect (c : Connection σ) : Act (Link σ) Unit := do
  if (← get).connected then
    match c.driver? with
    | none => pure ()
    | some driver => onServer driver.close
    hold false
  else pure ()

/-- The records of a result, each as a mapping. -/
def records (result : Value) : Except ShapeFault (List Value) := do
  let items ← result.items
  items.mapM fun record => record.entries.map Value.map

/-- Runs a statement in a session of its own. -/
def inSession (driver : Driver σ) (database : Value) (text : String) (params : Value) :
    Act σ (List Value) :=
  Act.between (driver.openSession database) driver.closeSession do
    let result ← driver.run text params
    Act.result ((records result).mapError Fault.shape)

/-- The database to work on: the given one, or that of the settings if none is given. -/
def databaseOr (c : Connection σ) (database : Value) : Value :=
  if database.truthy then database else .text c.settings.database

/-- Runs a statement and yields its rows. The logging of statements is left out, and the setting for
it, `Settings.Server.logQueries`, is read by no function of the program. -/
def execute (c : Connection σ) (text : String) (params : Value) (database : Value) :
    Act (Link σ) (List Value) := do
  match (← get).connected, c.driver? with
  | true, some driver =>
    -- The driver is always given parameters, if only none at all.
    let params := if params.isNull then .map [] else params
    match ← (onServer (inSession driver (c.databaseOr database) text params)).attempt with
    | .ok rows => pure rows
    | .error fault => Act.fail (.execution text fault)
  | _, _ => Act.fail .notConnected

/-- The parameters of running a statement. -/
def executeParameters : List Parameter :=
  [⟨"query", none⟩, ⟨"parameters", some .null⟩, ⟨"database", some .null⟩]

/-- Runs the statement that arguments give. They are looked at only if the connection holds a
driver. -/
def executeBy (c : Connection σ) (a : Arguments) : Act (Link σ) (List Value) := do
  if (← get).connected then
    match ← Act.result ((a.fit executeParameters).mapError Fault.shape) with
    | [.text text, params, database] => c.execute text params database
    | _ => Act.fail (.shape .wrongArguments)
  else Act.fail .notConnected

/-- The rows begin with one in which `ok` is 1. -/
def isAlive (rows : List Value) : Bool :=
  match rows with
  | .map entries :: _ => (Value.getD entries "ok").equals (.int 1)
  | _ => false

/-- Whether the server answers. -/
def ping (c : Connection σ) : Act (Link σ) Bool := do
  match ← (c.execute probe .null .null).attempt with
  | .ok rows => pure (isAlive rows)
  | .error fault => if fault.kind = .execution then pure false else Act.fail fault

/-- The entries that the records of a statement describe. -/
def entriesOf (c : Connection σ) (text : String)
    (read : Value → Except ShapeFault Schema.LiveEntry) : Act (Link σ) (List Schema.LiveEntry) := do
  let rows ← c.execute text .null .null
  Act.result ((rows.mapM read).mapError Fault.shape)

/-- The reports of the live schema. -/
def inspector (c : Connection σ) : Inspector (Link σ) where
  constraints := c.entriesOf showConstraints Schema.LiveEntry.ofConstraint
  indexes := c.entriesOf showIndexes Schema.LiveEntry.ofIndex

/-- The connection as what runs statements. -/
def executor (c : Connection σ) : Executor (Link σ) where
  name := "Connection"
  execute text params := do return .list (← c.execute text params .null)
  inspector? := some c.inspector

/-- Connects, does something, and disconnects whatever became of it. -/
def within (c : Connection σ) (body : Act (Link σ) α) : Act (Link σ) α :=
  Act.between c.connect c.disconnect body

end Connection

end GraphMapper.Server
