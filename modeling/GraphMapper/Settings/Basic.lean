import GraphMapper.Query.Options
import GraphMapper.Settings.Environment

/-!
# Settings

The settings of the connection to the server, of the compiler and of migrations, and the file with
the models.

## Main definitions

* `Settings.Server`, `Settings.server` — the settings of the connection
* `Settings.compiler` — the settings of the compiler
* `Settings.Migration`, `Settings.migration` — the settings of migrations
* `Settings.modelsFile` — the file with the models
-/

namespace GraphMapper.Settings

open Validation

/-- The settings of the connection to the server. -/
structure Server where
  /-- The address of the server. -/
  uri : String
  /-- The name to log in with. -/
  username : String
  /-- The password to log in with. -/
  password : String
  /-- The database to work on. -/
  database : String
  /-- The connection is encrypted. -/
  encrypted : Bool
  /-- How many seconds a connection may be kept. -/
  maxLifetime : Int
  /-- How many connections may be kept. -/
  maxPoolSize : Int
  /-- How many seconds to wait for a connection. -/
  acquisitionTimeout : Int
  /-- Statements are written to the diagnostic output, which is left out. -/
  logQueries : Bool
  /-- The server has constraints that a property is there. -/
  enterprise : Bool

/-- The settings of the connection, some of them given directly. -/
def server (e : Environment) (given : Value.Entries) : Checked Server :=
  let s : Source := ⟨"NEO4J_", e, given⟩
  (Checked.zip (s.read "uri" "bolt://localhost:7687" text)
    (Checked.zip (s.read "username" "" text)
      (Checked.zip (s.read "password" "" text)
        (Checked.zip (s.read "database" "neo4j" text)
          (Checked.zip (s.read "encrypted" false truth)
            (Checked.zip (s.read "max_connection_lifetime" 3600 integer)
              (Checked.zip (s.read "max_connection_pool_size" 50 integer)
                (Checked.zip (s.read "connection_acquisition_timeout" 60 integer)
                  (Checked.zip (s.read "log_queries" false truth)
                    (s.read "enterprise" false truth)))))))))).map
    fun (uri, username, password, database, encrypted, lifetime, poolSize, timeout, logQueries,
        enterprise) =>
      ⟨uri, username, password, database, encrypted, lifetime, poolSize, timeout, logQueries,
        enterprise⟩

/-- The text can stand for a node in a statement: a name of ASCII letters, digits and underscores
that does not start with a digit. -/
def isAlias : List Char → Bool
  | [] => false
  | c :: cs => (c.isAlpha || c == '_') && cs.all fun c => c.isAlphanum || c == '_'

/-- The alias that a value gives. -/
def aliasName (v : Value) : Checked String :=
  match text v with
  | .ok s =>
    if Text.hasHalf s then .fails .encoding else if isAlias s.toList then .ok s else .fails .form
  | .error issues => .error issues

/-- The settings of the compiler. -/
def compiler (e : Environment) : Checked Query.Options :=
  let s : Source := ⟨"CYPHERLINK_", e, []⟩
  (Checked.zip (s.read "strict_operators" false truth)
    (Checked.zip (s.read "strict_sort_direction" false truth) (s.read "alias" "n" aliasName))).map
    fun (operators, direction, nodeName) => ⟨operators, direction, nodeName⟩

/-- The settings of migrations. -/
structure Migration where
  /-- The directory of the run logs. -/
  logDirectory : String
  /-- A run log is kept. -/
  runLog : Bool

/-- The settings of migrations. -/
def migration (e : Environment) : Checked Migration :=
  let s : Source := ⟨"MIGRATION_", e, []⟩
  (Checked.zip (s.read "log_dir" "workspace/logs/migrations" text)
    (s.read "run_log" true truth)).map fun (directory, runLog) => ⟨directory, runLog⟩

/-- The path of the file with the models. -/
def modelsFile (e : Environment) : String :=
  (e.value? "CYPHERLINK_MODELS_FILE").getD "models.yaml"

end GraphMapper.Settings
