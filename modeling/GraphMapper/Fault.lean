import GraphMapper.Json.Reader
import GraphMapper.Markup.Basic
import GraphMapper.Query.Issue
import GraphMapper.Schema.Step
import GraphMapper.Validation.Issue

/-!
# Faults

Whatever can go wrong is one of the causes below. A fault that was met while a larger task was
carried out stays inside the fault of that task.

## Main definitions

* `Fault` — what went wrong
* `Fault.message` — its text
* `Fault.Kind`, `Fault.kind` — the kinds of faults that callers tell apart
* `Fault.cause?` — the fault that led to it
-/

namespace GraphMapper

/-- The kinds of errors that a server or its driver reports. -/
inductive Report where
  /-- A statement was refused. -/
  | execution
  /-- The driver failed. -/
  | runtime
  /-- A value was refused. -/
  | value
  /-- The operating system refused a request. -/
  | system
  /-- A key was not found. -/
  | key
  /-- A query could not be compiled. -/
  | compile
  /-- No connection could be made. -/
  | connection
  deriving DecidableEq, Repr

/-- What went wrong. -/
inductive Fault where
  /-- A filter, order, projection or property map cannot be compiled. -/
  | compile (issue : Query.Issue)
  /-- A value does not fit the operation it was put through. -/
  | shape (fault : ShapeFault)
  /-- No model has the given name. -/
  | unknownModel (name : Value)
  /-- A declaration or a setting does not fit its rules. -/
  | invalid (issues : List Validation.Issue)
  /-- A document cannot be read. -/
  | document
  /-- A JSON text cannot be read. -/
  | json (fault : Json.Fault)
  /-- A text with tags cannot be shown. -/
  | markup (fault : Markup.Fault)
  /-- A text with half of a surrogate pair cannot be encoded. -/
  | encoding
  /-- A file is not there. -/
  | fileMissing (path : String)
  /-- A statement was to be run without a connection. -/
  | notConnected
  /-- A statement failed. -/
  | execution (query : String) (cause : Fault)
  /-- A step of a migration failed. -/
  | migration (step : Schema.Step) (statements : List String) (cause : Fault)
  /-- The connection to the server failed. -/
  | connection (cause : Fault)
  /-- The driver of the server is not installed. -/
  | driverMissing
  /-- The executor cannot report the schema. -/
  | noIntrospection (executor : String)
  /-- An error was reported from outside. -/
  | reported (report : Report) (message : String)

namespace Fault

/-- The text of a fault. What is reported about a key shows the key as a quoted text. -/
def message : Fault → String
  | .compile issue => issue.message
  | .shape fault => fault.message
  | .unknownModel name => Text.quoted ("Unknown model: " ++ name.display)
  | .invalid _ => "validation failed"
  | .document => "document cannot be read"
  | .json fault => fault.message
  | .markup fault => fault.message
  | .encoding => "text cannot be encoded"
  | .fileMissing path => "[Errno 2] No such file or directory: " ++ Text.quoted path
  | .notConnected => "Not connected to Neo4j. Call connect() first."
  | .execution _ cause => cause.message
  | .migration step _ cause =>
    "Schema migration failed at step '" ++ step.name ++ "': " ++ cause.message
  | .connection cause => "Could not connect to Neo4j: " ++ cause.message
  | .driverMissing => "neo4j is not installed. Install it to use Neo4jConnection."
  | .noIntrospection executor => executor ++ " cannot introspect the schema"
  | .reported .key text => Text.quoted text
  | .reported _ text => text

/-- The fault that led to this one. -/
def cause? : Fault → Option Fault
  | .execution _ cause => some cause
  | .migration _ _ cause => some cause
  | .connection cause => some cause
  | _ => none

/-- The kinds of faults that callers tell apart. -/
inductive Kind where
  /-- Nothing was sent, because there is no statement for the input. -/
  | compile
  /-- A statement failed. -/
  | execution
  /-- A migration failed. -/
  | migration
  /-- The driver failed. -/
  | runtime
  /-- There is no connection. -/
  | connection
  /-- The driver is not installed. -/
  | driverMissing
  /-- A key was not found. -/
  | key
  /-- A value is of the wrong type. -/
  | type
  /-- A value is out of range. -/
  | value
  /-- A value has no such operation. -/
  | member
  /-- A number is too large. -/
  | overflow
  /-- A text is too short. -/
  | position
  /-- A declaration or a setting is not valid. -/
  | validation
  /-- A document cannot be read. -/
  | document
  /-- A JSON text cannot be read. -/
  | json
  /-- The tags in a text do not match. -/
  | markup
  /-- A text cannot be encoded. -/
  | encoding
  /-- The operating system refused a request. -/
  | system
  /-- A file is not there. -/
  | fileMissing
  deriving DecidableEq, Repr

/-- The kind of a shape fault. -/
def kindOfShape : ShapeFault → Kind
  | .missingKey _ => .key
  | .noMember _ _ => .member
  | .pairLength _ _ | .itemCount _ _ | .outOfRange => .value
  | .infiniteInteger => .overflow
  | .noCharacter => .position
  | _ => .type

/-- The kind of a reported error. -/
def kindOfReport : Report → Kind
  | .execution => .execution
  | .runtime => .runtime
  | .value => .value
  | .system => .system
  | .key => .key
  | .compile => .compile
  | .connection => .connection

/-- The kind of a fault. -/
def kind : Fault → Kind
  | .compile _ => .compile
  | .shape fault => kindOfShape fault
  | .unknownModel _ => .key
  | .invalid _ => .validation
  | .document => .document
  | .json _ => .json
  | .markup .badNumber => .value
  | .markup _ => .markup
  | .encoding => .encoding
  | .fileMissing _ => .fileMissing
  | .notConnected => .execution
  | .execution _ _ => .execution
  | .migration _ _ _ => .migration
  | .connection _ => .connection
  | .driverMissing => .driverMissing
  | .noIntrospection _ => .type
  | .reported report _ => kindOfReport report

/-- The statement that failed, if it is known. -/
def query? : Fault → Option String
  | .execution query _ => some query
  | _ => none

end Fault

end GraphMapper
