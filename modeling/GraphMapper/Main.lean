import GraphMapper.CommandLine.Report

/-!
# The program

The program reads its variables, the file `.env` and the file with the models, carries out the
command that its words give, and writes the report. It has no driver of a server built in.
-/

namespace GraphMapper

/-- The names of the variables that settings are read from. -/
def variableNames : List String :=
  ["NEO4J_URI", "NEO4J_USERNAME", "NEO4J_PASSWORD", "NEO4J_DATABASE", "NEO4J_ENCRYPTED",
    "NEO4J_MAX_CONNECTION_LIFETIME", "NEO4J_MAX_CONNECTION_POOL_SIZE",
    "NEO4J_CONNECTION_ACQUISITION_TIMEOUT", "NEO4J_LOG_QUERIES", "NEO4J_ENTERPRISE",
    "CYPHERLINK_STRICT_OPERATORS", "CYPHERLINK_STRICT_SORT_DIRECTION", "CYPHERLINK_ALIAS",
    "CYPHERLINK_MODELS_FILE", "MIGRATION_LOG_DIR", "MIGRATION_RUN_LOG"]

/-- The variables that are set. -/
def readSurroundings : IO (List (String × String)) := do
  let values ← variableNames.mapM fun name => do return (name, ← IO.getEnv name)
  return values.filterMap fun (name, value?) => value?.map fun value => (name, value)

/-- The text of a file, if it is there. -/
def readFile? (path : String) : IO (Option String) := do
  try
    let text ← IO.FS.readFile path
    return some text
  catch _ => return none

/-- Identifiers that count up from a random one. -/
def randomSupply : IO Supply := do
  let bytes ← IO.getRandomBytes 16
  let first := bytes.toList.foldl (fun n b => n * 256 + b.toNat) 0
  return ⟨fun n => String.ofList (Text.hexDigits 32 ((first + n) % Nat.pow 2 128)), 0⟩

/-- The path of the file with the models that a command works with. -/
def CommandLine.Command.path (e : Settings.Environment) : CommandLine.Command → String
  | .compile _ _ path? _ _ => modelsPath e path?
  | .plan _ path? _ => modelsPath e path?
  | .migrate _ path? _ => modelsPath e path?
  | .ping => Settings.modelsFile e

/-- Carries a command out and writes the report. -/
def carryOut (command : CommandLine.Command) : IO UInt32 := do
  let e := Settings.Environment.ofFile (← readSurroundings) (← readFile? ".env")
  let path := command.path e
  let text? ← readFile? path
  let s : CommandLine.Surroundings Unit :=
    { files := fun p => if p = path then text? else none, environment := e, driver? := none,
      clock := fun _ => 0, supply := ← randomSupply }
  let (report, _, _) := command.run s ()
  IO.print report.output
  IO.eprint report.errors
  match report.fault? with
  | some fault => IO.eprintln fault.message
  | none => pure ()
  return report.code.toUInt32

end GraphMapper

/-- Runs the command that the words give. -/
def main (words : List String) : IO UInt32 := do
  match GraphMapper.CommandLine.Command.ofWords words with
  | some command => GraphMapper.carryOut command
  | none =>
    IO.eprintln "usage: compile KIND MODEL | plan [MODEL ...] | migrate [MODEL ...] | ping"
    return 2
