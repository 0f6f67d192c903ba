/-!
# Commands

The words of a command line name a command, its options and its arguments. Options may stand
anywhere after the command; the word `--` ends them. The last of several values of an option counts.

## Main definitions

* `CommandLine.Command` — what is to be done
* `CommandLine.Command.ofWords` — reading it from the words of a command line
-/

namespace GraphMapper.CommandLine

/-- What is to be done. -/
inductive Command where
  /-- Show the statement of a query and its parameters. -/
  | compile (kind model : String) (modelsFile? filter? data? : Option String)
  /-- Show the statements that create what models require. -/
  | plan (models : List String) (modelsFile? : Option String) (enterprise? : Option Bool)
  /-- Bring the schema of the server in line with models. -/
  | migrate (models : List String) (modelsFile? : Option String) (updateOnly : Bool)
  /-- Find out whether the server answers. -/
  | ping
  deriving DecidableEq, Repr

/-- An option that a command knows. -/
structure Switch where
  /-- The words for it. -/
  words : List String
  /-- It is given a value. -/
  valued : Bool

/-- The arguments and options on a command line. -/
structure Scan where
  /-- The arguments. -/
  arguments : List String := []
  /-- The first words of the options and their values, which are empty for options without. -/
  options : List (String × String) := []

namespace Scan

/-- With one more argument in front. -/
def addArgument (s : Scan) (word : String) : Scan := { s with arguments := word :: s.arguments }

/-- With one more option in front. -/
def addOption (s : Scan) (o : Switch) (value : String) : Scan :=
  { s with options := (o.words.headD "", value) :: s.options }

/-- The last value of an option. -/
def value? (s : Scan) (word : String) : Option String := s.options.reverse.lookup word

end Scan

/-- The option that a word stands for. -/
def find? (known : List Switch) (word : String) : Option Switch :=
  known.find? (·.words.contains word)

/-- The options without values that the letters of a word stand for, up to the first option with a
value, and the letters after that one. -/
def letters? (known : List Switch) : List Char →
    Option (List Switch × Option (Switch × List Char))
  | [] => some ([], none)
  | c :: cs =>
    match find? known (String.ofList ['-', c]) with
    | none => none
    | some o =>
      if o.valued then some ([], some (o, cs))
      else (letters? known cs).map fun (os, last?) => (o :: os, last?)

/-- The arguments and options in some words. -/
def scan? (known : List Switch) : List String → Option Scan
  | [] => some {}
  | word :: rest =>
    match word.toList with
    | ['-', '-'] => some { arguments := rest }
    | '-' :: '-' :: cs =>
      match find? known (String.ofList ('-' :: '-' :: cs.takeWhile (· != '='))),
          cs.dropWhile (· != '=') with
      | none, _ => none
      | some o, _ :: value =>
        if o.valued then (scan? known rest).map (·.addOption o (String.ofList value)) else none
      | some o, [] =>
        if o.valued then
          match rest with
          | value :: rest => (scan? known rest).map (·.addOption o value)
          | [] => none
        else (scan? known rest).map (·.addOption o "")
    | '-' :: c :: cs =>
      match letters? known (c :: cs) with
      | none => none
      | some (flags, none) =>
        (scan? known rest).map fun s => flags.foldr (fun o s => s.addOption o "") s
      | some (flags, some (o, value)) =>
        let add (value : String) (s : Scan) : Scan :=
          flags.foldr (fun o s => s.addOption o "") (s.addOption o value)
        if value.isEmpty then
          match rest with
          | value :: rest => (scan? known rest).map (add value)
          | [] => none
        else (scan? known rest).map (add (String.ofList value))
    | _ => (scan? known rest).map (·.addArgument word)

/-- The option that names the file with the models. -/
def modelsOption : Switch := ⟨["--models", "-m"], true⟩

namespace Command

/-- The command that some words give. -/
def ofScanned (name : String) (words : List String) : Option Command :=
  match name with
  | "compile" => do
    let s ← scan? [modelsOption, ⟨["--filter", "-f"], true⟩, ⟨["--data", "-d"], true⟩] words
    match s.arguments with
    | [kind, model] =>
      some (.compile kind model (s.value? "--models") (s.value? "--filter") (s.value? "--data"))
    | _ => none
  | "plan" => do
    let s ← scan? [modelsOption, ⟨["--enterprise"], false⟩, ⟨["--community"], false⟩] words
    let choice := (s.options.reverse.find? fun o => o.1 != "--models").map (·.1 == "--enterprise")
    some (.plan s.arguments (s.value? "--models") choice)
  | "migrate" => do
    let s ← scan? [modelsOption, ⟨["--update-only"], false⟩] words
    some (.migrate s.arguments (s.value? "--models") (s.value? "--update-only").isSome)
  | "ping" => do
    let s ← scan? [] words
    if s.arguments.isEmpty then some .ping else none
  | _ => none

/-- The command that the words of a command line give. Diagnostic output may be asked for in front
of it. -/
def ofWords : List String → Option Command
  | [] => none
  | word :: rest =>
    if word == "-v" || word == "--verbose" then ofWords rest else ofScanned word rest

end Command

end GraphMapper.CommandLine
