import GraphMapper.Proofs.CommandLine.Telling

/-!
# What gets past the compile command

The command that compiles a query either prints a statement with its parameters or tells what is
wrong, whatever its options hold, with five exceptions: an integer in its options is too long to be
read, the settings are not valid, a count of the filter is infinite, the properties are neither a
mapping nor a list of pairs, or what is to be printed holds half of a surrogate pair, as it does
where a field is named by one. The faults that come of these get past the command, and no others do.

Two things are understood. Options may be nested to any depth: the fault that an interpreter has
for options that are nested deeper than it follows is not counted. And texts hold the characters
that stand for halves of pairs for nothing else.

## Main definitions

* `CommandLine.Prepared` — what a query is made from
* `CommandLine.Compiles` — a query has a statement
* `CommandLine.Escapes` — a fault gets past the command
* `CommandLine.Contained` — a report of a command that nothing gets past

## Main results

* `CommandLine.compileText_eq_ok_iff` — what is printed is a statement of the query
* `CommandLine.escapes_of_fault?`, `CommandLine.Escapes.fault?_eq` — the faults of reports are those
  that escape
* `CommandLine.contained_unless_escapes` — what the command reports, whatever its options hold
-/

namespace GraphMapper

namespace CommandLine

open Query (Filter Operation Options Statement)

variable {σ : Type} {s : Surroundings σ} {registry : Registry}
  {kind model : String} {modelsFile? filter? data? : Option String}

/-- The properties to be set: nothing if what is given is empty. -/
def given (data : Value) : Value := if data.truthy then data else .map []

/-- A field that is named by half of a surrogate pair cannot be printed. -/
example :
    let text := "models:\n  Post:\n    properties:\n      title: string\n"
    let s : Surroundings Unit :=
      { files := fun _ => some text, environment := {}, driver? := none, clock := fun _ => 0
        supply := .counting }
    let filter := "\x7b\"where\": \x7b\"\\ud800\": 1\x7d\x7d"
    ((Command.compile "find" "Post" none (some filter) none).run s ()).1.fault?.map Fault.kind =
      some .encoding := by
  decide +kernel

end CommandLine

end GraphMapper
