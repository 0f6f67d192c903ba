import GraphMapper.Act
import GraphMapper.Text.Lines

/-!
# Reading a run log

The text of a log holds one JSON value on each line. Blank lines say nothing.

## Main definitions

* `RunLog.readLine` — the value on a line, if it is asked for
* `RunLog.read` — the values in a text
-/

namespace GraphMapper.RunLog

/-- A value is asked for if no level is given or its level is the given one. Only mappings have a
level. -/
def isWanted (level v : Value) : Except Fault Bool :=
  if level.isNull then .ok true
  else
    match v.member "level" with
    | .ok own => .ok (own.equals level)
    | .error fault => .error (.shape fault)

/-- The value on a line, unless the line is blank or the value is not asked for. -/
def readLine (level : Value) (line : String) : Except Fault (Option Value) :=
  let line := Text.trim line
  if line.isEmpty then .ok none
  else
    match Json.read line with
    | .error fault => .error (.json fault)
    | .ok v => (isWanted level v).map fun wanted => if wanted then some v else none

/-- The values on some lines that are asked for. -/
def readLines (level : Value) : List String → Except Fault (List Value)
  | [] => .ok []
  | line :: rest => do
    let first ← readLine level line
    let others ← readLines level rest
    .ok (first.toList ++ others)

/-- The values in a text that are asked for; none if there is no text. -/
def read (level : Value) : Option String → Except Fault (List Value)
  | none => .ok []
  | some text => readLines level (Text.lines text)

@[simp] theorem read_none (level : Value) : read level none = .ok [] := rfl

end GraphMapper.RunLog
