import GraphMapper.Value.Shape

/-!
# Arguments

Arguments are given by position or by name and are fitted to the parameters of an operation.

## Main definitions

* `Parameter` — a named parameter with an optional default
* `Arguments` — arguments given by position and by name
* `Arguments.fit` — one argument for each parameter
-/

namespace GraphMapper

/-- A parameter of an operation. -/
structure Parameter where
  /-- Its name. -/
  name : String
  /-- Its value where no argument is given. -/
  default? : Option Value := none

/-- The arguments that an operation is called with. -/
structure Arguments where
  /-- Those given by position. -/
  given : List Value := []
  /-- Those given by name. -/
  named : Value.Entries := []

namespace Arguments

/-- The arguments for parameters that are given by name or not at all. -/
def rest (named : Value.Entries) : List Parameter → Except ShapeFault (List Value)
  | [] => .ok []
  | p :: ps =>
    match (Value.get? named p.name).or p.default? with
    | none => .error .wrongArguments
    | some v => (rest named ps).map (v :: ·)

/-- The argument names a parameter of the list. -/
def fits (parameters : List Parameter) (key : Value) : Bool :=
  parameters.any fun p => key.equals (.text p.name)

/-- One argument for each parameter. There may be no argument too many, no parameter without an
argument or default, and none with two arguments. -/
def fit (parameters : List Parameter) (a : Arguments) : Except ShapeFault (List Value) :=
  let others := parameters.drop a.given.length
  if a.given.length ≤ parameters.length && a.named.all fun e => fits others e.1 then
    (rest a.named others).map (a.given ++ ·)
  else .error .wrongArguments

@[simp] theorem rest_nil (named : Value.Entries) : rest named [] = .ok [] := rfl

end Arguments

end GraphMapper
