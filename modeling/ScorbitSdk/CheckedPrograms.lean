import Mathlib.Logic.Basic

/-!
# Programs that may throw

A program changes a state and then returns, throws or runs into undefined
behaviour.  What it has changed before it throws stays changed, and a handler
goes on from there.
-/

namespace ScorbitSdk

/-- Why a program does not return. -/
inductive Abort
  | exception (what : List Char)
  | undefined
  deriving DecidableEq

abbrev Checked (State Value : Type) := EStateM Abort State Value

namespace Checked

variable {State Value Result : Type}

/-- A call that throws or returns. -/
def call : Except (List Char) Value → Checked State Value
  | .ok result => pure result
  | .error what => throw (.exception what)

/-- `try` and a handler; undefined behaviour is not handled. -/
def catching (program : Checked State Value)
    (handler : List Char → Checked State Value) : Checked State Value :=
  fun state =>
    match program state with
    | .error (.exception what) after => handler what after
    | result => result

/-- Where a program returns, `returned` holds of its result and the state then;
where it throws, `thrown` holds of the state. -/
def Exits (program : Checked State Value) (returned : Value → State → Prop)
    (thrown : State → Prop) (state : State) : Prop :=
  match program state with
  | .ok result after => returned result after
  | .error (.exception _) after => thrown after
  | .error .undefined _ => True

variable {returned : Value → State → Prop} {thrown : State → Prop}
  {state after : State}

/-- A program that is known to return, and what comes after it. -/
theorem bind_of_ok {program : Checked State Value}
    {next : Value → Checked State Result} {result : Value}
    (returns : program state = .ok result after) :
    (program >>= next) state = next result after := by
  change EStateM.bind program next state = _
  rw [EStateM.bind, returns]

/-- Nothing comes after a program that does not return. -/
theorem bind_of_error {program : Checked State Value}
    {next : Value → Checked State Result} {abort : Abort}
    (aborts : program state = .error abort after) :
    (program >>= next) state = .error abort after := by
  change EStateM.bind program next state = _
  rw [EStateM.bind, aborts]

/-- A handler takes the place of what is thrown. -/
theorem catching_of_ok {program : Checked State Value}
    {handler : List Char → Checked State Value} {result : Value}
    (returns : program state = .ok result after) :
    catching program handler state = .ok result after := by
  rw [catching, returns]

end Checked

end ScorbitSdk
