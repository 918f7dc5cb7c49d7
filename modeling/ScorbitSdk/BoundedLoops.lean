import Mathlib.Order.Basic

/-!
# Loops over a counter

A loop makes at most as many passes as its counter allows; the body of a pass
goes on with the next one or breaks off.
-/

namespace ScorbitSdk

variable {State : Type*}

/-- `for (i = index; left > 0; ++i, --left)`, with a body that yields to the next
pass or is done with the loop. -/
def boundedLoop (body : Nat → State → ForInStep State) :
    (left index : Nat) → State → State
  | 0, _, state => state
  | left + 1, index, state =>
      match body index state with
      | .done state => state
      | .yield state => boundedLoop body left (index + 1) state

/-- A pass that goes on meets `goesOn`, and one that breaks off meets `ends`. -/
def PassMeets (goesOn ends : State → Prop) : ForInStep State → Prop
  | .yield state => goesOn state
  | .done state => ends state

/-- An invariant of the passes gives what holds behind the loop. -/
theorem boundedLoop_rule {body : Nat → State → ForInStep State}
    (invariant : Nat → State → Prop) {ends : State → Prop} {left index : Nat}
    {state : State} (initially : invariant index state)
    (passes : ∀ i state, index ≤ i → i < index + left → invariant i state →
      PassMeets (invariant (i + 1)) ends (body i state))
    (exhausted : ∀ state, invariant (index + left) state → ends state) :
    ends (boundedLoop body left index state) := by
  induction left generalizing index state with
  | zero => exact exhausted state initially
  | succ left ih =>
      have pass := passes index state (Nat.le_refl _) (by omega) initially
      unfold boundedLoop
      cases result : body index state with
      | done next =>
          rw [result] at pass
          exact pass
      | yield next =>
          rw [result] at pass
          refine ih pass (fun i state atLeast less => ?_) fun state holds => ?_
          · exact passes i state (by omega) (by omega)
          · apply exhausted state
            rwa [Nat.add_assoc, Nat.add_comm 1 left] at holds

end ScorbitSdk
