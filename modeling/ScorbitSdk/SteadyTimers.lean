import Mathlib.Tactic.Common

/-!
# Timers with one wait

Starting such a timer cancels the wait before and begins a new one.  When its
time has come a wait ends, and its handler is ready to run; from then on it can
no longer be cancelled.  Times are those of a clock that never goes back.
-/

namespace ScorbitSdk

structure SteadyTimer (Handler : Type*) where
  wait : Option (Int × Handler) := none
  ready : List Handler := []

namespace SteadyTimer

variable {Handler : Type*}

def start (timer : SteadyTimer Handler) (expiry : Int) (handler : Handler) :
    SteadyTimer Handler :=
  { timer with wait := some (expiry, handler) }

def cancel (timer : SteadyTimer Handler) : SteadyTimer Handler :=
  { timer with wait := none }

/-- The wait ends; there is one, and its time has come. -/
def expire (timer : SteadyTimer Handler) (now : Int) :
    Option (SteadyTimer Handler) :=
  match timer.wait with
  | some (expiry, handler) =>
      if expiry ≤ now then
        some { wait := none, ready := timer.ready ++ [handler] }
      else none
  | none => none

theorem eq_of_expire {timer next : SteadyTimer Handler} {now : Int}
    (expired : timer.expire now = some next) :
    ∃ expiry handler, timer.wait = some (expiry, handler) ∧ expiry ≤ now ∧
      next = { wait := none, ready := timer.ready ++ [handler] } := by
  unfold expire at expired
  split at expired
  · rename_i expiry handler isWait
    obtain ⟨passed, isNext⟩ := Option.ite_none_right_eq_some.mp expired
    exact ⟨expiry, handler, isWait, passed, (Option.some.inj isNext).symm⟩
  · exact nomatch expired

/-- One of the handlers that are ready begins to run. -/
def take (timer : SteadyTimer Handler) (index : Nat) :
    Option (Handler × SteadyTimer Handler) :=
  timer.ready[index]?.map fun handler =>
    (handler, { timer with ready := timer.ready.eraseIdx index })

end SteadyTimer

end ScorbitSdk
