import ScorbitSdk.TransitionRuns
import Mathlib.Algebra.BigOperators.Group.Finset.Basic
import Mathlib.Algebra.Order.Group.Multiset
import Mathlib.Logic.Hydra

/-!
# Runs that come to an end

A stream of choices drives a transition system until it meets an action that is
not enabled.  Where the steps without a mark are well-founded, the run goes on
for ever only by taking infinitely many marked ones.

Such an order often comes from counting work: the state holds finitely many
items, and each step does away with one of them and leaves finitely many
smaller ones.
-/

namespace ScorbitSdk

namespace Transition

variable {State Action : Type*} {step : State → Action → Option State}

/-- The state after that many choices, if all of them were enabled. -/
def after (step : State → Action → Option State) (state : State)
    (choices : ℕ → Action) : ℕ → Option State
  | 0 => some state
  | count + 1 =>
      (after step state choices count).bind fun reached =>
        step reached (choices count)

def Ends (step : State → Action → Option State) (state : State)
    (choices : ℕ → Action) : Prop :=
  ∃ count, after step state choices count = none

theorem after_of_le {state : State} {choices : ℕ → Action} {count more : ℕ}
    (ended : after step state choices count = none) (le : count ≤ more) :
    after step state choices more = none := by
  induction more, le using Nat.le_induction with
  | base => exact ended
  | succ more _ ih => rw [after, ih, Option.bind_none]

/-- A well-founded part of the steps cannot go on for ever. -/
theorem ends_of_unmarked {marked : State → Action → Prop}
    (wellFounded : WellFounded fun next state =>
      ∃ action, step state action = some next ∧ ¬ marked state action)
    {state : State} {choices : ℕ → Action} {count : ℕ}
    (unmarked : ∀ more, count ≤ more → ∀ reached,
      after step state choices more = some reached →
        ¬ marked reached (choices more)) :
    Ends step state choices := by
  have fromHere : ∀ reached more, count ≤ more →
      after step state choices more = some reached →
        Ends step state choices := by
    intro reached
    induction reached using wellFounded.induction with
    | _ reached ih =>
        intro more le isReached
        cases isNext : step reached (choices more) with
        | none =>
            refine ⟨more + 1, ?_⟩
            rw [after, isReached, Option.bind_some, isNext]
        | some next =>
            refine ih next ⟨choices more, isNext, unmarked more le reached
              isReached⟩ (more + 1) (Nat.le_succ_of_le le) ?_
            rw [after, isReached, Option.bind_some, isNext]
  cases isReached : after step state choices count with
  | none => exact ⟨count, isReached⟩
  | some reached => exact fromHere reached count le_rfl isReached

theorem ends_iff {marked : State → Action → Prop}
    (wellFounded : WellFounded fun next state =>
      ∃ action, step state action = some next ∧ ¬ marked state action)
    (state : State) (choices : ℕ → Action) :
    Ends step state choices ↔
      ∃ count, ∀ more, count ≤ more → ∀ reached,
        after step state choices more = some reached →
          ¬ marked reached (choices more) := by
  constructor
  · rintro ⟨count, ended⟩
    refine ⟨count, fun more le reached isReached => ?_⟩
    rw [after_of_le ended le] at isReached
    exact nomatch isReached
  · rintro ⟨count, unmarked⟩
    exact ends_of_unmarked wellFounded unmarked

/-- What every step keeps holds wherever the choices lead. -/
theorem after_invariant {invariant : State → Prop}
    (preserved : ∀ state action next, invariant state →
      step state action = some next → invariant next)
    {state : State} {choices : ℕ → Action} (initially : invariant state)
    {count : ℕ} {reached : State}
    (isReached : after step state choices count = some reached) :
    invariant reached := by
  induction count generalizing reached with
  | zero => exact Option.some.inj isReached ▸ initially
  | succ count ih =>
      obtain ⟨before, isBefore, taken⟩ := Option.bind_eq_some_iff.mp isReached
      exact preserved before _ reached (ih isBefore) taken

/-- Where it can always go on, a system does so for some choices. -/
theorem exists_not_ends {invariant : State → Prop}
    (goesOn : ∀ state, invariant state →
      ∃ action next, step state action = some next ∧ invariant next)
    {state : State} (initially : invariant state) :
    ∃ choices, ¬ Ends step state choices := by
  have follows : ∀ state : { state // invariant state },
      ∃ action, ∃ next : { state // invariant state },
        step state action = some next.1 := by
    rintro ⟨state, holds⟩
    obtain ⟨action, next, taken, kept⟩ := goesOn state holds
    exact ⟨action, ⟨next, kept⟩, taken⟩
  choose action next taken using follows
  let reached (count : ℕ) : { state // invariant state } :=
    next^[count] ⟨state, initially⟩
  have isReached : ∀ count,
      after step state (fun count => action (reached count)) count =
        some (reached count).1 := by
    intro count
    induction count with
    | zero => rfl
    | succ count ih =>
        rw [after, ih, Option.bind_some, taken]
        exact congrArg (fun state => some state.1)
          (Function.iterate_succ_apply' next count _).symm
  refine ⟨fun count => action (reached count), ?_⟩
  rintro ⟨count, ended⟩
  rw [isReached] at ended
  exact nomatch ended

end Transition

/-! ## Work -/

section Work

open Relation

variable {Item Index : Type*} {smaller : Item → Item → Prop}

/-- The work after a step that does away with some items, each one for finitely
many smaller ones. -/
abbrev LessWork (smaller : Item → Item → Prop) :
    Multiset Item → Multiset Item → Prop :=
  TransGen (CutExpand smaller)

theorem wellFounded_lessWork (wellFounded : WellFounded smaller) :
    WellFounded (LessWork smaller) :=
  wellFounded.cutExpand.transGen

/-- Beyond some work that stays, one item gives way to smaller ones. -/
theorem lessWork_of_add_eq {item : Item} {before after spawned : Multiset Item}
    (all : ∀ other ∈ spawned, smaller other item)
    (equation : after + {item} = before + spawned) :
    LessWork smaller after before :=
  TransGen.single ⟨spawned, item, all, equation⟩

theorem lessWork_add_right {before after : Multiset Item} (more : Multiset Item)
    (less : LessWork smaller after before) :
    LessWork smaller (after + more) (before + more) :=
  less.lift (· + more) fun _ _ cut => (cutExpand_add_right more).mpr cut

theorem sum_update_add [Fintype Index] [DecidableEq Index]
    (work : Index → Multiset Item) (index : Index) (changed : Multiset Item) :
    ∑ other, Function.update work index changed other + work index =
      ∑ other, work other + changed := by
  rw [Finset.sum_update_of_mem (Finset.mem_univ index), add_assoc, add_comm]
  congr 1
  rw [← Finset.erase_eq, Finset.sum_erase_add _ _ (Finset.mem_univ index)]

end Work

end ScorbitSdk
