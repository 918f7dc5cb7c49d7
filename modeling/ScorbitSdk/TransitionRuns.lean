import Mathlib.Order.Basic

/-!
# Finite runs of labelled transition systems

A transition system is a partial step function on states.  A run is a list of
actions, each enabled in the state the earlier ones lead to.  Besides the usual
invariant rule, this file keeps track of runs in which every step meets a
condition on the action and the state it is taken from.
-/

namespace ScorbitSdk

namespace Transition

variable {State Action : Type*} {step : State → Action → Option State}

/-- The state a list of actions leads to, when each of them is enabled. -/
def run (step : State → Action → Option State) :
    State → List Action → Option State
  | state, [] => some state
  | state, action :: actions =>
      (step state action).bind fun next => run step next actions

/-- Every step that a list of actions takes meets `condition`, a condition on
the action and the state it is taken from. -/
def HoldsAlong (step : State → Action → Option State)
    (condition : State → Action → Prop) : State → List Action → Prop
  | _, [] => True
  | state, action :: actions =>
      ∀ next, step state action = some next →
        condition state action ∧ HoldsAlong step condition next actions

theorem holdsAlong_nil {condition : State → Action → Prop} {state : State} :
    HoldsAlong step condition state [] :=
  trivial

theorem holdsAlong_cons {condition : State → Action → Prop} {state : State}
    {action : Action} {actions : List Action} :
    HoldsAlong step condition state (action :: actions) ↔
      ∀ next, step state action = some next →
        condition state action ∧ HoldsAlong step condition next actions :=
  Iff.rfl

@[simp]
theorem run_nil (state : State) : run step state [] = some state :=
  rfl

theorem run_cons {state final : State} {action : Action}
    {actions : List Action} :
    run step state (action :: actions) = some final ↔
      ∃ next, step state action = some next ∧
        run step next actions = some final :=
  Option.bind_eq_some_iff

theorem run_append {state final : State} {first second : List Action} :
    run step state (first ++ second) = some final ↔
      ∃ middle, run step state first = some middle ∧
        run step middle second = some final := by
  induction first generalizing state with
  | nil => simp
  | cons action first ih =>
      simp only [List.cons_append, run_cons, ih]
      constructor
      · rintro ⟨next, taken, middle, toMiddle, toFinal⟩
        exact ⟨middle, ⟨next, taken, toMiddle⟩, toFinal⟩
      · rintro ⟨middle, ⟨next, taken, toMiddle⟩, toFinal⟩
        exact ⟨next, taken, middle, toMiddle, toFinal⟩

/-- What the conditioned steps preserve may be used to weaken the condition. -/
theorem HoldsAlong.weaken {condition weaker : State → Action → Prop}
    {invariant : State → Prop}
    (preserved : ∀ state action next, invariant state →
      condition state action → step state action = some next →
        invariant next)
    (weakened : ∀ state action next, invariant state →
      step state action = some next → condition state action →
        weaker state action)
    {state : State} {actions : List Action} (initially : invariant state)
    (along : HoldsAlong step condition state actions) :
    HoldsAlong step weaker state actions := by
  induction actions generalizing state with
  | nil => exact holdsAlong_nil
  | cons action actions ih =>
      refine holdsAlong_cons.mpr fun next taken => ?_
      obtain ⟨now, later⟩ := holdsAlong_cons.mp along next taken
      exact ⟨weakened state action next initially taken now,
        ih (preserved state action next initially now taken) later⟩

theorem HoldsAlong.append {condition : State → Action → Prop} {state : State}
    {first second : List Action}
    (along : HoldsAlong step condition state first)
    (goesOn : ∀ middle, run step state first = some middle →
      HoldsAlong step condition middle second) :
    HoldsAlong step condition state (first ++ second) := by
  induction first generalizing state with
  | nil => exact goesOn state rfl
  | cons action first ih =>
      rw [List.cons_append]
      refine holdsAlong_cons.mpr fun next taken => ?_
      obtain ⟨now, later⟩ := holdsAlong_cons.mp along next taken
      refine ⟨now, ih later fun middle toMiddle => ?_⟩
      exact goesOn middle (run_cons.mpr ⟨next, taken, toMiddle⟩)

theorem HoldsAlong.cons {condition : State → Action → Prop}
    {state next : State} {action : Action} {actions : List Action}
    (taken : step state action = some next) (now : condition state action)
    (later : HoldsAlong step condition next actions) :
    HoldsAlong step condition state (action :: actions) := by
  refine holdsAlong_cons.mpr fun other otherTaken => ?_
  rw [taken, Option.some.injEq] at otherTaken
  exact ⟨now, otherTaken ▸ later⟩

/-- A condition on the actions alone holds along every run of them. -/
theorem HoldsAlong.of_forall_mem {condition : Action → Prop} {state : State}
    {actions : List Action} (all : ∀ action ∈ actions, condition action) :
    HoldsAlong step (fun _ action => condition action) state actions := by
  induction actions generalizing state with
  | nil => exact holdsAlong_nil
  | cons action actions ih =>
      refine holdsAlong_cons.mpr fun next _ => ?_
      rw [List.forall_mem_cons] at all
      exact ⟨all.1, ih all.2⟩

theorem HoldsAlong.and {first second : State → Action → Prop} {state : State}
    {actions : List Action} (alongFirst : HoldsAlong step first state actions)
    (alongSecond : HoldsAlong step second state actions) :
    HoldsAlong step (fun state action => first state action ∧ second state action)
      state actions := by
  induction actions generalizing state with
  | nil => exact holdsAlong_nil
  | cons action actions ih =>
      refine holdsAlong_cons.mpr fun next taken => ?_
      obtain ⟨firstNow, firstLater⟩ := holdsAlong_cons.mp alongFirst next taken
      obtain ⟨secondNow, secondLater⟩ :=
        holdsAlong_cons.mp alongSecond next taken
      exact ⟨⟨firstNow, secondNow⟩, ih firstLater secondLater⟩

/-- Check a condition along the steps of a list of actions. -/
def checksAlong (step : State → Action → Option State)
    (check : State → Action → Bool) : State → List Action → Bool
  | _, [] => true
  | state, action :: actions =>
      match step state action with
      | none => true
      | some next => check state action && checksAlong step check next actions

theorem HoldsAlong.of_checksAlong {condition : State → Action → Prop}
    {check : State → Action → Bool}
    (sound : ∀ state action, check state action = true →
      condition state action)
    {state : State} {actions : List Action}
    (checked : checksAlong step check state actions = true) :
    HoldsAlong step condition state actions := by
  induction actions generalizing state with
  | nil => exact holdsAlong_nil
  | cons action actions ih =>
      refine holdsAlong_cons.mpr fun next taken => ?_
      simp only [checksAlong, taken, Bool.and_eq_true] at checked
      exact ⟨sound state action checked.1, ih checked.2⟩

/-- Two conditions that agree wherever an invariant holds hold along the same
runs. -/
theorem holdsAlong_congr {first second : State → Action → Prop}
    {invariant : State → Prop}
    (preserved : ∀ state action next, invariant state →
      step state action = some next → invariant next)
    (agree : ∀ state action next, invariant state →
      step state action = some next →
        (first state action ↔ second state action))
    {state : State} {actions : List Action} (initially : invariant state) :
    HoldsAlong step first state actions ↔
      HoldsAlong step second state actions := by
  constructor
  · exact HoldsAlong.weaken
      (fun state action next holds _ => preserved state action next holds)
      (fun state action next holds taken =>
        (agree state action next holds taken).mp) initially
  · exact HoldsAlong.weaken
      (fun state action next holds _ => preserved state action next holds)
      (fun state action next holds taken =>
        (agree state action next holds taken).mpr) initially

/-- A property that a step keeps exactly where it meets a condition is kept
along exactly the runs that meet the condition. -/
theorem holdsAlong_kept_iff {condition : State → Action → Prop}
    {property : State → Prop}
    (exact : ∀ state action next, property state →
      step state action = some next →
        (property next ↔ condition state action))
    {state : State} {actions : List Action} (initially : property state) :
    HoldsAlong step
        (fun state action => ∀ next, step state action = some next →
          property next) state actions ↔
      HoldsAlong step condition state actions := by
  induction actions generalizing state with
  | nil => exact iff_of_true holdsAlong_nil holdsAlong_nil
  | cons action actions ih =>
      rw [holdsAlong_cons, holdsAlong_cons]
      constructor
      · intro kept next taken
        obtain ⟨now, later⟩ := kept next taken
        have nextHolds := now next taken
        exact ⟨(exact state action next initially taken).mp nextHolds,
          (ih nextHolds).mp later⟩
      · intro along next taken
        obtain ⟨now, later⟩ := along next taken
        have nextHolds := (exact state action next initially taken).mpr now
        refine ⟨fun other otherTaken => ?_, (ih nextHolds).mpr later⟩
        rw [taken, Option.some.injEq] at otherTaken
        exact otherTaken ▸ nextHolds

/-- What every conditioned step preserves holds after every conditioned run. -/
theorem run_preserves {condition : State → Action → Prop}
    {invariant : State → Prop}
    (preserved : ∀ state action next, invariant state →
      condition state action → step state action = some next →
        invariant next)
    {state final : State} {actions : List Action}
    (reached : run step state actions = some final)
    (along : HoldsAlong step condition state actions)
    (initially : invariant state) :
    invariant final := by
  induction actions generalizing state with
  | nil =>
      simp only [run_nil, Option.some.injEq] at reached
      exact reached ▸ initially
  | cons action actions ih =>
      obtain ⟨next, taken, toFinal⟩ := run_cons.mp reached
      obtain ⟨now, later⟩ := holdsAlong_cons.mp along next taken
      have nextHolds : invariant next :=
        preserved state action next initially now taken
      exact ih toFinal later nextHolds

/-- The unconditional case: an inductive invariant holds after every run. -/
theorem run_invariant {invariant : State → Prop}
    (preserved : ∀ state action next, invariant state →
      step state action = some next → invariant next)
    {state final : State} {actions : List Action}
    (reached : run step state actions = some final)
    (initially : invariant state) :
    invariant final := by
  induction actions generalizing state with
  | nil =>
      simp only [run_nil, Option.some.injEq] at reached
      exact reached ▸ initially
  | cons action actions ih =>
      obtain ⟨next, taken, toFinal⟩ := run_cons.mp reached
      exact ih toFinal (preserved state action next initially taken)

/-- An invariant may also speak of the actions that led to a state. -/
theorem run_history {invariant : List Action → State → Prop}
    (preserved : ∀ past state action next, invariant past state →
      step state action = some next → invariant (past ++ [action]) next)
    {past actions : List Action} {state final : State}
    (reached : run step state actions = some final)
    (initially : invariant past state) :
    invariant (past ++ actions) final := by
  induction actions generalizing past state with
  | nil =>
      simp only [run_nil, Option.some.injEq] at reached
      rw [List.append_nil]
      exact reached ▸ initially
  | cons action actions ih =>
      obtain ⟨next, taken, toFinal⟩ := run_cons.mp reached
      rw [List.append_cons]
      exact ih toFinal (preserved past state action next initially taken)

theorem holdsAlong_cons_iff {condition : State → Action → Prop}
    {state next : State} {action : Action} {actions : List Action}
    (taken : step state action = some next) :
    HoldsAlong step condition state (action :: actions) ↔
      condition state action ∧ HoldsAlong step condition next actions :=
  ⟨fun along => holdsAlong_cons.mp along next taken,
    fun along => HoldsAlong.cons taken along.1 along.2⟩

theorem holdsAlong_append_iff {condition : State → Action → Prop}
    {state middle : State} {first second : List Action}
    (reached : run step state first = some middle) :
    HoldsAlong step condition state (first ++ second) ↔
      HoldsAlong step condition state first ∧
        HoldsAlong step condition middle second := by
  induction first generalizing state with
  | nil =>
      rw [run_nil, Option.some.injEq] at reached
      subst reached
      exact (and_iff_right holdsAlong_nil).symm
  | cons action first ih =>
      obtain ⟨next, taken, toMiddle⟩ := run_cons.mp reached
      rw [List.cons_append, holdsAlong_cons_iff taken, holdsAlong_cons_iff taken,
        ih toMiddle, and_assoc]

/-- A condition holds along a run exactly if it holds of each step that is
reached. -/
theorem holdsAlong_iff_reached {condition : State → Action → Prop}
    {start : State} {actions : List Action} :
    HoldsAlong step condition start actions ↔
      ∀ before action after state next,
        actions = before ++ action :: after →
          run step start before = some state →
            step state action = some next → condition state action := by
  induction actions generalizing start with
  | nil =>
      apply iff_of_true holdsAlong_nil
      intro before action after _ _ split
      simp at split
  | cons first actions ih =>
      constructor
      · intro along before action after state next split reached taken
        cases before with
        | nil =>
            obtain ⟨rfl, rfl⟩ := List.cons.inj split
            rw [run_nil, Option.some.injEq] at reached
            subst reached
            exact (holdsAlong_cons.mp along next taken).1
        | cons other before =>
            obtain ⟨rfl, rfl⟩ := List.cons.inj split
            obtain ⟨second, firstTaken, reached⟩ := run_cons.mp reached
            have later := (holdsAlong_cons.mp along second firstTaken).2
            exact ih.mp later before action after state next rfl reached taken
      · intro each
        refine holdsAlong_cons.mpr fun next taken => ?_
        refine ⟨each [] first actions start next rfl rfl taken, ih.mpr ?_⟩
        intro before action after state other split reached
        exact each (first :: before) action after state other
          (congrArg (List.cons first) split)
          (run_cons.mpr ⟨next, taken, reached⟩)

/-- Where every step either establishes a fact, or keeps it, or ends it, the
fact holds after a run exactly if it has been kept since the start, or since a
step that established it. -/
theorem sinceStep_iff {fact invariant : State → Prop}
    {establishes keeps : State → Action → Prop}
    (preserved : ∀ state action next, invariant state →
      step state action = some next → invariant next)
    (exact : ∀ state action next, invariant state →
      step state action = some next →
        (fact next ↔ establishes state action ∨
          (fact state ∧ keeps state action)))
    {start final : State} {actions : List Action}
    (initially : invariant start)
    (reached : run step start actions = some final) :
    fact final ↔
      (fact start ∧ HoldsAlong step keeps start actions) ∨
      ∃ before action after state middle,
        actions = before ++ action :: after ∧
          run step start before = some state ∧ establishes state action ∧
          step state action = some middle ∧
          HoldsAlong step keeps middle after := by
  induction actions generalizing start with
  | nil =>
      simp only [run_nil, Option.some.injEq] at reached
      simp [reached, holdsAlong_nil]
  | cons first actions ih =>
      obtain ⟨next, taken, toFinal⟩ := run_cons.mp reached
      have nextHolds := preserved start first next initially taken
      rw [ih nextHolds toFinal, exact start first next initially taken,
        holdsAlong_cons_iff taken]
      constructor
      · rintro (⟨now | ⟨holds, kept⟩, along⟩ |
          ⟨before, action, after, state, middle, rfl, toState, establishing,
            toMiddle, along⟩)
        · exact Or.inr ⟨[], first, actions, start, next, rfl, rfl, now, taken,
            along⟩
        · exact Or.inl ⟨holds, kept, along⟩
        · exact Or.inr ⟨first :: before, action, after, state, middle, rfl,
            run_cons.mpr ⟨next, taken, toState⟩, establishing, toMiddle, along⟩
      · rintro (⟨holds, kept, along⟩ |
          ⟨before, action, after, state, middle, split, toState, establishing,
            toMiddle, along⟩)
        · exact Or.inl ⟨Or.inr ⟨holds, kept⟩, along⟩
        · cases before with
          | nil =>
              obtain ⟨rfl, rfl⟩ := List.cons.inj split
              rw [run_nil, Option.some.injEq] at toState
              subst toState
              rw [taken, Option.some.injEq] at toMiddle
              subst toMiddle
              exact Or.inl ⟨Or.inl establishing, along⟩
          | cons other before =>
              obtain ⟨rfl, rfl⟩ := List.cons.inj split
              obtain ⟨second, otherTaken, toState⟩ := run_cons.mp toState
              rw [taken, Option.some.injEq] at otherTaken
              subst otherTaken
              exact Or.inr ⟨before, action, after, state, middle, rfl, toState,
                establishing, toMiddle, along⟩

/-- The case in which the action alone tells whether it establishes the fact. -/
theorem since_iff {fact invariant : State → Prop}
    {establishes : Action → Prop} {keeps : State → Action → Prop}
    (preserved : ∀ state action next, invariant state →
      step state action = some next → invariant next)
    (exact : ∀ state action next, invariant state →
      step state action = some next →
        (fact next ↔ establishes action ∨ (fact state ∧ keeps state action)))
    {start final : State} {actions : List Action}
    (initially : invariant start)
    (reached : run step start actions = some final) :
    fact final ↔
      (fact start ∧ HoldsAlong step keeps start actions) ∨
      ∃ before action after middle,
        actions = before ++ action :: after ∧ establishes action ∧
          run step start (before ++ [action]) = some middle ∧
          HoldsAlong step keeps middle after := by
  rw [sinceStep_iff preserved exact initially reached]
  apply or_congr_right
  constructor
  · rintro ⟨before, action, after, state, middle, split, toState, establishing,
      toMiddle, along⟩
    exact ⟨before, action, after, middle, split, establishing,
      run_append.mpr ⟨state, toState, run_cons.mpr ⟨middle, toMiddle, rfl⟩⟩,
      along⟩
  · rintro ⟨before, action, after, middle, split, establishing, reachedMiddle,
      along⟩
    obtain ⟨state, toState, last⟩ := run_append.mp reachedMiddle
    obtain ⟨other, toMiddle, isMiddle⟩ := run_cons.mp last
    rw [run_nil, Option.some.injEq] at isMiddle
    subst isMiddle
    exact ⟨before, action, after, state, other, split, toState, establishing,
      toMiddle, along⟩

end Transition

end ScorbitSdk
