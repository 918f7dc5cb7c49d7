import ScorbitSdk.AuthMutex
import ScorbitSdk.StatusSoundness

/-!
# Wake-ups of the requests that wait

A request that finds its predicate false releases the mutex and blocks, until
a handler notifies the condition variable.  Handlers that do not hold the
mutex can change the status and notify before it has blocked, and some change
the status without notifying at all.
-/

namespace ScorbitSdk

namespace Handler

/-- The handler is sure to notify before it waits for anything. -/
def notifies : Handler → Bool
  | .notifyAll :: _ => true
  | .requestToken _ :: _ => true
  | .assignStatus _ :: rest => notifies rest
  | .resetLastEmittedPairingState :: rest => notifies rest
  | .setRefreshingToken _ :: rest => notifies rest
  | .startTokenRefreshTimer _ :: rest => notifies rest
  | .cancelTokenRefreshTimer :: rest => notifies rest
  | _ => false

@[simp]
theorem notifies_wake (handler : Handler) :
    handler.wake.notifies = handler.notifies := by
  unfold wake
  split <;> rfl

end Handler

namespace NetHandlers

/-- A request that sleeps although it could go on is sure to be notified. -/
def NoLostWakeUp (state : NetHandlers) : Prop :=
  ∀ sleeper ∈ state.handlers, ∀ request attempt rest,
    sleeper = .asleep request attempt :: rest →
      state.canGoOn request = true →
        ∃ other ∈ state.handlers, other.notifies = true

/-- A handler other than the given one is sure to notify. -/
def OtherNotifies (state : NetHandlers) (index : Nat) : Prop :=
  ∃ other handler, other ≠ index ∧ state.handlers[other]? = some handler ∧
    handler.notifies = true

/-- Unless another handler is sure to notify, a notification does not come
while a request that could go on is about to block, and a status that no
notification follows is one that no waiting request could go on with. -/
def WakesSafely (state : NetHandlers) : HandlerAction → Prop
  | .run index _ => ∀ statement rest,
      state.handlers[index]? = some (statement :: rest) →
        state.OtherNotifies index ∨
        match statement with
        | .notifyAll => ∀ other ∈ state.handlers,
            ∀ request attempt later,
              other = .wait request attempt :: later →
                state.canGoOn request = false
        | .assignStatus status => Handler.notifies rest = true ∨
            ∀ other ∈ state.handlers, ∀ request,
              other.waitsFor? = some request →
                { state with status := status }.canGoOn request = false
        | _ => True
  | _ => True

/-- A request that waits, asleep or about to block, although it could go on,
is sure to be notified. -/
def Woken (state : NetHandlers) : Prop :=
  ∀ waiting ∈ state.handlers, ∀ request,
    waiting.waitsFor? = some request → state.canGoOn request = true →
      ∃ other ∈ state.handlers, other.notifies = true

variable {state next : NetHandlers} {action : HandlerAction}

theorem Woken.notLost (woken : state.Woken) : state.NoLostWakeUp := by
  rintro sleeper isSleeper request attempt rest rfl canGoOn
  exact woken _ isSleeper request rfl canGoOn

theorem notifies_requestToken (state : NetHandlers)
    (normalAuthentication : Bool) (reply : AuthReply) (later : Handler) :
    Handler.notifies
      (state.requestToken normalAuthentication reply ++ later) = true := by
  cases reply <;> simp only [requestToken]
  all_goals first | rfl | (split <;> rfl)

/-- A handler that is sure to notify still is after a statement, unless that
was the notification. -/
theorem notifies_left {reply : WorkerReply} {statement : Statement}
    {rest left : Handler}
    (isLeft : state.left reply statement = some left)
    (notifies : Handler.notifies (statement :: rest) = true)
    (notYet : statement ≠ .notifyAll) :
    Handler.notifies (left ++ rest) = true := by
  cases statement with
  | notifyAll => exact absurd rfl notYet
  | requestToken normalAuthentication =>
      cases isLeft
      rw [List.append_assoc]
      exact notifies_requestToken state ..
  | assignStatus _ | resetLastEmittedPairingState | setRefreshingToken _
  | startTokenRefreshTimer _ | cancelTokenRefreshTimer =>
      cases isLeft
      exact notifies
  | _ => cases notifies

theorem ran_canGoOn {index : Nat} {statement : Statement} {new : Handler}
    (request : HandlerRequest) (keeps : assigned? statement = none) :
    (state.ran index statement new).canGoOn request =
      state.canGoOn request := by
  cases statement with
  | assignStatus status => cases keeps
  | authenticated => cases keeps
  | _ => rfl

/-- Another handler that is sure to notify still is after a step of one. -/
theorem OtherNotifies.run {index : Nat} {statement : Statement}
    {new : Handler} (notifies : state.OtherNotifies index) :
    ∃ other ∈ (state.ran index statement new).handlers,
      other.notifies = true := by
  obtain ⟨other, handler, isOther, isHandler, notifies⟩ := notifies
  refine ⟨_, List.mem_of_getElem? (ran_other isOther isHandler), ?_⟩
  split
  · rw [Handler.notifies_wake, notifies]
  · exact notifies

/-- A handler that is sure to notify is the one that takes the step, or
another one. -/
theorem notifies_cases {index : Nat} {own other : Handler}
    (isOwn : state.handlers[index]? = some own)
    (isOther : other ∈ state.handlers) (notifies : other.notifies = true) :
    own.notifies = true ∨ state.OtherNotifies index := by
  obtain ⟨place, isOther⟩ := List.mem_iff_getElem?.mp isOther
  by_cases same : place = index
  · subst same
    rw [isOwn, Option.some.injEq] at isOther
    exact Or.inl (isOther ▸ notifies)
  · exact Or.inr ⟨place, other, same, isOther, notifies⟩

theorem ran_canGoOn_assignStatus {index : Nat} {new : Handler}
    (status : AuthStatus) (request : HandlerRequest) :
    (state.ran index (.assignStatus status) new).canGoOn request =
      { state with status := status }.canGoOn request :=
  rfl

theorem Woken.run {index : Nat} {reply : WorkerReply} {statement : Statement}
    {rest left : Handler} (woken : state.Woken) (kept : state.MutexKept)
    (safely : state.WakesSafely (.run index reply))
    (isNext : state.handlers[index]? = some (statement :: rest))
    (isLeft : state.left reply statement = some left) :
    Woken (state.ran index statement (left ++ rest)) := by
  intro waiting isWaiting request waits canGoOn
  obtain ⟨hold, holds⟩ := kept.holds index _ isNext
  have goesOn (sure : Handler.notifies (statement :: rest) = true ∨
      state.OtherNotifies index) (notYet : statement ≠ .notifyAll) :
      ∃ other ∈ (state.ran index statement (left ++ rest)).handlers,
        other.notifies = true := by
    obtain own | other := sure
    · have isOwn : (state.ran index statement (left ++ rest)).handlers[index]? =
          some (if statement = .notifyAll then Handler.wake (left ++ rest)
            else left ++ rest) := ran_self isNext
      rw [if_neg notYet] at isOwn
      exact ⟨_, List.mem_of_getElem? isOwn, notifies_left isLeft own notYet⟩
    · exact other.run
  obtain ⟨place, isPlace⟩ := List.mem_iff_getElem?.mp isWaiting
  obtain ⟨before, isBefore, waited, blocks⟩ | ⟨attempt, rfl, cannotGoOn⟩ :=
    waits_cases isNext isLeft holds.balanced.waitsNow isPlace waits
  · have isBefore := List.mem_of_getElem? isBefore
    cases statement with
    | notifyAll =>
        obtain other | safe := safely _ _ isNext
        · exact other.run
        · obtain ⟨-, attempt, later, isWait⟩ := blocks rfl
          have cannotGoOn := safe before isBefore request attempt later isWait
          rw [ran_canGoOn request rfl, cannotGoOn] at canGoOn
          cases canGoOn
    | assignStatus status =>
        obtain other | own | safe := safely _ _ isNext
        · exact other.run
        · exact goesOn (Or.inl own) nofun
        · rw [ran_canGoOn_assignStatus, safe before isBefore request waited]
            at canGoOn
          cases canGoOn
    | authenticated =>
        -- The one who notified holds the mutex, so that nobody waits.
        have notified : hold = .notified := by
          obtain ⟨later, isLater⟩ := holds.isLater
          cases hold with
          | notified => rfl
          | _ => cases isLater
        rw [holds.quiet notified before isBefore] at waited
        cases waited
    | _ =>
        rw [ran_canGoOn request rfl] at canGoOn
        obtain ⟨other, isOther, notifies⟩ :=
          woken before isBefore request waited canGoOn
        exact goesOn (notifies_cases isNext isOther notifies) nofun
  · rw [ran_canGoOn request rfl, cannotGoOn] at canGoOn
    cases canGoOn

/-- A handler that neither waits nor was to notify makes room for one that
does not wait. -/
theorem Woken.replace {index : Nat} {old new : Handler}
    (woken : state.Woken) (isOld : state.handlers[index]? = some old)
    (notToNotify : old.notifies = false) (noWait : new.waitsFor? = none) :
    Woken { state with handlers := state.handlers.set index new } := by
  intro waiting isWaiting request waits canGoOn
  obtain isWaiting | rfl := List.mem_or_eq_of_mem_set isWaiting
  · obtain ⟨other, isOther, notifies⟩ :=
      woken waiting isWaiting request waits canGoOn
    obtain own | others := notifies_cases isOld isOther notifies
    · rw [notToNotify] at own
      cases own
    · obtain ⟨place, handler, isOther, isHandler, notifies⟩ := others
      refine ⟨handler, List.mem_of_getElem? (i := place) ?_, notifies⟩
      rw [List.getElem?_set_ne isOther.symm]
      exact isHandler
  · rw [noWait] at waits
    cases waits

theorem Woken.append {new : Handler} (woken : state.Woken)
    (noWait : new.waitsFor? = none)
    (handlersEq : next.handlers = state.handlers ++ [new])
    (sure : new.notifies = true ∨
      ∀ request, next.canGoOn request = state.canGoOn request) :
    next.Woken := by
  intro waiting isWaiting request waits canGoOn
  rw [handlersEq] at isWaiting ⊢
  obtain isWaiting | isNew := List.mem_append.mp isWaiting
  · obtain notifies | same := sure
    · exact ⟨new, List.mem_append_right _ List.mem_cons_self, notifies⟩
    · rw [same] at canGoOn
      obtain ⟨other, isOther, notifies⟩ :=
        woken waiting isWaiting request waits canGoOn
      exact ⟨other, List.mem_append_left _ isOther, notifies⟩
  · rw [List.mem_singleton.mp isNew, noWait] at waits
    cases waits

theorem Woken.step (woken : state.Woken) (kept : state.MutexKept)
    (safely : state.WakesSafely action)
    (taken : state.step action = some next) : next.Woken := by
  cases step_cases taken with
  | call => exact woken.append rfl rfl (Or.inr fun _ => rfl)
  | paired _ idle => exact woken.replace idle rfl rfl
  | unpaired _ idle => exact woken.replace idle rfl rfl
  | tokenRefreshTimerExpires =>
      exact woken.append rfl rfl (Or.inr fun _ => rfl)
  | destroy => exact woken.append rfl rfl (Or.inl rfl)
  | run isNext isLeft => exact woken.run kept safely isNext isLeft
  | wake isAsleep => exact woken.replace isAsleep rfl rfl

theorem Woken.init : Woken {} := by
  intro waiting isWaiting request waits
  simp only [List.mem_cons, List.not_mem_nil, or_false] at isWaiting
  obtain rfl | rfl := isWaiting <;> cases waits

/-- No wake-up is lost in a run whose handlers notify and assign the status
where they may. -/
theorem noLostWakeUp {final : NetHandlers} {actions : List HandlerAction}
    (reached : Transition.run step {} actions = some final)
    (safely : Transition.HoldsAlong step WakesSafely {} actions) :
    final.NoLostWakeUp := by
  have preserved : ∀ (state : NetHandlers) action next,
      state.MutexKept ∧ state.Woken → state.WakesSafely action →
        state.step action = some next → next.MutexKept ∧ next.Woken := by
    intro state action next ⟨kept, woken⟩ safely taken
    exact ⟨kept.step taken, woken.step kept safely taken⟩
  exact (Transition.run_preserves preserved reached safely
    ⟨MutexKept.init, Woken.init⟩).2.notLost

/-- Nothing waits where a handler notifies, and a notification follows where
one sets the status. -/
def notifiesInTurn (state : NetHandlers) : HandlerAction → Bool
  | .run index _ =>
      match state.handlers[index]? with
      | some (.notifyAll :: _) =>
          state.handlers.all fun other => (other.head?.map fun
            | .wait _ _ => false
            | _ => true).getD true
      | some (.assignStatus _ :: rest) => Handler.notifies rest
      | _ => true
  | _ => true

theorem wakesSafely_of_notifiesInTurn (state : NetHandlers)
    (action : HandlerAction)
    (inTurn : state.notifiesInTurn action = true) :
    state.WakesSafely action := by
  cases action with
  | run index reply =>
      intro statement rest isNext
      simp only [notifiesInTurn, isNext] at inTurn
      apply Or.inr
      cases statement with
      | notifyAll =>
          rintro other isOther request attempt later rfl
          cases List.all_eq_true.mp inTurn _ isOther
      | assignStatus status => exact Or.inl inTurn
      | _ => trivial
  | _ => trivial

/-- A request for a paired machine waits while the pairing is checked. -/
def sleepingRequest : List HandlerAction :=
  authenticatedRun ++ .call .requestMachineObject ::
    List.replicate 4 (.run 2 {})

theorem noLostWakeUp_scorbitronObject :
    ∃ final, Transition.run step {} (sleepingRequest ++
        [.call .sendScorbitronObject] ++ List.replicate 5 (.run 3 {}) ++
          .run 3 { http := .ok (some { shortCode := none, isPaired := true }) }
            :: List.replicate 4 (.run 3 {})) = some final ∧
      final.canGoOn .requestMachineObject = true ∧ final.NoLostWakeUp := by
  have evaluated : ((Transition.run step {} (sleepingRequest ++
      [.call .sendScorbitronObject] ++ List.replicate 5 (.run 3 {}) ++
        .run 3 { http := .ok (some { shortCode := none, isPaired := true }) }
          :: List.replicate 4 (.run 3 {}))).any fun final =>
            final.canGoOn .requestMachineObject) = true := by
    decide +kernel
  obtain ⟨final, reached, canGoOn⟩ := (Option.any_eq_true _ _).mp evaluated
  refine ⟨final, reached, canGoOn, noLostWakeUp reached ?_⟩
  exact Transition.HoldsAlong.of_checksAlong wakesSafely_of_notifiesInTurn
    (by decide +kernel)

/-- The signal that the machine is paired leaves the request asleep. -/
theorem not_noLostWakeUp_paired :
    ∃ final, Transition.run step {} (sleepingRequest ++
        .paired :: List.replicate 4 (.run 0 {})) = some final ∧
      ¬ final.NoLostWakeUp := by
  have evaluated : ((Transition.run step {} (sleepingRequest ++
      .paired :: List.replicate 4 (.run 0 {}))).any fun final =>
        decide (final.handlers =
          [[], [], [.asleep .requestMachineObject 0]]) &&
          final.canGoOn .requestMachineObject) = true := by
    decide +kernel
  obtain ⟨final, reached, lost⟩ := (Option.any_eq_true _ _).mp evaluated
  rw [Bool.and_eq_true, decide_eq_true_eq] at lost
  obtain ⟨handlersEq, canGoOn⟩ := lost
  refine ⟨final, reached, fun noLost => ?_⟩
  obtain ⟨other, isOther, notifies⟩ := noLost
    [.asleep .requestMachineObject 0] (by simp [handlersEq]) _ _ _ rfl canGoOn
  simp only [handlersEq, List.mem_cons, List.not_mem_nil, or_false] at isOther
  obtain rfl | rfl | rfl := isOther <;> cases notifies

end NetHandlers

end ScorbitSdk
