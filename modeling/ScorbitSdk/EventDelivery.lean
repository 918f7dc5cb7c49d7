import ScorbitSdk.TransitionRuns
import Mathlib.Algebra.Order.Group.Multiset
import Mathlib.Tactic.Abel

/-!
# Delivery of events

`EventManager`: any thread pushes events into a priority queue and then posts a
closure to a strand, which takes events out until there are none and hands each
one to the callback.  The callback may push events too, from inside.
-/

namespace ScorbitSdk

/-- What `std::priority_queue::top` may be: no element is above it. -/
def IsTop {Value : Type*} (Below : Value → Value → Prop)
    (queue : Multiset Value) (top : Value) : Prop :=
  top ∈ queue ∧ ∀ other ∈ queue, ¬Below top other

instance {Value : Type*} (Below : Value → Value → Prop) [DecidableEq Value]
    [DecidableRel Below] (queue : Multiset Value) (top : Value) :
    Decidable (IsTop Below queue top) :=
  inferInstanceAs (Decidable (_ ∧ _))

/-! ## Events -/

inductive EventPriority
  | normal
  | high
  | highest
  deriving DecidableEq

def EventPriority.rank : EventPriority → Nat
  | normal => 0
  | high => 1
  | highest => 2

/-- What the queue knows of an event.  Two events may have got the same number
when they were created at the same time. -/
structure EventBase where
  priority : EventPriority
  order : Nat
  deriving DecidableEq

/-- `EventBase::operator<`. -/
def EventBase.Below (event other : EventBase) : Prop :=
  if event.priority = other.priority then event.order > other.order
  else event.priority.rank < other.priority.rank

instance : DecidableRel EventBase.Below :=
  fun _ _ => inferInstanceAs (Decidable (ite _ _ _))

theorem EventPriority.rank_injective : Function.Injective rank := by
  intro first second same
  cases first <;> cases second <;> simp_all [rank]

theorem EventBase.below_iff {event other : EventBase} :
    event.Below other ↔ event.priority.rank < other.priority.rank ∨
      event.priority.rank = other.priority.rank ∧ other.order < event.order := by
  unfold Below
  split
  · next same => simp [same]
  · next different =>
      have ranks : event.priority.rank ≠ other.priority.rank :=
        fun same => different (EventPriority.rank_injective same)
      simp [ranks]

/-- The order is one that `std::priority_queue` works with. -/
instance : IsStrictWeakOrder EventBase EventBase.Below where
  irrefl event below := by
    rw [EventBase.below_iff] at below
    omega
  trans first second third := by
    simp only [EventBase.below_iff]
    omega
  incomp_trans first second third := by
    simp only [EventBase.below_iff]
    omega

/-- What is on top has the highest priority and among these the smallest
number. -/
theorem EventBase.first_of_isTop {queue : Multiset EventBase}
    {event : EventBase} (top : IsTop EventBase.Below queue event)
    {other : EventBase} (member : other ∈ queue) :
    other.priority.rank ≤ event.priority.rank ∧
      (other.priority = event.priority → event.order ≤ other.order) := by
  have notBelow := top.2 other member
  rw [EventBase.below_iff] at notBelow
  refine ⟨by omega, fun same => ?_⟩
  rw [same] at notBelow
  omega

/-! ## The manager -/

/-- A push that has read `m_stopped` as false, by its next step. -/
inductive EventPush
  | enqueuing (event : EventBase)
  | posting

/-- The closure that the strand runs, by its next step. -/
inductive EventClosure
  | checkingStopped
  | dequeuing
  | dequeued (event : EventBase)
  /-- Inside the callback, and maybe inside a push of the callback. -/
  | inCallback (push : Option EventPush)
  | leaving

/-- `enqueuing` and `posting` are the pushes of all other threads.  The program
does not keep `pushed` and `delivered`. -/
structure EventManager where
  m_events : Multiset EventBase := 0
  m_stopped : Bool := false
  posted : Nat := 0
  running : Option EventClosure := none
  enqueuing : Multiset EventBase := 0
  posting : Nat := 0
  pushed : Multiset EventBase := 0
  delivered : Multiset EventBase := 0

/-- A step of a push; which event it is about is only told where it matters. -/
inductive EventPushStep
  | call (event : Option EventBase)
  | enqueue (event : EventBase)
  | post

inductive EventAction
  | push (step : EventPushStep)
  | stop
  | begin
  | checkStopped
  | dequeue (event : Option EventBase)
  | callback
  | pushInside (step : EventPushStep)
  | callbackReturns
  | leave

namespace EventManager

/-- A step of a push of some thread but that of the strand. -/
@[simp]
def pushStep (state : EventManager) : EventPushStep → Option EventManager
  | .call none => some state
  | .call (some event) =>
      let state := { state with pushed := event ::ₘ state.pushed }
      if state.m_stopped then some state
      else some { state with enqueuing := event ::ₘ state.enqueuing }
  | .enqueue event =>
      if event ∈ state.enqueuing then
        some { state with
          enqueuing := state.enqueuing.erase event
          m_events := event ::ₘ state.m_events
          posting := state.posting + 1 }
      else none
  | .post =>
      match state.posting with
      | 0 => none
      | posting + 1 => some { state with posting, posted := state.posted + 1 }

/-- A step of a push inside the callback. -/
@[simp]
def pushInsideStep (state : EventManager) :
    Option EventPush → EventPushStep → Option EventManager
  | none, .call none => some state
  | none, .call (some event) =>
      let state := { state with pushed := event ::ₘ state.pushed }
      if state.m_stopped then some state
      else some { state with
        running := some (.inCallback (some (.enqueuing event))) }
  | some (.enqueuing pushed), .enqueue event =>
      if pushed = event then
        some { state with
          running := some (.inCallback (some .posting))
          m_events := event ::ₘ state.m_events }
      else none
  | some .posting, .post =>
      some { state with
        running := some (.inCallback none), posted := state.posted + 1 }
  | _, _ => none

/-- `hasCallback` tells whether `m_eventCallback` is there. -/
@[simp]
def step (hasCallback : Bool) (state : EventManager) :
    EventAction → Option EventManager
  | .push pushStep => state.pushStep pushStep
  | .stop => some { state with m_stopped := true }
  | .begin =>
      match state.running, state.posted with
      | none, posted + 1 =>
          some { state with posted, running := some .checkingStopped }
      | _, _ => none
  | .checkStopped =>
      match state.running with
      | some .checkingStopped =>
          let closure := if state.m_stopped then .leaving else .dequeuing
          some { state with running := some closure }
      | _ => none
  | .dequeue event =>
      match state.running, event with
      | some .dequeuing, none =>
          if state.m_events = 0 then
            some { state with running := some .leaving }
          else none
      | some .dequeuing, some event =>
          if IsTop EventBase.Below state.m_events event then
            some { state with
              m_events := state.m_events.erase event
              running := some (.dequeued event) }
          else none
      | _, _ => none
  | .callback =>
      match state.running with
      | some (.dequeued event) =>
          if hasCallback then
            some { state with
              running := some (.inCallback none)
              delivered := event ::ₘ state.delivered }
          else some { state with running := some .checkingStopped }
      | _ => none
  | .pushInside pushStep =>
      match state.running with
      | some (.inCallback push) => state.pushInsideStep push pushStep
      | _ => none
  | .callbackReturns =>
      match state.running with
      | some (.inCallback none) =>
          some { state with running := some .checkingStopped }
      | _ => none
  | .leave =>
      match state.running with
      | some .leaving => some { state with running := none }
      | _ => none

/-- The event that the closure holds and has not handed on. -/
def held : Option EventClosure → Multiset EventBase
  | some (.dequeued event) => {event}
  | some (.inCallback (some (.enqueuing event))) => {event}
  | _ => 0

/-- The events that have been accepted and neither delivered nor dropped. -/
def waiting (state : EventManager) : Multiset EventBase :=
  held state.running + state.m_events + state.enqueuing

/-- The closure is going to look into the queue once more. -/
def goesOn : Option EventClosure → Prop
  | none => False
  | some .leaving => False
  | _ => True

/-- The events that have been delivered or are going to be. -/
def total (state : EventManager) : Multiset EventBase :=
  state.delivered + state.waiting

/-- What a step does to the accounts: it adds the events that are pushed to
those delivered or waiting, unless the manager is stopped or has no callback. -/
structure Accounts (hasCallback : Bool) (state next : EventManager) : Prop where
  stopped : state.m_stopped = true → next.m_stopped = true
  pushed : ∃ added, next.pushed = added + state.pushed ∧
    next.total ≤ added + state.total ∧
    (state.m_stopped = false → hasCallback = true →
      next.total = added + state.total)

theorem Accounts.of_eq {hasCallback : Bool} {state next : EventManager}
    (added : Multiset EventBase)
    (stopped : state.m_stopped = true → next.m_stopped = true)
    (pushed : next.pushed = added + state.pushed)
    (total : next.total = added + state.total) :
    Accounts hasCallback state next :=
  ⟨stopped, added, pushed, total.le, fun _ _ => total⟩

variable {hasCallback : Bool} {state next : EventManager}

/-! ## What each step of the strand does -/

theorem step_begin (taken : step hasCallback state .begin = some next) :
    state.running = none ∧ ∃ posted, state.posted = posted + 1 ∧
      { state with posted, running := some .checkingStopped } = next := by
  simp only [step] at taken
  split at taken
  · next idle isPosted => exact ⟨idle, _, isPosted, Option.some.inj taken⟩
  · exact nomatch taken

theorem step_checkStopped
    (taken : step hasCallback state .checkStopped = some next) :
    state.running = some .checkingStopped ∧
      { state with
        running := some (if state.m_stopped then .leaving else .dequeuing)
          } = next := by
  simp only [step] at taken
  split at taken
  · next running => exact ⟨running, Option.some.inj taken⟩
  · exact nomatch taken

theorem step_dequeue_none
    (taken : step hasCallback state (.dequeue none) = some next) :
    state.running = some .dequeuing ∧ state.m_events = 0 ∧
      { state with running := some .leaving } = next := by
  simp only [step] at taken
  split at taken
  · next running _ =>
      obtain ⟨empty, isNext⟩ := Option.ite_none_right_eq_some.mp taken
      exact ⟨running, empty, Option.some.inj isNext⟩
  · next isEvent => exact nomatch isEvent
  · exact nomatch taken

theorem step_dequeue_some {event : EventBase}
    (taken : step hasCallback state (.dequeue (some event)) = some next) :
    state.running = some .dequeuing ∧
      IsTop EventBase.Below state.m_events event ∧
      { state with
        m_events := state.m_events.erase event
        running := some (.dequeued event) } = next := by
  simp only [step] at taken
  split at taken
  · next noEvent => exact nomatch noEvent
  · next running same =>
      obtain rfl := Option.some.inj same
      obtain ⟨top, isNext⟩ := Option.ite_none_right_eq_some.mp taken
      exact ⟨running, top, Option.some.inj isNext⟩
  · exact nomatch taken

theorem step_callback (taken : step hasCallback state .callback = some next) :
    ∃ event, state.running = some (.dequeued event) ∧
      (if hasCallback then
        { state with
          running := some (.inCallback none)
          delivered := event ::ₘ state.delivered }
      else { state with running := some .checkingStopped }) = next := by
  simp only [step] at taken
  split at taken
  · next event running =>
      refine ⟨event, running, Option.some.inj ?_⟩
      rw [← taken]
      exact apply_ite some _ _ _
  · exact nomatch taken

theorem step_pushInside {pushStep : EventPushStep}
    (taken : step hasCallback state (.pushInside pushStep) = some next) :
    ∃ push, state.running = some (.inCallback push) ∧
      state.pushInsideStep push pushStep = some next := by
  simp only [step] at taken
  split at taken
  · next push running => exact ⟨push, running, taken⟩
  · exact nomatch taken

theorem step_callbackReturns
    (taken : step hasCallback state .callbackReturns = some next) :
    state.running = some (.inCallback none) ∧
      { state with running := some .checkingStopped } = next := by
  simp only [step] at taken
  split at taken
  · next running => exact ⟨running, Option.some.inj taken⟩
  · exact nomatch taken

theorem step_leave (taken : step hasCallback state .leave = some next) :
    state.running = some .leaving ∧ { state with running := none } = next := by
  simp only [step] at taken
  split at taken
  · next running => exact ⟨running, Option.some.inj taken⟩
  · exact nomatch taken

/-! ## What a step does to the accounts -/

theorem pushStep_accounts {pushStep : EventPushStep}
    (taken : state.pushStep pushStep = some next) :
    Accounts hasCallback state next := by
  cases pushStep with
  | call event =>
      cases event with
      | none =>
          obtain rfl := Option.some.inj taken
          exact .of_eq 0 id (zero_add _).symm (zero_add _).symm
      | some event =>
          simp only [EventManager.pushStep] at taken
          split at taken
          · next stopped =>
              obtain rfl := Option.some.inj taken
              refine ⟨id, {event}, rfl, ?_, ?_⟩
              · exact Multiset.le_add_left _ _
              · intro running
                exact absurd stopped (by simp [running])
          · obtain rfl := Option.some.inj taken
            refine .of_eq {event} id rfl ?_
            simp only [total, waiting, ← Multiset.singleton_add]
            abel
  | enqueue event =>
      simp only [EventManager.pushStep] at taken
      split at taken
      · next member =>
          obtain ⟨rest, split⟩ := Multiset.exists_cons_of_mem member
          obtain rfl := Option.some.inj taken
          refine .of_eq 0 id (zero_add _).symm ?_
          simp only [total, waiting, split, Multiset.erase_cons_head]
          simp only [← Multiset.singleton_add]
          abel
      · exact nomatch taken
  | post =>
      simp only [EventManager.pushStep] at taken
      split at taken
      · exact nomatch taken
      · obtain rfl := Option.some.inj taken
        exact .of_eq 0 id (zero_add _).symm (zero_add _).symm

theorem pushInsideStep_accounts {push : Option EventPush}
    {pushStep : EventPushStep} (running : state.running = some (.inCallback push))
    (taken : state.pushInsideStep push pushStep = some next) :
    Accounts hasCallback state next := by
  unfold pushInsideStep at taken
  split at taken
  · obtain rfl := Option.some.inj taken
    exact .of_eq 0 id (zero_add _).symm (zero_add _).symm
  · next event =>
      dsimp only at taken
      split at taken
      · next stopped =>
          obtain rfl := Option.some.inj taken
          refine ⟨id, {event}, rfl, Multiset.le_add_left _ _, fun going => ?_⟩
          exact absurd stopped (by simp [going])
      · obtain rfl := Option.some.inj taken
        refine .of_eq {event} id rfl ?_
        simp only [total, waiting, running, held]
        abel
  · next pushed event =>
      split at taken
      · next same =>
          subst same
          obtain rfl := Option.some.inj taken
          refine .of_eq 0 id (zero_add _).symm ?_
          simp only [total, waiting, running, held, ← Multiset.singleton_add]
          abel
      · exact nomatch taken
  · obtain rfl := Option.some.inj taken
    refine .of_eq 0 id (zero_add _).symm ?_
    simp only [total, waiting, running, held]
    abel
  · exact nomatch taken

/-- A step of the strand that moves no event. -/
theorem Accounts.of_held {closure : Option EventClosure}
    (same : held closure = held state.running) {posted : Nat} :
    Accounts hasCallback state
      { state with posted := posted, running := closure } := by
  refine .of_eq 0 id (zero_add _).symm ?_
  simp only [total, waiting, same, zero_add]

theorem step_accounts {action : EventAction}
    (taken : step hasCallback state action = some next) :
    Accounts hasCallback state next := by
  cases action with
  | push pushStep => exact pushStep_accounts taken
  | stop =>
      obtain rfl := Option.some.inj taken
      exact .of_eq 0 (fun _ => rfl) (zero_add _).symm (zero_add _).symm
  | begin =>
      obtain ⟨idle, posted, -, rfl⟩ := step_begin taken
      exact .of_held (by rw [idle]; rfl)
  | checkStopped =>
      obtain ⟨running, rfl⟩ := step_checkStopped taken
      refine .of_held ?_
      rw [running]
      split <;> rfl
  | dequeue event =>
      cases event with
      | none =>
          obtain ⟨running, -, rfl⟩ := step_dequeue_none taken
          exact .of_held (by rw [running]; rfl)
      | some event =>
          obtain ⟨running, top, rfl⟩ := step_dequeue_some taken
          obtain ⟨rest, split⟩ := Multiset.exists_cons_of_mem top.1
          refine .of_eq 0 id (zero_add _).symm ?_
          simp only [total, waiting, running, held, split,
            Multiset.erase_cons_head]
          simp only [← Multiset.singleton_add]
          abel
  | callback =>
      obtain ⟨event, running, rfl⟩ := step_callback taken
      split
      · refine .of_eq 0 id (zero_add _).symm ?_
        simp only [total, waiting, running, held, ← Multiset.singleton_add]
        abel
      · next noCallback =>
          refine ⟨id, 0, (zero_add _).symm, ?_,
            fun _ callback => absurd callback noCallback⟩
          simp only [total, waiting, running, held, zero_add]
          gcongr
          exact Multiset.le_add_left _ _
  | pushInside pushStep =>
      obtain ⟨push, running, pushes⟩ := step_pushInside taken
      exact pushInsideStep_accounts running pushes
  | callbackReturns =>
      obtain ⟨running, rfl⟩ := step_callbackReturns taken
      exact .of_held (by rw [running]; rfl)
  | leave =>
      obtain ⟨running, rfl⟩ := step_leave taken
      exact .of_held (by rw [running]; rfl)

/-- Somebody is going to look into the queue, if there is anything to find. -/
def Awake (state : EventManager) : Prop :=
  state.m_events ≠ 0 → state.m_stopped = false →
    0 < state.posted ∨ goesOn state.running ∨ 0 < state.posting

theorem pushStep_awake {pushStep : EventPushStep} (awake : state.Awake)
    (taken : state.pushStep pushStep = some next) : next.Awake := by
  cases pushStep with
  | call event =>
      cases event with
      | none =>
          obtain rfl := Option.some.inj taken
          exact awake
      | some event =>
          simp only [EventManager.pushStep] at taken
          split at taken <;> obtain rfl := Option.some.inj taken <;> exact awake
  | enqueue event =>
      simp only [EventManager.pushStep] at taken
      split at taken
      · obtain rfl := Option.some.inj taken
        exact fun _ _ => Or.inr (Or.inr (Nat.succ_pos _))
      · exact nomatch taken
  | post =>
      simp only [EventManager.pushStep] at taken
      split at taken
      · exact nomatch taken
      · obtain rfl := Option.some.inj taken
        exact fun _ _ => Or.inl (Nat.succ_pos _)

theorem pushInsideStep_goesOn {push : Option EventPush}
    {pushStep : EventPushStep} (running : state.running = some (.inCallback push))
    (taken : state.pushInsideStep push pushStep = some next) :
    goesOn next.running := by
  unfold pushInsideStep at taken
  split at taken
  · obtain rfl := Option.some.inj taken
    rw [running]
    trivial
  · dsimp only at taken
    split at taken
    · obtain rfl := Option.some.inj taken
      change goesOn state.running
      rw [running]
      trivial
    · obtain rfl := Option.some.inj taken
      trivial
  · split at taken
    · obtain rfl := Option.some.inj taken
      trivial
    · exact nomatch taken
  · obtain rfl := Option.some.inj taken
    trivial
  · exact nomatch taken

theorem step_awake {action : EventAction} (awake : state.Awake)
    (taken : step hasCallback state action = some next) : next.Awake := by
  have going (on : goesOn next.running) : next.Awake :=
    fun _ _ => Or.inr (Or.inl on)
  cases action with
  | push pushStep => exact pushStep_awake awake taken
  | stop =>
      obtain rfl := Option.some.inj taken
      exact fun _ => nofun
  | begin =>
      obtain ⟨-, posted, -, rfl⟩ := step_begin taken
      exact going trivial
  | checkStopped =>
      obtain ⟨-, rfl⟩ := step_checkStopped taken
      intro _ notStopped
      refine Or.inr (Or.inl ?_)
      simp only [show state.m_stopped = false from notStopped]
      trivial
  | dequeue event =>
      cases event with
      | none =>
          obtain ⟨-, empty, rfl⟩ := step_dequeue_none taken
          exact fun nonempty => absurd empty nonempty
      | some event =>
          obtain ⟨-, -, rfl⟩ := step_dequeue_some taken
          exact going trivial
  | callback =>
      obtain ⟨event, -, rfl⟩ := step_callback taken
      apply going
      split <;> trivial
  | pushInside pushStep =>
      obtain ⟨push, running, pushes⟩ := step_pushInside taken
      exact going (pushInsideStep_goesOn running pushes)
  | callbackReturns =>
      obtain ⟨-, rfl⟩ := step_callbackReturns taken
      exact going trivial
  | leave =>
      obtain ⟨running, rfl⟩ := step_leave taken
      intro nonempty notStopped
      have before := awake nonempty notStopped
      rw [running] at before
      exact before

/-- Every event that was pushed is delivered once or waits, unless the manager
was stopped or has no callback; in no case is one delivered twice. -/
structure Sound (hasCallback : Bool) (state : EventManager) : Prop where
  awake : state.Awake
  accounted : state.total ≤ state.pushed
  kept : state.m_stopped = false → hasCallback = true →
    state.total = state.pushed

theorem step_sound {action : EventAction} (sound : Sound hasCallback state)
    (taken : step hasCallback state action = some next) :
    Sound hasCallback next := by
  obtain ⟨stopped, added, pushed, atMost, exactly⟩ := step_accounts taken
  refine ⟨step_awake sound.awake taken, ?_, fun notStopped callback => ?_⟩
  · rw [pushed]
    exact atMost.trans (add_le_add_right sound.accounted added)
  · have wasNotStopped : state.m_stopped = false := by
      by_contra wasStopped
      rw [stopped (by simpa using wasStopped)] at notStopped
      exact nomatch notStopped
    rw [pushed, exactly wasNotStopped callback,
      sound.kept wasNotStopped callback]

theorem run_sound {actions : List EventAction} {final : EventManager}
    (reached : Transition.run (step hasCallback) {} actions = some final) :
    Sound hasCallback final :=
  Transition.run_invariant (fun _ _ _ => step_sound) reached
    ⟨nofun, le_rfl, fun _ _ => rfl⟩

theorem held_of_idle {closure : Option EventClosure} (idle : closure = none) :
    held closure = 0 := by
  rw [idle]
  rfl

/-- In every run an event is delivered at most as often as it was pushed, the
one that is taken out next comes before all others in the queue, and while the
queue has events a closure is posted or running or a push has not come to its
post.  So without a stop nothing is left behind when the strand is idle. -/
theorem deliversEvents (hasCallback : Bool) {actions : List EventAction}
    {final : EventManager}
    (reached : Transition.run (step hasCallback) {} actions = some final) :
    final.delivered ≤ final.pushed ∧
    (∀ event next, step hasCallback final (.dequeue (some event)) = some next →
      event ∈ final.m_events ∧ next.m_events = final.m_events.erase event ∧
      ∀ other ∈ final.m_events,
        other.priority.rank ≤ event.priority.rank ∧
        (other.priority = event.priority → event.order ≤ other.order)) ∧
    (final.m_events ≠ 0 → final.m_stopped = false →
      0 < final.posted ∨ final.running ≠ none ∨ 0 < final.posting) ∧
    (final.m_stopped = false → final.posted = 0 → final.running = none →
      final.posting = 0 →
        final.m_events = 0 ∧
        (hasCallback = true → final.enqueuing = 0 →
          final.delivered = final.pushed)) := by
  have sound := run_sound reached
  have awake (nonempty : final.m_events ≠ 0) (going : final.m_stopped = false) :
      0 < final.posted ∨ final.running ≠ none ∨ 0 < final.posting := by
    refine (sound.awake nonempty going).imp_right (Or.imp_left fun goes idle => ?_)
    rw [idle] at goes
    exact goes
  refine ⟨?_, ?_, awake, ?_⟩
  · exact (Multiset.le_add_right _ _).trans sound.accounted
  · intro event next taken
    obtain ⟨-, top, rfl⟩ := step_dequeue_some taken
    exact ⟨top.1, rfl, fun other => EventBase.first_of_isTop top⟩
  · intro going noPosted idle noPosting
    have empty : final.m_events = 0 := by
      by_contra nonempty
      rcases awake nonempty going with posted | running | posting
      · omega
      · exact running idle
      · omega
    refine ⟨empty, fun callback noEnqueuing => ?_⟩
    have kept := sound.kept going callback
    rw [total, waiting, empty, noEnqueuing, held_of_idle idle] at kept
    simpa using kept

/-- Two threads push an event each, and the callback pushes a third one while it
has the more urgent of the two; the first closure delivers all of them. -/
def reentrantActions : List EventAction :=
  let first : EventBase := ⟨.normal, 1⟩
  let urgent : EventBase := ⟨.highest, 2⟩
  let inner : EventBase := ⟨.normal, 3⟩
  [.push (.call (some first)), .push (.call (some urgent)),
    .push (.enqueue urgent), .push (.enqueue first), .push .post, .begin,
    .checkStopped, .dequeue (some urgent), .callback,
    .pushInside (.call (some inner)), .pushInside (.enqueue inner),
    .pushInside .post, .callbackReturns, .checkStopped, .dequeue (some first),
    .callback, .push .post, .callbackReturns, .checkStopped,
    .dequeue (some inner), .callback, .callbackReturns, .checkStopped,
    .dequeue none, .leave, .begin, .checkStopped, .dequeue none, .leave, .begin,
    .checkStopped, .dequeue none, .leave]

theorem deliversEvents_reentrant :
    ∃ final, Transition.run (step true) {} reentrantActions = some final ∧
      final.delivered = {⟨.normal, 1⟩, ⟨.highest, 2⟩, ⟨.normal, 3⟩} ∧
      final.delivered ≤ final.pushed ∧
      (∀ event next, step true final (.dequeue (some event)) = some next →
        event ∈ final.m_events ∧ next.m_events = final.m_events.erase event ∧
        ∀ other ∈ final.m_events,
          other.priority.rank ≤ event.priority.rank ∧
          (other.priority = event.priority → event.order ≤ other.order)) ∧
      (final.m_events ≠ 0 → final.m_stopped = false →
        0 < final.posted ∨ final.running ≠ none ∨ 0 < final.posting) ∧
      (final.m_stopped = false → final.posted = 0 → final.running = none →
        final.posting = 0 →
          final.m_events = 0 ∧
          (true = true → final.enqueuing = 0 →
            final.delivered = final.pushed)) := by
  have evaluated : ((Transition.run (step true) {} reentrantActions).any
      fun final => final.delivered =
        {⟨.normal, 1⟩, ⟨.highest, 2⟩, ⟨.normal, 3⟩}) = true := by
    decide +kernel
  obtain ⟨final, reached, delivered⟩ := (Option.any_eq_true _ _).mp evaluated
  exact ⟨final, reached, of_decide_eq_true delivered,
    deliversEvents true reached⟩

end EventManager

end ScorbitSdk
