import ScorbitSdk.GameStateImpl
import ScorbitSdk.ProducerQueues
import ScorbitSdk.TopScores
import ScorbitSdk.TransitionRuns

/-!
# The queue of the C API

Application threads enqueue jobs, workers enqueue ticks of the mode expiry, and
one thread dispatches them.  Destroying the game state ends that thread with a
Poison item and then destroys the queue, while the workers still run.

No application thread calls the API once the destruction has begun.
-/

namespace ScorbitSdk

/-- The alternatives of `ApiQueueItem` but Poison; neither the handle nor the
callbacks are kept. -/
inductive ApiJob
  | setGameStarted (origin : GameStartOrigin)
  | setGameFinished
  | setCurrentBall (ball : Nat)
  | setActivePlayer (player : Nat)
  | setScore (player : Nat) (score feature : Int)
  | addMode (mode : String)
  | addModeExpiring (mode : String) (durationSeconds : Nat)
  | tickModeExpiries
  | removeMode (mode : String)
  | clearModes
  | commit
  | requestTopScores (scope : LeaderboardScope) (period : LeaderboardPeriod)
      (since : String) (vpinFilter : LeaderboardVpinFilter)
  | requestPairCode
  | requestUnpair
  | setCapabilities (capabilities : Nat)
  | pairMachine (machineUuid ownerUuid : String)
  | creditsDropped (credits : Int) (transaction : String) (success : Bool)
  | creditsStatus (freePlay : Bool) (credits maxCredits : Int)
      (pricing : String)
  | download (url filename : String) (headers : List (String × String))
  | downloadBuffer (url : String) (reserveBufferSize : Nat)
      (headers : List (String × String))
  | uploadDiagnostics (logPaths recordingPaths : List String)
      (logString : String)
  deriving DecidableEq

inductive ApiQueueItem
  | poison
  | job (job : ApiJob)
  deriving DecidableEq

/-- What a job does to the game state; the others only call `Net`. -/
def dispatchApiJob (env : GameEnvironment) (gameState : GameStateImpl) :
    ApiJob → GameStateImpl × List NetCall
  | .setGameStarted origin => gameState.setGameStarted env origin
  | .setGameFinished => gameState.setGameFinished env
  | .setCurrentBall ball => (gameState.setCurrentBall ball, [])
  | .setActivePlayer player => (gameState.setActivePlayer player, [])
  | .setScore player score feature =>
      (gameState.setScore player score feature, [])
  | .addMode mode => (gameState.addMode mode, [])
  | .addModeExpiring mode durationSeconds =>
      gameState.addModeExpiring env mode durationSeconds
  | .tickModeExpiries => gameState.tickModeExpiries env
  | .removeMode mode => gameState.removeMode env mode
  | .clearModes => gameState.clearModes
  | .commit => gameState.commit env
  | _ => (gameState, [])

/-- The threads that enqueue, each a producer of its own. -/
inductive ApiThread
  | application (thread : Nat)
  | worker (thread : Nat)
  deriving DecidableEq

abbrev ApiQueueEntry := QueueEntry ApiThread ApiQueueItem

/-- How far `sb_destroy_game_state` has come.  The members are destroyed in the
reverse order of their declarations, `gameState` with its workers last. -/
inductive Destruction
  | notBegun
  | notAccepting
  | poisonEnqueued
  | dispatcherJoined
  | queueDestroyed
  | gameStateDestroyed
  deriving DecidableEq

/-- `posting` are the workers whose poster has read `cApiAccepting` as true and
has not enqueued yet.  The program does not keep `enqueued`, `dequeued` and
`enqueuedLate`: what went into the queue, what came out of it, and what was
enqueued where the queue had been. -/
structure SbGameStateStruct where
  cApiQueue : ProducerQueue ApiThread ApiQueueItem := {}
  cApiAccepting : Bool := true
  dispatcherRuns : Bool := true
  destruction : Destruction := .notBegun
  posting : List Nat := []
  enqueued : List ApiQueueEntry := []
  dequeued : List ApiQueueEntry := []
  enqueuedLate : List ApiQueueItem := []

inductive ApiQueueAction
  | postApiJob (thread : Nat) (job : ApiJob)
  | posterLoads (worker : Nat)
  | posterEnqueues (worker : Nat)
  /-- `wait_dequeue` returns what this producer enqueued first. -/
  | dispatcherDequeues (producer : ApiThread)
  | storeAccepting
  | enqueuePoison (thread : Nat)
  | joinDispatcher
  | destroyQueue
  | destroyGameState

namespace SbGameStateStruct

/-- Whether the lifetime of `cApiQueue` is over. -/
def QueueDestroyed (state : SbGameStateStruct) : Prop :=
  state.destruction = .queueDestroyed ∨ state.destruction = .gameStateDestroyed

instance (state : SbGameStateStruct) : Decidable state.QueueDestroyed :=
  inferInstanceAs (Decidable (_ ∨ _))

def enqueue (state : SbGameStateStruct) (thread : ApiThread)
    (item : ApiQueueItem) : SbGameStateStruct :=
  if state.QueueDestroyed then
    { state with enqueuedLate := item :: state.enqueuedLate }
  else
    { state with
      cApiQueue := state.cApiQueue.enqueue thread item
      enqueued := state.enqueued ++ [state.cApiQueue.nextEntry thread item] }

/-- `cApiDispatcherLoop`, once around.  What a job throws is caught. -/
def dispatcherDequeues (state : SbGameStateStruct) (producer : ApiThread) :
    Option SbGameStateStruct :=
  (state.cApiQueue.dequeue producer).map fun (entry, queue) =>
    { state with
      cApiQueue := queue
      dequeued := state.dequeued ++ [entry]
      dispatcherRuns := entry.item ≠ .poison }

def step (state : SbGameStateStruct) :
    ApiQueueAction → Option SbGameStateStruct
  | .postApiJob thread job =>
      if state.destruction = .notBegun then
        some (state.enqueue (.application thread) (.job job))
      else none
  | .posterLoads worker =>
      if worker ∈ state.posting ∨ state.destruction = .gameStateDestroyed then
        none
      else if !state.cApiAccepting then some state
      else some { state with posting := worker :: state.posting }
  | .posterEnqueues worker =>
      if worker ∈ state.posting then
        some ({ state with posting := state.posting.erase worker }.enqueue
          (.worker worker) (.job .tickModeExpiries))
      else none
  | .dispatcherDequeues producer =>
      if state.dispatcherRuns then state.dispatcherDequeues producer else none
  | .storeAccepting =>
      if state.destruction = .notBegun then
        some { state with
          cApiAccepting := false
          destruction := .notAccepting }
      else none
  | .enqueuePoison thread =>
      if state.destruction = .notAccepting then
        some { state.enqueue (.application thread) .poison with
          destruction := .poisonEnqueued }
      else none
  | .joinDispatcher =>
      if state.destruction = .poisonEnqueued ∧ !state.dispatcherRuns then
        some { state with destruction := .dispatcherJoined }
      else none
  -- The destructor calls `shutdownCApiDispatcher` again, and the dispatcher is
  -- not joinable any more.
  | .destroyQueue =>
      if state.destruction = .dispatcherJoined then
        some { state with destruction := .queueDestroyed }
      else none
  -- The destructor of `Net` waits for the handlers that run.
  | .destroyGameState =>
      if state.destruction = .queueDestroyed ∧ state.posting = [] then
        some { state with destruction := .gameStateDestroyed }
      else none

/-- The jobs that were dispatched, in that order. -/
def dispatched (state : SbGameStateStruct) : List ApiQueueEntry :=
  state.dequeued.filter (·.item ≠ .poison)

/-- No Poison item was enqueued before this entry. -/
def BeforePoison (state : SbGameStateStruct) (entry : ApiQueueEntry) : Prop :=
  ∀ poison ∈ state.enqueued, poison.item = .poison →
    entry.number < poison.number

/-- What the shutdown is for.  While the dispatcher runs a job may wait. -/
structure ShutsDown (state : SbGameStateStruct) : Prop where
  inOrder : ∀ producer,
    (state.dispatched.filter (·.producer = producer)).Pairwise
      (·.number < ·.number)
  once : ∀ entry ∈ state.enqueued, entry.item ≠ .poison →
    state.BeforePoison entry →
      state.dispatched.count entry +
          (if state.dispatcherRuns then state.cApiQueue.entries.count entry
            else 0) = 1
  nothingLate : state.enqueuedLate = []

/-- The dispatcher takes the Poison item only if it is the oldest one in the
queue, and the queue is destroyed only while no poster is about to enqueue. -/
def Orderly (state : SbGameStateStruct) : ApiQueueAction → Prop
  | .dispatcherDequeues producer =>
      ∀ entry, state.cApiQueue.front producer = some entry →
        entry.item = .poison →
          state.cApiQueue.entries.head? = some entry
  | .destroyQueue => state.posting = []
  | _ => True

/-! ## What every step keeps -/

/-- Invariant: up to the Poison item nothing has ended yet. -/
structure Sound (state : SbGameStateStruct) : Prop where
  accounts : state.cApiQueue.Accounts state.enqueued state.dequeued
  early : state.destruction = .notBegun ∨ state.destruction = .notAccepting →
    state.dispatcherRuns = true ∧
      ∀ entry ∈ state.enqueued, entry.item ≠ .poison
  onePoison : ∀ first ∈ state.enqueued, ∀ second ∈ state.enqueued,
    first.item = .poison → second.item = .poison → first = second
  stopped : state.dispatcherRuns = false →
    ∃ poison ∈ state.enqueued, poison.item = .poison
  notAccepting : state.destruction ≠ .notBegun → state.cApiAccepting = false
  nothingLate : ¬ state.QueueDestroyed → state.enqueuedLate = []
  finished : state.destruction = .gameStateDestroyed → state.posting = []

variable {state next : SbGameStateStruct} {action : ApiQueueAction}

theorem sound_initial : Sound {} where
  accounts := ProducerQueue.accounts_empty
  early := fun _ => ⟨rfl, fun _ member => absurd member List.not_mem_nil⟩
  onePoison := fun _ member => absurd member List.not_mem_nil
  stopped := nofun
  notAccepting := fun begun => absurd rfl begun
  nothingLate := fun _ => rfl
  finished := nofun

theorem enqueue_of_not_queueDestroyed (lives : ¬ state.QueueDestroyed)
    (thread : ApiThread) (item : ApiQueueItem) :
    state.enqueue thread item =
      { state with
        cApiQueue := state.cApiQueue.enqueue thread item
        enqueued := state.enqueued ++ [state.cApiQueue.nextEntry thread item] } :=
  if_neg lives

theorem enqueue_of_queueDestroyed (destroyed : state.QueueDestroyed)
    (thread : ApiThread) (item : ApiQueueItem) :
    state.enqueue thread item =
      { state with enqueuedLate := item :: state.enqueuedLate } :=
  if_pos destroyed

theorem not_queueDestroyed_of_early
    (early : state.destruction = .notBegun ∨ state.destruction = .notAccepting) :
    ¬ state.QueueDestroyed := by
  rcases early with stage | stage <;> simp [QueueDestroyed, stage]

/-- A job is no Poison item, wherever it goes. -/
theorem Sound.enqueue_job (sound : Sound state) (thread : ApiThread)
    (job : ApiJob) : Sound (state.enqueue thread (.job job)) := by
  by_cases destroyed : state.QueueDestroyed
  · rw [enqueue_of_queueDestroyed destroyed]
    exact { sound with
      nothingLate := fun lives => absurd destroyed lives }
  · rw [enqueue_of_not_queueDestroyed destroyed]
    have isOld : ∀ entry ∈ state.enqueued ++
        [state.cApiQueue.nextEntry thread (.job job)],
        entry.item = .poison → entry ∈ state.enqueued := by
      intro entry member isPoison
      rcases List.mem_append.mp member with old | new
      · exact old
      · obtain rfl := List.mem_singleton.mp new
        exact nomatch isPoison
    exact { sound with
      accounts := sound.accounts.enqueue thread (.job job)
      early := fun early =>
        ⟨(sound.early early).1, fun entry member isPoison =>
          (sound.early early).2 entry (isOld entry member isPoison) isPoison⟩
      onePoison := fun first isFirst second isSecond firstPoison secondPoison =>
        sound.onePoison first (isOld first isFirst firstPoison)
          second (isOld second isSecond secondPoison) firstPoison secondPoison
      stopped := fun stopped =>
        (sound.stopped stopped).imp fun _ found =>
          ⟨List.mem_append_left _ found.1, found.2⟩ }

theorem Sound.enqueue_poison (sound : Sound state) (thread : Nat)
    (stage : state.destruction = .notAccepting) :
    Sound { state.enqueue (.application thread) .poison with
      destruction := .poisonEnqueued } := by
  have lives := not_queueDestroyed_of_early (Or.inr stage)
  obtain ⟨runs, none⟩ := sound.early (Or.inr stage)
  rw [enqueue_of_not_queueDestroyed lives]
  have isNew : ∀ entry ∈ state.enqueued ++
      [state.cApiQueue.nextEntry (.application thread) .poison],
      entry.item = .poison →
        entry = state.cApiQueue.nextEntry (.application thread) .poison := by
    intro entry member isPoison
    rcases List.mem_append.mp member with old | new
    · exact absurd isPoison (none entry old)
    · exact List.mem_singleton.mp new
  exact
    { accounts := sound.accounts.enqueue _ _
      early := by simp
      onePoison := fun first isFirst second isSecond firstPoison secondPoison =>
        (isNew first isFirst firstPoison).trans
          (isNew second isSecond secondPoison).symm
      stopped := fun _ =>
        ⟨_, List.mem_append_right _ (List.mem_singleton.mpr rfl), rfl⟩
      notAccepting := fun _ => sound.notAccepting (by simp [stage])
      nothingLate := fun _ => sound.nothingLate lives
      finished := nofun }

theorem Sound.dispatcherDequeues (sound : Sound state) {producer : ApiThread}
    (taken : state.dispatcherDequeues producer = some next) : Sound next := by
  obtain ⟨⟨entry, queue⟩, isTaken, rfl⟩ := Option.map_eq_some_iff.mp taken
  have accounts := sound.accounts.dequeue isTaken
  have waited : entry ∈ state.enqueued := by
    obtain ⟨-, -, before, after, entries, -, -⟩ :=
      ProducerQueue.dequeue_split isTaken
    exact sound.accounts.sublist.subset (by simp [entries])
  exact { sound with
    accounts := accounts
    early := fun early =>
      ⟨decide_eq_true ((sound.early early).2 entry waited),
        (sound.early early).2⟩
    stopped := fun stopped =>
      ⟨entry, waited, by simpa using stopped⟩ }

theorem Sound.posting_congr (sound : Sound state) {posting : List Nat}
    (smaller : state.destruction = .gameStateDestroyed → posting = []) :
    Sound { state with posting } :=
  { sound with finished := smaller }

theorem Sound.step (sound : Sound state)
    (taken : state.step action = some next) : Sound next := by
  cases action with
  | postApiJob thread job =>
      obtain ⟨-, isNext⟩ := Option.ite_none_right_eq_some.mp taken
      exact Option.some.inj isNext ▸ sound.enqueue_job _ job
  | posterLoads worker =>
      obtain ⟨runs, isNext⟩ := Option.ite_none_left_eq_some.mp taken
      split at isNext
      · exact Option.some.inj isNext ▸ sound
      · obtain rfl := Option.some.inj isNext
        exact sound.posting_congr fun stage => absurd (Or.inr stage) runs
  | posterEnqueues worker =>
      obtain ⟨-, isNext⟩ := Option.ite_none_right_eq_some.mp taken
      obtain rfl := Option.some.inj isNext
      have left : Sound { state with posting := state.posting.erase worker } :=
        sound.posting_congr fun stage => by rw [sound.finished stage]; rfl
      exact left.enqueue_job _ _
  | dispatcherDequeues producer =>
      obtain ⟨-, isNext⟩ := Option.ite_none_right_eq_some.mp taken
      exact sound.dispatcherDequeues isNext
  | storeAccepting =>
      obtain ⟨stage, isNext⟩ := Option.ite_none_right_eq_some.mp taken
      obtain rfl := Option.some.inj isNext
      exact { sound with
        early := fun _ => sound.early (Or.inl stage)
        notAccepting := fun _ => rfl
        nothingLate := fun _ =>
          sound.nothingLate (not_queueDestroyed_of_early (Or.inl stage))
        finished := nofun }
  | enqueuePoison thread =>
      obtain ⟨stage, isNext⟩ := Option.ite_none_right_eq_some.mp taken
      exact Option.some.inj isNext ▸ sound.enqueue_poison thread stage
  | joinDispatcher =>
      obtain ⟨⟨stage, -⟩, isNext⟩ := Option.ite_none_right_eq_some.mp taken
      obtain rfl := Option.some.inj isNext
      exact { sound with
        early := by simp
        notAccepting := fun _ => sound.notAccepting (by simp [stage])
        nothingLate := fun _ =>
          sound.nothingLate (by simp [QueueDestroyed, stage])
        finished := nofun }
  | destroyQueue =>
      obtain ⟨stage, isNext⟩ := Option.ite_none_right_eq_some.mp taken
      obtain rfl := Option.some.inj isNext
      exact { sound with
        early := by simp
        notAccepting := fun _ => sound.notAccepting (by simp [stage])
        nothingLate := fun lives => absurd (Or.inl rfl) lives
        finished := nofun }
  | destroyGameState =>
      obtain ⟨⟨stage, quiet⟩, isNext⟩ :=
        Option.ite_none_right_eq_some.mp taken
      obtain rfl := Option.some.inj isNext
      exact { sound with
        early := by simp
        notAccepting := fun _ => sound.notAccepting (by simp [stage])
        nothingLate := fun lives => absurd (Or.inr rfl) lives
        finished := fun _ => quiet }

/-! ## The shutdown, one step at a time -/

/-- The dispatcher has not stopped before a job that came before Poison. -/
def Drained (state : SbGameStateStruct) : Prop :=
  state.dispatcherRuns = false → ∀ poison ∈ state.enqueued,
    poison.item = .poison → ∀ entry ∈ state.enqueued,
      entry.number < poison.number → entry ∈ state.dequeued

/-- Nothing was, and nothing is about to be, enqueued too late. -/
structure Settled (state : SbGameStateStruct) : Prop where
  drained : state.Drained
  quiet : state.QueueDestroyed → state.posting = []
  nothingLate : state.enqueuedLate = []

theorem settled_initial : Settled {} where
  drained := nofun
  quiet := nofun
  nothingLate := rfl

/-- A job enqueued now comes after any Poison item. -/
theorem Sound.drained_enqueue_job (sound : Sound state)
    (lives : ¬ state.QueueDestroyed) (thread : ApiThread) (job : ApiJob) :
    (state.enqueue thread (.job job)).Drained ↔ state.Drained := by
  rw [enqueue_of_not_queueDestroyed lives]
  have less := sound.accounts.numbers_lt
  constructor
  · intro drained stopped poison isPoisonEntry isPoison entry member
    exact drained stopped poison (List.mem_append_left _ isPoisonEntry) isPoison
      entry (List.mem_append_left _ member)
  · intro drained stopped poison isPoisonEntry isPoison entry member before
    rcases List.mem_append.mp isPoisonEntry with oldPoison | newPoison
    · rcases List.mem_append.mp member with old | new
      · exact drained stopped poison oldPoison isPoison entry old before
      · obtain rfl := List.mem_singleton.mp new
        exact absurd before (Nat.lt_asymm (less poison oldPoison))
    · obtain rfl := List.mem_singleton.mp newPoison
      exact nomatch isPoison

/-- Where the dispatcher takes Poison, it takes the oldest item. -/
theorem Sound.drained_dispatcherDequeues (sound : Sound state)
    {producer : ApiThread}
    (taken : state.dispatcherDequeues producer = some next) :
    next.Drained ↔ state.Orderly (.dispatcherDequeues producer) := by
  obtain ⟨⟨entry, queue⟩, isTaken, rfl⟩ := Option.map_eq_some_iff.mp taken
  have isFront : state.cApiQueue.front producer = some entry := by
    obtain ⟨found, isFront, same⟩ := Option.map_eq_some_iff.mp isTaken
    exact isFront.trans (congrArg some (Prod.mk.inj same).1)
  have waits : entry ∈ state.cApiQueue.entries := List.mem_of_find?_eq_some isFront
  have isEnqueued := sound.accounts.sublist.subset waits
  have orderly_iff : state.Orderly (.dispatcherDequeues producer) ↔
      (entry.item = .poison → state.cApiQueue.entries.head? = some entry) := by
    constructor
    · intro orderly
      exact orderly entry isFront
    · rintro orderly other isOther isPoison
      obtain rfl := Option.some.inj (isFront.symm.trans isOther)
      exact orderly isPoison
  rw [orderly_iff, sound.accounts.head?_iff waits]
  constructor
  · intro drained isPoison other member before
    have inNext := drained (decide_eq_false (not_not_intro isPoison)) entry
      isEnqueued isPoison other member before
    rcases List.mem_append.mp inNext with old | new
    · exact old
    · obtain rfl := List.mem_singleton.mp new
      exact absurd before (Nat.lt_irrefl _)
  · intro taken stopped poison isPoisonEntry isPoison other member before
    have entryPoison : entry.item = .poison := by simpa using stopped
    obtain rfl := sound.onePoison entry isEnqueued poison isPoisonEntry
      entryPoison isPoison
    exact List.mem_append_left _ (taken entryPoison other member before)

/-- A poster enqueues too late only where it was about to. -/
theorem Sound.settled_posterEnqueues (sound : Sound state) {worker : Nat}
    (posts : worker ∈ state.posting) :
    ({ state with posting := state.posting.erase worker }.enqueue
        (.worker worker) (.job .tickModeExpiries)).Settled ↔
      state.Settled := by
  let left : SbGameStateStruct :=
    { state with posting := state.posting.erase worker }
  have leftSound : left.Sound :=
    sound.posting_congr fun stage => by rw [sound.finished stage]; rfl
  change (left.enqueue _ _).Settled ↔ _
  by_cases destroyed : left.QueueDestroyed
  · rw [enqueue_of_queueDestroyed destroyed]
    refine iff_of_false (fun settled => ?_) fun settled => ?_
    · exact nomatch settled.nothingLate
    · rw [settled.quiet destroyed] at posts
      exact nomatch posts
  · have drained := leftSound.drained_enqueue_job destroyed (.worker worker)
      .tickModeExpiries
    rw [enqueue_of_not_queueDestroyed destroyed] at drained ⊢
    exact ⟨fun settled =>
        ⟨drained.mp settled.drained, fun holds => absurd holds destroyed,
          settled.nothingLate⟩,
      fun settled =>
        ⟨drained.mpr settled.drained, fun holds => absurd holds destroyed,
          settled.nothingLate⟩⟩

theorem Sound.settled_step_iff (sound : Sound state)
    (taken : state.step action = some next) :
    next.Settled ↔ state.Settled ∧ state.Orderly action := by
  have unchanged (drained : next.Drained ↔ state.Drained)
      (quiet : (next.QueueDestroyed → next.posting = []) ↔
        (state.QueueDestroyed → state.posting = []))
      (late : next.enqueuedLate = state.enqueuedLate) :
      next.Settled ↔ state.Settled :=
    ⟨fun settled => ⟨drained.mp settled.drained, quiet.mp settled.quiet,
        late ▸ settled.nothingLate⟩,
      fun settled => ⟨drained.mpr settled.drained, quiet.mpr settled.quiet,
        late.trans settled.nothingLate⟩⟩
  cases action with
  | postApiJob thread job =>
      obtain ⟨stage, isNext⟩ := Option.ite_none_right_eq_some.mp taken
      have lives := not_queueDestroyed_of_early (Or.inl stage)
      have drained := sound.drained_enqueue_job lives (.application thread) job
      obtain rfl := Option.some.inj isNext
      refine (unchanged drained ?_ ?_).trans (and_iff_left trivial).symm <;>
        rw [enqueue_of_not_queueDestroyed lives]
      exact Iff.rfl
  | posterLoads worker =>
      obtain ⟨-, isNext⟩ := Option.ite_none_left_eq_some.mp taken
      refine Iff.trans ?_ (and_iff_left trivial).symm
      split at isNext
      · exact Option.some.inj isNext ▸ Iff.rfl
      · rename_i accepting
        obtain rfl := Option.some.inj isNext
        have lives : ¬ state.QueueDestroyed := by
          rintro (stage | stage) <;>
            simp [sound.notAccepting (by simp [stage])] at accepting
        exact unchanged Iff.rfl
          (iff_of_true (fun destroyed => absurd destroyed lives)
            (fun destroyed => absurd destroyed lives)) rfl
  | posterEnqueues worker =>
      obtain ⟨posts, isNext⟩ := Option.ite_none_right_eq_some.mp taken
      obtain rfl := Option.some.inj isNext
      exact (sound.settled_posterEnqueues posts).trans
        (and_iff_left trivial).symm
  | dispatcherDequeues producer =>
      obtain ⟨runs, isNext⟩ := Option.ite_none_right_eq_some.mp taken
      have exact := sound.drained_dispatcherDequeues isNext
      have drained : state.Drained := fun stopped =>
        absurd (stopped.symm.trans runs) Bool.false_ne_true
      obtain ⟨⟨entry, queue⟩, isTaken, rfl⟩ := Option.map_eq_some_iff.mp isNext
      exact ⟨fun settled =>
          ⟨⟨drained, settled.quiet, settled.nothingLate⟩,
            exact.mp settled.drained⟩,
        fun ⟨settled, orderly⟩ =>
          ⟨exact.mpr orderly, settled.quiet, settled.nothingLate⟩⟩
  | destroyQueue =>
      obtain ⟨stage, isNext⟩ := Option.ite_none_right_eq_some.mp taken
      obtain rfl := Option.some.inj isNext
      have lives : ¬ state.QueueDestroyed := by simp [QueueDestroyed, stage]
      exact ⟨fun settled =>
          ⟨⟨settled.drained, fun destroyed => absurd destroyed lives,
            settled.nothingLate⟩, settled.quiet (Or.inl rfl)⟩,
        fun ⟨settled, quiet⟩ =>
          ⟨settled.drained, fun _ => quiet, settled.nothingLate⟩⟩
  | storeAccepting =>
      obtain ⟨stage, isNext⟩ := Option.ite_none_right_eq_some.mp taken
      obtain rfl := Option.some.inj isNext
      refine (unchanged Iff.rfl ?_ rfl).trans (and_iff_left trivial).symm
      simp [QueueDestroyed, stage]
  | enqueuePoison thread =>
      obtain ⟨stage, isNext⟩ := Option.ite_none_right_eq_some.mp taken
      have lives := not_queueDestroyed_of_early (Or.inr stage)
      have runs := (sound.early (Or.inr stage)).1
      obtain rfl := Option.some.inj isNext
      refine (unchanged ?_ ?_ ?_).trans (and_iff_left trivial).symm <;>
        rw [enqueue_of_not_queueDestroyed lives]
      · simp [Drained, runs]
      · simp [QueueDestroyed, stage]
  | joinDispatcher =>
      obtain ⟨⟨stage, -⟩, isNext⟩ := Option.ite_none_right_eq_some.mp taken
      obtain rfl := Option.some.inj isNext
      refine (unchanged Iff.rfl ?_ rfl).trans (and_iff_left trivial).symm
      simp [QueueDestroyed, stage]
  | destroyGameState =>
      obtain ⟨⟨stage, -⟩, isNext⟩ := Option.ite_none_right_eq_some.mp taken
      obtain rfl := Option.some.inj isNext
      refine (unchanged Iff.rfl ?_ rfl).trans (and_iff_left trivial).symm
      simp [QueueDestroyed, stage]

theorem count_dispatched {entry : ApiQueueEntry} (isJob : entry.item ≠ .poison) :
    state.dispatched.count entry = state.dequeued.count entry :=
  List.count_filter (decide_eq_true isJob)

theorem Sound.shutsDown_of_settled (sound : Sound state)
    (settled : state.Settled) : state.ShutsDown where
  inOrder := by
    intro producer
    have fewer : (state.dispatched.filter (·.producer = producer)).Sublist
        (state.dequeued.filter (·.producer = producer)) :=
      List.filter_sublist.filter _
    have enqueuedBefore : (state.dispatched.filter
        (·.producer = producer)).Sublist state.enqueued :=
      (fewer.trans (sound.accounts.dequeued_isPrefix producer).sublist).trans
        List.filter_sublist
    exact sound.accounts.increasing.sublist enqueuedBefore
  once := by
    intro entry member isJob before
    have counted := sound.accounts.count_add_count member
    rw [count_dispatched isJob]
    cases runs : state.dispatcherRuns with
    | true => exact counted
    | false =>
        obtain ⟨poison, isPoisonEntry, isPoison⟩ := sound.stopped runs
        have taken := settled.drained runs poison isPoisonEntry isPoison entry
          member (before poison isPoisonEntry isPoison)
        have takenOnce := List.count_pos_iff.mpr taken
        simp only [Bool.false_eq_true, if_false]
        omega
  nothingLate := settled.nothingLate

/-- The converse, once all posters are done. -/
theorem Sound.settled_of_shutsDown (sound : Sound state)
    (quiet : state.posting = []) (shutsDown : state.ShutsDown) :
    state.Settled where
  drained := by
    intro stopped poison isPoisonEntry isPoison entry member less
    have isJob : entry.item ≠ .poison := by
      intro entryPoison
      obtain rfl := sound.onePoison entry member poison isPoisonEntry
        entryPoison isPoison
      exact Nat.lt_irrefl _ less
    have before : state.BeforePoison entry := by
      intro other isOther otherPoison
      obtain rfl := sound.onePoison other isOther poison isPoisonEntry
        otherPoison isPoison
      exact less
    have once := shutsDown.once entry member isJob before
    rw [count_dispatched isJob, stopped] at once
    apply List.count_pos_iff.mp
    simp only [Bool.false_eq_true, if_false] at once
    omega
  quiet := fun _ => quiet
  nothingLate := shutsDown.nothingLate

/-! ## Runs -/

theorem settled_iff {actions : List ApiQueueAction} {final : SbGameStateStruct}
    (reached : Transition.run step {} actions = some final) :
    final.Settled ↔ Transition.HoldsAlong step Orderly {} actions := by
  have exact := Transition.since_iff
    (fun _ _ _ (sound : Sound _) taken => sound.step taken)
    (fun state action next sound taken => by
      rw [false_or]
      exact sound.settled_step_iff taken)
    sound_initial reached
  rw [exact]
  constructor
  · rintro (⟨-, along⟩ | ⟨_, _, _, _, _, establishing, _⟩)
    · exact along
    · exact establishing.elim
  · exact fun along => Or.inl ⟨settled_initial, along⟩

/-- Orderly runs shut down, and of the runs that end the destruction no
others. -/
theorem shutsDown_iff {actions : List ApiQueueAction}
    {final : SbGameStateStruct}
    (reached : Transition.run step {} actions = some final) :
    (Transition.HoldsAlong step Orderly {} actions → final.ShutsDown) ∧
    (final.destruction = .gameStateDestroyed →
      (final.ShutsDown ↔ Transition.HoldsAlong step Orderly {} actions)) := by
  have sound : Sound final := Transition.run_invariant
    (fun _ _ _ sound taken => Sound.step sound taken) reached sound_initial
  have sufficient : Transition.HoldsAlong step Orderly {} actions →
      final.ShutsDown := fun along =>
    sound.shutsDown_of_settled ((settled_iff reached).mpr along)
  refine ⟨sufficient, fun ended => ⟨fun shutsDown => ?_, sufficient⟩⟩
  exact (settled_iff reached).mp
    (sound.settled_of_shutsDown (sound.finished ended) shutsDown)

namespace Sample

/-- A job waits when Poison is enqueued, and a poster is done before that. -/
def orderly : List ApiQueueAction :=
  [.postApiJob 0 (.setGameStarted .startButton), .posterLoads 2,
    .postApiJob 1 .commit, .dispatcherDequeues (.application 1),
    .posterEnqueues 2, .storeAccepting, .posterLoads 3, .enqueuePoison 0,
    .dispatcherDequeues (.application 0), .dispatcherDequeues (.worker 2),
    .dispatcherDequeues (.application 0), .joinDispatcher, .destroyQueue,
    .destroyGameState]

/-- The Poison item of one thread overtakes the job of another. -/
def overtaken : List ApiQueueAction :=
  [.postApiJob 1 .commit, .storeAccepting, .enqueuePoison 0,
    .dispatcherDequeues (.application 0), .joinDispatcher, .destroyQueue,
    .destroyGameState]

/-- A poster reads `cApiAccepting` before it is stored, and goes on when the
queue has been destroyed. -/
def late : List ApiQueueAction :=
  [.posterLoads 2, .storeAccepting, .enqueuePoison 0,
    .dispatcherDequeues (.application 0), .joinDispatcher, .destroyQueue,
    .posterEnqueues 2, .destroyGameState]

def orderlyCheck (state : SbGameStateStruct) : ApiQueueAction → Bool
  | .dispatcherDequeues producer =>
      state.cApiQueue.front producer = state.cApiQueue.entries.head? ||
        !(state.cApiQueue.front producer).any (·.item = .poison)
  | .destroyQueue => state.posting = []
  | _ => true

theorem orderlyCheck_sound (state : SbGameStateStruct)
    (action : ApiQueueAction) (checked : orderlyCheck state action = true) :
    state.Orderly action := by
  cases action with
  | dispatcherDequeues producer =>
      intro entry isFront isPoison
      simpa [orderlyCheck, isFront, isPoison, eq_comm] using checked
  | destroyQueue =>
      have quiet : state.posting = [] := of_decide_eq_true checked
      exact quiet
  | _ => trivial

end Sample

theorem shutsDown_orderly :
    ∃ final, Transition.run step {} Sample.orderly = some final ∧
      final.destruction = .gameStateDestroyed ∧ final.ShutsDown := by
  have evaluated : ((Transition.run step {} Sample.orderly).any fun final =>
      final.destruction = .gameStateDestroyed) = true := by
    decide +kernel
  obtain ⟨final, reached, ended⟩ := (Option.any_eq_true _ _).mp evaluated
  refine ⟨final, reached, of_decide_eq_true ended, ?_⟩
  apply ((shutsDown_iff reached).2 (of_decide_eq_true ended)).mpr
  apply Transition.HoldsAlong.of_checksAlong Sample.orderlyCheck_sound
  decide +kernel

/-- Runs in which a job is lost, and in which one is enqueued too late. -/
theorem notShutsDown_overtaken_late :
    (∃ final, Transition.run step {} Sample.overtaken = some final ∧
      ¬ final.ShutsDown) ∧
    ∃ final, Transition.run step {} Sample.late = some final ∧
      ¬ final.ShutsDown := by
  constructor
  · have evaluated : ((Transition.run step {} Sample.overtaken).any fun final =>
        final.enqueued = [⟨0, .application 1, .job .commit⟩,
          ⟨1, .application 0, .poison⟩] &&
        final.dispatched = [] && !final.dispatcherRuns) = true := by
      decide +kernel
    obtain ⟨final, reached, lost⟩ := (Option.any_eq_true _ _).mp evaluated
    simp only [Bool.and_eq_true, decide_eq_true_eq, Bool.not_eq_true'] at lost
    obtain ⟨⟨enqueued, dispatched⟩, stopped⟩ := lost
    refine ⟨final, reached, fun shutsDown => ?_⟩
    have once := shutsDown.once ⟨0, .application 1, .job .commit⟩
      (by simp [enqueued]) nofun (by simp [BeforePoison, enqueued])
    simp [dispatched, stopped] at once
  · have evaluated : ((Transition.run step {} Sample.late).any fun final =>
        final.enqueuedLate = [.job .tickModeExpiries]) = true := by
      decide +kernel
    obtain ⟨final, reached, isLate⟩ := (Option.any_eq_true _ _).mp evaluated
    refine ⟨final, reached, fun shutsDown => ?_⟩
    rw [shutsDown.nothingLate] at isLate
    exact nomatch isLate

end SbGameStateStruct

end ScorbitSdk
