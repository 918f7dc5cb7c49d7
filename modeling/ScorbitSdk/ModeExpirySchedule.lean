import ScorbitSdk.ApiQueue
import ScorbitSdk.ModesInvariant
import ScorbitSdk.SteadyTimers

/-!
# The schedule of the mode expiry

An operation that changes the deadlines starts the timer anew, for the soonest
of them.  The timer's handler has a tick enqueued, which waits behind other
jobs, and the tick starts the timer again.  Between two readings of the clock
that one operation makes, and between them and the start of the timer, any time
may pass.  The game state is not being destroyed.
-/

namespace ScorbitSdk

/-- A start of the timer `ModeExpiry`: when the delay was computed, and when the
timer was started.  The handler itself is always the same. -/
structure ModeExpiryStart where
  delayReadAt : SteadyTime
  startedAt : SteadyTime
  deriving DecidableEq

/-- The program does not keep `lastDeadlines`, the deadline that was set last
for each mode. -/
structure ModeExpirySchedule where
  now : SteadyTime := 0
  gameState : GameStateImpl := { hasModeExpiryPoster := true }
  timer : SteadyTimer ModeExpiryStart := {}
  cApiQueue : ProducerQueue ApiThread ApiJob := {}
  lastDeadlines : String → Option SteadyTime := fun _ => none

inductive ModeExpiryAction
  | wait (duration : Nat)
  | postApiJob (thread : Nat) (job : ApiJob)
  | timerExpires
  | runHandler (index worker : Nat)
  /-- Two durations: until the delay is computed, and from then on until the
  timer is started. -/
  | dispatch (producer : ApiThread) (status : AuthStatus) (systemNow : Int)
      (untilDelay untilStart : Nat)
  | sessionCreated (status : AuthStatus) (systemNow : Int)

/-- `Net::scheduleDelayedOnWorker` and `Net::cancelModeExpiryTimer`. -/
def NetCall.schedule (start : ModeExpiryStart)
    (timer : SteadyTimer ModeExpiryStart) :
    NetCall → SteadyTimer ModeExpiryStart
  | .scheduleDelayedOnWorker delay =>
      timer.cancel.start (start.startedAt + delay) start
  | .cancelModeExpiryTimer => timer.cancel
  | _ => timer

namespace ModeExpirySchedule

/-- The deadlines that were set last, after a job. -/
def deadlinesAfter (state : ModeExpirySchedule) :
    ApiJob → String → Option SteadyTime
  | .addModeExpiring mode durationSeconds =>
      if !state.gameState.data.isGameActive then state.lastDeadlines
      else
        Function.update state.lastDeadlines mode
          (some (state.now +
            seconds (normalizeModeExpirySeconds durationSeconds)))
  | _ => state.lastDeadlines

def perform (state : ModeExpirySchedule) (job : ApiJob)
    (env : GameEnvironment) (start : ModeExpiryStart) : ModeExpirySchedule :=
  let (gameState, calls) := dispatchApiJob env state.gameState job
  { state with
    now := start.startedAt
    gameState
    timer := calls.foldl (NetCall.schedule start) state.timer
    lastDeadlines := state.deadlinesAfter job }

def step (state : ModeExpirySchedule) :
    ModeExpiryAction → Option ModeExpirySchedule
  | .wait duration => some { state with now := state.now + duration }
  | .postApiJob thread job =>
      some { state with
        cApiQueue := state.cApiQueue.enqueue (.application thread) job }
  | .timerExpires =>
      (state.timer.expire state.now).map fun timer => { state with timer }
  | .runHandler index worker =>
      (state.timer.take index).map fun (_, timer) =>
        { state with
          timer
          cApiQueue :=
            state.cApiQueue.enqueue (.worker worker) .tickModeExpiries }
  | .dispatch producer status systemNow untilDelay untilStart =>
      (state.cApiQueue.dequeue producer).map fun (entry, cApiQueue) =>
        let delayReadAt := state.now + untilDelay
        { state with cApiQueue }.perform entry.item
          { status, steadyNow := state.now, steadyLater := delayReadAt,
            systemNow }
          ⟨delayReadAt, delayReadAt + untilStart⟩
  | .sessionCreated status systemNow =>
      some { state with
        gameState := (state.gameState.onCreated { status, systemNow }).1 }

/-- The timer's handler or the tick it had enqueued has not run yet. -/
def TickPending (state : ModeExpirySchedule) : Prop :=
  state.timer.ready ≠ [] ∨
    ∃ entry ∈ state.cApiQueue.entries, entry.item = .tickModeExpiries

/-- No mode of a game is forgotten, and none is late but for the time that the
last operation took; a deadline that had passed then counts as that moment. -/
def Scheduled (state : ModeExpirySchedule) : Prop :=
  state.gameState.data.isGameActive = true →
    ∀ mode deadline,
      state.gameState.data.modes.modeExpiryDeadlines.lookup mode =
        some deadline →
      state.TickPending ∨
        ∃ expiry start, state.timer.wait = some (expiry, start) ∧
          start.delayReadAt ≤ start.startedAt ∧
          start.startedAt ≤ state.now ∧
          expiry ≤ max deadline start.delayReadAt +
            (start.startedAt - start.delayReadAt)

/-- The timer is started for the soonest deadline. -/
def OnTime (state : ModeExpirySchedule) : Prop :=
  state.gameState.data.isGameActive = true →
    ∀ mode deadline,
      state.gameState.data.modes.modeExpiryDeadlines.lookup mode =
        some deadline →
      state.TickPending ∨
        ∃ expiry start, state.timer.wait = some (expiry, start) ∧
          expiry ≤ deadline

/-- A tick that is dispatched removes a mode only if the deadline set last for
it has passed. -/
def RemovesOnlyExpired (state : ModeExpirySchedule) : Prop :=
  ∀ entry producer status systemNow untilDelay untilStart next,
    state.cApiQueue.front producer = some entry →
    entry.item = .tickModeExpiries →
    state.step (.dispatch producer status systemNow untilDelay untilStart) =
      some next →
    ∀ mode ∈ state.gameState.data.modes.modes,
      mode ∉ next.gameState.data.modes.modes →
        ∃ deadline, state.lastDeadlines mode = some deadline ∧
          deadline ≤ state.now

end ModeExpirySchedule

/-! ## Deadlines -/

namespace Modes

variable {modes : Modes} {now : SteadyTime} {mode : String}

theorem nextExpiryDelay_le {delay deadline : SteadyTime}
    (isNext : modes.nextExpiryDelay now = some delay)
    (isDeadline : modes.modeExpiryDeadlines.lookup mode = some deadline) :
    delay ≤ max (deadline - now) 0 := by
  obtain ⟨soonest, ⟨_, least⟩, rfl⟩ := nextExpiryDelay_eq_some_iff.mp isNext
  exact max_le_max (Int.sub_le_sub_right (least mode deadline isDeadline) now)
    le_rfl

theorem lookup_of_nextExpiryDelay_eq_none
    (noNext : modes.nextExpiryDelay now = none) (mode : String) :
    modes.modeExpiryDeadlines.lookup mode = none :=
  AList.lookup_eq_none.mpr (nextExpiryDelay_eq_none_iff.mp noNext mode)

theorem lookup_of_not_hasExpiryDeadlines
    (noDeadlines : modes.hasExpiryDeadlines = false) (mode : String) :
    modes.modeExpiryDeadlines.lookup mode = none := by
  have noEntries : modes.modeExpiryDeadlines.entries = [] := by
    simpa [hasExpiryDeadlines] using noDeadlines
  exact @lookup_of_nextExpiryDelay_eq_none modes 0
    (by simp [nextExpiryDelay, noEntries]) mode

theorem lookup_removeMode {removed : String} {deadline : SteadyTime}
    (isDeadline : (modes.removeMode removed).modeExpiryDeadlines.lookup mode =
      some deadline) :
    modes.modeExpiryDeadlines.lookup mode = some deadline := by
  change (modes.modeExpiryDeadlines.erase removed).lookup mode = _ at isDeadline
  by_cases same : mode = removed
  · rw [same, AList.lookup_erase] at isDeadline
    exact nomatch isDeadline
  · rwa [AList.lookup_erase_ne same] at isDeadline

/-- A tick removes only modes whose deadline has passed. -/
theorem lookup_of_not_mem_tickExpiries (member : mode ∈ modes.modes)
    (removed : mode ∉ (modes.tickExpiries now).modes) :
    ∃ deadline, modes.modeExpiryDeadlines.lookup mode = some deadline ∧
      deadline ≤ now := by
  rw [(removedExactly_tickExpiries modes now).mem_iff] at removed
  exact not_not.mp fun notDue => removed ⟨member, notDue⟩

end Modes

/-! ## What a job does to the schedule -/

/-- An update that leaves the modes alone. -/
structure KeepsModes (before after : GameStateImpl) : Prop where
  modes : after.data.modes = before.data.modes
  isGameActive : after.data.isGameActive = before.data.isGameActive
  poster : after.hasModeExpiryPoster = before.hasModeExpiryPoster

theorem KeepsModes.refl (gameState : GameStateImpl) :
    KeepsModes gameState gameState :=
  ⟨rfl, rfl, rfl⟩

theorem KeepsModes.trans {first second third : GameStateImpl}
    (earlier : KeepsModes first second) (later : KeepsModes second third) :
    KeepsModes first third where
  modes := later.modes.trans earlier.modes
  isGameActive := later.isGameActive.trans earlier.isGameActive
  poster := later.poster.trans earlier.poster

namespace GameStateImpl

variable (self : GameStateImpl) (env : GameEnvironment)

theorem keepsModes_addNewPlayer (player : Nat) :
    KeepsModes self (self.addNewPlayer player) := by
  unfold addNewPlayer
  split <;> exact ⟨rfl, rfl, rfl⟩

theorem keepsModes_setCurrentBall (ball : Nat) :
    KeepsModes self (self.setCurrentBall ball) := by
  unfold setCurrentBall
  split
  · exact .refl self
  split <;> exact ⟨rfl, rfl, rfl⟩

theorem keepsModes_setActivePlayer (player : Nat) :
    KeepsModes self (self.setActivePlayer player) := by
  unfold setActivePlayer
  split
  · exact .refl self
  split
  · exact .refl self
  · exact (self.keepsModes_addNewPlayer player).trans ⟨rfl, rfl, rfl⟩

theorem keepsModes_setScore (player : Nat) (score feature : Int) :
    KeepsModes self (self.setScore player score feature) := by
  unfold setScore
  split
  · exact .refl self
  split
  · exact .refl self
  have added := self.keepsModes_addNewPlayer player
  dsimp only
  split
  · exact added
  · exact added.trans ⟨rfl, rfl, rfl⟩

theorem keepsModes_submitGameData (forceSending : Bool) :
    KeepsModes self (self.submitGameData env forceSending).1 := by
  unfold submitGameData
  split
  · exact .refl self
  split <;> exact ⟨rfl, rfl, rfl⟩

theorem keepsModes_foldl_addNewPlayer (players : List Nat) :
    KeepsModes self (players.foldl addNewPlayer self) := by
  induction players generalizing self with
  | nil => exact .refl self
  | cons player players ih =>
      exact (self.keepsModes_addNewPlayer player).trans (ih _)

end GameStateImpl

/-- The timer starts for the soonest deadline, or no game has one. -/
inductive Restarts (env : GameEnvironment) (after : GameStateImpl)
    (calls : List NetCall) : Prop
  | started (delay : SteadyTime)
      (isNext : after.data.modes.nextExpiryDelay env.steadyLater = some delay)
      (starts : ∀ start timer,
        (calls.foldl (NetCall.schedule start) timer).wait =
          some (start.startedAt + delay, start))
  | idle
      (noDeadline : after.data.isGameActive = true → ∀ mode,
        after.data.modes.modeExpiryDeadlines.lookup mode = none)

/-- What an operation does to the deadlines and its calls to the timer. -/
inductive Reschedules (env : GameEnvironment) (before after : GameStateImpl)
    (calls : List NetCall) : Prop
  | kept
      (isGameActive : after.data.isGameActive = before.data.isGameActive)
      (deadlines : after.data.modes.modeExpiryDeadlines =
        before.data.modes.modeExpiryDeadlines)
      (untouched : ∀ start timer,
        calls.foldl (NetCall.schedule start) timer = timer)
  | restarted (restarts : Restarts env after calls)

theorem KeepsModes.reschedules {env : GameEnvironment}
    {before after : GameStateImpl} (keeps : KeepsModes before after) :
    Reschedules env before after [] :=
  .kept keeps.isGameActive (congrArg _ keeps.modes) fun _ _ => rfl

namespace GameStateImpl

variable {self : GameStateImpl} {env : GameEnvironment}

theorem restarts_rescheduleModeExpiryTimer
    (poster : self.hasModeExpiryPoster = true) :
    Restarts env self (self.rescheduleModeExpiryTimer env) := by
  unfold rescheduleModeExpiryTimer
  rw [if_neg (by simp [poster])]
  cases isNext : self.data.modes.nextExpiryDelay env.steadyLater with
  | none =>
      exact .idle fun _ => Modes.lookup_of_nextExpiryDelay_eq_none isNext
  | some delay => exact .started delay isNext fun _ _ => rfl

theorem schedule_submissions (prev data : GameData) (start : ModeExpiryStart)
    (timer : SteadyTimer ModeExpiryStart) :
    (submissions prev data).foldl (NetCall.schedule start) timer = timer := by
  unfold submissions
  split <;> rfl

theorem reschedules_submitGameData (forceSending : Bool) :
    Reschedules env self (self.submitGameData env forceSending).1
      (self.submitGameData env forceSending).2 := by
  have keeps := self.keepsModes_submitGameData env forceSending
  refine .kept keeps.isGameActive (congrArg _ keeps.modes) fun start timer => ?_
  unfold submitGameData
  split
  · rfl
  split
  · exact schedule_submissions _ _ start timer
  · rfl

/-- A game that starts has no modes yet. -/
theorem setGameStarted_modes (origin : GameStartOrigin) :
    self.setGameStarted env origin = (self, []) ∨
      (self.setGameStarted env origin).1.data.modes = {} ∧
        (self.setGameStarted env origin).1.hasModeExpiryPoster =
          self.hasModeExpiryPoster := by
  unfold setGameStarted startGame
  split
  · exact Or.inl rfl
  split
  · exact Or.inl rfl
  right
  let fresh : GameStateImpl :=
    { self with
      prevData := {}
      sessionId := self.sessionId + 1
      data := { id := self.sessionId + 1, isGameActive := true } }
  have keeps : KeepsModes fresh
      ((((List.range' 1 1).foldl addNewPlayer fresh).setCurrentBall
        1).setActivePlayer 1) :=
    ((fresh.keepsModes_foldl_addNewPlayer _).trans
      (keepsModes_setCurrentBall _ 1)).trans (keepsModes_setActivePlayer _ 1)
  exact ⟨keeps.modes, keeps.poster⟩

theorem reschedules_setGameStarted (origin : GameStartOrigin) :
    Reschedules env self (self.setGameStarted env origin).1
      (self.setGameStarted env origin).2 := by
  rcases setGameStarted_modes origin with same | ⟨noModes, -⟩
  · rw [same]
    exact KeepsModes.reschedules (.refl self)
  · exact .restarted (.idle fun _ mode => by rw [noModes]; rfl)

theorem reschedules_setGameFinished :
    Reschedules env self (self.setGameFinished env).1
      (self.setGameFinished env).2 := by
  unfold setGameFinished
  split
  · exact KeepsModes.reschedules (.refl self)
  · exact .restarted (.idle fun active => nomatch active)

theorem reschedules_addMode (mode : String) :
    Reschedules env self (self.addMode mode) [] := by
  unfold addMode
  split
  · exact KeepsModes.reschedules (.refl self)
  · refine .kept rfl ?_ fun _ _ => rfl
    unfold Modes.addMode
    dsimp only
    split <;> rfl

theorem reschedules_addModeExpiring (poster : self.hasModeExpiryPoster = true)
    (mode : String) (durationSeconds : Nat) :
    Reschedules env self (self.addModeExpiring env mode durationSeconds).1
      (self.addModeExpiring env mode durationSeconds).2 := by
  unfold addModeExpiring
  split
  · exact KeepsModes.reschedules (.refl self)
  · exact .restarted (restarts_rescheduleModeExpiryTimer poster)

theorem restarts_tickModeExpiries (poster : self.hasModeExpiryPoster = true) :
    Restarts env (self.tickModeExpiries env).1
      (self.tickModeExpiries env).2 := by
  unfold tickModeExpiries
  split
  · exact .idle fun _ _ => rfl
  · exact restarts_rescheduleModeExpiryTimer poster

theorem reschedules_removeMode (poster : self.hasModeExpiryPoster = true)
    (mode : String) :
    Reschedules env self (self.removeMode env mode).1
      (self.removeMode env mode).2 := by
  unfold removeMode
  split
  · exact KeepsModes.reschedules (.refl self)
  dsimp only
  split
  · exact .restarted (restarts_rescheduleModeExpiryTimer poster)
  · rename_i noDeadlines
    refine .restarted (.idle fun _ other => ?_)
    apply Option.eq_none_iff_forall_not_mem.mpr
    intro deadline isDeadline
    have wasDeadline := Modes.lookup_removeMode isDeadline
    rw [Modes.lookup_of_not_hasExpiryDeadlines (by simpa using noDeadlines)]
      at wasDeadline
    exact nomatch wasDeadline

theorem reschedules_clearModes :
    Reschedules env self self.clearModes.1 self.clearModes.2 := by
  unfold clearModes
  split
  · exact KeepsModes.reschedules (.refl self)
  · exact .restarted (.idle fun _ _ => rfl)

theorem reschedules_commit :
    Reschedules env self (self.commit env).1 (self.commit env).2 := by
  unfold commit
  split
  · exact reschedules_submitGameData false
  · exact KeepsModes.reschedules (.refl self)

/-- An operation that changes the deadlines restarts the timer. -/
theorem reschedules_dispatchApiJob (poster : self.hasModeExpiryPoster = true)
    (job : ApiJob) :
    Reschedules env self (dispatchApiJob env self job).1
      (dispatchApiJob env self job).2 := by
  cases job with
  | setGameStarted origin => exact reschedules_setGameStarted origin
  | setGameFinished => exact reschedules_setGameFinished
  | setCurrentBall ball =>
      exact (self.keepsModes_setCurrentBall ball).reschedules
  | setActivePlayer player =>
      exact (self.keepsModes_setActivePlayer player).reschedules
  | setScore player score feature =>
      exact (self.keepsModes_setScore player score feature).reschedules
  | addMode mode => exact reschedules_addMode mode
  | addModeExpiring mode durationSeconds =>
      exact reschedules_addModeExpiring poster mode durationSeconds
  | tickModeExpiries => exact .restarted (restarts_tickModeExpiries poster)
  | removeMode mode => exact reschedules_removeMode poster mode
  | clearModes => exact reschedules_clearModes
  | commit => exact reschedules_commit
  | _ => exact KeepsModes.reschedules (.refl self)

end GameStateImpl

/-- An update that sets no deadline. -/
structure SetsNoDeadline (before after : GameStateImpl) : Prop where
  poster : after.hasModeExpiryPoster = before.hasModeExpiryPoster
  lookup : ∀ mode deadline,
    after.data.modes.modeExpiryDeadlines.lookup mode = some deadline →
      before.data.modes.modeExpiryDeadlines.lookup mode = some deadline

theorem KeepsModes.setsNoDeadline {before after : GameStateImpl}
    (keeps : KeepsModes before after) : SetsNoDeadline before after where
  poster := keeps.poster
  lookup := fun _ _ isDeadline => keeps.modes ▸ isDeadline

namespace GameStateImpl

variable {self : GameStateImpl} {env : GameEnvironment}

theorem setsNoDeadline_modes {modes : Modes}
    (lookup : ∀ mode deadline,
      modes.modeExpiryDeadlines.lookup mode = some deadline →
        self.data.modes.modeExpiryDeadlines.lookup mode = some deadline) :
    SetsNoDeadline self { self with data.modes := modes } :=
  ⟨rfl, lookup⟩

theorem poster_addModeExpiring (mode : String) (durationSeconds : Nat) :
    (self.addModeExpiring env mode durationSeconds).1.hasModeExpiryPoster =
      self.hasModeExpiryPoster := by
  unfold addModeExpiring
  split <;> rfl

theorem setsNoDeadline_dispatchApiJob {job : ApiJob}
    (other : ∀ mode durationSeconds,
      job ≠ .addModeExpiring mode durationSeconds) :
    SetsNoDeadline self (dispatchApiJob env self job).1 := by
  have unchanged : SetsNoDeadline self self :=
    (KeepsModes.refl self).setsNoDeadline
  cases job with
  | setGameStarted origin =>
      change SetsNoDeadline self (self.setGameStarted env origin).1
      rcases setGameStarted_modes origin with same | ⟨noModes, poster⟩
      · rw [same]
        exact unchanged
      · refine ⟨poster, fun mode deadline isDeadline => ?_⟩
        rw [noModes] at isDeadline
        exact nomatch isDeadline
  | setGameFinished =>
      change SetsNoDeadline self (self.setGameFinished env).1
      unfold setGameFinished
      split
      · exact unchanged
      · exact ⟨(keepsModes_submitGameData _ env false).poster, nofun⟩
  | setCurrentBall ball =>
      exact (self.keepsModes_setCurrentBall ball).setsNoDeadline
  | setActivePlayer player =>
      exact (self.keepsModes_setActivePlayer player).setsNoDeadline
  | setScore player score feature =>
      exact (self.keepsModes_setScore player score feature).setsNoDeadline
  | addMode mode =>
      change SetsNoDeadline self (self.addMode mode)
      unfold addMode
      split
      · exact unchanged
      · refine setsNoDeadline_modes fun _ _ isDeadline => ?_
        unfold Modes.addMode at isDeadline
        split at isDeadline <;> exact isDeadline
  | addModeExpiring mode durationSeconds =>
      exact absurd rfl (other mode durationSeconds)
  | tickModeExpiries =>
      change SetsNoDeadline self (self.tickModeExpiries env).1
      unfold tickModeExpiries
      split
      · exact setsNoDeadline_modes nofun
      · exact setsNoDeadline_modes fun _ _ isDeadline =>
          ((Modes.lookup_tickExpiries _ _ _ _).mp isDeadline).1
  | removeMode mode =>
      change SetsNoDeadline self (self.removeMode env mode).1
      unfold removeMode
      split
      · exact unchanged
      · exact setsNoDeadline_modes fun _ _ => Modes.lookup_removeMode
  | clearModes =>
      change SetsNoDeadline self self.clearModes.1
      unfold clearModes
      split
      · exact unchanged
      · exact setsNoDeadline_modes nofun
  | commit =>
      change SetsNoDeadline self (self.commit env).1
      unfold commit
      split
      · exact (self.keepsModes_submitGameData env false).setsNoDeadline
      · exact unchanged
  | _ => exact unchanged

theorem poster_dispatchApiJob (job : ApiJob) :
    (dispatchApiJob env self job).1.hasModeExpiryPoster =
      self.hasModeExpiryPoster := by
  by_cases adds : ∃ mode durationSeconds,
      job = .addModeExpiring mode durationSeconds
  · obtain ⟨mode, durationSeconds, rfl⟩ := adds
    exact poster_addModeExpiring mode durationSeconds
  · exact (setsNoDeadline_dispatchApiJob fun mode durationSeconds same =>
      adds ⟨mode, durationSeconds, same⟩).poster

end GameStateImpl

/-! ## What every step keeps -/

namespace ModeExpirySchedule

/-- Invariant: the deadlines of a game are those that were set last. -/
structure Sound (state : ModeExpirySchedule) : Prop where
  poster : state.gameState.hasModeExpiryPoster = true
  deadlines : ∀ mode deadline,
    state.gameState.data.modes.modeExpiryDeadlines.lookup mode = some deadline →
      state.lastDeadlines mode = some deadline
  scheduled : state.Scheduled

variable {state next : ModeExpirySchedule} {action : ModeExpiryAction}

theorem sound_initial : Sound {} where
  poster := rfl
  deadlines := nofun
  scheduled := nofun

/-- Time may pass, and ticks may come to wait. -/
theorem Scheduled.weaken (scheduled : state.Scheduled)
    (isGameActive : next.gameState.data.isGameActive =
      state.gameState.data.isGameActive)
    (deadlines : next.gameState.data.modes.modeExpiryDeadlines =
      state.gameState.data.modes.modeExpiryDeadlines)
    (now : state.now ≤ next.now)
    (pending : state.TickPending → next.TickPending)
    (wait : next.TickPending ∨ next.timer.wait = state.timer.wait) :
    next.Scheduled := by
  intro active mode deadline isDeadline
  rw [isGameActive] at active
  rw [deadlines] at isDeadline
  rcases wait with nextPending | sameWait
  · exact Or.inl nextPending
  rcases scheduled active mode deadline isDeadline with now | armed
  · exact Or.inl (pending now)
  · obtain ⟨expiry, start, isWait, ordered, started, onTime⟩ := armed
    exact Or.inr ⟨expiry, start, sameWait.trans isWait, ordered,
      Int.le_trans started now, onTime⟩

theorem Sound.keeps (sound : Sound state)
    (gameState : KeepsModes state.gameState next.gameState)
    (lastDeadlines : next.lastDeadlines = state.lastDeadlines)
    (scheduled : next.Scheduled) : Sound next where
  poster := gameState.poster.trans sound.poster
  deadlines := by
    intro mode deadline isDeadline
    rw [gameState.modes] at isDeadline
    rw [lastDeadlines]
    exact sound.deadlines mode deadline isDeadline
  scheduled := scheduled

theorem started_le {deadline delayReadAt startedAt delay : Int}
    (soon : delay ≤ max (deadline - delayReadAt) 0) :
    startedAt + delay ≤ max deadline delayReadAt + (startedAt - delayReadAt) := by
  omega

/-- After the timer has been started no mode is late but for the time this
took. -/
theorem scheduled_of_restarts {job : ApiJob} {env : GameEnvironment}
    {start : ModeExpiryStart} (read : start.delayReadAt = env.steadyLater)
    (ordered : start.delayReadAt ≤ start.startedAt)
    (restarts : Restarts env (dispatchApiJob env state.gameState job).1
      (dispatchApiJob env state.gameState job).2) :
    (state.perform job env start).Scheduled := by
  intro active mode deadline isDeadline
  right
  cases restarts with
  | started delay isNext starts =>
      refine ⟨_, start, starts start state.timer, ordered, Int.le_refl _, ?_⟩
      have soon := Modes.nextExpiryDelay_le isNext isDeadline
      rw [read]
      exact started_le soon
  | idle noDeadline =>
      have noneLeft := noDeadline active mode
      exact nomatch noneLeft.symm.trans isDeadline

theorem schedule_ready (calls : List NetCall) (start : ModeExpiryStart)
    (timer : SteadyTimer ModeExpiryStart) :
    (calls.foldl (NetCall.schedule start) timer).ready = timer.ready := by
  induction calls generalizing timer with
  | nil => rfl
  | cons call calls ih =>
      rw [List.foldl_cons, ih]
      cases call <;> rfl

/-- The entry that is dequeued is the only one that leaves. -/
theorem tickPending_dequeue {producer : ApiThread}
    {entry : QueueEntry ApiThread ApiJob}
    {cApiQueue : ProducerQueue ApiThread ApiJob}
    (taken : state.cApiQueue.dequeue producer = some (entry, cApiQueue))
    (notTick : entry.item ≠ .tickModeExpiries) (pending : state.TickPending) :
    TickPending { state with cApiQueue } := by
  rcases pending with ready | ⟨other, member, isTick⟩
  · exact Or.inl ready
  · obtain ⟨-, -, before, after, entries, remaining, -⟩ :=
      ProducerQueue.dequeue_split taken
    rw [entries] at member
    refine Or.inr ⟨other, ?_, isTick⟩
    change other ∈ cApiQueue.entries
    rw [remaining]
    rcases List.mem_append.mp member with earlier | later
    · exact List.mem_append_left _ earlier
    · rcases List.mem_cons.mp later with rfl | behind
      · exact absurd isTick notTick
      · exact List.mem_append_right _ behind

theorem deadlines_perform
    (deadlines : ∀ mode deadline,
      state.gameState.data.modes.modeExpiryDeadlines.lookup mode =
        some deadline → state.lastDeadlines mode = some deadline)
    (job : ApiJob) (env : GameEnvironment) (now : env.steadyNow = state.now)
    {mode : String} {deadline : SteadyTime}
    (isDeadline : (dispatchApiJob env state.gameState
      job).1.data.modes.modeExpiryDeadlines.lookup mode = some deadline) :
    state.deadlinesAfter job mode = some deadline := by
  by_cases adds : ∃ added durationSeconds,
      job = .addModeExpiring added durationSeconds
  · obtain ⟨added, durationSeconds, rfl⟩ := adds
    change (state.gameState.addModeExpiring env added
      durationSeconds).1.data.modes.modeExpiryDeadlines.lookup mode = _
        at isDeadline
    unfold GameStateImpl.addModeExpiring at isDeadline
    dsimp only [deadlinesAfter]
    split at isDeadline
    · rename_i inactive
      rw [if_pos inactive]
      exact deadlines mode deadline isDeadline
    · rename_i active
      rw [if_neg active]
      change (state.gameState.data.modes.modeExpiryDeadlines.insert added
        (env.steadyNow + _)).lookup mode = _ at isDeadline
      by_cases same : mode = added
      · rw [same, AList.lookup_insert] at isDeadline
        rw [same, Function.update_self, ← now]
        exact isDeadline
      · rw [AList.lookup_insert_ne same] at isDeadline
        rw [Function.update_of_ne same]
        exact deadlines mode deadline isDeadline
  · have other : ∀ added durationSeconds,
        job ≠ .addModeExpiring added durationSeconds :=
      fun added durationSeconds same => adds ⟨added, durationSeconds, same⟩
    have before := (GameStateImpl.setsNoDeadline_dispatchApiJob other).lookup
      mode deadline isDeadline
    have same : state.deadlinesAfter job = state.lastDeadlines := by
      unfold deadlinesAfter
      split
      · exact absurd rfl (other _ _)
      · rfl
    rw [same]
    exact deadlines mode deadline before

theorem Sound.dispatch (sound : Sound state) {producer : ApiThread}
    {status : AuthStatus} {systemNow : Int} {untilDelay untilStart : Nat}
    (taken : state.step
      (.dispatch producer status systemNow untilDelay untilStart) = some next) :
    Sound next := by
  obtain ⟨⟨entry, cApiQueue⟩, isTaken, rfl⟩ := Option.map_eq_some_iff.mp taken
  have ordered : state.now + untilDelay ≤ state.now + untilDelay + untilStart :=
    Int.le_add_of_nonneg_right (Int.natCast_nonneg untilStart)
  refine ⟨(GameStateImpl.poster_dispatchApiJob entry.item).trans sound.poster,
    fun mode deadline isDeadline => ?_, ?_⟩
  · exact @deadlines_perform { state with cApiQueue } sound.deadlines
      entry.item _ rfl _ _ isDeadline
  by_cases isTick : entry.item = .tickModeExpiries
  · apply scheduled_of_restarts rfl ordered
    rw [isTick]
    exact GameStateImpl.restarts_tickModeExpiries sound.poster
  cases GameStateImpl.reschedules_dispatchApiJob sound.poster entry.item with
  | restarted restarts => exact scheduled_of_restarts rfl ordered restarts
  | kept isGameActive deadlines untouched =>
      refine sound.scheduled.weaken isGameActive deadlines ?_
        (fun pending => ?_) (Or.inr ?_)
      · have waited := Int.natCast_nonneg untilDelay
        exact Int.le_trans (Int.le_add_of_nonneg_right waited) ordered
      · rcases tickPending_dequeue isTaken isTick pending with ready | queued
        · exact Or.inl ((schedule_ready _ _ _).symm ▸ ready)
        · exact Or.inr queued
      · exact congrArg SteadyTimer.wait (untouched _ _)

theorem Sound.step (sound : Sound state)
    (taken : state.step action = some next) : Sound next := by
  cases action with
  | wait duration =>
      obtain rfl := Option.some.inj taken
      refine sound.keeps (.refl _) rfl ?_
      exact sound.scheduled.weaken rfl rfl
        (Int.le_add_of_nonneg_right (Int.natCast_nonneg duration)) id
        (Or.inr rfl)
  | postApiJob thread job =>
      obtain rfl := Option.some.inj taken
      refine sound.keeps (.refl _) rfl ?_
      refine sound.scheduled.weaken rfl rfl (Int.le_refl _) ?_ (Or.inr rfl)
      rintro (ready | ⟨entry, member, isTick⟩)
      · exact Or.inl ready
      · exact Or.inr ⟨entry, List.mem_append_left _ member, isTick⟩
  | timerExpires =>
      obtain ⟨timer, expired, rfl⟩ := Option.map_eq_some_iff.mp taken
      obtain ⟨expiry, start, -, -, rfl⟩ := SteadyTimer.eq_of_expire expired
      have ready : state.timer.ready ++ [start] ≠ [] := by simp
      refine sound.keeps (.refl _) rfl ?_
      exact sound.scheduled.weaken rfl rfl (Int.le_refl _)
        (fun _ => Or.inl ready) (Or.inl (Or.inl ready))
  | runHandler index worker =>
      obtain ⟨⟨start, timer⟩, -, rfl⟩ := Option.map_eq_some_iff.mp taken
      refine sound.keeps (.refl _) rfl ?_
      have pending : ∃ entry ∈ (state.cApiQueue.enqueue (.worker worker)
          .tickModeExpiries).entries, entry.item = .tickModeExpiries :=
        ⟨_, List.mem_append_right _ (List.mem_singleton.mpr rfl), rfl⟩
      exact sound.scheduled.weaken rfl rfl (Int.le_refl _)
        (fun _ => Or.inr pending) (Or.inl (Or.inr pending))
  | dispatch producer status systemNow untilDelay untilStart =>
      exact sound.dispatch taken
  | sessionCreated status systemNow =>
      obtain rfl := Option.some.inj taken
      have keeps := state.gameState.keepsModes_submitGameData
        { status, systemNow } true
      refine sound.keeps keeps rfl ?_
      exact sound.scheduled.weaken keeps.isGameActive
        (congrArg _ keeps.modes) (Int.le_refl _) id (Or.inr rfl)

theorem Sound.removesOnlyExpired (sound : Sound state) :
    state.RemovesOnlyExpired := by
  intro entry producer status systemNow untilDelay untilStart next isFront
    isTick taken mode member removed
  obtain ⟨⟨other, cApiQueue⟩, isTaken, rfl⟩ := Option.map_eq_some_iff.mp taken
  obtain ⟨found, isOther, same⟩ := Option.map_eq_some_iff.mp isTaken
  obtain ⟨rfl, -⟩ := Prod.mk.inj same
  obtain rfl := Option.some.inj (isFront.symm.trans isOther)
  change mode ∉ (dispatchApiJob _ state.gameState entry.item).1.data.modes.modes
    at removed
  rw [isTick] at removed
  change mode ∉ (state.gameState.tickModeExpiries _).1.data.modes.modes at removed
  unfold GameStateImpl.tickModeExpiries at removed
  split at removed
  · exact absurd member removed
  · obtain ⟨deadline, isDeadline, passed⟩ :=
      Modes.lookup_of_not_mem_tickExpiries member removed
    exact ⟨deadline, sound.deadlines mode deadline isDeadline, passed⟩

/-! ## Runs -/

/-- In every reachable state the expiry of the modes is scheduled, and a tick
removes only what has expired. -/
theorem expirySchedule_kept {actions : List ModeExpiryAction}
    {final : ModeExpirySchedule}
    (reached : Transition.run step {} actions = some final) :
    final.Scheduled ∧ final.RemovesOnlyExpired := by
  have sound : Sound final := Transition.run_invariant
    (fun _ _ _ sound taken => Sound.step sound taken) reached sound_initial
  exact ⟨sound.scheduled, sound.removesOnlyExpired⟩

namespace Sample

/-- A job that is posted and dispatched at once. -/
def job (job : ApiJob) (untilStart : Nat) : List ModeExpiryAction :=
  [.postApiJob 0 job,
    .dispatch (.application 0) .authenticatedPaired 0 0 untilStart]

def actions : List ModeExpiryAction :=
  job (.setGameStarted .startButton) 0 ++ job (.addModeExpiring "A" 3) 0

/-- The first deadline has passed when a second mode is added, and the timer
has not expired yet. -/
def overdue : List ModeExpiryAction :=
  actions ++ [.wait 4000000000] ++ job (.addModeExpiring "B" 10) 0

/-- The clock goes on before the timer is started. -/
def startedLater : List ModeExpiryAction :=
  job (.setGameStarted .startButton) 0 ++ job (.addModeExpiring "A" 3) 1

/-- The timer expires, and the tick waits behind a job that adds the mode
anew. -/
def renewed : List ModeExpiryAction :=
  actions ++ [.wait 3000000000, .timerExpires,
    .postApiJob 0 (.addModeExpiring "A" 3), .runHandler 0 1,
    .dispatch (.application 0) .authenticatedPaired 0 0 0,
    .dispatch (.worker 1) .authenticatedPaired 0 0 0]

end Sample

theorem expirySchedule_renewed :
    ∃ final, Transition.run step {} Sample.renewed = some final ∧
      final.gameState.data.modes.modes = ["A"] ∧
      final.Scheduled ∧ final.RemovesOnlyExpired := by
  have evaluated : ((Transition.run step {} Sample.renewed).any fun final =>
      final.gameState.data.modes.modes = ["A"]) = true := by
    decide +kernel
  obtain ⟨final, reached, modes⟩ := (Option.any_eq_true _ _).mp evaluated
  exact ⟨final, reached, of_decide_eq_true modes, expirySchedule_kept reached⟩

theorem not_onTime {state : ModeExpirySchedule} {mode : String}
    {deadline expiry : SteadyTime} {start : ModeExpiryStart}
    (late : (state.gameState.data.isGameActive &&
      decide (state.gameState.data.modes.modeExpiryDeadlines.lookup mode =
        some deadline) &&
      decide (state.timer.wait = some (expiry, start)) &&
      state.timer.ready.isEmpty && state.cApiQueue.entries.isEmpty) = true)
    (after : deadline < expiry) : ¬ state.OnTime := by
  simp only [Bool.and_eq_true, decide_eq_true_eq, List.isEmpty_iff] at late
  obtain ⟨⟨⟨⟨active, isDeadline⟩, isWait⟩, noneReady⟩, noneQueued⟩ := late
  intro onTime
  rcases onTime active mode deadline isDeadline with
    (ready | ⟨entry, member, -⟩) | ⟨other, otherStart, isOther, before⟩
  · exact ready noneReady
  · rw [noneQueued] at member
    exact nomatch member
  · obtain ⟨rfl, -⟩ := Prod.mk.inj (Option.some.inj (isWait.symm.trans isOther))
    exact absurd before (Int.not_le_of_gt after)

/-- The timer is started for a time after the soonest deadline. -/
theorem notOnTime_overdue_startedLater :
    (∃ final, Transition.run step {} Sample.overdue = some final ∧
      ¬ final.OnTime) ∧
    ∃ final, Transition.run step {} Sample.startedLater = some final ∧
      ¬ final.OnTime := by
  constructor
  · have evaluated : ((Transition.run step {} Sample.overdue).any fun final =>
        final.gameState.data.isGameActive &&
        decide (final.gameState.data.modes.modeExpiryDeadlines.lookup "A" =
          some 3000000000) &&
        decide (final.timer.wait =
          some (4000000000, ⟨4000000000, 4000000000⟩)) &&
        final.timer.ready.isEmpty && final.cApiQueue.entries.isEmpty) =
          true := by
      decide +kernel
    obtain ⟨final, reached, late⟩ := (Option.any_eq_true _ _).mp evaluated
    exact ⟨final, reached, not_onTime late (by decide)⟩
  · have evaluated : ((Transition.run step {} Sample.startedLater).any
        fun final => final.gameState.data.isGameActive &&
        decide (final.gameState.data.modes.modeExpiryDeadlines.lookup "A" =
          some 3000000000) &&
        decide (final.timer.wait = some (3000000001, ⟨0, 1⟩)) &&
        final.timer.ready.isEmpty && final.cApiQueue.entries.isEmpty) =
          true := by
      decide +kernel
    obtain ⟨final, reached, late⟩ := (Option.any_eq_true _ _).mp evaluated
    exact ⟨final, reached, not_onTime late (by decide)⟩

end ModeExpirySchedule

end ScorbitSdk
