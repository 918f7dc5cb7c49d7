import ScorbitSdk.GameStateImpl
import ScorbitSdk.TransitionRuns

/-!
# Runs of the game state machine

A run interleaves the operations of `GameStateImpl`, each in an environment of
its own, with the callbacks that `startGame` leaves with `Net::sessionCreate`.
A callback arrives at any later time and in any order, and every game started
has at most one.  The run keeps the calls made on `Net` so far.
-/

namespace ScorbitSdk

namespace NetCall

def created? : NetCall → Option Nat
  | sessionCreate data _ => some data.id
  | _ => none

def submitted? : NetCall → Option GameData
  | submitGameData data _ => some data
  | _ => none

/-- The history row that a call hands over. -/
def row? : NetCall → Option GameData
  | sessionCreate data _ => some data
  | submitGameData data _ => some data
  | _ => none

end NetCall

structure GameStateRun where
  impl : GameStateImpl := {}
  /-- The games whose created-callback has not arrived. -/
  awaiting : List Nat := []
  calls : List NetCall := []

inductive GameStateEvent
  | operation (env : GameEnvironment) (op : GameStateOp)
  | sessionCreated (env : GameEnvironment) (id : Nat)

/-- What an event does to the state machine, and the calls it makes. -/
def GameStateEvent.perform (impl : GameStateImpl) :
    GameStateEvent → GameStateImpl × List NetCall
  | operation env op => op.apply env impl
  | sessionCreated env _ => impl.onCreated env

namespace GameStateRun

/-- The sessions given to `Net::sessionCreate` so far. -/
def created (self : GameStateRun) : List Nat :=
  self.calls.filterMap NetCall.created?

/-- The history rows handed to `Net` so far. -/
def rows (self : GameStateRun) : List GameData :=
  self.calls.filterMap NetCall.row?

def record (self : GameStateRun) (result : GameStateImpl × List NetCall) :
    GameStateRun where
  impl := result.1
  awaiting := self.awaiting ++ result.2.filterMap NetCall.created?
  calls := self.calls ++ result.2

def step (self : GameStateRun) (event : GameStateEvent) :
    Option GameStateRun :=
  match event with
  | .operation _ _ => some (self.record (event.perform self.impl))
  | .sessionCreated _ id =>
      if id ∈ self.awaiting then
        some ({ self with awaiting := self.awaiting.erase id }.record
          (event.perform self.impl))
      else none

theorem record_created (self : GameStateRun)
    (result : GameStateImpl × List NetCall) :
    (self.record result).created =
      self.created ++ result.2.filterMap NetCall.created? :=
  List.filterMap_append

theorem record_rows (self : GameStateRun)
    (result : GameStateImpl × List NetCall) :
    (self.record result).rows =
      self.rows ++ result.2.filterMap NetCall.row? :=
  List.filterMap_append

/-- Every step records the outcome of its event. -/
theorem step_record {self next : GameStateRun} {event : GameStateEvent}
    (taken : self.step event = some next) :
    ∃ awaiting, next =
      { self with awaiting := awaiting }.record (event.perform self.impl) := by
  cases event with
  | operation env op =>
      simp only [step, Option.some.injEq] at taken
      exact ⟨self.awaiting, taken.symm⟩
  | sessionCreated env id =>
      simp only [step, Option.ite_none_right_eq_some, Option.some.injEq]
        at taken
      exact ⟨self.awaiting.erase id, taken.2.symm⟩

end GameStateRun

/-- Only players one to nine take part. -/
def GameData.PlayersValid (data : GameData) : Prop :=
  ∀ player ∈ data.players, 1 ≤ player ∧ player ≤ 9

theorem GameData.PlayersValid.insert {players : Players}
    (valid : ∀ player ∈ players, 1 ≤ player ∧ player ≤ 9) {player : Nat}
    (inRange : 1 ≤ player ∧ player ≤ 9) (state : PlayerState) :
    ∀ other ∈ players.insert player state, 1 ≤ other ∧ other ≤ 9 := by
  intro other present
  rcases Finmap.mem_insert.mp present with rfl | old
  · exact inRange
  · exact valid other old

/-- The operations that neither start a game nor hand its data over. -/
def GameStateOp.isQuiet : GameStateOp → Bool
  | setGameStarted _ => false
  | setGameFinished => false
  | commit => false
  | _ => true

namespace GameStateImpl

theorem isPlayerValid_iff {player : Nat} :
    isPlayerValid player = true ↔ 1 ≤ player ∧ player ≤ 9 := by
  simp [isPlayerValid]

/-- An update within a game: nothing is handed over and the identity of the
game stays. -/
structure QuietUpdate (before after : GameStateImpl) : Prop where
  id : after.data.id = before.data.id
  isGameActive : after.data.isGameActive = before.data.isGameActive
  sessionId : after.sessionId = before.sessionId
  prevData : after.prevData = before.prevData
  playersValid : before.data.PlayersValid → after.data.PlayersValid

theorem QuietUpdate.refl (self : GameStateImpl) : QuietUpdate self self :=
  ⟨rfl, rfl, rfl, rfl, fun valid => valid⟩

theorem QuietUpdate.trans {first second third : GameStateImpl}
    (earlier : QuietUpdate first second) (later : QuietUpdate second third) :
    QuietUpdate first third where
  id := later.id.trans earlier.id
  isGameActive := later.isGameActive.trans earlier.isGameActive
  sessionId := later.sessionId.trans earlier.sessionId
  prevData := later.prevData.trans earlier.prevData
  playersValid valid := later.playersValid (earlier.playersValid valid)

theorem addNewPlayer_quiet {self : GameStateImpl} {player : Nat}
    (inRange : isPlayerValid player = true) :
    QuietUpdate self (self.addNewPlayer player) := by
  unfold addNewPlayer
  split
  · exact QuietUpdate.refl self
  · exact ⟨rfl, rfl, rfl, rfl, fun valid =>
      GameData.PlayersValid.insert valid (isPlayerValid_iff.mp inRange) _⟩

theorem setCurrentBall_quiet (self : GameStateImpl) (ball : Nat) :
    QuietUpdate self (self.setCurrentBall ball) := by
  unfold setCurrentBall
  split
  · exact QuietUpdate.refl self
  split
  · exact QuietUpdate.refl self
  · exact ⟨rfl, rfl, rfl, rfl, fun valid => valid⟩

theorem setActivePlayer_quiet (self : GameStateImpl) (player : Nat) :
    QuietUpdate self (self.setActivePlayer player) := by
  unfold setActivePlayer
  split
  · exact QuietUpdate.refl self
  split
  · exact QuietUpdate.refl self
  · rename_i inRange
    have added : QuietUpdate self (self.addNewPlayer player) :=
      addNewPlayer_quiet (by simpa using inRange)
    exact added.trans ⟨rfl, rfl, rfl, rfl, fun valid => valid⟩

theorem setScore_quiet (self : GameStateImpl) (player : Nat)
    (score feature : Int) :
    QuietUpdate self (self.setScore player score feature) := by
  unfold setScore
  split
  · exact QuietUpdate.refl self
  split
  · exact QuietUpdate.refl self
  · rename_i inRange
    have playerValid : isPlayerValid player = true := by simpa using inRange
    have added : QuietUpdate self (self.addNewPlayer player) :=
      addNewPlayer_quiet playerValid
    simp only
    split
    · exact added
    · exact added.trans ⟨rfl, rfl, rfl, rfl, fun valid =>
        GameData.PlayersValid.insert valid (isPlayerValid_iff.mp playerValid)
          _⟩

theorem rescheduleModeExpiryTimer_row? (self : GameStateImpl)
    (env : GameEnvironment) :
    ∀ call ∈ self.rescheduleModeExpiryTimer env, call.row? = none := by
  unfold rescheduleModeExpiryTimer
  split
  · simp
  · split <;> simp [NetCall.row?]

theorem foldl_addNewPlayer_quiet (self : GameStateImpl) (players : List Nat)
    (inRange : ∀ player ∈ players, isPlayerValid player = true) :
    QuietUpdate self (players.foldl addNewPlayer self) := by
  induction players generalizing self with
  | nil => exact QuietUpdate.refl self
  | cons player players ih =>
      have added : QuietUpdate self (self.addNewPlayer player) :=
        addNewPlayer_quiet (inRange player List.mem_cons_self)
      exact added.trans (ih (self.addNewPlayer player)
        fun other member => inRange other (List.mem_cons_of_mem player member))

/-- A game that starts: its data carries a fresh id and goes to
`Net::sessionCreate`. -/
structure Starts (before after : GameStateImpl) (calls : List NetCall) :
    Prop where
  wasInactive : before.data.isGameActive = false
  isGameActive : after.data.isGameActive = true
  id : after.data.id = before.sessionId + 1
  sessionId : after.sessionId = before.sessionId + 1
  playersValid : after.data.PlayersValid
  calls : ∃ origin, calls =
    [.cancelModeExpiryTimer, .sessionCreate after.data origin]

theorem setGameStarted_cases (self : GameStateImpl) (env : GameEnvironment)
    (origin : GameStartOrigin) :
    self.setGameStarted env origin = (self, []) ∨
      Starts self (self.setGameStarted env origin).1
        (self.setGameStarted env origin).2 := by
  unfold setGameStarted startGame
  split
  · exact Or.inl rfl
  rename_i inactive
  split
  · exact Or.inl rfl
  right
  let fresh : GameStateImpl :=
    { self with
      prevData := {}
      sessionId := self.sessionId + 1
      data := { id := self.sessionId + 1, isGameActive := true } }
  have freshValid : fresh.data.PlayersValid :=
    fun player present => absurd present Finmap.notMem_empty
  have quiet : QuietUpdate fresh
      ((((List.range' 1 1).foldl addNewPlayer fresh).setCurrentBall
        1).setActivePlayer 1) := by
    have added := foldl_addNewPlayer_quiet fresh (List.range' 1 1)
      (by decide)
    exact (added.trans (setCurrentBall_quiet _ 1)).trans
      (setActivePlayer_quiet _ 1)
  exact {
    wasInactive := by simpa using inactive
    isGameActive := quiet.isGameActive
    id := quiet.id
    sessionId := quiet.sessionId
    playersValid := quiet.playersValid freshValid
    calls := ⟨origin, rfl⟩ }

/-- The other operations update the game quietly. -/
theorem apply_quiet (env : GameEnvironment) (self : GameStateImpl)
    {op : GameStateOp} (quiet : op.isQuiet = true) :
    QuietUpdate self (op.apply env self).1 ∧
      ∀ call ∈ (op.apply env self).2, call.row? = none := by
  have unchanged : ∀ modes : Modes,
      QuietUpdate self { self with data.modes := modes } :=
    fun _ => ⟨rfl, rfl, rfl, rfl, fun valid => valid⟩
  cases op with
  | setModeExpiryPoster =>
      exact ⟨⟨rfl, rfl, rfl, rfl, fun valid => valid⟩, by
        simp [GameStateOp.apply]⟩
  | setGameStarted origin => cases quiet
  | setGameFinished => cases quiet
  | setCurrentBall ball =>
      exact ⟨setCurrentBall_quiet self ball, by simp [GameStateOp.apply]⟩
  | setActivePlayer player =>
      exact ⟨setActivePlayer_quiet self player, by simp [GameStateOp.apply]⟩
  | setScore player score feature =>
      exact ⟨setScore_quiet self player score feature, by
        simp [GameStateOp.apply]⟩
  | addMode mode =>
      simp only [GameStateOp.apply, addMode]
      split
      · exact ⟨QuietUpdate.refl self, by simp⟩
      · exact ⟨unchanged _, by simp⟩
  | addModeExpiring mode durationSeconds =>
      simp only [GameStateOp.apply, addModeExpiring]
      split
      · exact ⟨QuietUpdate.refl self, by simp⟩
      · exact ⟨unchanged _, rescheduleModeExpiryTimer_row? _ env⟩
  | tickModeExpiries =>
      simp only [GameStateOp.apply, tickModeExpiries]
      split
      · exact ⟨unchanged _, by simp [clearModeExpirySchedule, NetCall.row?]⟩
      · exact ⟨unchanged _, rescheduleModeExpiryTimer_row? _ env⟩
  | removeMode mode =>
      simp only [GameStateOp.apply, removeMode]
      split
      · exact ⟨QuietUpdate.refl self, by simp⟩
      · refine ⟨unchanged _, ?_⟩
        dsimp only
        split
        · exact rescheduleModeExpiryTimer_row? _ env
        · simp
  | clearModes =>
      simp only [GameStateOp.apply, clearModes]
      split
      · exact ⟨QuietUpdate.refl self, by simp⟩
      · exact ⟨unchanged _, by simp [NetCall.row?]⟩
  | commit => cases quiet

/-- Everything an operation can do: update the game quietly, start a game,
finish it, or hand its data over. -/
theorem apply_cases (env : GameEnvironment) (self : GameStateImpl)
    (op : GameStateOp) :
    (QuietUpdate self (op.apply env self).1 ∧
        ∀ call ∈ (op.apply env self).2, call.row? = none) ∨
      Starts self (op.apply env self).1 (op.apply env self).2 ∨
      (self.data.isGameActive = true ∧
        op.apply env self = self.setGameFinished env) ∨
      (self.data.isGameActive = true ∧
        op.apply env self = self.submitGameData env false) := by
  cases op with
  | setGameStarted origin =>
      rcases setGameStarted_cases self env origin with same | starts
      · left
        simp only [GameStateOp.apply, same, List.not_mem_nil, false_implies,
          implies_true, and_true]
        exact QuietUpdate.refl self
      · exact Or.inr (Or.inl starts)
  | setGameFinished =>
      by_cases active : self.data.isGameActive = true
      · exact Or.inr (Or.inr (Or.inl ⟨active, rfl⟩))
      · left
        simp only [GameStateOp.apply, setGameFinished, active]
        exact ⟨QuietUpdate.refl self, by simp⟩
  | commit =>
      by_cases active : self.data.isGameActive = true
      · right; right; right
        simp [GameStateOp.apply, commit, active]
      · left
        simp only [GameStateOp.apply, commit, active]
        exact ⟨QuietUpdate.refl self, by simp⟩
  | _ => exact Or.inl (apply_quiet env self rfl)

/-- A submission differs from the data it is made of in the active player and
the ball only. -/
def HandsOver (data : GameData) (call : NetCall) : Prop :=
  ∃ handed flags, call = .submitGameData handed flags ∧
    handed.id = data.id ∧ handed.isGameActive = data.isGameActive ∧
    handed.players = data.players ∧ handed.modes = data.modes

theorem submissions_handOver (prev data : GameData) :
    ∀ call ∈ submissions prev data, HandsOver data call := by
  intro call member
  unfold submissions at member
  split at member
  · rename_i bonus isBonus
    have bonusEq : bonus.id = data.id ∧
        bonus.isGameActive = data.isGameActive ∧
        bonus.players = data.players ∧ bonus.modes = data.modes := by
      unfold bonusData? at isBonus
      grind
    rcases List.mem_pair.mp member with rfl | rfl
    · exact ⟨bonus, _, rfl, bonusEq⟩
    · exact ⟨data, _, rfl, rfl, rfl, rfl, rfl⟩
  · rw [List.mem_singleton] at member
    exact ⟨data, _, member, rfl, rfl, rfl, rfl⟩

theorem submissions_ne_nil (prev data : GameData) :
    submissions prev data ≠ [] := by
  unfold submissions
  split <;> simp

theorem submissions_created? (prev data : GameData) :
    (submissions prev data).filterMap NetCall.created? = [] := by
  rw [List.filterMap_eq_nil_iff]
  intro call member
  obtain ⟨_, _, rfl, -⟩ := submissions_handOver prev data call member
  rfl

/-- A submission stamps the data and hands it over, or does nothing. -/
theorem submitGameData_cases (self : GameStateImpl) (env : GameEnvironment)
    (forceSending : Bool) :
    self.submitGameData env forceSending = (self, []) ∨
      (env.status ≠ .authenticationFailed ∧
        ∃ data, data = { self.data with timestamp := env.systemNow } ∧
          self.submitGameData env forceSending =
            ({ self with data := data, prevData := data },
              submissions self.prevData data)) := by
  unfold submitGameData
  split
  · exact Or.inl rfl
  rename_i allowed
  split
  · exact Or.inr ⟨allowed, _, rfl, rfl⟩
  · exact Or.inl rfl

/-- The game that is over, before its data is handed over. -/
def ended (self : GameStateImpl) : GameStateImpl :=
  { self.clearModeExpirySchedule.1 with data.isGameActive := false }

theorem setGameFinished_active {self : GameStateImpl} (env : GameEnvironment)
    (active : self.data.isGameActive = true) :
    self.setGameFinished env =
      ({ (self.ended.submitGameData env false).1 with data := {} },
        .cancelModeExpiryTimer :: (self.ended.submitGameData env false).2) := by
  simp only [setGameFinished, active, Bool.not_true, Bool.false_eq_true,
    if_false]
  rfl

/-- Finishing hands over the data of the game that ends and forgets it. -/
theorem setGameFinished_eq {self : GameStateImpl} (env : GameEnvironment)
    (active : self.data.isGameActive = true) :
    ∃ last, last.id = self.data.id ∧ last.isGameActive = false ∧
      last.players = self.data.players ∧
      (self.setGameFinished env).1.data = {} ∧
      (self.setGameFinished env).1.sessionId = self.sessionId ∧
      ((self.setGameFinished env).2 = [.cancelModeExpiryTimer] ∨
        (self.setGameFinished env).2 =
          .cancelModeExpiryTimer :: submissions self.prevData last) := by
  rw [setGameFinished_active env active]
  rcases submitGameData_cases self.ended env false with
    same | ⟨_, data, dataEq, eq⟩
  · refine ⟨self.ended.data, rfl, rfl, rfl, ?_⟩
    rw [same]
    exact ⟨rfl, rfl, Or.inl rfl⟩
  · refine ⟨data, by rw [dataEq]; rfl, by rw [dataEq]; rfl,
      by rw [dataEq]; rfl, ?_⟩
    rw [eq]
    exact ⟨rfl, rfl, Or.inr rfl⟩

end GameStateImpl

/-- Everything an event can do to the state machine. -/
theorem GameStateEvent.perform_cases (impl : GameStateImpl)
    (event : GameStateEvent) :
    (GameStateImpl.QuietUpdate impl (event.perform impl).1 ∧
        ∀ call ∈ (event.perform impl).2, call.row? = none) ∨
      GameStateImpl.Starts impl (event.perform impl).1
        (event.perform impl).2 ∨
      ((∃ env op, event = .operation env op) ∧
        impl.data.isGameActive = true ∧
        ∃ env, event.perform impl = impl.setGameFinished env) ∨
      (((∃ env op, event = .operation env op) →
          impl.data.isGameActive = true) ∧
        ∃ data : GameData, data.id = impl.data.id ∧
          data.isGameActive = impl.data.isGameActive ∧
          data.players = impl.data.players ∧
          event.perform impl =
            ({ impl with data := data, prevData := data },
              GameStateImpl.submissions impl.prevData data)) := by
  have submitted : ∀ env force,
      (impl.submitGameData env force = (impl, []) ∨
        ∃ data : GameData, data.id = impl.data.id ∧
          data.isGameActive = impl.data.isGameActive ∧
          data.players = impl.data.players ∧
          impl.submitGameData env force =
            ({ impl with data := data, prevData := data },
              GameStateImpl.submissions impl.prevData data)) := by
    intro env force
    rcases GameStateImpl.submitGameData_cases impl env force with
      same | ⟨-, data, dataEq, eq⟩
    · exact Or.inl same
    · exact Or.inr ⟨data, by rw [dataEq], by rw [dataEq], by rw [dataEq], eq⟩
  cases event with
  | operation env op =>
      rcases GameStateImpl.apply_cases env impl op with
        quiet | starts | ⟨active, finished⟩ | ⟨active, committed⟩
      · exact Or.inl quiet
      · exact Or.inr (Or.inl starts)
      · exact Or.inr (Or.inr (Or.inl ⟨⟨env, op, rfl⟩, active, env, finished⟩))
      · rcases submitted env false with same | handed
        · left
          simp only [perform, committed, same]
          exact ⟨.refl impl, by simp⟩
        · right; right; right
          exact ⟨fun _ => active, by simpa only [perform, committed]⟩
  | sessionCreated env id =>
      rcases submitted env true with same | handed
      · left
        simp only [perform, GameStateImpl.onCreated, same]
        exact ⟨.refl impl, by simp⟩
      · right; right; right
        refine ⟨?_, handed⟩
        rintro ⟨_, _, impossible⟩
        cases impossible

namespace GameStateRun

/-- What every run keeps.  An active game is the last one given to
`Net::sessionCreate`, between games the data has no session, and a game that
has handed over its last data does not come back. -/
structure Valid (state : GameStateRun) : Prop where
  active : state.impl.data.isGameActive = true →
    state.impl.data.id ∈ state.created
  inactive : state.impl.data.isGameActive = false → state.impl.data.id = 0
  created_pos : ∀ id ∈ state.created, 1 ≤ id
  created_le : ∀ id ∈ state.created, id ≤ state.impl.sessionId
  created_nodup : state.created.Nodup
  rows_created : ∀ row ∈ state.rows, row.id = 0 ∨ row.id ∈ state.created
  finished : ∀ row ∈ state.rows, row.isGameActive = false →
    state.impl.data.isGameActive = true → row.id ≠ state.impl.data.id
  playersValid : state.impl.data.PlayersValid
  rowsValid : ∀ row ∈ state.rows, row.PlayersValid

theorem valid_initially : Valid {} where
  active := by simp
  inactive _ := rfl
  created_pos := by simp [created]
  created_le := by simp [created]
  created_nodup := List.nodup_nil
  rows_created := by simp [rows]
  finished := by simp [rows]
  playersValid := fun player present => absurd present Finmap.notMem_empty
  rowsValid := by simp [rows]

theorem created?_of_row? {calls : List NetCall}
    (noRows : ∀ call ∈ calls, call.row? = none) :
    calls.filterMap NetCall.created? = [] ∧
      calls.filterMap NetCall.row? = [] := by
  simp only [List.filterMap_eq_nil_iff]
  refine ⟨fun call member => ?_, noRows⟩
  have noRow : call.row? = none := noRows call member
  cases call <;> simp_all [NetCall.row?, NetCall.created?]

theorem submissions_rows {prev data row : GameData}
    (member : row ∈
      (GameStateImpl.submissions prev data).filterMap NetCall.row?) :
    row.id = data.id ∧ row.isGameActive = data.isGameActive ∧
      row.players = data.players := by
  obtain ⟨call, callMember, rowEq⟩ := List.mem_filterMap.mp member
  obtain ⟨handed, flags, rfl, idEq, activeEq, playersEq, -⟩ :=
    GameStateImpl.submissions_handOver prev data call callMember
  simp only [NetCall.row?, Option.some.injEq] at rowEq
  exact rowEq ▸ ⟨idEq, activeEq, playersEq⟩

/-- The rows an event hands over belong to the game in progress, or to none. -/
theorem perform_rows (impl : GameStateImpl) (event : GameStateEvent) :
    (∃ data, (event.perform impl).2.filterMap NetCall.row? = [data] ∧
        (event.perform impl).2.filterMap NetCall.created? = [data.id] ∧
        GameStateImpl.Starts impl (event.perform impl).1
          (event.perform impl).2 ∧ data = (event.perform impl).1.data) ∨
      ((event.perform impl).2.filterMap NetCall.created? = [] ∧
        (event.perform impl).1.sessionId = impl.sessionId ∧
        (impl.data.PlayersValid →
          (event.perform impl).1.data.PlayersValid) ∧
        (∀ row ∈ (event.perform impl).2.filterMap NetCall.row?,
          row.id = impl.data.id ∧ row.players = impl.data.players) ∧
        (((event.perform impl).1.data.id = impl.data.id ∧
            (event.perform impl).1.data.isGameActive =
              impl.data.isGameActive ∧
            ∀ row ∈ (event.perform impl).2.filterMap NetCall.row?,
              row.isGameActive = impl.data.isGameActive) ∨
          (impl.data.isGameActive = true ∧
            (event.perform impl).1.data = {}))) := by
  rcases event.perform_cases impl with
    ⟨quiet, noRows⟩ | starts | ⟨-, active, env, finished⟩ |
      ⟨-, data, idEq, activeEq, playersEq, submitted⟩
  · right
    obtain ⟨noCreated, noRow⟩ := created?_of_row? noRows
    rw [noCreated, noRow]
    exact ⟨rfl, quiet.sessionId, quiet.playersValid, by simp,
      Or.inl ⟨quiet.id, quiet.isGameActive, by simp⟩⟩
  · left
    obtain ⟨origin, calls⟩ := starts.calls
    refine ⟨_, ?_, ?_, starts, rfl⟩
    · rw [calls]
      rfl
    · rw [calls]
      rfl
  · right
    obtain ⟨last, idEq, activeEq, playersEq, dataEq, sessionIdEq, callsCases⟩ :=
      GameStateImpl.setGameFinished_eq env active
    rw [finished]
    have noPlayers : impl.data.PlayersValid →
        (impl.setGameFinished env).1.data.PlayersValid := by
      rw [dataEq]
      exact fun _ player present => absurd present Finmap.notMem_empty
    rcases callsCases with calls | calls
    · rw [calls]
      exact ⟨rfl, sessionIdEq, noPlayers, by simp [NetCall.row?],
        Or.inr ⟨active, dataEq⟩⟩
    · rw [calls, List.filterMap_cons_none rfl, List.filterMap_cons_none rfl,
        GameStateImpl.submissions_created?]
      refine ⟨rfl, sessionIdEq, noPlayers, fun row member => ?_,
        Or.inr ⟨active, dataEq⟩⟩
      obtain ⟨rowId, -, rowPlayers⟩ := submissions_rows member
      exact ⟨rowId.trans idEq, rowPlayers.trans playersEq⟩
  · right
    rw [submitted]
    refine ⟨GameStateImpl.submissions_created? _ _, rfl, fun valid => ?_,
      fun row member => ?_, Or.inl ⟨idEq, activeEq, fun row member => ?_⟩⟩
    · intro player present
      exact valid player (playersEq ▸ present)
    · obtain ⟨rowId, -, rowPlayers⟩ := submissions_rows member
      exact ⟨rowId.trans idEq, rowPlayers.trans playersEq⟩
    · obtain ⟨-, rowActive, -⟩ := submissions_rows member
      exact rowActive.trans activeEq

/-- A row handed over now belongs to no game that has handed over its last
data, unless it has no session. -/
theorem perform_rows_fresh {self : GameStateRun} (valid : self.Valid)
    (event : GameStateEvent) :
    ∀ row ∈ (event.perform self.impl).2.filterMap NetCall.row?,
      row.id = 0 ∨ ∀ old ∈ self.rows, old.isGameActive = false →
        old.id ≠ row.id := by
  intro row member
  rcases perform_rows self.impl event with
    ⟨data, rowsEq, -, starts, dataEq⟩ | ⟨-, -, -, rowsOwn, -⟩
  · right
    intro old oldMember _ sameId
    rw [rowsEq, List.mem_singleton, dataEq] at member
    rw [member, starts.id] at sameId
    rcases valid.rows_created old oldMember with zero | known
    · omega
    · have atMost := valid.created_le _ known
      omega
  · obtain ⟨rowId, -⟩ := rowsOwn row member
    cases active : self.impl.data.isGameActive with
    | false => exact Or.inl (rowId.trans (valid.inactive active))
    | true =>
        right
        intro old oldMember oldInactive
        rw [rowId]
        exact valid.finished old oldMember oldInactive active

/-- Whatever an event does, the invariant stays. -/
theorem record_valid {self : GameStateRun} (valid : self.Valid)
    (awaiting : List Nat) (event : GameStateEvent) :
    ({ self with awaiting := awaiting }.record
      (event.perform self.impl)).Valid := by
  let next := { self with awaiting := awaiting }.record
    (event.perform self.impl)
  change next.Valid
  have implEq : next.impl = (event.perform self.impl).1 := rfl
  have createdEq : next.created = self.created ++
      (event.perform self.impl).2.filterMap NetCall.created? :=
    record_created _ _
  have rowsEq : next.rows = self.rows ++
      (event.perform self.impl).2.filterMap NetCall.row? :=
    record_rows _ _
  rcases perform_rows self.impl event with
    ⟨data, newRows, newCreated, starts, dataEq⟩ |
      ⟨noCreated, sessionIdEq, playersValid, rowsOwn, outcome⟩
  · rw [newRows] at rowsEq
    rw [newCreated] at createdEq
    rw [← implEq] at starts dataEq
    have freshId : data.id = self.impl.sessionId + 1 := dataEq ▸ starts.id
    have fresh : data.id ∉ self.created := by
      intro known
      have atMost := valid.created_le _ known
      omega
    exact {
      active := fun _ => by simp [createdEq, ← dataEq]
      inactive := fun inactive => by
        rw [starts.isGameActive] at inactive
        cases inactive
      created_pos := by
        rw [createdEq]
        intro id member
        rcases List.mem_append.mp member with old | new
        · exact valid.created_pos id old
        · rw [List.mem_singleton.mp new]
          omega
      created_le := by
        rw [createdEq, starts.sessionId]
        intro id member
        rcases List.mem_append.mp member with old | new
        · have atMost := valid.created_le id old
          omega
        · rw [List.mem_singleton.mp new]
          omega
      created_nodup := by
        rw [createdEq, List.nodup_append]
        refine ⟨valid.created_nodup, List.nodup_singleton _, ?_⟩
        rintro old known _ new rfl
        exact fresh (List.mem_singleton.mp new ▸ known)
      rows_created := by
        rw [rowsEq, createdEq]
        intro row member
        rcases List.mem_append.mp member with old | new
        · rcases valid.rows_created row old with zero | known
          · exact Or.inl zero
          · exact Or.inr (List.mem_append_left _ known)
        · rw [List.mem_singleton.mp new]
          simp
      finished := by
        rw [rowsEq]
        intro row member inactive _
        rw [← dataEq]
        rcases List.mem_append.mp member with old | new
        · rcases valid.rows_created row old with zero | known
          · omega
          · rintro same
            exact fresh (same ▸ known)
        · rw [List.mem_singleton.mp new, dataEq, starts.isGameActive] at inactive
          cases inactive
      playersValid := starts.playersValid
      rowsValid := by
        rw [rowsEq]
        intro row member
        rcases List.mem_append.mp member with old | new
        · exact valid.rowsValid row old
        · rw [List.mem_singleton.mp new, dataEq]
          exact starts.playersValid }
  · rw [noCreated, List.append_nil] at createdEq
    rw [← implEq] at sessionIdEq playersValid outcome
    have rowsKnown : ∀ row ∈ next.rows, row.id = 0 ∨ row.id ∈ self.created := by
      rw [rowsEq]
      intro row member
      rcases List.mem_append.mp member with old | new
      · exact valid.rows_created row old
      · rw [(rowsOwn row new).1]
        cases active : self.impl.data.isGameActive with
        | false => exact Or.inl (valid.inactive active)
        | true => exact Or.inr (valid.active active)
    refine {
      active := ?_, inactive := ?_, finished := ?_
      created_pos := createdEq ▸ valid.created_pos
      created_le := createdEq ▸ sessionIdEq ▸ valid.created_le
      created_nodup := createdEq ▸ valid.created_nodup
      rows_created := createdEq ▸ rowsKnown
      playersValid := playersValid valid.playersValid
      rowsValid := ?_ }
    · rcases outcome with ⟨idEq, activeEq, -⟩ | ⟨-, dataEq⟩
      · rw [activeEq, idEq, createdEq]
        exact valid.active
      · simp [dataEq]
    · rcases outcome with ⟨idEq, activeEq, -⟩ | ⟨-, dataEq⟩
      · rw [activeEq, idEq]
        exact valid.inactive
      · simp [dataEq]
    · rcases outcome with ⟨idEq, activeEq, rowsActive⟩ | ⟨-, dataEq⟩
      · rw [rowsEq, activeEq, idEq]
        intro row member inactive active
        rcases List.mem_append.mp member with old | new
        · exact valid.finished row old inactive active
        · rw [rowsActive row new, active] at inactive
          cases inactive
      · simp [dataEq]
    · rw [rowsEq]
      intro row member
      rcases List.mem_append.mp member with old | new
      · exact valid.rowsValid row old
      · intro player present
        rw [(rowsOwn row new).2] at present
        exact valid.playersValid player present

theorem step_valid {self next : GameStateRun} {event : GameStateEvent}
    (valid : self.Valid) (taken : self.step event = some next) :
    next.Valid := by
  obtain ⟨awaiting, rfl⟩ := step_record taken
  exact record_valid valid awaiting event

/-- Every run keeps the invariant. -/
theorem run_valid {final : GameStateRun} {events : List GameStateEvent}
    (reached : Transition.run step {} events = some final) :
    final.Valid :=
  Transition.run_invariant
    (fun _ _ _ valid taken => step_valid valid taken) reached valid_initially

end GameStateRun

end ScorbitSdk
