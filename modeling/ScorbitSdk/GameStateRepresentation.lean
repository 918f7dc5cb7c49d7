import ScorbitSdk.GameStateRuns

/-!
# Representation of the game state

A game in progress has a ball, an active player among its players, the first
player, and the id of the last session; between games the data is that of
`GameData{}`.  Each operation keeps this, and within a game the players only
join.
-/

namespace ScorbitSdk

/-- The data of a game in progress. -/
structure GameData.InGame (data : GameData) (sessionId : Nat) : Prop where
  ball : 1 ≤ data.ball ∧ data.ball ≤ 9
  activePlayer : data.activePlayer ∈ data.players
  firstPlayer : 1 ∈ data.players
  players : ∀ player state, data.players.lookup player = some state →
    (1 ≤ player ∧ player ≤ 9) ∧ state.player = player
  id : data.id = sessionId
  created : 1 ≤ data.id

/-- The data between two games. -/
structure GameData.NoGame (data : GameData) : Prop where
  ball : data.ball = ({} : GameData).ball
  activePlayer : data.activePlayer = ({} : GameData).activePlayer
  players : data.players = ({} : GameData).players
  modes : data.modes = ({} : GameData).modes
  id : data.id = ({} : GameData).id

theorem GameData.noGame_initially : GameData.NoGame {} :=
  ⟨rfl, rfl, rfl, rfl, rfl⟩

namespace GameStateImpl

theorem isBallValid_iff {ball : Nat} :
    isBallValid ball = true ↔ 1 ≤ ball ∧ ball ≤ 9 := by
  simp [isBallValid]

structure Represented (state : GameStateImpl) : Prop where
  active : state.data.isGameActive = true → state.data.InGame state.sessionId
  inactive : state.data.isGameActive = false → state.data.NoGame

theorem represented_initially : Represented {} where
  active := fun impossible => by cases impossible
  inactive := fun _ => GameData.noGame_initially

/-- The game of `before` is still that of `after`: its id stays and nobody
leaves. -/
structure SameGame (before after : GameStateImpl) : Prop where
  id : after.data.id = before.data.id
  players : ∀ player ∈ before.data.players, player ∈ after.data.players

theorem SameGame.refl (state : GameStateImpl) : SameGame state state :=
  ⟨rfl, fun _ present => present⟩

theorem SameGame.trans {first second third : GameStateImpl}
    (earlier : SameGame first second) (later : SameGame second third) :
    SameGame first third where
  id := later.id.trans earlier.id
  players player present := later.players player (earlier.players player present)

/-- What every operation does to the representation. -/
structure Keeps (before after : GameStateImpl) : Prop where
  represented : before.Represented → after.Represented
  sameGame : before.data.isGameActive = true →
    after.data.isGameActive = true → SameGame before after

theorem Keeps.refl (state : GameStateImpl) : Keeps state state :=
  ⟨fun represented => represented, fun _ _ => .refl state⟩

/-- An operation within a game. -/
theorem Keeps.inGame {before after : GameStateImpl}
    (isActive : before.data.isGameActive = true)
    (goesOn : after.data.isGameActive = true)
    (kept : before.data.InGame before.sessionId →
      after.data.InGame after.sessionId)
    (sameGame : SameGame before after) : Keeps before after where
  represented represented := {
    active := fun _ => kept (represented.active isActive)
    inactive := fun isOver => by rw [goesOn] at isOver; cases isOver }
  sameGame _ _ := sameGame

section Players

variable {self : GameStateImpl} {player : Nat}

theorem mem_addNewPlayer :
    player ∈ (self.addNewPlayer player).data.players := by
  unfold addNewPlayer
  split
  · assumption
  · exact Finmap.mem_insert.mpr (Or.inl rfl)

theorem addNewPlayer_sameGame : SameGame self (self.addNewPlayer player) := by
  unfold addNewPlayer
  split
  · exact .refl self
  · exact ⟨rfl, fun _ present => Finmap.mem_insert.mpr (Or.inr present)⟩

theorem addNewPlayer_inGame (inRange : isPlayerValid player = true)
    (inGame : self.data.InGame self.sessionId) :
    (self.addNewPlayer player).data.InGame
      (self.addNewPlayer player).sessionId := by
  unfold addNewPlayer
  split
  · exact inGame
  · exact { inGame with
      activePlayer := Finmap.mem_insert.mpr (Or.inr inGame.activePlayer)
      firstPlayer := Finmap.mem_insert.mpr (Or.inr inGame.firstPlayer)
      players := by
        intro other state present
        rcases Finmap.lookup_insert_cases present with ⟨rfl, rfl⟩ | ⟨-, old⟩
        · exact ⟨isPlayerValid_iff.mp inRange, rfl⟩
        · exact inGame.players other state old }

end Players

theorem setCurrentBall_keeps (self : GameStateImpl) (ball : Nat) :
    Keeps self (self.setCurrentBall ball) := by
  unfold setCurrentBall
  split
  · exact .refl self
  rename_i active
  split
  · exact .refl self
  rename_i inRange
  have isActive : self.data.isGameActive = true := by simpa using active
  have ballValid : 1 ≤ ball ∧ ball ≤ 9 :=
    isBallValid_iff.mp (by simpa using inRange)
  exact .inGame isActive isActive
    (fun inGame => { inGame with ball := ballValid }) ⟨rfl, fun _ present => present⟩

theorem setActivePlayer_keeps (self : GameStateImpl) (player : Nat) :
    Keeps self (self.setActivePlayer player) := by
  unfold setActivePlayer
  split
  · exact .refl self
  rename_i active
  split
  · exact .refl self
  rename_i inRange
  have isActive : self.data.isGameActive = true := by simpa using active
  have playerValid : isPlayerValid player = true := by simpa using inRange
  have goesOn : (self.addNewPlayer player).data.isGameActive = true :=
    (addNewPlayer_quiet playerValid).isGameActive.trans isActive
  have sameGame : SameGame self (self.addNewPlayer player) :=
    addNewPlayer_sameGame
  refine .inGame isActive goesOn (fun inGame => ?_) ⟨sameGame.id, sameGame.players⟩
  have added := addNewPlayer_inGame playerValid inGame
  exact { added with activePlayer := mem_addNewPlayer }

theorem setScore_keeps (self : GameStateImpl) (player : Nat)
    (score feature : Int) : Keeps self (self.setScore player score feature) := by
  unfold setScore
  split
  · exact .refl self
  rename_i active
  split
  · exact .refl self
  rename_i inRange
  have isActive : self.data.isGameActive = true := by simpa using active
  have playerValid : isPlayerValid player = true := by simpa using inRange
  have goesOn : (self.addNewPlayer player).data.isGameActive = true :=
    (addNewPlayer_quiet playerValid).isGameActive.trans isActive
  have sameGame : SameGame self (self.addNewPlayer player) :=
    addNewPlayer_sameGame
  dsimp only
  split
  · exact .inGame isActive goesOn (addNewPlayer_inGame playerValid) sameGame
  · rename_i state present
    refine .inGame isActive goesOn (fun inGame => ?_)
      ⟨sameGame.id, fun other there =>
        Finmap.mem_insert.mpr (Or.inr (sameGame.players other there))⟩
    have added := addNewPlayer_inGame playerValid inGame
    exact { added with
      activePlayer := Finmap.mem_insert.mpr (Or.inr added.activePlayer)
      firstPlayer := Finmap.mem_insert.mpr (Or.inr added.firstPlayer)
      players := by
        intro other changed isChanged
        rcases Finmap.lookup_insert_cases isChanged with ⟨rfl, rfl⟩ | ⟨-, old⟩
        · obtain ⟨range, own⟩ := added.players other state present
          exact ⟨range, own⟩
        · exact added.players other changed old }

/-- Within a game the modes may change at will. -/
theorem modes_keeps {self : GameStateImpl}
    (isActive : self.data.isGameActive = true) (modes : Modes) :
    Keeps self { self with data.modes := modes } :=
  .inGame isActive isActive (fun inGame => { inGame with })
    ⟨rfl, fun _ present => present⟩

/-- Between two games there are no expiries to be cleared. -/
theorem clearModeExpirySchedule_keeps {self : GameStateImpl}
    (isInactive : self.data.isGameActive = false) :
    Keeps self self.clearModeExpirySchedule.1 where
  represented represented := {
    active := fun active => by
      change self.data.isGameActive = true at active
      rw [isInactive] at active
      cases active
    inactive := fun _ => by
      have noGame := represented.inactive isInactive
      exact { noGame with
        modes := by
          change self.data.modes.clearExpiries = _
          rw [noGame.modes]
          rfl } }
  sameGame active := by
    rw [isInactive] at active
    cases active

/-- The game that `setGameStarted` starts. -/
def startedData (sessionId : Nat) (timestamp : Int) : GameData where
  id := sessionId
  isGameActive := true
  ball := 1
  activePlayer := 1
  players := (∅ : Players).insert 1 { player := 1, score := 0 }
  timestamp := timestamp

theorem startedData_inGame (sessionId : Nat) (timestamp : Int) :
    (startedData (sessionId + 1) timestamp).InGame (sessionId + 1) where
  ball := ⟨Nat.le_refl 1, Nat.le_add_left 1 8⟩
  activePlayer := Finmap.mem_insert.mpr (Or.inl rfl)
  firstPlayer := Finmap.mem_insert.mpr (Or.inl rfl)
  players := by
    intro player state present
    rcases Finmap.lookup_insert_cases present with ⟨rfl, rfl⟩ | ⟨-, old⟩
    · exact ⟨by decide, rfl⟩
    · simp at old
  id := rfl
  created := Nat.le_add_left 1 sessionId

/-- A start is refused, or the old game is forgotten and a new one begins. -/
theorem setGameStarted_eq (self : GameStateImpl) (env : GameEnvironment)
    (origin : GameStartOrigin) :
    self.setGameStarted env origin = (self, []) ∨
      (self.data.isGameActive = false ∧ env.status ≠ .authenticationFailed ∧
        self.setGameStarted env origin =
          ({ self with
              prevData := {}
              sessionId := self.sessionId + 1
              data := startedData (self.sessionId + 1) env.systemNow },
            [.cancelModeExpiryTimer, .sessionCreate
              (startedData (self.sessionId + 1) env.systemNow) origin])) := by
  unfold setGameStarted startGame
  split
  · exact Or.inl rfl
  rename_i inactive
  split
  · exact Or.inl rfl
  · rename_i allowed
    exact Or.inr ⟨by simpa using inactive, allowed, rfl⟩

theorem setGameStarted_keeps (self : GameStateImpl) (env : GameEnvironment)
    (origin : GameStartOrigin) :
    Keeps self (self.setGameStarted env origin).1 := by
  rcases setGameStarted_eq self env origin with refused | ⟨inactive, -, started⟩
  · rw [refused]
    exact .refl self
  · rw [started]
    exact {
      represented := fun _ => {
        active := fun _ => startedData_inGame _ _
        inactive := fun impossible => by cases impossible }
      sameGame := fun active => by
        rw [inactive] at active
        cases active }

theorem submitGameData_keeps (self : GameStateImpl) (env : GameEnvironment)
    (forceSending : Bool) :
    Keeps self (self.submitGameData env forceSending).1 := by
  rcases submitGameData_cases self env forceSending with
    nothing | ⟨-, data, rfl, submitted⟩
  · rw [nothing]
    exact .refl self
  · rw [submitted]
    exact {
      represented := fun represented => {
        active := fun active => { represented.active active with }
        inactive := fun inactive => { represented.inactive inactive with } }
      sameGame := fun _ _ => ⟨rfl, fun _ present => present⟩ }

theorem setGameFinished_keeps (self : GameStateImpl) (env : GameEnvironment) :
    Keeps self (self.setGameFinished env).1 := by
  unfold setGameFinished
  split
  · exact .refl self
  · exact {
      represented := fun _ => {
        active := fun impossible => by cases impossible
        inactive := fun _ => GameData.noGame_initially }
      sameGame := fun _ impossible => by cases impossible }

/-- Every operation keeps the representation. -/
theorem apply_keeps (env : GameEnvironment) (self : GameStateImpl)
    (op : GameStateOp) : Keeps self (op.apply env self).1 := by
  have changes : ∀ modes : Modes, ¬ (!self.data.isGameActive) = true →
      Keeps self { self with data.modes := modes } :=
    fun modes active => modes_keeps (by simpa using active) modes
  cases op with
  | setModeExpiryPoster =>
      exact {
        represented := fun represented =>
          ⟨represented.active, represented.inactive⟩
        sameGame := fun _ _ => ⟨rfl, fun _ present => present⟩ }
  | setGameStarted origin => exact setGameStarted_keeps self env origin
  | setGameFinished => exact setGameFinished_keeps self env
  | setCurrentBall ball => exact setCurrentBall_keeps self ball
  | setActivePlayer player => exact setActivePlayer_keeps self player
  | setScore player score feature =>
      exact setScore_keeps self player score feature
  | addMode mode =>
      simp only [GameStateOp.apply, addMode]
      split
      · exact .refl self
      · exact changes _ ‹_›
  | addModeExpiring mode durationSeconds =>
      simp only [GameStateOp.apply, addModeExpiring]
      split
      · exact .refl self
      · exact changes _ ‹_›
  | tickModeExpiries =>
      simp only [GameStateOp.apply, tickModeExpiries]
      split
      · exact clearModeExpirySchedule_keeps
          (by simpa using ‹(!self.data.isGameActive) = true›)
      · exact changes _ ‹_›
  | removeMode mode =>
      simp only [GameStateOp.apply, removeMode]
      split
      · exact .refl self
      · exact changes _ ‹_›
  | clearModes =>
      simp only [GameStateOp.apply, clearModes]
      split
      · exact .refl self
      · exact changes _ ‹_›
  | commit =>
      simp only [GameStateOp.apply, commit]
      split
      · exact submitGameData_keeps self env false
      · exact .refl self

end GameStateImpl

theorem GameStateEvent.perform_keeps (impl : GameStateImpl)
    (event : GameStateEvent) :
    GameStateImpl.Keeps impl (event.perform impl).1 := by
  cases event with
  | operation env op => exact GameStateImpl.apply_keeps env impl op
  | sessionCreated env id =>
      exact GameStateImpl.submitGameData_keeps impl env true

namespace GameStateRun

variable {state next middle final : GameStateRun} {event : GameStateEvent}
  {earlier later : List GameStateEvent}

theorem step_keeps (taken : state.step event = some next) :
    GameStateImpl.Keeps state.impl next.impl := by
  obtain ⟨awaiting, rfl⟩ := step_record taken
  exact event.perform_keeps state.impl

theorem run_represented (reached : Transition.run step {} earlier = some final) :
    final.impl.Represented := by
  have preserved : ∀ (state : GameStateRun) event next,
      state.impl.Represented → state.step event = some next →
        next.impl.Represented :=
    fun _ _ _ represented taken => (step_keeps taken).represented represented
  exact Transition.run_invariant preserved reached
    GameStateImpl.represented_initially

/-- As long as the game goes on, its id stays and nobody leaves. -/
theorem run_sameGame (goesOn : Transition.HoldsAlong step
      (fun state _ => state.impl.data.isGameActive = true) middle later)
    (reached : Transition.run step middle later = some final)
    (isActive : final.impl.data.isGameActive = true) :
    GameStateImpl.SameGame middle.impl final.impl := by
  have preserved : ∀ (state : GameStateRun) event next,
      (state.impl.data.isGameActive = true →
        GameStateImpl.SameGame middle.impl state.impl) →
      state.impl.data.isGameActive = true → state.step event = some next →
        next.impl.data.isGameActive = true →
          GameStateImpl.SameGame middle.impl next.impl :=
    fun _ _ _ same active taken nextActive =>
      (same active).trans ((step_keeps taken).sameGame active nextActive)
  exact Transition.run_preserves preserved reached goesOn (fun _ => .refl _)
    isActive

/-- Every run keeps the representation, and each game its id and its
players. -/
theorem representationKept
    (toMiddle : Transition.run step {} earlier = some middle)
    (toFinal : Transition.run step middle later = some final) :
    final.impl.Represented ∧
      (Transition.HoldsAlong step
          (fun state _ => state.impl.data.isGameActive = true) middle later →
        final.impl.data.isGameActive = true →
          final.impl.data.id = middle.impl.data.id ∧
            ∀ player ∈ middle.impl.data.players,
              player ∈ final.impl.data.players) := by
  constructor
  · exact run_represented (Transition.run_append.mpr ⟨middle, toMiddle, toFinal⟩)
  · intro goesOn isActive
    have same := run_sameGame goesOn toFinal isActive
    exact ⟨same.id, same.players⟩

theorem representationKept_secondPlayer :
    ∃ middle final,
      Transition.run step {} [.operation {} (.setGameStarted .startButton)] =
        some middle ∧
      Transition.run step middle [.operation {} (.setActivePlayer 2),
        .sessionCreated {} 1] = some final ∧
      final.impl.Represented ∧ final.impl.data.id = middle.impl.data.id ∧
      ∀ player ∈ middle.impl.data.players,
        player ∈ final.impl.data.players := by
  obtain ⟨middle, toMiddle⟩ : ∃ middle, Transition.run step {}
      [.operation {} (.setGameStarted .startButton)] = some middle := ⟨_, rfl⟩
  have evaluated : ((Transition.run step {}
      [.operation {} (.setGameStarted .startButton)]).all fun middle =>
        (Transition.run step middle [.operation {} (.setActivePlayer 2),
          .sessionCreated {} 1]).any (·.impl.data.isGameActive) &&
        Transition.checksAlong step (fun state _ => state.impl.data.isGameActive)
          middle [.operation {} (.setActivePlayer 2), .sessionCreated {} 1]) =
      true := by
    decide +kernel
  rw [toMiddle, Option.all_some, Bool.and_eq_true] at evaluated
  obtain ⟨final, toFinal, isActive⟩ := (Option.any_eq_true _ _).mp evaluated.1
  obtain ⟨represented, sameGame⟩ := representationKept toMiddle toFinal
  exact ⟨middle, final, toMiddle, toFinal, represented,
    sameGame (.of_checksAlong (fun _ _ active => active) evaluated.2) isActive⟩

end GameStateRun

end ScorbitSdk
