import ScorbitSdk.GameData

/-!
# The game state machine

The operations of `GameStateImpl` on the data of the current game and on the
data it handed to the network layer last.  An operation reads the clocks and
the authentication status from its environment and returns the calls it makes
on `Net` in order.  The LED commands to the NFC probes are left out.
-/

namespace ScorbitSdk

/-- A call on `NetBase` made by the game state machine. -/
inductive NetCall
  | sessionCreate (data : GameData) (origin : GameStartOrigin)
  | submitGameData (data : GameData) (flags : SessionFlags)
  | scheduleDelayedOnWorker (delay : SteadyTime)
  | cancelModeExpiryTimer

/-- What an operation reads from outside: `Net::status` and the two clocks.  An
operation that reads the steady clock twice reads `steadyLater` then. -/
structure GameEnvironment where
  status : AuthStatus := .authenticatedPaired
  steadyNow : SteadyTime := 0
  steadyLater : SteadyTime := steadyNow
  systemNow : Int := 0

structure GameStateImpl where
  data : GameData := {}
  prevData : GameData := {}
  sessionId : Nat := 0
  /-- Whether the poster of mode-expiry ticks has been set. -/
  hasModeExpiryPoster : Bool := false

namespace GameStateImpl

def isPlayerValid (player : Nat) : Bool :=
  1 ≤ player && player ≤ 9

def isBallValid (ball : Nat) : Bool :=
  1 ≤ ball && ball ≤ 9

def addNewPlayer (self : GameStateImpl) (player : Nat) : GameStateImpl :=
  if player ∈ self.data.players then self
  else
    { self with
      data.players :=
        self.data.players.insert player { player := player, score := 0 } }

def setCurrentBall (self : GameStateImpl) (ball : Nat) : GameStateImpl :=
  if !self.data.isGameActive then self
  else if !isBallValid ball then self
  else { self with data.ball := ball }

def setActivePlayer (self : GameStateImpl) (player : Nat) : GameStateImpl :=
  if !self.data.isGameActive then self
  else if !isPlayerValid player then self
  else
    let self := self.addNewPlayer player
    { self with data.activePlayer := player }

def setScore (self : GameStateImpl) (player : Nat) (score feature : Int) :
    GameStateImpl :=
  if !self.data.isGameActive then self
  else if !isPlayerValid player then self
  else
    let self := self.addNewPlayer player
    match self.data.players.lookup player with
    | none => self
    | some state =>
        { self with
          data.players :=
            self.data.players.insert player (state.setScore score feature) }

def isChanged (self : GameStateImpl) : Bool :=
  self.data != self.prevData

/-- If the active player changed and the previous player's score also changed
due to a bonus, the data of an extra submission with the previous player as the
current player. -/
def bonusData? (prev data : GameData) : Option GameData :=
  if prev.activePlayer = data.activePlayer then none
  else if prev.activePlayer = 0 then none
  else
    match prev.players.lookup prev.activePlayer,
        data.players.lookup prev.activePlayer with
    | some prevPlayerPrevState, some prevPlayerCurrState =>
        if prevPlayerPrevState.score = prevPlayerCurrState.score then none
        else
          some { data with
            activePlayer := prev.activePlayer, ball := prev.ball }
    | _, _ => none

/-- The flags of the regular submission.  The history is not uploaded right
after game start or if a bonus score was already submitted. -/
def submissionFlags (prev data : GameData) (bonusScoreSubmitted : Bool) :
    SessionFlags :=
  let isGameJustStarted := !prev.isGameActive && data.isGameActive
  let isGameJustFinished := prev.isGameActive && !data.isGameActive
  let isActivePlayerChanged := prev.activePlayer != data.activePlayer
  let isBallChanged := prev.ball != data.ball
  let isPlayersNumberChanged :=
    prev.players.size != data.players.size
  let hasToUploadSessionLogs :=
    !bonusScoreSubmitted && !isGameJustStarted &&
      (isActivePlayerChanged || isBallChanged || isGameJustFinished)
  { uploadHistoryLogs := hasToUploadSessionLogs
    playersAdd := isPlayersNumberChanged }

/-- The submissions that hand over `data` after `prev`. -/
def submissions (prev data : GameData) : List NetCall :=
  match bonusData? prev data with
  | some bonus =>
      [.submitGameData bonus { uploadHistoryLogs := true },
        .submitGameData data (submissionFlags prev data true)]
  | none => [.submitGameData data (submissionFlags prev data false)]

def submitGameData (self : GameStateImpl) (env : GameEnvironment)
    (forceSending : Bool) : GameStateImpl × List NetCall :=
  if env.status = .authenticationFailed then (self, [])
  else if self.isChanged || forceSending then
    let data := { self.data with timestamp := env.systemNow }
    ({ self with data := data, prevData := data },
      submissions self.prevData data)
  else (self, [])

def clearModeExpirySchedule (self : GameStateImpl) :
    GameStateImpl × List NetCall :=
  ({ self with data.modes := self.data.modes.clearExpiries },
    [.cancelModeExpiryTimer])

def rescheduleModeExpiryTimer (self : GameStateImpl) (env : GameEnvironment) :
    List NetCall :=
  if !self.hasModeExpiryPoster then []
  else
    match self.data.modes.nextExpiryDelay env.steadyLater with
    | none => [.cancelModeExpiryTimer]
    | some delay => [.scheduleDelayedOnWorker delay]

/-- The first component tells whether a game was started. -/
def startGame (self : GameStateImpl) (env : GameEnvironment)
    (playersCount : Nat) (origin : GameStartOrigin) :
    Bool × GameStateImpl × List NetCall :=
  if self.data.isGameActive then (false, self, [])
  else if env.status = .authenticationFailed then (false, self, [])
  else
    let (self, timerCalls) := self.clearModeExpirySchedule
    let self := { self with prevData := {}, data := {} }
    let sessionId := self.sessionId + 1
    let self :=
      { self with
        sessionId := sessionId
        data.id := sessionId
        data.isGameActive := true }
    let self := (List.range' 1 playersCount).foldl addNewPlayer self
    let self := self.setCurrentBall 1
    let self := self.setActivePlayer 1
    let self := { self with data.timestamp := env.systemNow }
    (true, self, timerCalls ++ [.sessionCreate self.data origin])

def setGameStarted (self : GameStateImpl) (env : GameEnvironment)
    (origin : GameStartOrigin) : GameStateImpl × List NetCall :=
  (self.startGame env 1 origin).2

def setGameFinished (self : GameStateImpl) (env : GameEnvironment) :
    GameStateImpl × List NetCall :=
  if !self.data.isGameActive then (self, [])
  else
    let (self, timerCalls) := self.clearModeExpirySchedule
    let self := { self with data.isGameActive := false }
    let (self, calls) := self.submitGameData env false
    ({ self with data := {} }, timerCalls ++ calls)

def addMode (self : GameStateImpl) (mode : String) : GameStateImpl :=
  if !self.data.isGameActive then self
  else { self with data.modes := self.data.modes.addMode mode }

def addModeExpiring (self : GameStateImpl) (env : GameEnvironment)
    (mode : String) (durationSeconds : Nat) : GameStateImpl × List NetCall :=
  if !self.data.isGameActive then (self, [])
  else
    let self :=
      { self with
        data.modes :=
          self.data.modes.addModeExpiring env.steadyNow mode
            durationSeconds }
    (self, self.rescheduleModeExpiryTimer env)

def tickModeExpiries (self : GameStateImpl) (env : GameEnvironment) :
    GameStateImpl × List NetCall :=
  if !self.data.isGameActive then self.clearModeExpirySchedule
  else
    let self :=
      { self with data.modes := self.data.modes.tickExpiries env.steadyNow }
    (self, self.rescheduleModeExpiryTimer env)

def removeMode (self : GameStateImpl) (env : GameEnvironment)
    (mode : String) : GameStateImpl × List NetCall :=
  if !self.data.isGameActive then (self, [])
  else
    let hadExpiry := self.data.modes.hasExpiryDeadlines
    let self := { self with data.modes := self.data.modes.removeMode mode }
    (self, if hadExpiry then self.rescheduleModeExpiryTimer env else [])

def clearModes (self : GameStateImpl) : GameStateImpl × List NetCall :=
  if !self.data.isGameActive then (self, [])
  else
    ({ self with data.modes := self.data.modes.clear },
      [.cancelModeExpiryTimer])

def commit (self : GameStateImpl) (env : GameEnvironment) :
    GameStateImpl × List NetCall :=
  if self.data.isGameActive then self.submitGameData env false
  else (self, [])

/-- The callback that `startGame` leaves with `Net::sessionCreate`. -/
def onCreated (self : GameStateImpl) (env : GameEnvironment) :
    GameStateImpl × List NetCall :=
  self.submitGameData env true

end GameStateImpl

/-- The operations of the game state machine. -/
inductive GameStateOp
  | setModeExpiryPoster
  | setGameStarted (origin : GameStartOrigin)
  | setGameFinished
  | setCurrentBall (ball : Nat)
  | setActivePlayer (player : Nat)
  | setScore (player : Nat) (score feature : Int)
  | addMode (mode : String)
  | addModeExpiring (mode : String) (durationSeconds : Nat)
  | tickModeExpiries
  | removeMode (mode : String)
  | clearModes
  | commit

/-- Run one operation; the result is the new state and the calls on `Net`. -/
def GameStateOp.apply (env : GameEnvironment) (self : GameStateImpl) :
    GameStateOp → GameStateImpl × List NetCall
  | setModeExpiryPoster => ({ self with hasModeExpiryPoster := true }, [])
  | setGameStarted origin => self.setGameStarted env origin
  | setGameFinished => self.setGameFinished env
  | setCurrentBall ball => (self.setCurrentBall ball, [])
  | setActivePlayer player => (self.setActivePlayer player, [])
  | setScore player score feature => (self.setScore player score feature, [])
  | addMode mode => (self.addMode mode, [])
  | addModeExpiring mode durationSeconds =>
      self.addModeExpiring env mode durationSeconds
  | tickModeExpiries => self.tickModeExpiries env
  | removeMode mode => self.removeMode env mode
  | clearModes => self.clearModes
  | commit => self.commit env

end ScorbitSdk
