import ScorbitSdk.FiniteMaps
import ScorbitSdk.Modes

/-!
# Game data

The state of one game as it is handed to the network layer, together with the
small types both layers share.  `std::map` of players is a finite map; only its
keys, its size and its lookups are ever used.
-/

namespace ScorbitSdk

inductive AuthStatus
  | notAuthenticated
  | authenticating
  | authenticatedCheckingPairing
  | authenticatedUnpaired
  | authenticatedPaired
  | authenticationFailed
  deriving DecidableEq

inductive GameStartOrigin
  | startButton
  | fromLobby
  deriving DecidableEq

/-- `DFlags<SessionFlag>`, one field for each flag. -/
structure SessionFlags where
  /-- Upload history logs after the session ends. -/
  uploadHistoryLogs : Bool := false
  /-- New players were added. -/
  playersAdd : Bool := false
  /-- The debounce timer is in progress. -/
  debounced : Bool := false
  deriving DecidableEq

/-- The boolean conversion of the flags. -/
def SessionFlags.isSet (self : SessionFlags) : Bool :=
  self.uploadHistoryLogs || self.playersAdd || self.debounced

structure PlayerState where
  score : Int := 0
  player : Nat := 0
  scoreFeature : Int := 0
  deriving DecidableEq

def PlayerState.setScore (self : PlayerState) (score feature : Int) :
    PlayerState :=
  { self with score := score, scoreFeature := feature }

abbrev Players := Finmap fun _ : Nat => PlayerState

/-- `players.size()`. -/
def Players.size (players : Players) : Nat :=
  players.keys.card

/-- Session ids are `int`s that only ever count up from zero; the timestamp is
in nanoseconds since the epoch. -/
structure GameData where
  id : Nat := 0
  isGameActive : Bool := false
  ball : Nat := 0
  activePlayer : Nat := 0
  players : Players := ∅
  modes : Modes := {}
  timestamp : Int := 0

/-- `operator==` ignores the id, the timestamp and the mode deadlines. -/
instance : BEq GameData where
  beq lhs rhs :=
    lhs.isGameActive == rhs.isGameActive && lhs.ball == rhs.ball &&
      lhs.activePlayer == rhs.activePlayer && lhs.modes == rhs.modes &&
      decide (lhs.players = rhs.players)

abbrev GameHistory := List GameData

end ScorbitSdk
