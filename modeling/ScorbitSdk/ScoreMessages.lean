import ScorbitSdk.ApiRuns
import ScorbitSdk.JsonWriting
import ScorbitSdk.ModeExpirySchedule
import ScorbitSdk.ModesJson
import ScorbitSdk.PlayerProfiles
import Mathlib.Data.Finset.Sort

/-!
# The text of a score message

`sendLatestGameData` builds a document from the data of a session, from what the
server has said of its scores and players and from what is known of the machine.
A reader of the machine's channel gets its text, and reads all of that back, if
no mode string needs escaping.
-/

namespace ScorbitSdk

structure ScoreMetadata where
  id : Nat := 0
  isNfcVerified : Bool := false
  tournamentUuid : Option String := none

/-- What goes into a message beside the session: the profiles of the players,
the scores' metadata, the machine and the two times. -/
structure MessageContext where
  profile : Nat → Option PlayerProfilesManager.PlayerProfile := fun _ => none
  scoresMetadata : Nat → Option ScoreMetadata := fun _ => none
  machineUuid : String := ""
  variantUuid : Option String := none
  venueUuid : Option String := none
  createdAt : String := ""
  updatedAt : String := ""

namespace ScoreMessages

def ofText (text : List Char) : Json :=
  .str (String.ofList text)

/-- An absent text is written as null. -/
def ofOptional : Option String → Json
  | none => .null
  | some text => .str text

def playerProfileJson : Option PlayerProfilesManager.PlayerProfile → Json
  | none => .null
  | some profile =>
      if profile.id = [] then .null
      else
        Json.object [("id", ofText profile.id),
          ("prefer_initials", .bool profile.preferInitials),
          ("username", ofText profile.username),
          ("display_name", ofText profile.name),
          ("initials", ofText profile.initials),
          ("avatar", ofText profile.pictureUrl)]

def playerScoreJson (context : MessageContext) (gameData : GameData)
    (modes : Json) (playerNum : Nat) (playerState : PlayerState) : Json :=
  let valBallInProgress :=
    gameData.isGameActive && gameData.activePlayer == playerNum
  let scoreMetadata := (context.scoresMetadata playerNum).getD {}
  Json.object [("position", .int playerNum), ("id", .int scoreMetadata.id),
    ("is_nfc_verified", .bool scoreMetadata.isNfcVerified),
    ("tournament_id", ofOptional scoreMetadata.tournamentUuid),
    ("player", playerProfileJson (context.profile playerNum)),
    ("score", .int playerState.score), ("ball", .int gameData.ball),
    ("ball_in_progress", .bool valBallInProgress), ("modes", modes)]

/-- The players of a game in the order of their numbers. -/
def inOrder (players : Players) : List (Nat × PlayerState) :=
  (players.keys.sort (· ≤ ·)).filterMap fun playerNum =>
    (players.lookup playerNum).map (playerNum, ·)

def scoresJson (context : MessageContext) (gameData : GameData) (modes : Json) :
    List Json :=
  (inOrder gameData.players).map fun (playerNum, playerState) =>
    playerScoreJson context gameData modes playerNum playerState

/-- The document that is published; there is none where the text of the modes
cannot be parsed. -/
def messageJson (context : MessageContext) (message : ScoreMessage) :
    Option Json :=
  (Json.parse message.data.modes.jsonStr).map fun modes =>
    let data := message.data
    let scores := scoresJson context data modes
    let valType := if data.isGameActive then "score_update" else "game_end"
    let keyScores := if data.isGameActive then "scores" else "final_scores"
    Json.object [("type", .str valType),
      ("payload", Json.object [("game_in_progress", .bool data.isGameActive),
        (keyScores, .arr scores)]),
      ("metadata", Json.object [("game", .str message.sessionUuid),
        ("machine", .str context.machineUuid),
        ("variant", ofOptional context.variantUuid),
        ("venue", ofOptional context.venueUuid),
        ("sequence", .int message.sequence),
        ("created_at", .str context.createdAt),
        ("updated_at", .str context.updatedAt)])]

/-! ## What a reader gets -/

/-- A player's profile as a reader of the channel sees it. -/
structure ProfileReport where
  id : String
  preferInitials : Bool
  username : String
  displayName : String
  initials : String
  avatar : String
  deriving DecidableEq

structure ScoreReport where
  position : Int
  id : Int
  isNfcVerified : Bool
  tournamentId : Option String
  player : Option ProfileReport
  score : Int
  ball : Int
  ballInProgress : Bool
  modes : List String
  deriving DecidableEq

structure GameReport where
  isGameEnd : Bool
  gameInProgress : Bool
  scores : List ScoreReport
  game : String
  machine : String
  variant : Option String
  venue : Option String
  sequence : Int
  createdAt : String
  updatedAt : String
  deriving DecidableEq

def readText : Json → Option String
  | .str text => some text
  | _ => none

def readInt : Json → Option Int
  | .int value => some value
  | _ => none

def readBool : Json → Option Bool
  | .bool value => some value
  | _ => none

/-- What may be null is read as absent then. -/
def readNullable {Value : Type} (read : Json → Option Value) :
    Json → Option (Option Value)
  | .null => some none
  | json => (read json).map some

def readList {Value : Type} (read : Json → Option Value) :
    Json → Option (List Value)
  | .arr elements => elements.mapM read
  | _ => none

def readProfile (json : Json) : Option ProfileReport := do
  let id ← (json.member? "id").bind readText
  let preferInitials ← (json.member? "prefer_initials").bind readBool
  let username ← (json.member? "username").bind readText
  let displayName ← (json.member? "display_name").bind readText
  let initials ← (json.member? "initials").bind readText
  let avatar ← (json.member? "avatar").bind readText
  return { id, preferInitials, username, displayName, initials, avatar }

def readScore (json : Json) : Option ScoreReport := do
  let position ← (json.member? "position").bind readInt
  let id ← (json.member? "id").bind readInt
  let isNfcVerified ← (json.member? "is_nfc_verified").bind readBool
  let tournamentId ← (json.member? "tournament_id").bind (readNullable readText)
  let player ← (json.member? "player").bind (readNullable readProfile)
  let score ← (json.member? "score").bind readInt
  let ball ← (json.member? "ball").bind readInt
  let ballInProgress ← (json.member? "ball_in_progress").bind readBool
  let modes ← (json.member? "modes").bind (readList readText)
  return { position, id, isNfcVerified, tournamentId, player, score, ball
           ballInProgress, modes }

def readGame (json : Json) : Option GameReport := do
  let type ← (json.member? "type").bind readText
  let payload ← json.member? "payload"
  let gameInProgress ← (payload.member? "game_in_progress").bind readBool
  let keyScores := if type = "game_end" then "final_scores" else "scores"
  let scores ← (payload.member? keyScores).bind (readList readScore)
  let metadata ← json.member? "metadata"
  let game ← (metadata.member? "game").bind readText
  let machine ← (metadata.member? "machine").bind readText
  let variant ← (metadata.member? "variant").bind (readNullable readText)
  let venue ← (metadata.member? "venue").bind (readNullable readText)
  let sequence ← (metadata.member? "sequence").bind readInt
  let createdAt ← (metadata.member? "created_at").bind readText
  let updatedAt ← (metadata.member? "updated_at").bind readText
  return { isGameEnd := type = "game_end", gameInProgress, scores, game, machine
           variant, venue, sequence, createdAt, updatedAt }

/-- A profile without an id is none. -/
def profileReport (profile : PlayerProfilesManager.PlayerProfile) :
    Option ProfileReport :=
  if profile.id = [] then none
  else
    some { id := String.ofList profile.id
           preferInitials := profile.preferInitials
           username := String.ofList profile.username
           displayName := String.ofList profile.name
           initials := String.ofList profile.initials
           avatar := String.ofList profile.pictureUrl }

def scoreReport (context : MessageContext) (data : GameData) (player : Nat)
    (state : PlayerState) : ScoreReport where
  position := player
  id := ((context.scoresMetadata player).getD {}).id
  isNfcVerified := ((context.scoresMetadata player).getD {}).isNfcVerified
  tournamentId := ((context.scoresMetadata player).getD {}).tournamentUuid
  player := (context.profile player).bind profileReport
  score := state.score
  ball := data.ball
  ballInProgress := data.isGameActive && data.activePlayer == player
  modes := data.modes.modes

/-- What a reader is to get of a message. -/
def gameReport (context : MessageContext) (message : ScoreMessage) :
    GameReport where
  isGameEnd := !message.data.isGameActive
  gameInProgress := message.data.isGameActive
  scores := (inOrder message.data.players).map fun (player, state) =>
    scoreReport context message.data player state
  game := message.sessionUuid
  machine := context.machineUuid
  variant := context.variantUuid
  venue := context.venueUuid
  sequence := message.sequence
  createdAt := context.createdAt
  updatedAt := context.updatedAt

/-! ## The parts -/

theorem readNullable_ofOptional (text : Option String) :
    readNullable readText (ofOptional text) = some text := by
  cases text <;> rfl

theorem readList_map {Value Written : Type} {read : Json → Option Value}
    {write : Written → Json} {value : Written → Value} {items : List Written}
    (reads : ∀ item ∈ items, read (write item) = some (value item)) :
    readList read (.arr (items.map write)) = some (items.map value) := by
  rw [readList]
  induction items with
  | nil => rfl
  | cons item items ih =>
      rw [List.forall_mem_cons] at reads
      rw [List.map_cons, List.mapM_cons, reads.1, ih reads.2]
      rfl

theorem readProfile_playerProfileJson
    (profile : Option PlayerProfilesManager.PlayerProfile) :
    readNullable readProfile (playerProfileJson profile) =
      some (profile.bind profileReport) := by
  cases profile with
  | none => rfl
  | some profile =>
      simp only [playerProfileJson, Option.bind_some, profileReport]
      split
      · rfl
      · rw [readNullable]
        · rw [readProfile]
          simp (disch := simp) only [Json.member?_object]
          simp [List.lookup_cons, ofText, readText, readBool]
        · exact nofun

theorem readTexts (texts : List String) :
    readList readText (.arr (texts.map .str)) = some texts := by
  have reads : readList readText (.arr (texts.map .str)) =
      some (texts.map id) := readList_map fun _ _ => rfl
  rwa [List.map_id] at reads

variable (context : MessageContext)

theorem readScore_playerScoreJson (data : GameData) (player : Nat)
    (state : PlayerState) :
    readScore (playerScoreJson context data (.arr (data.modes.modes.map .str))
        player state) =
      some (scoreReport context data player state) := by
  rw [readScore, playerScoreJson]
  simp (disch := simp) only [Json.member?_object]
  simp [List.lookup_cons, readInt, readBool, readNullable_ofOptional,
    readProfile_playerProfileJson, readTexts, scoreReport]

theorem readList_scoresJson (data : GameData) :
    readList readScore (.arr (scoresJson context data
        (.arr (data.modes.modes.map .str)))) =
      some ((inOrder data.players).map fun (player, state) =>
        scoreReport context data player state) :=
  readList_map fun (player, state) _ =>
    readScore_playerScoreJson context data player state

theorem isExact_ofOptional (text : Option String) :
    (ofOptional text).IsExact := by
  cases text <;> trivial

theorem isExact_texts (texts : List String) :
    (Json.arr (texts.map .str)).IsExact := by
  rw [Json.IsExact, Json.areExact_iff]
  simp [Json.IsExact]

theorem isExact_playerProfileJson
    (profile : Option PlayerProfilesManager.PlayerProfile) :
    (playerProfileJson profile).IsExact := by
  cases profile with
  | none => trivial
  | some profile =>
      simp only [playerProfileJson]
      split
      · trivial
      · rw [Json.isExact_object]
        simp [ofText, Json.IsExact]

theorem isExact_scoresJson (data : GameData) {modes : Json}
    (exact : modes.IsExact) :
    (Json.arr (scoresJson context data modes)).IsExact := by
  rw [Json.IsExact, Json.areExact_iff]
  intro json member
  obtain ⟨⟨player, state⟩, -, rfl⟩ := List.mem_map.mp member
  simp only [playerScoreJson]
  rw [Json.isExact_object]
  simp [Json.IsExact, isExact_ofOptional, isExact_playerProfileJson, exact]

/-! ## The whole message -/

/-- Mode strings that need no escaping are parsed as they are, and a reader gets
what the message is made of. -/
theorem exists_messageJson {message : ScoreMessage}
    (verbatim : ∀ mode ∈ message.data.modes.modes, Json.Verbatim mode) :
    ∃ json, messageJson context message = some json ∧ json.IsExact ∧
      readGame json = some (gameReport context message) := by
  have parsed := message.data.modes.parse_jsonStr.mpr verbatim
  have exact := isExact_scoresJson context message.data
    (isExact_texts message.data.modes.modes)
  have scores := readList_scoresJson context message.data
  refine ⟨_, by rw [messageJson, parsed, Option.map_some], ?_, ?_⟩
  · simp only [Json.isExact_object, List.forall_mem_cons, isExact_ofOptional,
      exact]
    simp [Json.IsExact]
  · rw [readGame]
    simp (disch := simp) only [Json.member?_object]
    cases active : message.data.isGameActive with
    | true =>
        simp [List.lookup_cons, readText, readBool, readInt, scores,
          Json.member?_object, readNullable_ofOptional, gameReport, active]
    | false =>
        simp [List.lookup_cons, readText, readBool, readInt, scores,
          Json.member?_object, readNullable_ofOptional, gameReport, active]

/-- The text that goes to the machine's channel; the document is written where
it is published. -/
def messageText (context : MessageContext) (message : ScoreMessage) :
    Option String :=
  (messageJson context message).map Json.dump

/-- A reader of the channel parses the text. -/
def received (text : String) : Option GameReport :=
  (Json.parse text).bind readGame

theorem received_messageText {message : ScoreMessage}
    (verbatim : ∀ mode ∈ message.data.modes.modes, Json.Verbatim mode) :
    (messageText context message).bind received =
      some (gameReport context message) := by
  obtain ⟨json, isJson, exact, read⟩ := exists_messageJson context verbatim
  rw [messageText, isJson, Option.map_some, Option.bind_some, received,
    Json.parse_dump exact, Option.bind_some, read]

theorem mem_inOrder {players : Players} {player : Nat} {state : PlayerState} :
    (player, state) ∈ inOrder players ↔ players.lookup player = some state := by
  simp only [inOrder, List.mem_filterMap, Option.map_eq_some_iff,
    Prod.mk.injEq]
  constructor
  · rintro ⟨_, -, _, present, rfl, rfl⟩
    exact present
  · intro present
    refine ⟨player, ?_, state, present, rfl, rfl⟩
    rw [Finset.mem_sort, Finmap.mem_keys]
    exact Finmap.mem_of_lookup_eq_some present

end ScoreMessages

/-! ## The mode strings of a run -/

/-- The mode string that an operation may add. -/
def GameStateOp.mode? : GameStateOp → Option String
  | addMode mode => some mode
  | addModeExpiring mode _ => some mode
  | _ => none

/-- All mode strings of the data have the property. -/
def GameData.ModesAre (property : String → Prop) (data : GameData) : Prop :=
  ∀ mode ∈ data.modes.modes, property mode

namespace GameStateImpl

variable {property : String → Prop} {self : GameStateImpl}
  {env : GameEnvironment}

theorem modesAre_of_op (now : SteadyTime) (op : ModesOp)
    (own : self.data.ModesAre property)
    (added : ∀ mode, op.added? = some mode → property mode) :
    ∀ mode ∈ (op.apply now self.data.modes).modes, property mode := by
  intro mode member
  rcases Modes.mem_apply member with old | new
  · exact own mode old
  · exact added mode new

/-- A submission hands over the modes of the game. -/
theorem submitGameData_modesAre (env : GameEnvironment)
    (own : self.data.ModesAre property)
    (forceSending : Bool) :
    ∀ row ∈ (self.submitGameData env forceSending).2.filterMap NetCall.row?,
      row.ModesAre property := by
  rcases submitGameData_cases self env forceSending with
    same | ⟨-, data, dataEq, eq⟩
  · simp [same]
  · rw [eq]
    intro row member
    obtain ⟨call, isCall, isRow⟩ := List.mem_filterMap.mp member
    obtain ⟨handed, flags, rfl, -, -, -, modes⟩ :=
      submissions_handOver _ _ call isCall
    cases isRow
    rw [GameData.ModesAre, modes, dataEq]
    exact own

theorem setGameStarted_modesAre (own : self.data.ModesAre property)
    (origin : GameStartOrigin) :
    (self.setGameStarted env origin).1.data.ModesAre property ∧
      ∀ row ∈ (self.setGameStarted env origin).2.filterMap NetCall.row?,
        row.ModesAre property := by
  have fresh : self.setGameStarted env origin = (self, []) ∨ _ :=
    setGameStarted_modes origin
  rcases fresh with same | ⟨noModes, -⟩
  · rw [same]
    exact ⟨own, nofun⟩
  · have none : (self.setGameStarted env origin).1.data.ModesAre property := by
      rw [GameData.ModesAre, noModes]
      exact nofun
    refine ⟨none, ?_⟩
    rcases setGameStarted_cases self env origin with same | starts
    · rw [same]
      exact nofun
    · obtain ⟨origin, calls⟩ := starts.calls
      rw [calls]
      simpa [NetCall.row?] using none

theorem setGameFinished_modesAre (own : self.data.ModesAre property) :
    (self.setGameFinished env).1.data.ModesAre property ∧
      ∀ row ∈ (self.setGameFinished env).2.filterMap NetCall.row?,
        row.ModesAre property := by
  cases active : self.data.isGameActive with
  | false =>
      rw [setGameFinished, active]
      exact ⟨own, by simp⟩
  | true =>
      rw [setGameFinished_active env active]
      have ended : self.ended.data.ModesAre property := own
      refine ⟨(fun _ member => by cases member), ?_⟩
      simpa [NetCall.row?] using submitGameData_modesAre env ended false

/-- Only the operations bring mode strings. -/
theorem apply_modesAre {op : GameStateOp} (own : self.data.ModesAre property)
    (added : ∀ mode, op.mode? = some mode → property mode) :
    (op.apply env self).1.data.ModesAre property ∧
      ∀ row ∈ (op.apply env self).2.filterMap NetCall.row?,
        row.ModesAre property := by
  have quiet (isQuiet : op.isQuiet = true)
      (data : (op.apply env self).1.data.ModesAre property) :
      (op.apply env self).1.data.ModesAre property ∧
        ∀ row ∈ (op.apply env self).2.filterMap NetCall.row?,
          row.ModesAre property := by
    have noRows := (apply_quiet env self isQuiet).2
    rw [List.filterMap_eq_nil_iff.mpr noRows]
    exact ⟨data, by simp⟩
  cases op with
  | setGameStarted origin => exact setGameStarted_modesAre own origin
  | setGameFinished => exact setGameFinished_modesAre own
  | commit =>
      simp only [GameStateOp.apply, commit]
      split
      · refine ⟨?_, submitGameData_modesAre env own false⟩
        rw [GameData.ModesAre, (keepsModes_submitGameData self env false).modes]
        exact own
      · exact ⟨own, by simp⟩
  | setModeExpiryPoster => exact quiet rfl own
  | setCurrentBall ball =>
      refine quiet rfl ?_
      simp only [GameStateOp.apply]
      rw [GameData.ModesAre, (keepsModes_setCurrentBall self ball).modes]
      exact own
  | setActivePlayer player =>
      refine quiet rfl ?_
      simp only [GameStateOp.apply]
      rw [GameData.ModesAre, (keepsModes_setActivePlayer self player).modes]
      exact own
  | setScore player score feature =>
      refine quiet rfl ?_
      simp only [GameStateOp.apply]
      rw [GameData.ModesAre,
        (keepsModes_setScore self player score feature).modes]
      exact own
  | addMode mode =>
      refine quiet rfl ?_
      simp only [GameStateOp.apply, addMode]
      split
      · exact own
      · exact modesAre_of_op 0 (.addMode mode) own added
  | addModeExpiring mode durationSeconds =>
      refine quiet rfl ?_
      simp only [GameStateOp.apply, addModeExpiring]
      split
      · exact own
      · exact modesAre_of_op env.steadyNow (.addModeExpiring mode durationSeconds) own
          added
  | tickModeExpiries =>
      refine quiet rfl ?_
      simp only [GameStateOp.apply, tickModeExpiries]
      split
      · exact own
      · exact modesAre_of_op env.steadyNow .tickExpiries own
          (fun _ isAdded => by cases isAdded)
  | removeMode mode =>
      refine quiet rfl ?_
      simp only [GameStateOp.apply, removeMode]
      split
      · exact own
      · exact modesAre_of_op 0 (.removeMode mode) own
          (fun _ isAdded => by cases isAdded)
  | clearModes =>
      refine quiet rfl ?_
      simp only [GameStateOp.apply, clearModes]
      split
      · exact own
      · intro mode member
        cases member

end GameStateImpl

namespace GameStateRun

/-- The data of the game and all rows that have been handed over. -/
structure ModesAre (property : String → Prop) (state : GameStateRun) : Prop where
  data : state.impl.data.ModesAre property
  rows : ∀ row ∈ state.rows, row.ModesAre property

/-- An event that adds only mode strings of the kind. -/
def AddsModes (property : String → Prop) (event : GameStateEvent) : Prop :=
  ∀ op, event.operation? = some op →
    ∀ mode, op.mode? = some mode → property mode

theorem ModesAre.step {property : String → Prop} {state next : GameStateRun}
    {event : GameStateEvent} (kept : state.ModesAre property)
    (adds : AddsModes property event) (taken : state.step event = some next) :
    next.ModesAre property := by
  have performed : (event.perform state.impl).1.data.ModesAre property ∧
      ∀ row ∈ (event.perform state.impl).2.filterMap NetCall.row?,
        row.ModesAre property := by
    cases event with
    | operation env op =>
        exact GameStateImpl.apply_modesAre kept.data (adds op rfl)
    | sessionCreated env id =>
        refine ⟨?_, GameStateImpl.submitGameData_modesAre env kept.data true⟩
        have keeps := state.impl.keepsModes_submitGameData env true
        change (state.impl.submitGameData env true).1.data.ModesAre property
        rw [GameData.ModesAre, keeps.modes]
        exact kept.data
  obtain ⟨awaiting, rfl⟩ := step_record taken
  refine ⟨performed.1, ?_⟩
  rw [record_rows]
  exact List.forall_mem_append.mpr ⟨kept.rows, performed.2⟩

theorem modesAre_of_run {property : String → Prop}
    {events : List GameStateEvent} {final : GameStateRun}
    (reached : Transition.run step {} events = some final)
    (adds : ∀ event ∈ events, AddsModes property event) :
    final.ModesAre property :=
  Transition.run_preserves
    (fun _ _ _ kept adds taken => ModesAre.step kept adds taken) reached
    (Transition.HoldsAlong.of_forall_mem adds) ⟨nofun, nofun⟩

end GameStateRun

namespace ScoreMessages

/-- In every run under the C API in which no dispatched call adds a mode string
that needs escaping, a reader of the machine's channel gets of each message, with
whatever profiles, metadata and times it is published, the session, the number
and the scores of a row that has been handed over: those of its players, no
others. -/
theorem published_received {actions : List ApiAction} {final : ApiState}
    (reached : Transition.run ApiState.step .created actions = some final)
    (verbatim : ∀ op ∈ final.operations, ∀ mode, op.mode? = some mode →
      Json.Verbatim mode)
    (context : MessageContext) :
    ∀ message ∈ final.sdk.net.published,
      (messageText context message).bind received =
          some (gameReport context message) ∧
        message.Sourced final.sdk.game.rows final.sdk.game.created ∧
        ∀ (player : Nat) (score : Int),
          (∃ report ∈ (gameReport context message).scores,
            report.position = player ∧ report.score = score) ↔
          ∃ state, message.data.players.lookup player = some state ∧
            state.score = score := by
  have runs : ApiState.RunsAs ([] ++ actions) final := Transition.run_history
    (fun _ _ _ _ runs taken => runs.step taken) reached ApiState.runsAs_created
  obtain ⟨sdkActions, called, operations⟩ := runs.called
  obtain ⟨events, game, run, refines, same⟩ :=
    SdkState.refinesAlong_of_run called
      (SdkState.refinesTo_initially {} GameStateRun.valid_initially)
  have valid : final.sdk.Valid := Transition.run_invariant
    (fun _ _ _ valid taken => SdkState.step_valid valid taken) called
      SdkState.valid_initially
  have adds : ∀ event ∈ events, GameStateRun.AddsModes Json.Verbatim event := by
    intro event member op isOperation mode isMode
    have dispatched : op ∈ GameStateOp.setModeExpiryPoster :: final.operations := by
      rw [← operations, ← same]
      exact List.mem_filterMap.mpr ⟨event, member, isOperation⟩
    rcases List.mem_cons.mp dispatched with rfl | member
    · cases isMode
    · exact verbatim op member mode isMode
  have modes := GameStateRun.modesAre_of_run run adds
  intro message member
  have sourced := valid.net.published message member
  have isRow : message.data ∈ game.rows := by
    rw [GameStateRun.rows, refines.calls]
    exact sourced.1
  refine ⟨received_messageText context (modes.rows _ isRow), sourced, ?_⟩
  intro player score
  constructor
  · rintro ⟨report, isReport, isPosition, isScore⟩
    obtain ⟨⟨other, state⟩, inOrder, rfl⟩ := List.mem_map.mp isReport
    obtain rfl : other = player := Int.ofNat.inj isPosition
    exact ⟨state, mem_inOrder.mp inOrder, isScore⟩
  · rintro ⟨state, present, isScore⟩
    refine ⟨_, List.mem_map.mpr ⟨(player, state), mem_inOrder.mpr present, rfl⟩,
      rfl, isScore⟩

/-- Of the game that is published, a reader gets its only player with the score
zero. -/
theorem published_received_publishedGame :
    ∃ final message, Transition.run ApiState.step .created
        ApiState.publishedGame = some final ∧
      message ∈ final.sdk.net.published ∧
      (messageText {} message).bind received = some (gameReport {} message) ∧
      ∃ report ∈ (gameReport {} message).scores,
        report.position = 1 ∧ report.score = 0 := by
  have evaluated : ((Transition.run ApiState.step .created
      ApiState.publishedGame).any fun final =>
        (final.operations.filterMap GameStateOp.mode?) = [] &&
          final.sdk.net.published.any fun message =>
            (message.data.players.lookup 1).map (·.score) = some 0) = true := by
    decide +kernel
  obtain ⟨final, reached, checked⟩ := (Option.any_eq_true _ _).mp evaluated
  simp only [Bool.and_eq_true, decide_eq_true_eq, List.any_eq_true] at checked
  obtain ⟨noModes, message, member, onePlayer⟩ := checked
  obtain ⟨state, present, isZero⟩ := Option.map_eq_some_iff.mp onePlayer
  obtain ⟨isReceived, -, scores⟩ := published_received reached
    (fun op isOp mode isMode => absurd
      (List.mem_filterMap.mpr ⟨op, isOp, isMode⟩) (by simp [noModes])) {}
    message member
  exact ⟨final, message, reached, member, isReceived,
    (scores 1 0).mpr ⟨state, present, isZero⟩⟩

end ScoreMessages

end ScorbitSdk
