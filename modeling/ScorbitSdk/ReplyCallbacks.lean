import ScorbitSdk.JsonReads
import ScorbitSdk.WorkerTasks

/-!
# Reply callbacks

Eight callbacks read the text of a reply.  Seven of them do so in a `try` block;
that of `requestSessionData` does not, and a text that is no JSON ends the
process there.  Besides, members of scores and of assets are read with
`operator[]` of a constant document, for which a missing one is undefined.

What is stored is left out, except where a callback goes another way for it.  A
match of a regular expression is taken to return: an error it throws is caught in
`parseUrls`, and the stack it needs for a long text is left out.
-/

namespace ScorbitSdk

open JsonOutcome JsonNode

structure TableSession where
  sessionUuid : List Char
  isGameActive : Bool

/-- What a callback meets: the JSON parser, the tables and what else may throw.
`sessionsLater` is the table when `requestSessionData` locks it again. -/
structure ReplyEnvironment where
  parse : List Char → Option JsonNode
  canResize : Nat → Bool
  sessions : List (Int × TableSession)
  sessionsLater : List (Int × TableSession)
  onCreatedThrows : Bool
  setNfcTagThrows : Bool
  updateInProgress : Bool
  /-- The version and the platform in a URL of the library, if it is one. -/
  matchSdkUrl : List Char → Option (List Char × List Char)
  matchScorbitdName : List Char → Option (List Char × List Char)
  sdkPlatformId : List Char
  scorbitdPlatformId : List Char
  sdkUpdateThrows : Bool
  scorbitdUpdateThrows : Bool

namespace ReplyEnvironment

variable (env : ReplyEnvironment)

def parseJson (reply : List Char) : JsonOutcome JsonNode :=
  ofOption (env.parse reply)

def throwsIf (thrown : Bool) : JsonOutcome Unit :=
  if thrown then throws else value ()

/-! ## Scores and profiles -/

def isUnsigned32 (node : JsonNode) : Bool :=
  node.getUnsigned32.isSome

def scoreReads : List MemberRead :=
  [⟨.checked, "position", isUnsigned32⟩, ⟨.checked, "id", isNumber⟩,
    ⟨.checked, "is_nfc_verified", isBoolean⟩]

def playerReads : List MemberRead :=
  [⟨.unchecked, "id", isString⟩, ⟨.withDefault, "prefer_initials", isBoolean⟩,
    ⟨.unchecked, "username", isString⟩, ⟨.unchecked, "display_name", isString⟩,
    ⟨.unchecked, "initials", isString⟩, ⟨.unchecked, "url", isString⟩]

def scoreIdReads : List MemberRead :=
  [⟨.unchecked, "id", isNumber⟩]

/-- The first loop of `processScoresAndPlayersProfiles`, in its `try` block. -/
def processScores (val : JsonNode) : JsonOutcome Unit :=
  catching () (forEach
    (fun obj => (obj.readMembers scoreReads).bind fun _ =>
      obj.whenMember "tournament_id" isString fun _ => value ())
    val.elements)

/-- What is read of a profile. -/
def readProfile (obj : JsonNode) : JsonOutcome Unit :=
  match obj.find? "player" with
  | some player =>
      if player.isObject then
        (player.readMembers playerReads).bind fun _ =>
          player.whenMember "avatar" isString fun _ => value ()
      else obj.readMembers scoreIdReads
  | none => obj.readMembers scoreIdReads

/-- The `try` block of `setProfiles` for one element, with the number of profiles
before and after it.  Where the vector cannot be resized, that is caught too. -/
def setProfile (size : Nat) (obj : JsonNode) : JsonOutcome Nat :=
  if !obj.isObject then value size
  else
    match obj.indexAs "position" getUnsigned32 with
    | undefined => undefined
    | throws => value size
    | value playerNum =>
        if playerNum = 0 then value size
        else if size < playerNum.toNat && !env.canResize playerNum.toNat then
          value size
        else
          let size := max size playerNum.toNat
          catching size ((readProfile obj).bind fun _ => value size)

def setProfilesFrom : Nat → List JsonNode → JsonOutcome Nat
  | size, [] => value size
  | size, obj :: rest =>
      (env.setProfile size obj).bind fun size => setProfilesFrom size rest

def setProfiles (val : JsonNode) : JsonOutcome Unit :=
  if !val.isArray then value ()
  else (env.setProfilesFrom 0 val.elements).bind fun _ => value ()

def processScoresAndPlayersProfiles (val : JsonNode) : JsonOutcome Unit :=
  (processScores val).bind fun _ => env.setProfiles val

/-! ## Assets of a release -/

def isSdkAsset (version url : List Char) : Bool :=
  (env.matchSdkUrl url).any fun (urlVersion, platformId) =>
    urlVersion = version && platformId = env.sdkPlatformId

/-- The platform without its last three characters, or the whole if there are
fewer. -/
def platformStem : List Char :=
  if env.scorbitdPlatformId.length < 3 then env.scorbitdPlatformId
  else env.scorbitdPlatformId.take (env.scorbitdPlatformId.length - 3)

def isScorbitdAsset (version name : List Char) : Bool :=
  (env.matchScorbitdName name).any fun (urlVersion, platformId) =>
    urlVersion = version && (platformId = env.scorbitdPlatformId ||
      platformId = env.platformStem ++ "u18".toList ||
      platformId = env.platformStem ++ "u20".toList)

def assetReads : List MemberRead :=
  [⟨.unchecked, "download_url", isString⟩,
    ⟨.unchecked, "content_type", isString⟩, ⟨.unchecked, "size", isUnsigned32⟩]

/-- The first asset for the platform ends the search. -/
def findAsset (version : List Char) : List JsonNode → JsonOutcome Unit
  | [] => value ()
  | string url :: rest =>
      if env.isSdkAsset version url then value () else findAsset version rest
  | object members :: rest =>
      ((object members).indexAs "name" getString).bind fun name =>
        if env.isScorbitdAsset version name then
          (object members).readMembers assetReads
        else findAsset version rest
  | _ :: rest => findAsset version rest

def parseUrls (obj : JsonNode) : JsonOutcome Unit :=
  catching () ((obj.indexAs "version" getString).bind fun version =>
    (obj.index "assets_json").bind fun assets =>
      env.findAsset version assets.elements)

def checkNewVersionAndUpdate (json : JsonNode) : JsonOutcome Unit :=
  if env.updateInProgress then value ()
  else
    (json.whenMember "sdk" isObject fun sdk =>
      (env.parseUrls sdk).bind fun _ => throwsIf env.sdkUpdateThrows).bind fun _ =>
    json.whenMember "scorbitd" isObject fun scorbitd =>
      (env.parseUrls scorbitd).bind fun _ => throwsIf env.scorbitdUpdateThrows

/-! ## The callbacks -/

def createSession (sessionId : Int) (error : Error) (reply : List Char) :
    JsonOutcome Unit :=
  if error = .success then
    catching () ((env.parseJson reply).bind fun json =>
      json.whenMember "id" isString fun _ =>
        match env.sessions.lookup sessionId with
        | none => value ()
        | some _ =>
            (json.whenMember "scores" isArray
              env.processScoresAndPlayersProfiles).bind fun _ =>
            catching () (throwsIf env.onCreatedThrows))
  else value ()

/-- `m_gameSessions[sessionId]` makes a session that is not active where there is
none. -/
def isSessionActive (sessionId : Int) : Bool :=
  (env.sessions.lookup sessionId).any (·.isGameActive)

def updateSession (sessionId : Int) (error : Error) (reply : List Char) :
    JsonOutcome Unit :=
  if error = .success then
    if !env.isSessionActive sessionId then value ()
    else
      catching () ((env.parseJson reply).bind fun json =>
        json.whenMember "scores" isArray env.processScoresAndPlayersProfiles)
  else value ()

def findSession (sessionUuid : List Char) : Int :=
  ((env.sessions.find? fun entry => entry.2.sessionUuid = sessionUuid).map
    Prod.fst).getD (-1)

def requestSessionData (sessionUuid : List Char) (error : Error)
    (reply : List Char) : JsonOutcome Unit :=
  if error = .success then
    let sessionId := env.findSession sessionUuid
    if 0 ≤ sessionId then
      (env.parseJson reply).bind fun j =>
        j.whenMember "scores" isArray fun scores =>
          match env.sessionsLater.lookup sessionId with
          | none => value ()
          | some _ => env.processScoresAndPlayersProfiles scores
    else value ()
  else value ()

def parseScorbitronObject (error : Error) (reply : List Char) :
    JsonOutcome Unit :=
  if error ≠ .success then value ()
  else
    catching () ((env.parseJson reply).bind fun json =>
      (json.whenMember "shortcode" isString fun _ => value ()).bind fun _ =>
      (json.whenMember "machine" isObject fun machine =>
        machine.whenMember "id" isString fun _ => value ()).bind fun _ =>
      json.whenMember "release_track" isObject fun config =>
        config.whenMember "url" isString fun _ => value ())

def requestMachineObject (error : Error) (reply : List Char) :
    JsonOutcome Unit :=
  if error = .success then
    catching () ((env.parseJson reply).bind fun j =>
      (j.readMembers [⟨.withDefault, "name", isString⟩,
        ⟨.withDefault, "edition", isString⟩]).bind fun _ =>
      j.whenMember "game" isObject fun game =>
        game.whenMember "slug" isString fun _ => value ())
  else value ()

def getConfig (error : Error) (reply : List Char) : JsonOutcome Unit :=
  if error ≠ .success then value ()
  else
    catching () ((env.parseJson reply).bind fun json =>
      (json.whenMember "variant_id" isString fun _ => value ()).bind fun _ =>
      (json.whenMember "venue_id" isString fun _ => value ()).bind fun _ =>
      (json.whenMember "config" isObject fun config =>
        (config.whenMember "opdb_id" isString fun _ => value ()).bind fun _ =>
        config.whenMember "machine_id" isNumberInteger fun _ =>
          value ()).bind fun _ =>
      json.whenMember "pricing" isObject fun _ => value ())

def requestReleaseTrackInfo (error : Error) (reply : List Char) :
    JsonOutcome Unit :=
  if error = .success then
    catching () ((env.parseJson reply).bind env.checkNewVersionAndUpdate)
  else value ()

def createNfcNonces (error : Error) (reply : List Char) : JsonOutcome Unit :=
  if error = .success then
    catching () ((env.parseJson reply).bind fun j =>
      j.whenMember "nonces" isArray fun nonces =>
        (forEach
          (fun nonce => (ofOption nonce.getString).bind fun _ => value ())
          nonces.elements).bind fun _ => throwsIf env.setNfcTagThrows)
  else value ()

/-! ## What is reached without a check -/

/-- What `readProfile` reaches is there. -/
def PlayerReached (obj : JsonNode) : Prop :=
  match obj.find? "player" with
  | some player =>
      if player.isObject then player.HasReached playerReads
      else obj.HasReached scoreIdReads
  | none => obj.HasReached scoreIdReads

/-- An object has a position, and more where that is the number of a player. -/
def ProfileReached (size : Nat) (obj : JsonNode) : Prop :=
  obj.isObject = true →
    (obj.find? "position").isSome = true ∧
      ∀ playerNum, (obj.find? "position").bind getUnsigned32 = some playerNum →
        playerNum ≠ 0 →
          (size < playerNum.toNat → env.canResize playerNum.toNat = true) →
            PlayerReached obj

def ProfilesReached : Nat → List JsonNode → Prop
  | _, [] => True
  | size, obj :: rest =>
      env.ProfileReached size obj ∧
        ∀ next, env.setProfile size obj = value next → ProfilesReached next rest

/-- The scores of a document, if it has an array of them, have the members that
are reached. -/
def ScoresReached (json : JsonNode) : Prop :=
  ∀ scores, json.find? "scores" = some scores → scores.isArray = true →
    env.ProfilesReached 0 scores.elements

variable {env}

theorem isDefined_readProfile {obj : JsonNode} :
    (readProfile obj).IsDefined ↔ PlayerReached obj := by
  unfold readProfile PlayerReached
  cases obj.find? "player" with
  | none => exact isDefined_readMembers
  | some player =>
      dsimp only
      split
      · rw [isDefined_bind, isDefined_readMembers]
        refine and_iff_left fun _ _ => ?_
        exact isDefined_whenMember.mpr fun _ _ _ => trivial
      · exact isDefined_readMembers

theorem isDefined_setProfile {size : Nat} {obj : JsonNode} :
    (env.setProfile size obj).IsDefined ↔ env.ProfileReached size obj := by
  unfold setProfile ProfileReached
  cases isObject : obj.isObject with
  | false => simp
  | true =>
      have position := @isDefined_indexAs _ obj "position" getUnsigned32
      have found := fun playerNum => @indexAs_eq_value_iff _ obj "position"
        getUnsigned32 playerNum
      simp only [isObject, forall_const] at position
      simp only [Bool.not_true, Bool.false_eq_true, if_false, forall_const]
      cases isRead : obj.indexAs "position" getUnsigned32 with
      | undefined =>
          rw [isRead] at position
          exact iff_of_false id fun reached => position.mpr reached.1
      | throws =>
          rw [isRead] at position
          refine iff_of_true trivial ⟨position.mp trivial, ?_⟩
          intro playerNum isNumber
          have isValue := (found playerNum).mpr isNumber
          rw [isRead] at isValue
          cases isValue
      | value playerNum =>
          rw [isRead] at position
          rw [(found playerNum).mp isRead]
          simp only [position.mp trivial, true_and, Option.some.injEq, forall_eq']
          by_cases isZero : playerNum = 0
          · simp [isZero]
          · by_cases fits : size < playerNum.toNat →
                env.canResize playerNum.toNat = true
            · have resized : ¬(size < playerNum.toNat &&
                  !env.canResize playerNum.toNat) = true := by
                simpa using fits
              rw [if_neg isZero, if_neg resized]
              simp only [ne_eq, isZero, not_false_eq_true, forall_const]
              rw [isDefined_catching, isDefined_bind, isDefined_readProfile]
              constructor
              · exact fun reached _ => reached.1
              · exact fun reached => ⟨reached fits, fun _ _ => trivial⟩
            · have notResized : (size < playerNum.toNat &&
                  !env.canResize playerNum.toNat) = true := by
                simpa using fits
              rw [if_neg isZero, if_pos notResized]
              exact iff_of_true trivial fun _ resized => absurd resized fits

theorem isDefined_setProfilesFrom {size : Nat} {objects : List JsonNode} :
    (env.setProfilesFrom size objects).IsDefined ↔
      env.ProfilesReached size objects := by
  induction objects generalizing size with
  | nil => exact Iff.rfl
  | cons obj rest ih =>
      rw [setProfilesFrom, isDefined_bind, isDefined_setProfile, ProfilesReached]
      simp only [ih]

/-- The profiles are read in `try` blocks. -/
theorem setProfile_ne_throws {size : Nat} {obj : JsonNode} :
    env.setProfile size obj ≠ throws := by
  unfold setProfile
  split
  · nofun
  · split
    · nofun
    · nofun
    · split
      · nofun
      · split
        · nofun
        · cases readProfile obj <;> nofun

theorem setProfilesFrom_ne_throws {size : Nat} {objects : List JsonNode} :
    env.setProfilesFrom size objects ≠ throws := by
  induction objects generalizing size with
  | nil => nofun
  | cons obj rest ih =>
      rw [setProfilesFrom]
      cases isSet : env.setProfile size obj with
      | value next => exact ih
      | throws => exact absurd isSet setProfile_ne_throws
      | undefined => nofun

theorem processScores_eq (val : JsonNode) : processScores val = value () := by
  unfold processScores
  have defined : (forEach
      (fun obj => (obj.readMembers scoreReads).bind fun _ =>
        obj.whenMember "tournament_id" isString fun _ => value ())
      val.elements).IsDefined := by
    refine isDefined_forEach (fun obj => ?_) val.elements
    rw [isDefined_bind, isDefined_readMembers]
    refine ⟨hasReached_of_checked ?_, fun _ _ => ?_⟩
    · simp [scoreReads]
    · exact isDefined_whenMember.mpr fun _ _ _ => trivial
  revert defined
  cases forEach _ val.elements with
  | value result => exact fun _ => rfl
  | throws => exact fun _ => rfl
  | undefined => exact False.elim

/-- Scores are processed without an exception. -/
theorem isDefined_processScoresAndPlayersProfiles {scores : JsonNode}
    (isArray : scores.isArray = true) :
    (env.processScoresAndPlayersProfiles scores).IsDefined ↔
      env.ProfilesReached 0 scores.elements := by
  rw [processScoresAndPlayersProfiles, processScores_eq, JsonOutcome.bind,
    setProfiles, isArray, ← isDefined_setProfilesFrom]
  simp only [Bool.not_true, Bool.false_eq_true, if_false, isDefined_bind]
  exact and_iff_left fun _ _ => trivial

theorem processScoresAndPlayersProfiles_ne_throws {scores : JsonNode} :
    env.processScoresAndPlayersProfiles scores ≠ throws := by
  rw [processScoresAndPlayersProfiles, processScores_eq, JsonOutcome.bind,
    setProfiles]
  split
  · intro isThrows
    cases isThrows
  · cases isSet : env.setProfilesFrom 0 scores.elements with
    | throws => exact absurd isSet setProfilesFrom_ne_throws
    | _ =>
        intro isThrows
        cases isThrows

variable (env) in
/-- What `findAsset` reaches is there. -/
def AssetsReached (version : List Char) : List JsonNode → Prop
  | [] => True
  | string url :: rest =>
      env.isSdkAsset version url = false → AssetsReached version rest
  | object members :: rest =>
      ((object members).find? "name").isSome = true ∧
        ∀ name, ((object members).find? "name").bind getString = some name →
          if env.isScorbitdAsset version name then
            (object members).HasReached assetReads
          else AssetsReached version rest
  | _ :: rest => AssetsReached version rest

variable (env) in
/-- An object has a version, then assets and what is reached of them. -/
def UrlsReached (obj : JsonNode) : Prop :=
  (obj.find? "version").isSome = true ∧
    ∀ version, (obj.find? "version").bind getString = some version →
      (obj.find? "assets_json").isSome = true ∧
        ∀ assets, obj.find? "assets_json" = some assets →
          env.AssetsReached version assets.elements

variable (env) in
/-- Unless an update is in progress, what is read of the library is there, and
of the daemon unless updating the library throws. -/
def UpdatesReached (json : JsonNode) : Prop :=
  env.updateInProgress = false →
    (∀ sdk, json.find? "sdk" = some sdk → sdk.isObject = true →
      env.UrlsReached sdk) ∧
    ((∀ sdk, json.find? "sdk" = some sdk → sdk.isObject = true →
        env.sdkUpdateThrows = false) →
      ∀ scorbitd, json.find? "scorbitd" = some scorbitd →
        scorbitd.isObject = true → env.UrlsReached scorbitd)

theorem isDefined_findAsset {version : List Char} {assets : List JsonNode} :
    (env.findAsset version assets).IsDefined ↔
      env.AssetsReached version assets := by
  induction assets with
  | nil => exact Iff.rfl
  | cons asset rest ih =>
      cases asset with
      | string url =>
          rw [findAsset, AssetsReached]
          cases env.isSdkAsset version url with
          | true => simp
          | false => simpa using ih
      | object members =>
          rw [findAsset, AssetsReached, isDefined_bind, isDefined_indexAs]
          simp only [isObject, forall_const, indexAs_eq_value_iff]
          refine and_congr_right fun _ => forall_congr' fun name => ?_
          refine imp_congr_right fun _ => ?_
          split
          · exact isDefined_readMembers
          · exact ih
      | _ => exact ih

theorem isDefined_parseUrls {obj : JsonNode} (isObject : obj.isObject = true) :
    (env.parseUrls obj).IsDefined ↔ env.UrlsReached obj := by
  rw [parseUrls, isDefined_catching, isDefined_bind, isDefined_indexAs,
    UrlsReached]
  simp only [isObject, forall_const, indexAs_eq_value_iff, isDefined_bind,
    isDefined_index, index_eq_value_iff, isDefined_findAsset]

/-- The URLs are read in a `try` block. -/
theorem parseUrls_ne_throws {obj : JsonNode} : env.parseUrls obj ≠ throws := by
  unfold parseUrls
  cases (obj.indexAs "version" getString).bind _ <;> nofun

theorem isDefined_throwsIf (thrown : Bool) : (throwsIf thrown).IsDefined := by
  cases thrown <;> trivial

theorem parseUrls_eq {obj : JsonNode} (isObject : obj.isObject = true)
    (reached : env.UrlsReached obj) : env.parseUrls obj = value () := by
  have defined := (isDefined_parseUrls isObject).mpr reached
  cases isParsed : env.parseUrls obj with
  | value result => rfl
  | throws => exact absurd isParsed parseUrls_ne_throws
  | undefined =>
      rw [isParsed] at defined
      exact defined.elim

variable (env) in
/-- One of the two parts of a release. -/
def updatePart (json : JsonNode) (key : String) (thrown : Bool) :
    JsonOutcome Unit :=
  json.whenMember key isObject fun obj =>
    (env.parseUrls obj).bind fun _ => throwsIf thrown

theorem isDefined_updatePart {json : JsonNode} {key : String} {thrown : Bool} :
    (env.updatePart json key thrown).IsDefined ↔
      ∀ obj, json.find? key = some obj → obj.isObject = true →
        env.UrlsReached obj := by
  rw [updatePart, isDefined_whenMember]
  refine forall_congr' fun obj => imp_congr_right fun _ =>
    imp_congr_right fun isObject => ?_
  rw [isDefined_bind, isDefined_parseUrls isObject]
  exact and_iff_left fun _ _ => isDefined_throwsIf thrown

theorem updatePart_eq_value_iff {json : JsonNode} {key : String} {thrown : Bool}
    (reached : ∀ obj, json.find? key = some obj → obj.isObject = true →
      env.UrlsReached obj) :
    env.updatePart json key thrown = value () ↔
      ∀ obj, json.find? key = some obj → obj.isObject = true →
        thrown = false := by
  unfold updatePart whenMember
  cases isFound : json.find? key with
  | none => simp
  | some obj =>
      cases isObject : obj.isObject with
      | false => simp [isObject]
      | true =>
          have isParsed := parseUrls_eq isObject (reached obj isFound isObject)
          cases thrown <;>
            simp [isParsed, JsonOutcome.bind, throwsIf, isObject]

theorem isDefined_checkNewVersionAndUpdate {json : JsonNode} :
    (env.checkNewVersionAndUpdate json).IsDefined ↔ env.UpdatesReached json := by
  have isParts : env.updateInProgress = false →
      env.checkNewVersionAndUpdate json =
        (env.updatePart json "sdk" env.sdkUpdateThrows).bind fun _ =>
          env.updatePart json "scorbitd" env.scorbitdUpdateThrows := by
    intro notInProgress
    rw [checkNewVersionAndUpdate, notInProgress]
    rfl
  unfold UpdatesReached
  cases inProgress : env.updateInProgress with
  | true => simp [checkNewVersionAndUpdate, inProgress]
  | false =>
      rw [isParts inProgress, isDefined_bind, isDefined_updatePart]
      simp only [forall_const]
      refine and_congr_right fun reached => ?_
      rw [← updatePart_eq_value_iff reached]
      constructor
      · exact fun next isValue => isDefined_updatePart.mp (next () isValue)
      · exact fun next _ isValue => isDefined_updatePart.mpr (next isValue)

end ReplyEnvironment

/-! ## Which replies the callbacks return from -/

/-- The callbacks with what they capture. -/
inductive ReplyCallback
  | createSession (sessionId : Int)
  | updateSession (sessionId : Int)
  | requestSessionData (sessionUuid : List Char)
  | parseScorbitronObject
  | requestMachineObject
  | getConfig
  | requestReleaseTrackInfo
  | createNfcNonces

namespace ReplyEnvironment

def invoke (env : ReplyEnvironment) (error : Error) (reply : List Char) :
    ReplyCallback → JsonOutcome Unit
  | .createSession sessionId => env.createSession sessionId error reply
  | .updateSession sessionId => env.updateSession sessionId error reply
  | .requestSessionData sessionUuid =>
      env.requestSessionData sessionUuid error reply
  | .parseScorbitronObject => env.parseScorbitronObject error reply
  | .requestMachineObject => env.requestMachineObject error reply
  | .getConfig => env.getConfig error reply
  | .requestReleaseTrackInfo => env.requestReleaseTrackInfo error reply
  | .createNfcNonces => env.createNfcNonces error reply

/-- What a reply has to be like, where the request has succeeded. -/
def Readable (env : ReplyEnvironment) (reply : List Char) :
    ReplyCallback → Prop
  | .createSession sessionId => ∀ json uuid, env.parse reply = some json →
      json.find? "id" = some (string uuid) →
        (env.sessions.lookup sessionId).isSome = true → env.ScoresReached json
  | .updateSession sessionId => env.isSessionActive sessionId = true →
      ∀ json, env.parse reply = some json → env.ScoresReached json
  | .requestSessionData sessionUuid => 0 ≤ env.findSession sessionUuid →
      ∃ json, env.parse reply = some json ∧
        ((env.sessionsLater.lookup (env.findSession sessionUuid)).isSome = true →
          env.ScoresReached json)
  | .requestReleaseTrackInfo =>
      ∀ json, env.parse reply = some json → env.UpdatesReached json
  | .parseScorbitronObject => True
  | .requestMachineObject => True
  | .getConfig => True
  | .createNfcNonces => True

variable {env : ReplyEnvironment} {reply : List Char}

theorem parseJson_eq_value_iff {json : JsonNode} :
    env.parseJson reply = value json ↔ env.parse reply = some json := by
  unfold parseJson
  cases env.parse reply <;> simp [ofOption]

/-- A callback with a handler returns if nothing that it reads is undefined. -/
theorem returns_caught {use : JsonNode → JsonOutcome Unit} :
    (catching () ((env.parseJson reply).bind use)).Returns ↔
      ∀ json, env.parse reply = some json → (use json).IsDefined := by
  have defined : (env.parseJson reply).IsDefined := isDefined_ofOption _
  rw [returns_catching, isDefined_bind]
  simp only [defined, true_and, parseJson_eq_value_iff]

theorem isDefined_scores {json : JsonNode} :
    (json.whenMember "scores" isArray
      env.processScoresAndPlayersProfiles).IsDefined ↔
        env.ScoresReached json := by
  rw [isDefined_whenMember]
  refine forall_congr' fun scores => imp_congr_right fun _ =>
    imp_congr_right fun isArray => ?_
  exact isDefined_processScoresAndPlayersProfiles isArray

theorem isDefined_nothing {json : JsonNode} {key : String}
    {hasType : JsonNode → Bool} :
    (json.whenMember key hasType fun _ => value ()).IsDefined :=
  isDefined_whenMember.mpr fun _ _ _ => trivial

theorem returns_createSession {sessionId : Int} :
    (env.createSession sessionId .success reply).Returns ↔
      env.Readable reply (.createSession sessionId) := by
  rw [createSession, if_pos rfl, returns_caught]
  constructor
  · intro defined json uuid parsed isUuid inTable
    obtain ⟨session, isSession⟩ := Option.isSome_iff_exists.mp inTable
    have found := isDefined_whenMember.mp (defined json parsed) _ isUuid rfl
    rw [isSession, isDefined_bind] at found
    exact isDefined_scores.mp found.1
  · intro readable json parsed
    refine isDefined_whenMember.mpr fun found isFound hasUuid => ?_
    cases isSession : env.sessions.lookup sessionId with
    | none => trivial
    | some session =>
        cases found with
        | string uuid =>
            have reached := readable json uuid parsed isFound
              (Option.isSome_iff_exists.mpr ⟨session, isSession⟩)
            refine isDefined_bind.mpr ⟨isDefined_scores.mpr reached, ?_⟩
            intro _ _
            exact isDefined_catching.mpr (isDefined_throwsIf _)
        | _ => cases hasUuid

theorem returns_updateSession {sessionId : Int} :
    (env.updateSession sessionId .success reply).Returns ↔
      env.Readable reply (.updateSession sessionId) := by
  rw [updateSession, if_pos rfl, Readable]
  cases env.isSessionActive sessionId with
  | false => simp
  | true =>
      simp only [Bool.not_true, Bool.false_eq_true, if_false, forall_const]
      rw [returns_caught]
      simp only [isDefined_scores]

/-- The one callback without a handler. -/
theorem returns_requestSessionData {sessionUuid : List Char} :
    (env.requestSessionData sessionUuid .success reply).Returns ↔
      env.Readable reply (.requestSessionData sessionUuid) := by
  rw [requestSessionData, if_pos rfl, Readable]
  dsimp only
  split
  · next isSession =>
    simp only [isSession, forall_const]
    rw [returns_bind]
    refine exists_congr fun json => ?_
    rw [parseJson_eq_value_iff]
    refine and_congr_right fun _ => ?_
    cases env.sessionsLater.lookup (env.findSession sessionUuid) with
    | none =>
        have defined := @isDefined_nothing json "scores" isArray
        have notThrown := @whenMember_ne_throws json "scores" isArray
          (fun _ => value ()) nofun
        exact iff_of_true ((returns_iff_isDefined notThrown).mpr defined) nofun
    | some session =>
        have notThrown := @whenMember_ne_throws json "scores" isArray
          env.processScoresAndPlayersProfiles
          fun _ => processScoresAndPlayersProfiles_ne_throws
        simp only [Option.isSome_some, forall_const]
        rw [← isDefined_scores]
        exact returns_iff_isDefined notThrown
  · next noSession => simp [noSession]

theorem returns_parseScorbitronObject :
    (env.parseScorbitronObject .success reply).Returns := by
  rw [parseScorbitronObject, if_neg (not_not.mpr rfl), returns_caught]
  intro json _
  refine isDefined_bind.mpr ⟨isDefined_nothing, fun _ _ => ?_⟩
  refine isDefined_bind.mpr ⟨?_, fun _ _ => ?_⟩
  · exact isDefined_whenMember.mpr fun _ _ _ => isDefined_nothing
  · exact isDefined_whenMember.mpr fun _ _ _ => isDefined_nothing

theorem returns_requestMachineObject :
    (env.requestMachineObject .success reply).Returns := by
  rw [requestMachineObject, if_pos rfl, returns_caught]
  intro json _
  refine isDefined_bind.mpr ⟨isDefined_readMembers.mpr ?_, fun _ _ => ?_⟩
  · exact hasReached_of_checked (by simp)
  · exact isDefined_whenMember.mpr fun _ _ _ => isDefined_nothing

theorem returns_getConfig : (env.getConfig .success reply).Returns := by
  rw [getConfig, if_neg (not_not.mpr rfl), returns_caught]
  intro json _
  refine isDefined_bind.mpr ⟨isDefined_nothing, fun _ _ => ?_⟩
  refine isDefined_bind.mpr ⟨isDefined_nothing, fun _ _ => ?_⟩
  refine isDefined_bind.mpr ⟨?_, fun _ _ => isDefined_nothing⟩
  refine isDefined_whenMember.mpr fun _ _ _ => ?_
  exact isDefined_bind.mpr ⟨isDefined_nothing, fun _ _ => isDefined_nothing⟩

theorem returns_requestReleaseTrackInfo :
    (env.requestReleaseTrackInfo .success reply).Returns ↔
      env.Readable reply .requestReleaseTrackInfo := by
  rw [requestReleaseTrackInfo, if_pos rfl, returns_caught, Readable]
  simp only [isDefined_checkNewVersionAndUpdate]

theorem returns_createNfcNonces :
    (env.createNfcNonces .success reply).Returns := by
  rw [createNfcNonces, if_pos rfl, returns_caught]
  intro json _
  refine isDefined_whenMember.mpr fun nonces _ _ => ?_
  refine isDefined_bind.mpr ⟨isDefined_forEach (fun nonce => ?_) _, fun _ _ => ?_⟩
  · exact isDefined_bind.mpr ⟨isDefined_ofOption _, fun _ _ => trivial⟩
  · exact isDefined_throwsIf _

/-- Which replies a callback returns from. -/
theorem returns_iff (env : ReplyEnvironment) (error : Error)
    (reply : List Char) (callback : ReplyCallback) :
    (env.invoke error reply callback).Returns ↔
      (error = .success → env.Readable reply callback) := by
  by_cases succeeded : error = .success
  · subst succeeded
    simp only [forall_const]
    cases callback with
    | createSession sessionId => exact returns_createSession
    | updateSession sessionId => exact returns_updateSession
    | requestSessionData sessionUuid => exact returns_requestSessionData
    | parseScorbitronObject =>
        exact iff_of_true returns_parseScorbitronObject trivial
    | requestMachineObject =>
        exact iff_of_true returns_requestMachineObject trivial
    | getConfig => exact iff_of_true returns_getConfig trivial
    | requestReleaseTrackInfo => exact returns_requestReleaseTrackInfo
    | createNfcNonces => exact iff_of_true returns_createNfcNonces trivial
  · refine iff_of_true ?_ fun success => absurd success succeeded
    cases callback <;>
      simp [invoke, createSession, updateSession, requestSessionData,
        parseScorbitronObject, requestMachineObject, getConfig,
        requestReleaseTrackInfo, createNfcNonces, succeeded]

/-- One active session, and a parser that reads every text but one as `json`. -/
def oneSession (json : JsonNode) : ReplyEnvironment where
  parse reply := if reply = "<html>".toList then none else some json
  canResize _ := true
  sessions := [(1, { sessionUuid := "uuid".toList, isGameActive := true })]
  sessionsLater := [(1, { sessionUuid := "uuid".toList, isGameActive := true })]
  onCreatedThrows := false
  setNfcTagThrows := false
  updateInProgress := false
  matchSdkUrl _ := none
  matchScorbitdName _ := none
  sdkPlatformId := []
  scorbitdPlatformId := []
  sdkUpdateThrows := false
  scorbitdUpdateThrows := false

/-- The data of a session that is in the table come as a text that is no JSON. -/
theorem throws_notJson :
    ¬((oneSession .null).invoke .success "<html>".toList
      (.requestSessionData "uuid".toList)).Returns := by
  have throws : (oneSession .null).invoke .success "<html>".toList
      (.requestSessionData "uuid".toList) = throws := rfl
  rw [throws]
  exact id

-- A score without a position is undefined behind the handler of `createSession`.
example : (oneSession (object [("id", string "uuid".toList),
    ("scores", array [object []])])).invoke .success []
      (.createSession 1) = undefined := rfl

end ReplyEnvironment

end ScorbitSdk
