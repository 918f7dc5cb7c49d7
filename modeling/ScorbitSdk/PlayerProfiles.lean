import ScorbitSdk.JsonReads
import Mathlib.Data.List.Basic

/-!
# Profiles of the players

`setProfiles` enters the elements of an array into a vector at their positions.
The fields of a profile are written as they are read, so that an element that
turns out to be malformed leaves what has been written before, and an element at
a position that another one has had leaves what it does not write itself.
-/

namespace ScorbitSdk

open JsonOutcome JsonNode

namespace PlayerProfilesManager

structure PlayerProfile where
  player : Nat := 0
  preferInitials : Bool := false
  id : List Char := []
  username : List Char := []
  name : List Char := []
  initials : List Char := []
  pictureUrl : List Char := []
  url : List Char := []
  claimDeeplink : List Char := []
  deriving DecidableEq

/-- A field of a profile and what is written to it. -/
inductive Assignment
  | player (number : Nat)
  | preferInitials (preferred : Bool)
  | id (text : List Char)
  | username (text : List Char)
  | name (text : List Char)
  | initials (text : List Char)
  | pictureUrl (text : List Char)
  | url (text : List Char)
  | claimDeeplink (text : List Char)

def Assignment.apply (profile : PlayerProfile) : Assignment → PlayerProfile
  | player number => { profile with player := number }
  | preferInitials preferred => { profile with preferInitials := preferred }
  | id text => { profile with id := text }
  | username text => { profile with username := text }
  | name text => { profile with name := text }
  | initials text => { profile with initials := text }
  | pictureUrl text => { profile with pictureUrl := text }
  | url text => { profile with url := text }
  | claimDeeplink text => { profile with claimDeeplink := text }

/-! ## What is read of an element -/

def readText (player : JsonNode) (key : String) (field : List Char → Assignment) :
    JsonOutcome Assignment :=
  (player.indexAs key getString).bind fun text => value (field text)

def getBoolean : JsonNode → Option Bool
  | boolean truth => some truth
  | _ => none

/-- `value(JKEY_PLAYER_PREFER_INITIALS, false)` of an object. -/
def readPreferInitials (player : JsonNode) : JsonOutcome Assignment :=
  match player.find? "prefer_initials" with
  | some found => (ofOption (getBoolean found)).bind fun preferred =>
      value (.preferInitials preferred)
  | none => value (.preferInitials false)

def readAvatar (player : JsonNode) : List (JsonOutcome Assignment) :=
  match (player.find? "avatar").bind getString with
  | some avatar => [value (.pictureUrl avatar)]
  | none => []

def playerReads (player : JsonNode) : List (JsonOutcome Assignment) :=
  [readText player "id" .id, readPreferInitials player,
    readText player "username" .username, readText player "display_name" .name,
    readText player "initials" .initials, readText player "url" .url] ++
    readAvatar player

def claimDeeplink (machineUuid : List Char) (scoreId : Nat) : List Char :=
  "https://scorbit.link/machines/".toList ++ machineUuid ++
    "/?score_id=".toList ++ (toString scoreId).toList

def scoreIdReads (machineUuid : List Char) (obj : JsonNode) :
    List (JsonOutcome Assignment) :=
  [(obj.indexAs "id" getUnsigned64).bind fun scoreId =>
    value (.claimDeeplink (claimDeeplink machineUuid scoreId.toNat))]

/-- The player of an element that is claimed. -/
def playerOf (obj : JsonNode) : Option JsonNode :=
  (obj.find? "player").filter JsonNode.isObject

def elementReads (machineUuid : List Char) (obj : JsonNode) :
    List (JsonOutcome Assignment) :=
  match playerOf obj with
  | some player => playerReads player
  | none => scoreIdReads machineUuid obj

/-- The fields are written one after another, up to the first one that throws. -/
def carryOut (profile : PlayerProfile) :
    List (JsonOutcome Assignment) → JsonOutcome PlayerProfile
  | [] => value profile
  | .value assignment :: reads => carryOut (assignment.apply profile) reads
  | .throws :: _ => value profile
  | .undefined :: _ => .undefined

section Source

variable (limit : Nat) (machineUuid : List Char)

/-- The loop's body.  To more than `limit` profiles the vector cannot be resized,
which is caught like anything that is thrown. -/
def setProfile (profiles : List PlayerProfile) (obj : JsonNode) :
    JsonOutcome (List PlayerProfile) :=
  if !obj.isObject then value profiles
  else
    match obj.indexAs "position" getUnsigned32 with
    | .undefined => .undefined
    | .throws => value profiles
    | .value playerNum =>
        if playerNum = 0 then value profiles
        else if profiles.length < playerNum.toNat ∧ limit < playerNum.toNat then
          value profiles
        else
          let profiles := profiles.rightpad playerNum.toNat {}
          let index := playerNum.toNat - 1
          (carryOut ((profiles[index]?).getD {})
            (value (.player playerNum.toNat) :: elementReads machineUuid obj)).bind
              fun profile => value (profiles.set index profile)

def setProfilesFrom : List PlayerProfile → List JsonNode →
    JsonOutcome (List PlayerProfile)
  | profiles, [] => value profiles
  | profiles, obj :: rest =>
      (setProfile limit machineUuid profiles obj).bind fun profiles =>
        setProfilesFrom profiles rest

/-- What is returned, and what is stored then. -/
def setProfiles (m_profiles : List PlayerProfile) (val : JsonNode) :
    JsonOutcome (Option (List PlayerProfile) × List PlayerProfile) :=
  match val with
  | array elements =>
      (setProfilesFrom limit machineUuid [] elements).bind fun profiles =>
        value (if profiles ≠ m_profiles then (some profiles, profiles)
          else (none, m_profiles))
  | _ => value (none, m_profiles)

end Source

/-! ## What an element is to give -/

def position? (obj : JsonNode) : Option Nat :=
  ((obj.find? "position").bind natural?).filter fun p => 1 ≤ p ∧ p < 2 ^ 32

def textOf (node : JsonNode) (key : String) : Option (List Char) :=
  (node.find? key).bind getString

def preferInitials? (player : JsonNode) : Option Bool :=
  match player.find? "prefer_initials" with
  | some found => getBoolean found
  | none => some false

def claimedProfile? (player : JsonNode) (position : Nat) :
    Option PlayerProfile := do
  let id ← textOf player "id"
  let preferInitials ← preferInitials? player
  let username ← textOf player "username"
  let name ← textOf player "display_name"
  let initials ← textOf player "initials"
  let url ← textOf player "url"
  let pictureUrl := (textOf player "avatar").getD []
  some { player := position, preferInitials, id, username, name, initials,
         pictureUrl, url }

def unclaimedProfile? (machineUuid : List Char) (obj : JsonNode) (position : Nat) :
    Option PlayerProfile := do
  let scoreId ← (obj.find? "id").bind natural?
  some { player := position, claimDeeplink := claimDeeplink machineUuid scoreId }

/-- The position and the fields of an element that is well-formed. -/
def ownProfile? (machineUuid : List Char) (obj : JsonNode) :
    Option (Nat × PlayerProfile) := do
  let position ← position? obj
  let profile ←
    match playerOf obj with
    | some player => claimedProfile? player position
    | none => unclaimedProfile? machineUuid obj position
  some (position, profile)

def place (profiles : List PlayerProfile) (own : Nat × PlayerProfile) :
    List PlayerProfile :=
  (profiles.rightpad own.1 {}).set (own.1 - 1) own.2

/-- The profiles of the well-formed elements alone, each with its own fields. -/
def expected (machineUuid : List Char) (objects : List JsonNode) :
    List PlayerProfile :=
  (objects.filterMap (ownProfile? machineUuid)).foldl place []

/-- The profiles are those of the well-formed elements; they are returned and stored
unless they are what is stored already. -/
def Settles (limit : Nat) (machineUuid : List Char)
    (m_profiles : List PlayerProfile) (objects : List JsonNode) : Prop :=
  setProfiles limit machineUuid m_profiles (array objects) =
    value (if expected machineUuid objects = m_profiles then (none, m_profiles)
      else (some (expected machineUuid objects), expected machineUuid objects))

end PlayerProfilesManager

end ScorbitSdk
