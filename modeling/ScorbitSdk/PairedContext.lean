import Mathlib.Logic.Function.Basic
import ScorbitSdk.WorkerTasks

/-!
# What is known of the paired machine

The ids of the machine are filled in by the replies to three requests, and
cleared by some of the handlers that set the status to unpaired.  A signal or a
callback runs as one step here; the replies come in any order, and a request
may be sent and answered at any time after its check of the status.

A pairing lasts until the status is set to unpaired, or until the machine is
found to be paired with another one than the one that is known: a scorbitron
object names another machine, or a request to pair with another one succeeds.
Which pairing a request was sent during is remembered with it, and with the
values of its reply.
-/

namespace ScorbitSdk

/-- The title, which is never empty, is left out. -/
structure MachineInfo where
  opdbId : String := ""
  machineUuid : String := ""
  variantUuid : Option String := none
  gameSlug : Option String := none
  venueUuid : Option String := none
  deriving DecidableEq

inductive ContextField
  | opdbId
  | machineUuid
  | variantUuid
  | gameSlug
  | venueUuid
  | machineChannel
  deriving DecidableEq

/-- What `parseScorbitronObject` reads of the machine. -/
structure MachineObject where
  isPaired : Bool
  machineUuid : Option String := none

/-- The strings that a configuration has. -/
structure ConfigReply where
  variantUuid : Option String := none
  venueUuid : Option String := none
  opdbId : Option String := none

def ConfigReply.stores (config : ConfigReply) : ContextField → Bool
  | .variantUuid => config.variantUuid.isSome
  | .venueUuid => config.venueUuid.isSome
  | .opdbId => config.opdbId.isSome
  | _ => false

/-- What the callbacks find in the text of a reply: the scorbitron object and
the machine object if it parses as such, and the strings of a configuration. -/
structure ContextBody where
  object : Option MachineObject := none
  config : ConfigReply := {}
  gameSlug : Option (Option String) := none

inductive ContextReply
  | ok (body : ContextBody)
  | noResponse
  | unauthorized
  | failed

/-- The requests whose callbacks write what is known of the machine, or the
status. -/
inductive ContextRequest
  | sendScorbitronObject
  | setCapabilities
  | requestPairMachine (machineUuid : String)
  | requestUnpair
  | getConfig
  | requestMachineObject
  deriving DecidableEq

def ContextRequest.http : ContextRequest → HttpRequest
  | sendScorbitronObject => .sendScorbitronObject
  | setCapabilities => .setCapabilities
  | requestPairMachine _ => .requestPairMachine
  | requestUnpair => .requestUnpair
  | getConfig => .getConfig
  | requestMachineObject => .requestMachineObject

/-- How far the task of a request is. -/
inductive ContextTask
  | waiting (request : ContextRequest) (attempt : Nat)
  | checking (request : ContextRequest) (attempt : Nat)
  | sending (request : ContextRequest) (attempt : Nat)
  /-- Its reply is to come; it was sent during a pairing, if one is given. -/
  | sent (request : ContextRequest) (attempt : Nat) (sentDuring : Option Nat)
  | refused (request : ContextRequest) (error : Error)
  | done

structure PairedContext where
  stop : Bool := false
  status : AuthStatus := .notAuthenticated
  /-- A normal authentication is under way and has the mutex. -/
  authenticating : Bool := false
  machineInfo : MachineInfo := {}
  machineChannel : String := ""
  tasks : List ContextTask := []
  /-- How many pairings have ended. -/
  pairing : Nat := 0
  /-- The pairing during which the request was sent whose reply had the value
  of a field, if it was sent while the machine was paired.  A reply that names
  the machine belongs to the pairing that it tells of. -/
  sentDuring : ContextField → Option Nat := fun _ => none

inductive ContextAction
  | call (request : ContextRequest)
  | paired
  | unpaired
  | authenticate
  /-- The normal authentication ends, with a token or without. -/
  | authenticated (hasToken : Bool)
  /-- The token is not refreshed. -/
  | refreshFails
  | destroy
  | goOn (task : Nat)
  | check (task : Nat)
  | send (task : Nat)
  | reply (task : Nat) (reply : ContextReply)
  | refuse (task : Nat)

def ContextTask.nextAttempt (request : ContextRequest) (attempt : Nat) :
    ContextTask :=
  if attempt + 1 < numRetries then .waiting request (attempt + 1) else .done

namespace PairedContext

def isEmpty (state : PairedContext) : ContextField → Bool
  | .opdbId => state.machineInfo.opdbId = ""
  | .machineUuid => state.machineInfo.machineUuid = ""
  | .variantUuid => state.machineInfo.variantUuid = none
  | .gameSlug => state.machineInfo.gameSlug = none
  | .venueUuid => state.machineInfo.venueUuid = none
  | .machineChannel => state.machineChannel = ""

def checkAllowedStatuses (state : PairedContext) (request : ContextRequest) :
    Bool :=
  state.status ∈ request.http.allowedStatuses

def canGoOn (state : PairedContext) (request : ContextRequest) : Bool :=
  state.status = .authenticatedPaired ||
    state.status = .authenticatedUnpaired ||
    state.status = .authenticationFailed || state.stop ||
    state.checkAllowedStatuses request

/-- The pairing that a request is sent during. -/
def currentPairing? (state : PairedContext) : Option Nat :=
  if state.status = .authenticatedPaired then some state.pairing else none

/-- The request was sent during an earlier pairing. -/
def isEarlier (state : PairedContext) (sentDuring : Option Nat) : Bool :=
  sentDuring.any (· < state.pairing)

def clearPairedMachineContext (state : PairedContext) : PairedContext :=
  { state with
    machineInfo := {}, machineChannel := "", sentDuring := fun _ => none }

def setUnpaired (state : PairedContext) : PairedContext :=
  { state with
    status := .authenticatedUnpaired, pairing := state.pairing + 1 }

def onPaired (state : PairedContext) : PairedContext :=
  { state with status := .authenticatedPaired }

def onUnpaired (state : PairedContext) : PairedContext :=
  state.setUnpaired.clearPairedMachineContext

/-- With another machine than the one that is known a pairing begins. -/
def pairedWith (state : PairedContext) (machineUuid : String) :
    PairedContext :=
  if state.machineInfo.machineUuid = "" ∨
      state.machineInfo.machineUuid = machineUuid then state
  else { state with pairing := state.pairing + 1 }

/-- A machine object with a uuid names the machine.  It belongs to the pairing
that it tells of, unless its request was sent during an earlier one. -/
def storeMachine (state : PairedContext) (sentDuring : Option Nat) :
    Option String → PairedContext
  | some machineUuid =>
      { state.pairedWith machineUuid with
        machineInfo := { state.machineInfo with machineUuid := machineUuid }
        machineChannel := "machine:" ++ machineUuid
        sentDuring := fun field =>
          if field = .machineUuid ∨ field = .machineChannel then
            if state.isEarlier sentDuring then sentDuring
            else some (state.pairedWith machineUuid).pairing
          else state.sentDuring field }
  | none => state

def parseScorbitronObject (state : PairedContext) (sentDuring : Option Nat) :
    Option MachineObject → PairedContext
  | none => state
  | some object =>
      if object.isPaired then
        { state.storeMachine sentDuring object.machineUuid with
          status := .authenticatedPaired }
      else if state.status = .authenticatedUnpaired then
        state.clearPairedMachineContext
      else state.clearPairedMachineContext.setUnpaired

def storeConfig (state : PairedContext) (sentDuring : Option Nat)
    (config : ConfigReply) : PairedContext :=
  { state with
    machineInfo := { state.machineInfo with
      variantUuid := config.variantUuid <|> state.machineInfo.variantUuid
      venueUuid := config.venueUuid <|> state.machineInfo.venueUuid
      opdbId := config.opdbId.getD state.machineInfo.opdbId }
    sentDuring := fun field =>
      if config.stores field then sentDuring else state.sentDuring field }

/-- A machine object without a slug resets it. -/
def storeGameSlug (state : PairedContext) (sentDuring : Option Nat) :
    Option (Option String) → PairedContext
  | none => state
  | some gameSlug =>
      { state with
        machineInfo := { state.machineInfo with gameSlug := gameSlug }
        sentDuring := fun field =>
          if field = .gameSlug then sentDuring else state.sentDuring field }

/-- The callback of a request that succeeded. -/
def succeed (state : PairedContext) (sentDuring : Option Nat)
    (body : ContextBody) : ContextRequest → PairedContext
  | .getConfig => state.storeConfig sentDuring body.config
  | .requestMachineObject => state.storeGameSlug sentDuring body.gameSlug
  | .requestUnpair =>
      (state.parseScorbitronObject sentDuring body.object).setUnpaired
  | .requestPairMachine machineUuid =>
      (state.parseScorbitronObject sentDuring body.object).pairedWith
        ((body.object.bind MachineObject.machineUuid).getD machineUuid)
  | _ => state.parseScorbitronObject sentDuring body.object

/-- The callback of a request that was refused: only that of `requestUnpair`
does something, which takes a machine that is not paired for unpaired. -/
def refuse (state : PairedContext) (request : ContextRequest) (error : Error) :
    PairedContext :=
  if request = .requestUnpair ∧ error = .notPaired then state.setUnpaired
  else state

def setTask (state : PairedContext) (index : Nat) (task : ContextTask) :
    PairedContext :=
  { state with tasks := state.tasks.set index task }

/-- What becomes of a request that has its reply. -/
def replied (state : PairedContext) (index : Nat) (request : ContextRequest)
    (attempt : Nat) (sentDuring : Option Nat) :
    ContextReply → Option PairedContext
  | .ok body =>
      some ((state.succeed sentDuring body request).setTask index .done)
  | .noResponse =>
      some (state.setTask index (.nextAttempt request attempt))
  | .unauthorized =>
      if state.authenticating then none
      else if state.status = .notAuthenticated ∨
          state.status = .authenticating ∨
          state.status = .authenticationFailed then
        some (state.setTask index (.nextAttempt request attempt))
      else
        some ({ state with status := .notAuthenticated }.setTask index
          (.nextAttempt request attempt))
  | .failed => some (state.setTask index .done)

def step (state : PairedContext) : ContextAction → Option PairedContext
  | .call request =>
      some { state with tasks := state.tasks ++ [.waiting request 0] }
  | .paired => if state.stop then none else some state.onPaired
  | .unpaired => if state.stop then none else some state.onUnpaired
  | .authenticate =>
      if state.authenticating ∨ state.status ≠ .notAuthenticated then none
      else
        some { state with status := .authenticating, authenticating := true }
  | .authenticated hasToken =>
      if state.authenticating then
        some { state with
          authenticating := false
          status := if hasToken then .authenticatedCheckingPairing
            else .authenticationFailed }
      else none
  | .refreshFails => some { state with status := .authenticationFailed }
  | .destroy => some { state with stop := true }
  | .goOn index =>
      match state.tasks[index]? with
      | some (.waiting request attempt) =>
          if state.canGoOn request ∧ state.authenticating = false then
            some (state.setTask index (.checking request attempt))
          else none
      | _ => none
  | .check index =>
      match state.tasks[index]? with
      | some (.checking request attempt) =>
          some (state.setTask index
            (if state.checkAllowedStatuses request then
              .sending request attempt
            else .refused request
              (if state.status = .authenticationFailed then .authFailed
              else .notPaired)))
      | _ => none
  | .send index =>
      match state.tasks[index]? with
      | some (.sending request attempt) =>
          some (state.setTask index
            (.sent request attempt state.currentPairing?))
      | _ => none
  | .reply index reply =>
      match state.tasks[index]? with
      | some (.sent request attempt sentDuring) =>
          state.replied index request attempt sentDuring reply
      | _ => none
  | .refuse index =>
      match state.tasks[index]? with
      | some (.refused request error) =>
          some ((state.refuse request error).setTask index .done)
      | _ => none

/-- Nothing is known of a machine. -/
def HoldsNothing (state : PairedContext) : Prop :=
  ∀ field, state.isEmpty field = true

/-- Nothing is known that a reply to a request of an earlier pairing had. -/
def HoldsNothingEarlier (state : PairedContext) : Prop :=
  ∀ field, state.isEmpty field = false →
    state.isEarlier (state.sentDuring field) = false

/-- Nothing is known of a machine that is unpaired, nor is anything left of an
earlier pairing where it is paired. -/
structure CleanContext (state : PairedContext) : Prop where
  unpaired : state.status = .authenticatedUnpaired → state.HoldsNothing
  paired : state.status = .authenticatedPaired → state.HoldsNothingEarlier

end PairedContext

namespace PairedContext

variable {state next : PairedContext} {action : ContextAction}

/-- What the tasks do before their replies does not matter. -/
theorem CleanContext.congr (clean : state.CleanContext)
    (statusEq : next.status = state.status)
    (machineInfoEq : next.machineInfo = state.machineInfo)
    (channelEq : next.machineChannel = state.machineChannel)
    (pairingEq : next.pairing = state.pairing)
    (sentDuringEq : next.sentDuring = state.sentDuring) :
    next.CleanContext := by
  have sameEmpty : next.isEmpty = state.isEmpty := by
    funext field
    cases field <;> simp [isEmpty, machineInfoEq, channelEq]
  have sameEarlier : next.isEarlier = state.isEarlier := by
    funext sentDuring
    simp [isEarlier, pairingEq]
  refine { unpaired := ?_, paired := ?_ }
  · intro isUnpaired field
    rw [sameEmpty]
    exact clean.unpaired (statusEq ▸ isUnpaired) field
  · intro isPaired field
    rw [sameEmpty, sameEarlier, sentDuringEq]
    exact clean.paired (statusEq ▸ isPaired) field

theorem isEmpty_pairedWith (machineUuid : String) :
    (state.pairedWith machineUuid).isEmpty = state.isEmpty := by
  unfold pairedWith
  split <;> rfl

/-- The task of a request up to its reply. -/
def sentRequest (index : Nat) (request : ContextRequest) :
    List ContextAction :=
  [.call request, .goOn index, .check index, .send index]

/-- The machine is found to be paired, and its configuration requested. -/
def configRequested : List ContextAction :=
  [.authenticate, .authenticated true] ++
    sentRequest 0 .sendScorbitronObject ++
    [.reply 0 (.ok
      { object := some { isPaired := true, machineUuid := some "machine" } })] ++
    sentRequest 1 .getConfig

/-- Once the machine is paired with another one, the variant of the first one is
still known. -/
example :
    ((Transition.run step {} (configRequested ++
      [.reply 1 (.ok { config := { variantUuid := some "variant" } })] ++
      sentRequest 2 (.requestPairMachine "other") ++
      [.reply 2 (.ok
        { object :=
            some { isPaired := true, machineUuid := some "other" } })])).any
      fun final => decide (final.status = .authenticatedPaired) &&
        decide (final.machineInfo.machineUuid = "other") &&
        !final.isEmpty .variantUuid &&
        final.isEarlier (final.sentDuring .variantUuid)) = true := by
  decide +kernel

end PairedContext

end ScorbitSdk
