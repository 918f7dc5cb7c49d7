import ScorbitSdk.AuthMutex

/-!
# Soundness of the authentication status

Only a reply with a token is to lead from a status without authentication to
one with it, and a failed authentication is final.  The handlers assign the
status without a look at the present one, or some time after it: a signal when
it has arrived, the callback of a request when the reply has come.  They do
what they should as long as no authentication fails and no request is
unauthorized while such a handler is on its way.
-/

namespace ScorbitSdk

def AuthStatus.isPairing : AuthStatus → Bool
  | authenticatedCheckingPairing => true
  | authenticatedUnpaired => true
  | authenticatedPaired => true
  | _ => false

/-- The statement sets a pairing status where there is one, and nothing else
over a failed authentication; with a token it does not find it failed. -/
def Statement.ReplacesSoundly (status : AuthStatus) : Statement → Prop
  | assignStatus new =>
      if new.isPairing then status.isPairing = true
      else new = .authenticationFailed ∨ status ≠ .authenticationFailed
  | authenticated => status ≠ .authenticationFailed
  | _ => True

namespace NetHandlers

/-- The step is that of a normal authentication which has a token. -/
def Authenticates (state : NetHandlers) : HandlerAction → Prop
  | .run handler _ =>
      ∃ rest, state.handlers[handler]? = some (.authenticated :: rest)
  | _ => False

/-- What the status may change to in one step. -/
structure SoundStep (state : NetHandlers) (action : HandlerAction)
    (next : NetHandlers) : Prop where
  authenticated : state.status.isPairing = false →
    next.status.isPairing = true → state.Authenticates action
  failed : state.status = .authenticationFailed →
    next.status = .authenticationFailed

/-- Every step that an action takes changes the status as it may. -/
def StepsSoundly (state : NetHandlers) (action : HandlerAction) : Prop :=
  ∀ next, state.step action = some next → state.SoundStep action next

/-- The statement that a handler runs next finds a status that it may
replace. -/
def AssignsSoundly (state : NetHandlers) : HandlerAction → Prop
  | .run handler _ => ∀ statement rest,
      state.handlers[handler]? = some (statement :: rest) →
        statement.ReplacesSoundly state.status
  | _ => True

variable {state next : NetHandlers} {action : HandlerAction}

theorem soundStep_of_same (same : next.status = state.status) :
    state.SoundStep action next where
  authenticated notPairing pairing := by
    rw [same, notPairing] at pairing
    cases pairing
  failed failed := same.trans failed

/-- A statement that assigns a status may do so if the status it finds lets
it. -/
theorem soundStep_assign {handler : Nat} {reply : WorkerReply}
    {status : AuthStatus} {rest : Handler}
    (isNext : state.handlers[handler]? = some (.assignStatus status :: rest))
    (statusEq : next.status = status) :
    state.SoundStep (.run handler reply) next ↔
      (Statement.assignStatus status).ReplacesSoundly state.status := by
  have notAuthenticates : ¬ state.Authenticates (.run handler reply) := by
    rintro ⟨other, isOther⟩
    rw [isNext] at isOther
    cases isOther
  simp only [Statement.ReplacesSoundly]
  constructor
  · intro sound
    split
    · rename_i pairing
      by_contra notPairing
      rw [Bool.not_eq_true] at notPairing
      exact notAuthenticates
        (sound.authenticated notPairing (statusEq ▸ pairing))
    · by_cases failed : state.status = .authenticationFailed
      · exact Or.inl (statusEq ▸ sound.failed failed)
      · exact Or.inr failed
  · intro replaces
    refine { authenticated := ?_, failed := ?_ }
    · intro notPairing pairing
      rw [statusEq] at pairing
      rw [if_pos pairing, notPairing] at replaces
      cases replaces
    · intro failed
      split at replaces
      · rw [failed] at replaces
        cases replaces
      · exact statusEq.trans (replaces.resolve_right (absurd failed))

theorem soundStep_authenticated {handler : Nat} {reply : WorkerReply}
    {rest : Handler}
    (isNext : state.handlers[handler]? = some (.authenticated :: rest))
    (statusEq : next.status = .authenticatedCheckingPairing) :
    state.SoundStep (.run handler reply) next ↔
      state.status ≠ .authenticationFailed := by
  constructor
  · intro sound failed
    have still := sound.failed failed
    rw [statusEq] at still
    cases still
  · intro notFailed
    exact {
      authenticated := fun _ _ => ⟨rest, isNext⟩
      failed := fun failed => absurd failed notFailed }

theorem soundStep_iff (taken : state.step action = some next) :
    state.SoundStep action next ↔ state.AssignsSoundly action := by
  cases step_cases taken with
  | run isNext isLeft =>
      rename_i handler reply statement rest left
      have assigns : state.AssignsSoundly (.run handler reply) ↔
          statement.ReplacesSoundly state.status := by
        simp [AssignsSoundly, isNext]
      rw [assigns]
      cases statement with
      | assignStatus status => exact soundStep_assign isNext rfl
      | authenticated => exact soundStep_authenticated isNext rfl
      | _ => exact ⟨fun _ => trivial, fun _ => soundStep_of_same rfl⟩
  | _ => exact ⟨fun _ => trivial, fun _ => soundStep_of_same rfl⟩

/-- A step changes the status as it may if the statement that is run finds a
status that it may replace. -/
theorem stepsSoundly_iff (taken : state.step action = some next) :
    state.StepsSoundly action ↔ state.AssignsSoundly action := by
  rw [← soundStep_iff taken]
  constructor
  · exact fun sound => sound next taken
  · intro sound other otherTaken
    rw [taken, Option.some.injEq] at otherTaken
    exact otherTaken ▸ sound

end NetHandlers

/-! ## Handlers that are on their way -/

/-- What a callback runs once the reply is there. -/
def Handler.ofCallback (request : HandlerRequest) (error : Error)
    (object : Option ScorbitronObject) : Handler :=
  if request.callback = .other then []
  else Handler.parseScorbitronObject error object ++
    Handler.runCallback error request.callback

namespace Statement

/-- Another status than that of a failed authentication is going to be set, and
nothing looks at the present one any more: a request has been sent whose
callback may set it, or the callback runs; a normal authentication has begun;
a request has been found unauthorized. -/
def inFlight : Statement → Bool
  | assignStatus status => status ≠ .authenticationFailed
  | authenticated => true
  | requestToken normalAuthentication => normalAuthentication
  | send asked _ => asked.callback ≠ .other
  | callback asked error object =>
      Handler.ofCallback asked error object ≠ []
  | compareStatus _ => true
  | _ => false

/-- The status that a statement takes for granted. -/
def Finds (status : AuthStatus) : Statement → Prop
  | assignStatus .authenticationFailed => True
  | assignStatus .authenticating => status = .notAuthenticated
  | assignStatus _ => status.isPairing = true
  | authenticated => status ≠ .authenticationFailed
  | requestToken normalAuthentication =>
      normalAuthentication = true → status ≠ .authenticationFailed
  | send asked _ => asked.callback ≠ .other → status.isPairing = true
  | callback asked error object =>
      Handler.ofCallback asked error object ≠ [] → status.isPairing = true
  | compareStatus _ => status.isPairing = true
  | _ => True

/-- The status after all that a statement leads to, which may be any other one
if the statement waits or reads the status. -/
def MayLeave (status : AuthStatus) : Statement → AuthStatus → Prop
  | assignStatus new, later => later = new
  | compareStatus isPaired, later => later = pairingStatus isPaired
  | authenticated, later => later = .authenticatedCheckingPairing
  | notifyAll, later => later = status
  | resetLastEmittedPairingState, later => later = status
  | setRefreshingToken _, later => later = status
  | startTokenRefreshTimer _, later => later = status
  | cancelTokenRefreshTimer, later => later = status
  | emitPairingStatusEventIfChanged _, later => later = status
  | setLastEmittedPairingState _, later => later = status
  | pushPairingStatusChanged _, later => later = status
  | _, _ => True

theorem finds_of_not_inFlight {statement : Statement}
    (notInFlight : statement.inFlight = false) (status : AuthStatus) :
    statement.Finds status := by
  cases statement with
  | assignStatus new =>
      cases new with
      | authenticationFailed => trivial
      | _ => cases notInFlight
  | authenticated => cases notInFlight
  | compareStatus isPaired => cases notInFlight
  | requestToken normalAuthentication =>
      cases notInFlight
      exact nofun
  | send request attempt =>
      exact fun isOther => absurd isOther (of_decide_eq_false notInFlight)
  | callback request error object =>
      exact fun assigns => absurd assigns (of_decide_eq_false notInFlight)
  | _ => trivial

/-- Where the status is one with authentication, only the beginning of another
authentication takes something else for granted. -/
theorem finds_of_isPairing {statement : Statement} {status : AuthStatus}
    (pairing : status.isPairing = true)
    (notStart : statement ≠ .assignStatus .authenticating) :
    statement.Finds status := by
  have notFailed : status ≠ .authenticationFailed := by
    rintro rfl
    cases pairing
  cases statement with
  | assignStatus new =>
      cases new with
      | authenticationFailed => trivial
      | authenticating => exact absurd rfl notStart
      | _ => exact pairing
  | authenticated => exact notFailed
  | compareStatus isPaired => exact pairing
  | requestToken normalAuthentication => exact fun _ => notFailed
  | send request attempt => exact fun _ => pairing
  | callback request error object => exact fun _ => pairing
  | _ => trivial

/-- A normal authentication that begins takes nothing away. -/
theorem Finds.authenticating {statement : Statement}
    (finds : statement.Finds .notAuthenticated)
    (notStart : statement ≠ .assignStatus .authenticating) :
    statement.Finds .authenticating := by
  cases statement with
  | assignStatus new =>
      cases new with
      | authenticationFailed => trivial
      | authenticating => exact absurd rfl notStart
      | _ => cases finds
  | authenticated => nofun
  | requestToken normalAuthentication => nofun
  | compareStatus isPaired => cases finds
  | send request attempt => exact fun assigns => nomatch finds assigns
  | callback request error object => exact fun assigns => nomatch finds assigns
  | _ => trivial

theorem Finds.replacesSoundly {statement : Statement} {status : AuthStatus}
    (finds : statement.Finds status) : statement.ReplacesSoundly status := by
  have notFailed (pairing : status.isPairing = true) :
      status ≠ .authenticationFailed := by
    rintro rfl
    cases pairing
  cases statement with
  | assignStatus new =>
      cases new with
      | authenticationFailed => exact Or.inl rfl
      | authenticating =>
          have isStatus : status = .notAuthenticated := finds
          subst isStatus
          exact Or.inr nofun
      | notAuthenticated => exact Or.inr (notFailed finds)
      | _ => exact finds
  | authenticated => exact finds
  | _ => trivial

end Statement

namespace Handler

def inFlight (handler : Handler) : Bool :=
  handler.any Statement.inFlight

/-- The status that a handler takes for granted if no other one changes it.  A
normal authentication that sets its first status has the mutex. -/
def ReliesOn (status : AuthStatus) : Handler → Prop
  | [] => True
  | statement :: rest =>
      statement.Finds status ∧
        (statement = .assignStatus .authenticating →
          Handler.hold .free rest = none) ∧
        ∀ later, statement.MayLeave status later → ReliesOn later rest

variable {status : AuthStatus} {handler first second : Handler}

theorem reliesOn_of_not_inFlight (notInFlight : handler.inFlight = false)
    (status : AuthStatus) : handler.ReliesOn status := by
  induction handler generalizing status with
  | nil => trivial
  | cons statement rest ih =>
      rw [inFlight, List.any_cons, Bool.or_eq_false_iff] at notInFlight
      obtain ⟨notNow, notLater⟩ := notInFlight
      refine ⟨statement.finds_of_not_inFlight notNow status, ?_, ?_⟩
      · rintro rfl
        cases notNow
      · exact fun later _ => ih notLater later

/-- A statement that is not in flight and keeps the status may stand in front. -/
theorem ReliesOn.cons {statement : Statement}
    (notInFlight : statement.inFlight = false)
    (keeps : ∀ later, statement.MayLeave status later → later = status)
    (relies : handler.ReliesOn status) :
    Handler.ReliesOn status (statement :: handler) := by
  refine ⟨statement.finds_of_not_inFlight notInFlight status, ?_, ?_⟩
  · rintro rfl
    cases notInFlight
  · intro later leaves
    rw [keeps later leaves]
    exact relies

theorem reliesOn_singleton {statement : Statement}
    (finds : statement.Finds status)
    (notStart : statement ≠ .assignStatus .authenticating) :
    Handler.ReliesOn status [statement] :=
  ⟨finds, (absurd · notStart), fun _ _ => trivial⟩

theorem ReliesOn.append (firstRelies : first.ReliesOn status)
    (secondRelies : ∀ later, second.ReliesOn later) :
    Handler.ReliesOn status (first ++ second) := by
  induction first generalizing status with
  | nil => exact secondRelies status
  | cons statement first ih =>
      obtain ⟨finds, needsMutex, goesOn⟩ := firstRelies
      refine ⟨finds, fun starts => ?_, fun later leaves => ?_⟩
      · change Handler.hold .free (first ++ second) = none
        rw [hold_append, needsMutex starts, Option.bind_none]
      · exact ih (goesOn later leaves)

/-- A change of the status may take from a handler the one that it relies on
only where it is to begin a normal authentication, for which it has the
mutex. -/
theorem ReliesOn.change {new : AuthStatus}
    (relies : handler.ReliesOn status)
    (finds : ∀ statement : Statement,
      statement ≠ .assignStatus .authenticating →
        statement.Finds status → statement.Finds new)
    (apart : Handler.hold .free handler = some .free ∨
      status ≠ .notAuthenticated) :
    handler.ReliesOn new := by
  induction handler with
  | nil => trivial
  | cons statement rest ih =>
      obtain ⟨found, needsMutex, goesOn⟩ := relies
      have notStart : statement ≠ .assignStatus .authenticating := by
        rintro rfl
        obtain free | notFound := apart
        · have isFree : Handler.hold .free rest = some .free := free
          rw [needsMutex rfl] at isFree
          cases isFree
        · exact notFound found
      refine ⟨finds statement notStart found, (absurd · notStart), ?_⟩
      cases statement with
      | assignStatus assigned => exact goesOn
      | compareStatus isPaired => exact goesOn
      | authenticated => exact goesOn
      | notifyAll | resetLastEmittedPairingState | setRefreshingToken _
      | startTokenRefreshTimer _ | cancelTokenRefreshTimer
      | emitPairingStatusEventIfChanged _ | setLastEmittedPairingState _
      | pushPairingStatusChanged _ =>
          rintro later rfl
          exact ih (goesOn status rfl) apart
      | _ => exact fun later _ => goesOn later trivial

theorem ReliesOn.wake (relies : handler.ReliesOn status) :
    handler.wake.ReliesOn status := by
  unfold Handler.wake
  split
  · obtain ⟨-, -, goesOn⟩ := relies
    exact ⟨trivial, nofun, fun _ _ => ⟨trivial, nofun, fun later _ =>
      goesOn later trivial⟩⟩
  · exact relies

theorem not_inFlight_nextAttempt (request : HandlerRequest) (attempt : Nat) :
    inFlight (nextAttempt request attempt) = false := by
  unfold nextAttempt
  split
  · rfl
  · obtain ⟨allowedStatuses, callback⟩ := request
    cases callback <;> rfl

end Handler

namespace NetHandlers

/-- No handler but the given one is going to set another status unseen. -/
def NoOtherInFlight (state : NetHandlers) (index : Nat) : Prop :=
  ∀ other handler, other ≠ index → state.handlers[other]? = some handler →
    handler.inFlight = false

/-- A signal finds the machine authenticated, and so does the refusal of an
unpair request, unless the authentication has failed.  An authentication fails,
and a request that was found unauthorized resets the status, only while no
other handler is on its way that sets the status unseen. -/
def Undisturbed (state : NetHandlers) : HandlerAction → Prop
  | .paired => state.status.isPairing = true
  | .unpaired => state.status.isPairing = true
  | .run index _ => ∀ statement rest,
      state.handlers[index]? = some (statement :: rest) →
        match statement with
        | .assignStatus .authenticationFailed => state.NoOtherInFlight index
        | .assignStatus .notAuthenticated => state.NoOtherInFlight index
        | .refuse request => request.callback = .requestUnpair →
            state.status ≠ .notAuthenticated ∧ state.status ≠ .authenticating
        | _ => True
  | _ => True

/-- The status is one that every handler may take for granted. -/
def Relied (state : NetHandlers) : Prop :=
  ∀ handler ∈ state.handlers, handler.ReliesOn state.status

variable {state next : NetHandlers} {action : HandlerAction}

theorem isPairing_iff {status : AuthStatus} :
    status.isPairing = true ↔ status ≠ .notAuthenticated ∧
      status ≠ .authenticating ∧ status ≠ .authenticationFailed := by
  cases status <;> simp [AuthStatus.isPairing]

theorem reliesOn_requestToken {normalAuthentication : Bool}
    (notFailed : normalAuthentication = true →
      state.status ≠ .authenticationFailed) (reply : AuthReply) :
    Handler.ReliesOn state.status
      (state.requestToken normalAuthentication reply) := by
  have failed (stopsTimer : Handler) (idle : stopsTimer.inFlight = false) :
      Handler.ReliesOn state.status
        (Handler.authenticationFailed stopsTimer) := by
    apply Handler.reliesOn_of_not_inFlight
    simpa [Handler.authenticationFailed, Handler.inFlight, Statement.inFlight]
      using idle
  cases reply with
  | noSigner => exact failed [] rfl
  | noSignature => exact failed _ rfl
  | noToken =>
      simp only [requestToken]
      split
      · exact failed _ rfl
      · exact failed _ rfl
  | token expiresTooSoon =>
      simp only [requestToken]
      split
      · exact failed _ rfl
      · cases normalAuthentication with
        | false => exact Handler.reliesOn_of_not_inFlight rfl _
        | true =>
            apply Handler.ReliesOn.cons rfl fun _ => id
            apply Handler.ReliesOn.cons rfl fun _ => id
            exact Handler.reliesOn_singleton (notFailed rfl) (by simp)

theorem reliesOn_ofCallback {request : HandlerRequest} {error : Error}
    {object : Option ScorbitronObject}
    (finds : Handler.ofCallback request error object ≠ [] →
      state.status.isPairing = true) :
    Handler.ReliesOn state.status
      (Handler.ofCallback request error object) := by
  have unpairs (status : AuthStatus) (pairing : status.isPairing = true) :
      Handler.ReliesOn status (Handler.runCallback error request.callback) := by
    unfold Handler.runCallback
    split
    · split
      · exact Handler.reliesOn_singleton pairing (by simp)
      · trivial
    · trivial
  by_cases assigns : Handler.ofCallback request error object = []
  · rw [assigns]
    trivial
  · have pairing := finds assigns
    unfold Handler.ofCallback
    split
    · trivial
    · unfold Handler.parseScorbitronObject
      split
      · rename_i found
        refine ⟨pairing, nofun, ?_⟩
        rintro _ rfl
        apply unpairs
        unfold pairingStatus
        split <;> rfl
      · exact unpairs _ pairing

/-- A request that is found unauthorized was sent with authentication. -/
theorem reliesOn_checkUnauthorized (request : HandlerRequest) (attempt : Nat)
    {left : Handler} {reply : WorkerReply}
    (isLeft : state.left reply (.checkUnauthorized request attempt) =
      some left) :
    Handler.ReliesOn state.status left := by
  have nextRelies := Handler.reliesOn_of_not_inFlight
    (Handler.not_inFlight_nextAttempt request attempt)
  cases isLeft
  split
  · have unlocks : Handler.ReliesOn state.status [.unlockAuthMutex] :=
      Handler.reliesOn_of_not_inFlight rfl _
    exact unlocks.append nextRelies
  · rename_i pairing
    rw [not_or, not_or] at pairing
    refine Handler.ReliesOn.append ?_ nextRelies
    refine ⟨isPairing_iff.mpr pairing, nofun, fun _ _ => ?_⟩
    exact Handler.reliesOn_of_not_inFlight rfl _

theorem reliesOn_send (request : HandlerRequest) (attempt : Nat)
    {left : Handler} {reply : WorkerReply}
    (isLeft : state.left reply (.send request attempt) = some left)
    (finds : Statement.Finds state.status (.send request attempt)) :
    Handler.ReliesOn state.status left := by
  have calls (error : Error) (object : Option ScorbitronObject) :
      Handler.ReliesOn state.status [.callback request error object] := by
    refine ⟨fun assigns => finds fun isOther => assigns ?_, nofun,
      fun _ _ => trivial⟩
    exact if_pos isOther
  cases isLeft
  split
  · exact calls _ _
  · exact Handler.reliesOn_of_not_inFlight
      (Handler.not_inFlight_nextAttempt request attempt) _
  · exact Handler.reliesOn_of_not_inFlight rfl _
  · exact calls _ _

/-- A request that is refused as not paired has a callback that takes the
machine for authenticated. -/
theorem reliesOn_refuse {index : Nat} {reply : WorkerReply}
    {request : HandlerRequest} {rest left : Handler}
    (undisturbed : state.Undisturbed (.run index reply))
    (isNext : state.handlers[index]? = some (.refuse request :: rest))
    (isLeft : state.left reply (.refuse request) = some left) :
    Handler.ReliesOn state.status left := by
  cases isLeft
  refine ⟨fun assigns => ?_, nofun, fun _ _ => trivial⟩
  have unpairs : request.callback = .requestUnpair ∧
      state.status ≠ .authenticationFailed := by
    by_cases failed : state.status = .authenticationFailed
    · obtain ⟨allowedStatuses, callback⟩ := request
      rw [if_pos failed] at assigns
      cases callback <;> exact absurd rfl assigns
    · obtain ⟨allowedStatuses, callback⟩ := request
      rw [if_neg failed] at assigns
      cases callback with
      | requestUnpair => exact ⟨rfl, failed⟩
      | _ => exact absurd rfl assigns
  obtain ⟨isUnpair, notFailed⟩ := unpairs
  obtain ⟨notFirst, notBegun⟩ := undisturbed _ _ isNext isUnpair
  exact isPairing_iff.mpr ⟨notFirst, notBegun, notFailed⟩

/-- A request is made with authentication only. -/
theorem isPairing_of_checkAllowedStatuses {request : HandlerRequest}
    (allowed : state.checkAllowedStatuses request = true) :
    state.status.isPairing = true := by
  have isAllowed := of_decide_eq_true allowed
  obtain ⟨allowedStatuses, callback⟩ := request
  cases allowedStatuses <;>
    simp only [AllowedStatuses.statuses, List.mem_cons, List.not_mem_nil,
      or_false] at isAllowed
  · rw [isAllowed]
    rfl
  · obtain isStatus | isStatus := isAllowed <;> rw [isStatus] <;> rfl
  · obtain isStatus | isStatus | isStatus := isAllowed <;> rw [isStatus] <;>
      rfl

/-- The statements that read the status, or wait for something. -/
theorem reliesOn_led {index : Nat} {reply : WorkerReply}
    {statement : Statement} {rest left : Handler}
    (undisturbed : state.Undisturbed (.run index reply))
    (isNext : state.handlers[index]? = some (statement :: rest))
    (isLeft : state.left reply statement = some left)
    (finds : statement.Finds state.status)
    (keeps : assigned? statement = none)
    (notCompare : ∀ isPaired, statement ≠ .compareStatus isPaired) :
    Handler.ReliesOn state.status left := by
  cases statement with
  | assignStatus status => cases keeps
  | authenticated => cases keeps
  | compareStatus isPaired => exact absurd rfl (notCompare isPaired)
  | checkUnauthorized request attempt =>
      exact reliesOn_checkUnauthorized request attempt isLeft
  | send request attempt => exact reliesOn_send request attempt isLeft finds
  | refuse request => exact reliesOn_refuse undisturbed isNext isLeft
  | callback request error object =>
      cases isLeft
      exact reliesOn_ofCallback finds
  | requestToken normalAuthentication =>
      cases isLeft
      refine (reliesOn_requestToken finds reply.auth).append fun later => ?_
      split <;> exact Handler.reliesOn_of_not_inFlight rfl _
  | checkNotAuthenticated =>
      cases isLeft
      split
      · rename_i notAuthenticated
        refine ⟨notAuthenticated, fun _ => rfl, ?_⟩
        rintro _ rfl
        apply Handler.ReliesOn.cons rfl fun _ => id
        apply Handler.ReliesOn.cons rfl fun _ => id
        exact Handler.reliesOn_singleton (fun _ => by simp) (by simp)
      · exact Handler.reliesOn_of_not_inFlight rfl _
  | checkAllowedStatuses request attempt =>
      cases isLeft
      split
      · rename_i allowed
        have pairing := isPairing_of_checkAllowedStatuses allowed
        exact Handler.reliesOn_singleton (fun _ => pairing) (by simp)
      · exact Handler.reliesOn_of_not_inFlight rfl _
  | lockAuthMutex =>
      simp only [NetHandlers.left, Option.ite_none_right_eq_some,
        Option.some.injEq] at isLeft
      obtain ⟨-, rfl⟩ := isLeft
      trivial
  | asleep request attempt => cases isLeft
  | _ =>
      cases isLeft
      first
      | exact Handler.reliesOn_of_not_inFlight rfl _
      | (split <;> exact Handler.reliesOn_of_not_inFlight rfl _)

/-- What a statement leads to relies on no more than the statement did. -/
theorem reliesOn_left {index : Nat} {reply : WorkerReply}
    {statement : Statement} {rest left : Handler}
    (undisturbed : state.Undisturbed (.run index reply))
    (isNext : state.handlers[index]? = some (statement :: rest))
    (isLeft : state.left reply statement = some left)
    (relies : Handler.ReliesOn state.status (statement :: rest)) :
    Handler.ReliesOn (state.execute index statement).status
      (left ++ rest) := by
  obtain ⟨finds, -, goesOn⟩ := relies
  cases statement with
  | assignStatus status =>
      cases isLeft
      exact goesOn status rfl
  | authenticated =>
      cases isLeft
      exact goesOn _ rfl
  | notifyAll | resetLastEmittedPairingState | setRefreshingToken _
  | startTokenRefreshTimer _ | cancelTokenRefreshTimer
  | setLastEmittedPairingState _ | pushPairingStatusChanged _ =>
      cases isLeft
      exact goesOn _ rfl
  | emitPairingStatusEventIfChanged isPaired =>
      cases isLeft
      have restRelies := goesOn _ rfl
      split
      · exact restRelies
      · apply Handler.ReliesOn.cons rfl fun _ => id
        apply Handler.ReliesOn.cons rfl fun _ => id
        exact restRelies
  | compareStatus isPaired =>
      cases isLeft
      have restRelies := goesOn _ rfl
      split
      · rename_i same
        rw [← same] at restRelies
        exact restRelies
      · refine ⟨?_, ?_, ?_⟩
        · cases isPaired <;> exact finds
        · cases isPaired <;> nofun
        · rintro _ rfl
          apply Handler.ReliesOn.cons rfl fun _ => id
          apply Handler.ReliesOn.cons rfl fun _ => id
          exact restRelies
  | asleep request attempt => cases isLeft
  | _ =>
      -- The rest relies on nothing.
      exact (reliesOn_led undisturbed isNext isLeft finds rfl nofun).append
        fun later => goesOn later trivial

/-- The handler that holds the mutex is the only one. -/
theorem MutexKept.free_of_other {index other : Nat} {handler : Handler}
    {own : Handler} {hold : MutexHold} (kept : state.MutexKept)
    (holds : state.Holds index own hold) (owner : hold ≠ .free)
    (isOther : other ≠ index)
    (isHandler : state.handlers[other]? = some handler) :
    Handler.hold .free handler = some .free := by
  obtain ⟨otherHold, otherHolds⟩ := kept.holds other handler isHandler
  have isFree : otherHold = .free := by
    by_contra otherOwner
    have same := (holds.owns.mp owner).symm.trans (otherHolds.owns.mp otherOwner)
    exact isOther (Option.some.inj same).symm
  subst isFree
  exact otherHolds.balanced.released

/-- The other handlers rely on no more than before, whatever one of them
does to the status. -/
theorem reliesOn_other {index other : Nat} {reply : WorkerReply}
    {statement : Statement} {rest handler : Handler} (kept : state.MutexKept)
    (relied : state.Relied)
    (undisturbed : state.Undisturbed (.run index reply))
    (isNext : state.handlers[index]? = some (statement :: rest))
    (isOther : other ≠ index)
    (isHandler : state.handlers[other]? = some handler) :
    handler.ReliesOn (state.execute index statement).status := by
  have relies := relied handler (List.mem_of_getElem? isHandler)
  obtain ⟨finds, needsMutex, -⟩ := relied _ (List.mem_of_getElem? isNext)
  obtain ⟨hold, holds⟩ := kept.holds index _ isNext
  cases statement with
  | authenticated =>
      have owner : hold ≠ .free := by
        rintro rfl
        cases holds.balanced.released
      refine relies.change (fun statement notStart _ => ?_)
        (Or.inl (kept.free_of_other holds owner isOther isHandler))
      exact statement.finds_of_isPairing rfl notStart
  | assignStatus status =>
      cases status with
      | authenticationFailed =>
          exact Handler.reliesOn_of_not_inFlight
            (undisturbed _ _ isNext other handler isOther isHandler) _
      | notAuthenticated =>
          exact Handler.reliesOn_of_not_inFlight
            (undisturbed _ _ isNext other handler isOther isHandler) _
      | authenticating =>
          have isStatus : state.status = .notAuthenticated := finds
          have owner : hold ≠ .free := by
            rintro rfl
            have released : Handler.hold .free rest = some .free :=
              holds.balanced.released
            rw [needsMutex rfl] at released
            cases released
          rw [isStatus] at relies
          refine relies.change (fun statement notStart found => ?_)
            (Or.inl (kept.free_of_other holds owner isOther isHandler))
          exact found.authenticating notStart
      | _ =>
          -- The status had to be one with authentication already.
          have pairing : state.status.isPairing = true := finds
          refine relies.change (fun statement notStart _ => ?_)
            (Or.inr (isPairing_iff.mp pairing).1)
          exact statement.finds_of_isPairing rfl notStart
  | _ => exact relies

theorem ran_status (index : Nat) (statement : Statement) (new : Handler) :
    (state.ran index statement new).status =
      (state.execute index statement).status := by
  cases statement <;> rfl

theorem Relied.run {index : Nat} {reply : WorkerReply} {statement : Statement}
    {rest left : Handler} (relied : state.Relied) (kept : state.MutexKept)
    (undisturbed : state.Undisturbed (.run index reply))
    (isNext : state.handlers[index]? = some (statement :: rest))
    (isLeft : state.left reply statement = some left) :
    Relied (state.ran index statement (left ++ rest)) := by
  intro handler isHandler
  obtain ⟨other, isHandler⟩ := List.mem_iff_getElem?.mp isHandler
  rw [ran_status]
  have awake (before : Handler)
      (relies : before.ReliesOn (state.execute index statement).status) :
      Handler.ReliesOn (state.execute index statement).status
        (if statement = .notifyAll then before.wake else before) := by
    split
    · exact relies.wake
    · exact relies
  obtain ⟨before, rfl, ⟨rfl, rfl⟩ | ⟨isOther, isBefore⟩⟩ | ⟨-, rfl⟩ :=
    runHandler_cases isHandler
  · apply awake
    exact reliesOn_left undisturbed isNext isLeft
      (relied _ (List.mem_of_getElem? isNext))
  · apply awake
    exact reliesOn_other kept relied undisturbed isNext isOther isBefore
  · exact Handler.reliesOn_of_not_inFlight rfl _

theorem Relied.append {new : Handler} (relied : state.Relied)
    (statusEq : next.status = state.status)
    (handlersEq : next.handlers = state.handlers ++ [new])
    (idle : new.inFlight = false) : next.Relied := by
  intro handler isHandler
  rw [handlersEq] at isHandler
  rw [statusEq]
  obtain isOld | isNew := List.mem_append.mp isHandler
  · exact relied handler isOld
  · rw [List.mem_singleton.mp isNew]
    exact Handler.reliesOn_of_not_inFlight idle _

theorem Relied.replace {index : Nat} {new : Handler} (relied : state.Relied)
    (relies : new.ReliesOn state.status) :
    Relied { state with handlers := state.handlers.set index new } := by
  intro handler isHandler
  obtain isOld | rfl := List.mem_or_eq_of_mem_set isHandler
  · exact relied handler isOld
  · exact relies

theorem Relied.step (relied : state.Relied) (kept : state.MutexKept)
    (undisturbed : state.Undisturbed action)
    (taken : state.step action = some next) : next.Relied := by
  cases step_cases taken with
  | call => exact relied.append rfl rfl rfl
  | paired =>
      refine relied.replace ⟨undisturbed, nofun, ?_⟩
      rintro _ rfl
      exact Handler.reliesOn_of_not_inFlight rfl _
  | unpaired =>
      refine relied.replace ⟨undisturbed, nofun, ?_⟩
      rintro _ rfl
      exact Handler.reliesOn_of_not_inFlight rfl _
  | tokenRefreshTimerExpires => exact relied.append rfl rfl rfl
  | destroy => exact relied.append rfl rfl rfl
  | run isNext isLeft => exact relied.run kept undisturbed isNext isLeft
  | wake isAsleep =>
      have relies := relied _ (List.mem_of_getElem? isAsleep)
      exact relied.replace relies.wake

/-- A handler that relies on the status that is there may assign the next
one. -/
theorem Relied.stepsSoundly (relied : state.Relied)
    (taken : state.step action = some next) : state.StepsSoundly action := by
  rw [stepsSoundly_iff taken]
  cases step_cases taken with
  | run isNext isLeft =>
      intro statement rest isStatement
      exact (relied _ (List.mem_of_getElem? isStatement)).1.replacesSoundly
  | _ => trivial

theorem Relied.init : Relied {} := by
  intro handler isHandler
  simp only [List.mem_cons, List.not_mem_nil, or_false] at isHandler
  obtain rfl | rfl := isHandler
  · trivial
  · exact Handler.reliesOn_of_not_inFlight rfl _

/-- The status stays sound in every run in which no authentication fails and no
request is unauthorized while another handler is to set the status unseen, and
the signals and the refusals of unpair requests find the machine
authenticated. -/
theorem statusSound {actions : List HandlerAction}
    (undisturbed : Transition.HoldsAlong step Undisturbed {} actions) :
    Transition.HoldsAlong step StepsSoundly {} actions := by
  have preserved : ∀ (state : NetHandlers) action next,
      state.MutexKept ∧ state.Relied → state.Undisturbed action →
        state.step action = some next → next.MutexKept ∧ next.Relied := by
    intro state action next ⟨kept, relied⟩ undisturbed taken
    exact ⟨kept.step taken, relied.step kept undisturbed taken⟩
  refine Transition.HoldsAlong.weaken preserved ?_
    ⟨MutexKept.init, Relied.init⟩ undisturbed
  intro state action next ⟨_, relied⟩ taken _
  exact relied.stepsSoundly taken

/-- No handler is on its way where the status is taken away. -/
def findsUndisturbed (state : NetHandlers) : HandlerAction → Bool
  | .paired => state.status.isPairing
  | .unpaired => state.status.isPairing
  | .run index _ =>
      match state.handlers[index]? with
      | some (.assignStatus status :: _) =>
          status.isPairing || status = .authenticating ||
            (state.handlers.eraseIdx index).all fun other => !other.inFlight
      | some (.refuse _ :: _) => state.status.isPairing
      | _ => true
  | _ => true

theorem undisturbed_of_findsUndisturbed (state : NetHandlers)
    (action : HandlerAction) (finds : state.findsUndisturbed action = true) :
    state.Undisturbed action := by
  cases action with
  | paired => exact finds
  | unpaired => exact finds
  | run index reply =>
      intro statement rest isNext
      simp only [findsUndisturbed, isNext] at finds
      have alone (others : ((state.handlers.eraseIdx index).all
          fun other => !other.inFlight) = true) :
          state.NoOtherInFlight index := by
        intro other handler isOther isHandler
        have isLeft := List.mem_eraseIdx_iff_getElem?.mpr
          ⟨other, isOther, isHandler⟩
        simpa using List.all_eq_true.mp others handler isLeft
      cases statement with
      | assignStatus status =>
          cases status with
          | authenticationFailed => exact alone finds
          | notAuthenticated => exact alone finds
          | _ => trivial
      | refuse request =>
          have pairing := isPairing_iff.mp finds
          exact fun _ => ⟨pairing.1, pairing.2.1⟩
      | _ => trivial
  | _ => trivial

/-- The first authentication gets its token. -/
def authenticatedRun : List HandlerAction :=
  List.replicate 6 (.run 1 {}) ++
    .run 1 { auth := .token false } :: List.replicate 4 (.run 1 {})

/-- The scorbitron object says that the machine is paired, and a signal then
that it no longer is. -/
def pairedThenUnpaired : List HandlerAction :=
  authenticatedRun ++ [.call .sendScorbitronObject] ++
    List.replicate 5 (.run 2 {}) ++
    .run 2 { http := .ok (some { shortCode := none, isPaired := true }) } ::
      List.replicate 7 (.run 2 {}) ++
    .unpaired :: List.replicate 5 (.run 0 {})

/-- A request of the machine is unauthorized, and authenticates it anew. -/
def authenticatedAnew : List HandlerAction :=
  pairedThenUnpaired ++ .call .getConfig :: List.replicate 5 (.run 3 {}) ++
    .run 3 { http := .unauthorized } :: List.replicate 12 (.run 3 {}) ++
    .run 3 { auth := .token false } :: List.replicate 3 (.run 3 {})

theorem statusSound_authenticatedAnew :
    ∃ final, Transition.run step {} authenticatedAnew = some final ∧
      final.status = .authenticatedCheckingPairing ∧
      Transition.HoldsAlong step StepsSoundly {} authenticatedAnew := by
  have evaluated : ((Transition.run step {} authenticatedAnew).any
      fun final => final.status = .authenticatedCheckingPairing) = true := by
    decide +kernel
  obtain ⟨final, reached, authenticated⟩ :=
    (Option.any_eq_true _ _).mp evaluated
  refine ⟨final, reached, of_decide_eq_true authenticated, statusSound ?_⟩
  exact Transition.HoldsAlong.of_checksAlong undisturbed_of_findsUndisturbed
    (by decide +kernel)

/-- The scorbitron object is on its way when the token is to be refreshed, and
that fails. -/
def failedRefresh : List HandlerAction :=
  authenticatedRun ++ [.call .sendScorbitronObject] ++
    List.replicate 5 (.run 2 {}) ++ [.tokenRefreshTimerExpires] ++
    List.replicate 2 (.run 3 {}) ++ List.replicate 7 (.run 4 {})

/-- The reply then makes the machine a paired one. -/
theorem notSound_lateReply :
    ∃ before after, Transition.run step {} (failedRefresh ++
        [.run 2 { http := .ok (some { shortCode := none, isPaired := true }) },
          .run 2 {}, .run 2 {}]) = some before ∧
      before.step (.run 2 {}) = some after ∧
      ¬ before.SoundStep (.run 2 {}) after := by
  have evaluated : ((Transition.run step {} (failedRefresh ++
      [.run 2 { http := .ok (some { shortCode := none, isPaired := true }) },
        .run 2 {}, .run 2 {}])).any fun before =>
      decide (before.status = .authenticationFailed) &&
        (before.step (.run 2 {})).any fun after =>
          after.status = .authenticatedPaired) = true := by
    decide +kernel
  obtain ⟨before, reached, goesOn⟩ := (Option.any_eq_true _ _).mp evaluated
  rw [Bool.and_eq_true, decide_eq_true_eq] at goesOn
  obtain ⟨failed, laterPaired⟩ := goesOn
  obtain ⟨after, taken, isPaired⟩ := (Option.any_eq_true _ _).mp laterPaired
  refine ⟨before, after, reached, taken, fun sound => ?_⟩
  have still := sound.failed failed
  rw [decide_eq_true_eq.mp isPaired] at still
  cases still

end NetHandlers

end ScorbitSdk
