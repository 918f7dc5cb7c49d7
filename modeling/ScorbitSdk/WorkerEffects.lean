import ScorbitSdk.WorkerTasks

/-!
# The effect of a step of a task

What one step of a task on a thread of the worker can do: what it posts, what
it leaves of itself, and how it changes what the tasks share.  The proofs about
whole runs use nothing else of the tasks' code.
-/

namespace ScorbitSdk

namespace WorkerTask

/-- The scorbitron object, as `sendScorbitronObject` posts it. -/
def isScorbitronObject : WorkerTask → Bool
  | request http _ _ => http.callback = .sendScorbitronObject
  | _ => false

/-- The task waits, or can come to wait, as long as the pairing is checked. -/
def mayWait (net : NetStatus) : WorkerTask → Bool
  | request http attempt stage =>
      .authenticatedCheckingPairing ∉ http.allowedStatuses &&
        match stage with
        | .waiting => true
        | .sending => attempt + 1 < numRetries
        | .stoppingTimer => attempt + 1 < numRetries
        | .clearingFlag => attempt + 1 < numRetries
        | .authenticating _ => attempt + 1 < numRetries
        | _ => false
  | requestPairCode => net.cachedShortCode = ""
  | uploadDiagnostics => true
  | _ => false

/-- The next step of the task posts the scorbitron object. -/
def initializes : WorkerTask → Bool
  | onPairedStatus => true
  | request http _ (.parsed .success) => http.callback = .requestPairMachine
  | task => task.authStage? = some .initializing

end WorkerTask

/-- The shortcode is awaited on the queue strand, and the scorbitron object is
not posted to any strand. -/
def WorkerPost.IsPlaced (post : WorkerPost) : Prop :=
  (post.task = .requestPairCode → post.strand = some .queue) ∧
    (post.task.isScorbitronObject = true → post.strand = none)

/-- The post is neither the scorbitron object nor out of place. -/
def WorkerPost.IsPlain (post : WorkerPost) : Prop :=
  (post.task = .requestPairCode → post.strand = some .queue) ∧
    post.task.isScorbitronObject = false

theorem WorkerPost.IsPlain.isPlaced {post : WorkerPost}
    (isPlain : post.IsPlain) : post.IsPlaced := by
  refine ⟨isPlain.1, fun isObject => ?_⟩
  rw [isPlain.2] at isObject
  cases isObject

namespace NetWorker

variable {state next : NetWorker}

theorem isPlain_of_ne {post : WorkerPost}
    (different : post.task ≠ .requestPairCode)
    (isOther : post.task.isScorbitronObject = false) : post.IsPlain :=
  ⟨fun isPairCode => absurd isPairCode different, isOther⟩

theorem isPlain_request {strand : Option WorkerStrand} {request : HttpRequest}
    (isOther : request.callback ≠ .sendScorbitronObject) :
    WorkerPost.IsPlain
      { strand := strand, task := createHttpRequestTask request } :=
  isPlain_of_ne nofun (decide_eq_false isOther)

theorem requestConnectionState_isPlain :
    ∀ post ∈ state.requestConnectionState, post.IsPlain := by
  intro post posted
  simp only [requestConnectionState, requestFirmwaresList, createNfcNonces,
    List.mem_append, List.mem_cons, List.not_mem_nil, or_false] at posted
  rcases posted with ((rfl | rfl) | firmwares) | nonces
  · exact isPlain_request (by decide)
  · exact isPlain_request (by decide)
  · split at firmwares
    · rw [List.mem_singleton] at firmwares
      exact firmwares ▸ isPlain_request (by decide)
    · cases firmwares
  · split at nonces
    · rw [List.mem_singleton] at nonces
      exact nonces ▸ isPlain_request (by decide)
    · cases nonces

theorem posts_isPlain (call : WorkerCall) :
    ∀ post ∈ call.posts state, post.IsPlain := by
  intro post posted
  cases call with
  | requestPairCode =>
      simp only [WorkerCall.posts] at posted
      split at posted
      · rw [List.mem_singleton] at posted
        subst posted
        exact ⟨fun _ => rfl, rfl⟩
      · cases posted
  | setCapabilities =>
      simp only [WorkerCall.posts] at posted
      split at posted
      · rw [List.mem_singleton] at posted
        exact posted ▸ isPlain_request (by decide)
      · cases posted
  | createNfcNonces =>
      exact requestConnectionState_isPlain post
        (List.mem_append_right _ posted)
  | handleDiagnosticProbe =>
      simp only [WorkerCall.posts, List.mem_cons, List.not_mem_nil,
        or_false] at posted
      rcases posted with rfl | rfl
      · exact isPlain_of_ne nofun rfl
      · exact isPlain_request (by decide)
  | patchScorbitron =>
      simp only [WorkerCall.posts, List.mem_singleton] at posted
      exact posted ▸ isPlain_request (by simp [HttpRequest.patchScorbitron])
  | _ =>
      simp only [WorkerCall.posts, List.mem_singleton] at posted
      subst posted
      first
        | exact isPlain_request (by decide)
        | exact isPlain_of_ne nofun rfl

end NetWorker

/-! ## Authentication -/

/-- Authentication is due or under way. -/
def NetStatus.isAuthDue (net : NetStatus) : Bool :=
  net.status = .notAuthenticated || net.status = .authenticating

namespace AuthStage

/-- The stage is on the way to the authentication that is due. -/
def isUnderWay (net : NetStatus) : AuthStage → Bool
  | starting => net.status = .notAuthenticated && !net.isRefreshingToken
  | locking => net.status = .notAuthenticated
  | settingFlag normalAuthentication =>
      net.status = .authenticating && normalAuthentication
  | authenticating normalAuthentication =>
      net.status = .authenticating && normalAuthentication
  | authenticated normalAuthentication =>
      net.status = .authenticating && normalAuthentication
  | _ => false

def setsFlag : AuthStage → Bool
  | settingFlag _ => true
  | _ => false

end AuthStage

namespace WorkerTask

/-- The task is on the way to the authentication that is due. -/
def authenticates (net : NetStatus) : WorkerTask → Bool
  | authenticate stage => stage.isUnderWay net
  | request _ _ (.authenticating stage) => stage.isUnderWay net
  | request _ _ .stoppingTimer => net.status = .notAuthenticated
  | request _ _ .clearingFlag => net.status = .notAuthenticated
  | _ => false

/-- The next step of the task sets `m_isRefreshingToken`. -/
def setsFlag : WorkerTask → Bool
  | refreshToken => true
  | task => task.authStage?.any AuthStage.setsFlag

/-- The task is going to authenticate whatever the flag is now: it has read
the flag already, or it is going to clear it. -/
def isCommitted : WorkerTask → Bool
  | request _ _ .stoppingTimer => true
  | request _ _ .clearingFlag => true
  | task => task.authStage? = some .locking

end WorkerTask

/-- The status is the same, and the flag is set only if it was or by this
step. -/
structure NetStatus.GoesOn (setsFlag : Bool) (before after : NetStatus) :
    Prop where
  status : after.status = before.status
  flag : after.isRefreshingToken = true →
    before.isRefreshingToken = true ∨ setsFlag = true

theorem NetStatus.GoesOn.rfl {setsFlag : Bool} {net : NetStatus} :
    net.GoesOn setsFlag net :=
  ⟨Eq.refl _, Or.inl⟩

theorem AuthStage.isUnderWay_of_goesOn {before after : NetStatus}
    (goesOn : before.GoesOn false after) {stage : AuthStage}
    (underWay : stage.isUnderWay before = true) :
    stage.isUnderWay after = true := by
  cases stage with
  | starting =>
      simp only [isUnderWay, Bool.and_eq_true, decide_eq_true_eq,
        Bool.not_eq_true'] at underWay ⊢
      refine ⟨goesOn.status.trans underWay.1, ?_⟩
      by_contra flag
      rw [Bool.not_eq_false] at flag
      rcases goesOn.flag flag with wasSet | sets
      · rw [underWay.2] at wasSet
        cases wasSet
      · cases sets
  | _ => simpa only [isUnderWay, goesOn.status] using underWay

namespace WorkerTask

theorem authenticates_of_goesOn {before after : NetStatus}
    (goesOn : before.GoesOn false after) {task : WorkerTask}
    (due : task.authenticates before = true) :
    task.authenticates after = true := by
  cases task with
  | authenticate => exact AuthStage.isUnderWay_of_goesOn goesOn due
  | request http attempt stage =>
      cases stage with
      | authenticating => exact AuthStage.isUnderWay_of_goesOn goesOn due
      | stoppingTimer => simpa only [authenticates, goesOn.status] using due
      | clearingFlag => simpa only [authenticates, goesOn.status] using due
      | _ => cases due
  | _ => cases due

/-- Once the status is `Authenticating` the flag no longer matters. -/
theorem authenticates_of_authenticating {before after : NetStatus}
    (authenticating : before.status = .authenticating)
    (sameStatus : after.status = before.status) {task : WorkerTask}
    (due : task.authenticates before = true) :
    task.authenticates after = true := by
  have stages : ∀ stage : AuthStage, stage.isUnderWay before = true →
      stage.isUnderWay after = true := by
    intro stage underWay
    cases stage with
    | starting => simp [AuthStage.isUnderWay, authenticating] at underWay
    | _ => simpa only [AuthStage.isUnderWay, sameStatus] using underWay
  cases task with
  | authenticate stage => exact stages stage due
  | request http attempt stage =>
      cases stage with
      | authenticating stage => exact stages stage due
      | stoppingTimer => simpa only [authenticates, sameStatus] using due
      | clearingFlag => simpa only [authenticates, sameStatus] using due
      | _ => cases due
  | _ => cases due

theorem authenticates_of_isCommitted {net : NetStatus}
    (notAuthenticated : net.status = .notAuthenticated) {task : WorkerTask}
    (committed : task.isCommitted = true) : task.authenticates net = true := by
  cases task with
  | authenticate stage =>
      cases of_decide_eq_true committed
      exact decide_eq_true notAuthenticated
  | request http attempt stage =>
      cases stage with
      | authenticating stage =>
          cases of_decide_eq_true committed
          exact decide_eq_true notAuthenticated
      | stoppingTimer => exact decide_eq_true notAuthenticated
      | clearingFlag => exact decide_eq_true notAuthenticated
      | _ => cases committed
  | _ => cases committed

theorem not_setsFlag_of_isCommitted {task : WorkerTask}
    (committed : task.isCommitted = true) : task.setsFlag = false := by
  cases task with
  | authenticate stage =>
      cases of_decide_eq_true committed
      rfl
  | request http attempt stage =>
      cases stage with
      | authenticating stage =>
          cases of_decide_eq_true committed
          rfl
      | _ => rfl
  | _ => cases committed

end WorkerTask

/-! ## What a step of a task can do -/

/-- The effect of a step of an authentication. -/
structure AuthEffect (state : NetWorker) (stage : AuthStage)
    (outcome : TaskOutcome AuthStage) : Prop where
  posts : stage = .initializing ∧ outcome.net = state.net ∧
      outcome.posts = state.initializeConnectionState ∨
    ∀ post ∈ outcome.posts, post.IsPlain
  due : outcome.net.isAuthDue = true →
    (∃ left, outcome.left = some left ∧ left.isUnderWay outcome.net = true) ∨
      stage.isUnderWay state.net = false ∧
        state.net.GoesOn stage.setsFlag outcome.net
  checking : outcome.net.status = .authenticatedCheckingPairing →
    outcome.net.cachedShortCode = state.net.cachedShortCode ∧
      (state.net.status = .authenticatedCheckingPairing ∨
        stage = .authenticated true)

/-- The effect of a step of a task. -/
structure TaskEffect (state : NetWorker) (task : WorkerTask)
    (outcome : TaskOutcome WorkerTask) : Prop where
  posts : task.initializes = true ∧ outcome.net = state.net ∧
      outcome.posts = state.initializeConnectionState ∨
    ∀ post ∈ outcome.posts, post.IsPlain
  left : ∀ left, outcome.left = some left → left ≠ .requestPairCode ∧
    (left.isScorbitronObject = true → task.isScorbitronObject = true)
  due : outcome.net.isAuthDue = true →
    (∃ left, outcome.left = some left ∧
      left.authenticates outcome.net = true) ∨
      task.authenticates state.net = false ∧
        state.net.GoesOn task.setsFlag outcome.net
  checking : outcome.net.status = .authenticatedCheckingPairing →
    outcome.net.cachedShortCode = state.net.cachedShortCode ∧
      (state.net.status = .authenticatedCheckingPairing ∨
        task.authStage? = some (.authenticated true))
  lighter : outcome.net.status = .authenticatedCheckingPairing →
    ∀ left, outcome.left = some left → left.mayWait outcome.net = true →
      task.mayWait state.net = true

namespace NetWorker

variable {state next : NetWorker}

/-- A step of an authentication that keeps the status. -/
theorem authEffect_goOn {stage : AuthStage} {outcome : TaskOutcome AuthStage}
    (plain : ∀ post ∈ outcome.posts, post.IsPlain)
    (notUnderWay : stage.isUnderWay state.net = false)
    (sameCode : outcome.net.cachedShortCode = state.net.cachedShortCode)
    (goesOn : state.net.GoesOn stage.setsFlag outcome.net) :
    AuthEffect state stage outcome where
  posts := Or.inr plain
  due := fun _ => Or.inr ⟨notUnderWay, goesOn⟩
  checking := fun checking =>
    ⟨sameCode, Or.inl (goesOn.status.symm.trans checking)⟩

/-- A step that goes on with the authentication under way. -/
theorem authEffect_underWay {stage left : AuthStage}
    {outcome : TaskOutcome AuthStage} (noPosts : outcome.posts = [])
    (leftEq : outcome.left = some left)
    (underWay : left.isUnderWay outcome.net = true)
    (notChecking : outcome.net.status ≠ .authenticatedCheckingPairing) :
    AuthEffect state stage outcome where
  posts := Or.inr (by simp [noPosts])
  due := fun _ => Or.inl ⟨left, leftEq, underWay⟩
  checking := fun checking => absurd checking notChecking

/-- A step between two stages that are under way as long as the status is the
one a normal authentication has set. -/
theorem authEffect_authenticating {normalAuthentication : Bool}
    {stage left : AuthStage} {outcome : TaskOutcome AuthStage}
    (noPosts : outcome.posts = []) (leftEq : outcome.left = some left)
    (isStage : ∀ net : NetStatus, stage.isUnderWay net =
      (net.status = .authenticating && normalAuthentication))
    (isLeft : ∀ net : NetStatus, left.isUnderWay net =
      (net.status = .authenticating && normalAuthentication))
    (sameCode : outcome.net.cachedShortCode = state.net.cachedShortCode)
    (goesOn : state.net.GoesOn stage.setsFlag outcome.net) :
    AuthEffect state stage outcome := by
  by_cases underWay : stage.isUnderWay state.net = true
  · have leftUnderWay : left.isUnderWay outcome.net = true := by
      rw [isLeft, goesOn.status, ← isStage]
      exact underWay
    apply authEffect_underWay noPosts leftEq leftUnderWay
    rw [isStage, Bool.and_eq_true, decide_eq_true_eq] at underWay
    rw [goesOn.status, underWay.1]
    decide
  · rw [Bool.not_eq_true] at underWay
    exact authEffect_goOn (by simp [noPosts]) underWay sameCode goesOn

theorem authEffect {reply : AuthReply} {stage : AuthStage}
    {outcome : TaskOutcome AuthStage}
    (ran : state.createAuthenticateTask reply stage = some outcome) :
    AuthEffect state stage outcome := by
  cases stage with
  | starting =>
      cases ran
      by_cases underWay : AuthStage.starting.isUnderWay state.net = true
      · simp only [AuthStage.isUnderWay, Bool.and_eq_true, decide_eq_true_eq,
          Bool.not_eq_true'] at underWay
        have isLocking : (if state.net.isRefreshingToken then
            AuthStage.settingFlag false else .locking) = .locking := by
          simp [underWay.2]
        refine authEffect_underWay rfl (congrArg some isLocking)
          (decide_eq_true underWay.1) ?_
        simp [underWay.1]
      · rw [Bool.not_eq_true] at underWay
        exact authEffect_goOn (by simp) underWay rfl .rfl
  | locking =>
      simp only [createAuthenticateTask] at ran
      split at ran
      · cases ran
      · split at ran
        · cases ran
          exact authEffect_underWay rfl rfl rfl nofun
        · rename_i notDue
          cases ran
          exact authEffect_goOn (by simp) (decide_eq_false notDue) rfl .rfl
  | settingFlag normalAuthentication =>
      cases ran
      exact authEffect_authenticating rfl rfl (fun _ => rfl) (fun _ => rfl) rfl
        ⟨rfl, fun _ => Or.inr rfl⟩
  | authenticating normalAuthentication =>
      have failed : ∀ left : Option AuthStage,
          AuthEffect state (.authenticating normalAuthentication)
            { net := { state.net with status := .authenticationFailed }
              left := left } :=
        fun _ => ⟨Or.inr (by simp), nofun, nofun⟩
      cases reply with
      | noSigner =>
          cases ran
          exact failed _
      | noSignature =>
          cases ran
          exact failed _
      | noToken =>
          simp only [createAuthenticateTask] at ran
          split at ran
          · cases ran
            exact failed _
          · cases ran
            exact failed _
      | token =>
          simp only [createAuthenticateTask] at ran
          split at ran
          · cases ran
            exact failed _
          · cases ran
            exact authEffect_authenticating rfl rfl (fun _ => rfl)
              (fun _ => rfl) rfl ⟨rfl, Or.inl⟩
  | authenticated normalAuthentication =>
      simp only [createAuthenticateTask] at ran
      split at ran
      · rename_i normal
        cases ran
        exact ⟨Or.inr (by simp), nofun,
          fun _ => ⟨rfl, Or.inr (by rw [normal])⟩⟩
      · rename_i refreshes
        cases ran
        refine authEffect_goOn ?_ ?_ rfl .rfl
        · simpa using isPlain_request (by decide)
        · simp [AuthStage.isUnderWay, refreshes]
  | initializing =>
      cases ran
      exact ⟨Or.inl ⟨rfl, rfl, rfl⟩, fun _ => Or.inr ⟨rfl, .rfl⟩,
        fun checking => ⟨rfl, Or.inl checking⟩⟩
  | stoppingTimer normalAuthentication =>
      cases ran
      exact authEffect_goOn (by simp) rfl rfl ⟨rfl, Or.inl⟩
  | clearingFlag normalAuthentication =>
      cases ran
      exact authEffect_goOn (by simp) rfl rfl ⟨rfl, nofun⟩

theorem mayWait_nextAttempt (net : NetStatus) (http : HttpRequest)
    (attempt : Nat) :
    (WorkerTask.nextAttempt http attempt).mayWait net =
      (WorkerTask.request http attempt .sending).mayWait net := by
  unfold WorkerTask.nextAttempt
  split
  · rename_i goesOn
    simp [WorkerTask.mayWait, goesOn]
  · rename_i isLast
    simp [WorkerTask.mayWait, isLast]

theorem nextAttempt_left (http : HttpRequest) (attempt : Nat)
    (stage : HttpStage) :
    WorkerTask.nextAttempt http attempt ≠ .requestPairCode ∧
      ((WorkerTask.nextAttempt http attempt).isScorbitronObject = true →
        (WorkerTask.request http attempt stage).isScorbitronObject = true) := by
  unfold WorkerTask.nextAttempt
  split
  · exact ⟨nofun, id⟩
  · exact ⟨nofun, id⟩

/-- A step that only moves a task on. -/
theorem taskEffect_goOn {task left : WorkerTask}
    (notDue : task.authenticates state.net = false)
    (isLeft : left ≠ .requestPairCode ∧
      (left.isScorbitronObject = true → task.isScorbitronObject = true))
    (lighter : state.net.status = .authenticatedCheckingPairing →
      left.mayWait state.net = true → task.mayWait state.net = true) :
    TaskEffect state task { net := state.net, left := some left } where
  posts := Or.inr (by simp)
  left := by
    rintro _ ⟨⟩
    exact isLeft
  due := fun _ => Or.inr ⟨notDue, .rfl⟩
  checking := fun checking => ⟨rfl, Or.inl checking⟩
  lighter := by
    rintro checking _ ⟨⟩
    exact lighter checking

/-- A step that ends a task. -/
theorem taskEffect_end {task : WorkerTask}
    (notDue : task.authenticates state.net = false) :
    TaskEffect state task { net := state.net } where
  posts := Or.inr (by simp)
  left := fun _ isLeft => nomatch isLeft
  due := fun _ => Or.inr ⟨notDue, .rfl⟩
  checking := fun checking => ⟨rfl, Or.inl checking⟩
  lighter := fun _ _ isLeft => nomatch isLeft

/-- A step that makes the pairing known. -/
theorem taskEffect_known {task : WorkerTask}
    {outcome : TaskOutcome WorkerTask}
    (known : outcome.net.status = .authenticatedPaired ∨
      outcome.net.status = .authenticatedUnpaired)
    (posts : ∀ post ∈ outcome.posts, post.IsPlain)
    (isLeft : ∀ left, outcome.left = some left → left ≠ .requestPairCode ∧
      (left.isScorbitronObject = true → task.isScorbitronObject = true)) :
    TaskEffect state task outcome := by
  have notDue : outcome.net.isAuthDue = false := by
    rcases known with paired | unpaired
    · simp [NetStatus.isAuthDue, paired]
    · simp [NetStatus.isAuthDue, unpaired]
  have notChecking :
      outcome.net.status ≠ .authenticatedCheckingPairing := by
    rcases known with paired | unpaired
    · simp [paired]
    · simp [unpaired]
  exact {
    posts := Or.inr posts
    left := isLeft
    due := fun due => by simp [notDue] at due
    checking := fun checking => absurd checking notChecking
    lighter := fun checking => absurd checking notChecking }

theorem parseScorbitronObject_effect {http : HttpRequest} {attempt : Nat} (error : Error)
    (object : Option ScorbitronObject) :
    TaskEffect state (.request http attempt (.replied error object))
      { net := (state.net.parseScorbitronObject error object).1
        posts := (state.net.parseScorbitronObject error object).2
        left := some (.request http attempt (.parsed error)) } := by
  have unchanged : ∀ {error : Error} {object : Option ScorbitronObject},
      state.net.parseScorbitronObject error object = (state.net, []) →
        TaskEffect state (.request http attempt (.replied error object))
          { net := (state.net.parseScorbitronObject error object).1
            posts := (state.net.parseScorbitronObject error object).2
            left := some (.request http attempt (.parsed error)) } := by
    intro error object same
    rw [same]
    refine taskEffect_goOn rfl ⟨nofun, id⟩ fun _ waits => ?_
    simp [WorkerTask.mayWait] at waits
  cases error with
  | success =>
      cases object with
      | none => exact unchanged rfl
      | some object =>
          by_cases isPaired : object.isPaired = true
          · refine taskEffect_known (Or.inl ?_) ?_ ?_
            · simp [NetStatus.parseScorbitronObject, isPaired]
            · simpa [NetStatus.parseScorbitronObject, isPaired]
                using isPlain_request (by decide)
            · rintro _ ⟨⟩
              exact ⟨nofun, id⟩
          · refine taskEffect_known (Or.inr ?_) ?_ ?_
            · simp [NetStatus.parseScorbitronObject, isPaired]
            · simp [NetStatus.parseScorbitronObject, isPaired]
            · rintro _ ⟨⟩
              exact ⟨nofun, id⟩
  | _ => exact unchanged rfl

theorem runCallback_effect {http : HttpRequest}
    {attempt : Nat} (error : Error) :
    TaskEffect state (.request http attempt (.parsed error))
      { net := (state.runCallback error http.callback).1
        posts := (state.runCallback error http.callback).2 } := by
  have ends := @taskEffect_end state
    (.request http attempt (.parsed error)) rfl
  cases callback : http.callback with
  | requestUnpair =>
      simp only [runCallback]
      split
      · exact taskEffect_known (Or.inr rfl) (by simp)
          fun _ isLeft => nomatch isLeft
      · exact ends
  | requestPairMachine =>
      simp only [runCallback]
      split
      · rename_i succeeded
        subst succeeded
        exact { ends with
          posts := Or.inl ⟨decide_eq_true callback, rfl, rfl⟩ }
      · exact ends
  | _ => exact ends

/-- The steps of a request that authenticates are those of the
authentication. -/
theorem reauthenticate_effect {http : HttpRequest}
    {attempt : Nat} {stage : AuthStage} {outcome : TaskOutcome AuthStage}
    (effect : AuthEffect state stage outcome) :
    TaskEffect state (.request http attempt (.authenticating stage))
      { net := outcome.net
        posts := outcome.posts
        left := some <| match outcome.left with
          | some stage => .request http attempt (.authenticating stage)
          | none => WorkerTask.nextAttempt http attempt } := by
  refine ⟨?_, ?_, fun due => ?_, fun checking => ?_, ?_⟩
  · rcases effect.posts with ⟨rfl, sameNet, postsEq⟩ | plain
    · exact Or.inl ⟨rfl, sameNet, postsEq⟩
    · exact Or.inr plain
  · rintro _ ⟨⟩
    cases outcome.left with
    | some stage => exact ⟨nofun, id⟩
    | none => exact nextAttempt_left http attempt _
  · rcases effect.due due with ⟨left, leftEq, underWay⟩ | goesOn
    · refine Or.inl ⟨_, rfl, ?_⟩
      rw [leftEq]
      exact underWay
    · exact Or.inr goesOn
  · obtain ⟨sameCode, statuses⟩ := effect.checking checking
    refine ⟨sameCode, statuses.imp_right fun stageEq => ?_⟩
    exact congrArg some stageEq
  · rintro checking _ ⟨⟩ waits
    cases leftEq : outcome.left with
    | some stage =>
        rw [leftEq] at waits
        exact waits
    | none =>
        rw [leftEq] at waits
        dsimp only at waits
        rw [mayWait_nextAttempt] at waits
        exact waits

theorem runRequest_effect {reply : WorkerReply} {http : HttpRequest}
    {attempt : Nat} {stage : HttpStage} {outcome : TaskOutcome WorkerTask}
    (ran : state.runRequest reply http attempt stage = some outcome) :
    TaskEffect state (.request http attempt stage) outcome := by
  cases stage with
  | waiting =>
      simp only [runRequest] at ran
      split at ran
      · cases ran
        exact taskEffect_goOn rfl ⟨nofun, id⟩ fun _ waits => by
          simp [WorkerTask.mayWait] at waits
      · cases ran
  | checking =>
      cases ran
      split
      · rename_i allowed
        refine taskEffect_goOn rfl ⟨nofun, id⟩ fun checking waits => ?_
        simp only [NetStatus.checkAllowedStatuses, checking,
          decide_eq_true_eq] at allowed
        simp [WorkerTask.mayWait, allowed] at waits
      · exact taskEffect_goOn rfl ⟨nofun, id⟩ fun _ waits => by
          simp [WorkerTask.mayWait] at waits
  | refused =>
      cases ran
      exact taskEffect_goOn rfl ⟨nofun, id⟩ fun _ waits => by
        simp [WorkerTask.mayWait] at waits
  | sending =>
      cases ran
      cases reply.http with
      | noResponse =>
          apply taskEffect_goOn rfl (nextAttempt_left http attempt _)
          intro _ waits
          rw [mayWait_nextAttempt] at waits
          exact waits
      | _ =>
          exact taskEffect_goOn rfl ⟨nofun, id⟩ fun _ waits => by
            simp [WorkerTask.mayWait] at waits
  | unauthorized =>
      simp only [runRequest] at ran
      split at ran
      · cases ran
      · split at ran
        · rename_i isOut
          cases ran
          apply taskEffect_goOn rfl (nextAttempt_left http attempt _)
          intro checking
          simp [checking] at isOut
        · cases ran
          refine ⟨Or.inr (by simp), ?_, fun _ => Or.inl ⟨_, rfl, rfl⟩,
            nofun, nofun⟩
          rintro _ ⟨⟩
          exact ⟨nofun, id⟩
  | stoppingTimer =>
      cases ran
      refine ⟨Or.inr (by simp), ?_, fun _ => ?_,
        fun checking => ⟨rfl, Or.inl checking⟩, ?_⟩
      · rintro _ ⟨⟩
        exact ⟨nofun, id⟩
      · by_cases notAuthenticated : state.net.status = .notAuthenticated
        · exact Or.inl ⟨_, rfl, decide_eq_true notAuthenticated⟩
        · exact Or.inr ⟨decide_eq_false notAuthenticated, ⟨rfl, Or.inl⟩⟩
      · rintro _ _ ⟨⟩ waits
        exact waits
  | clearingFlag =>
      cases ran
      refine ⟨Or.inr (by simp), ?_, fun _ => ?_,
        fun checking => ⟨rfl, Or.inl checking⟩, ?_⟩
      · rintro _ ⟨⟩
        exact ⟨nofun, id⟩
      · by_cases notAuthenticated : state.net.status = .notAuthenticated
        · refine Or.inl ⟨_, rfl, ?_⟩
          simp [WorkerTask.authenticates, AuthStage.isUnderWay, notAuthenticated]
        · exact Or.inr ⟨decide_eq_false notAuthenticated, ⟨rfl, nofun⟩⟩
      · rintro _ _ ⟨⟩ waits
        exact waits
  | authenticating stage =>
      simp only [runRequest, Option.map_eq_some_iff] at ran
      obtain ⟨authOutcome, authRan, rfl⟩ := ran
      exact reauthenticate_effect (authEffect authRan)
  | replied error object =>
      simp only [runRequest] at ran
      split at ran
      · cases ran
        exact taskEffect_end rfl
      · cases ran
        exact parseScorbitronObject_effect error object
  | parsed error =>
      cases ran
      exact runCallback_effect error

theorem runTask_effect {reply : WorkerReply} {task : WorkerTask}
    {outcome : TaskOutcome WorkerTask}
    (ran : state.runTask reply task = some outcome) :
    TaskEffect state task outcome := by
  cases task with
  | authenticate stage =>
      simp only [runTask, Option.map_eq_some_iff] at ran
      obtain ⟨authOutcome, authRan, rfl⟩ := ran
      have effect := authEffect authRan
      refine ⟨?_, ?_, fun due => ?_, fun checking => ?_, ?_⟩
      · rcases effect.posts with ⟨rfl, sameNet, postsEq⟩ | plain
        · exact Or.inl ⟨rfl, sameNet, postsEq⟩
        · exact Or.inr plain
      · intro left leftEq
        obtain ⟨stage, -, rfl⟩ := Option.map_eq_some_iff.mp leftEq
        exact ⟨nofun, nofun⟩
      · rcases effect.due due with ⟨left, leftEq, underWay⟩ | goesOn
        · exact Or.inl ⟨.authenticate left, by rw [leftEq]; rfl, underWay⟩
        · exact Or.inr goesOn
      · obtain ⟨sameCode, statuses⟩ := effect.checking checking
        refine ⟨sameCode, statuses.imp_right fun stageEq => ?_⟩
        exact congrArg some stageEq
      · intro _ left leftEq waits
        obtain ⟨stage, -, rfl⟩ := Option.map_eq_some_iff.mp leftEq
        cases waits
  | request http attempt stage => exact runRequest_effect ran
  | refreshToken =>
      cases ran
      refine ⟨Or.inr (by simp), ?_, fun _ => Or.inr ⟨rfl, rfl, fun _ => Or.inr rfl⟩,
        fun checking => ⟨rfl, Or.inl checking⟩, ?_⟩
      · rintro _ ⟨⟩
        exact ⟨nofun, nofun⟩
      · rintro _ _ ⟨⟩ waits
        cases waits
  | refreshTokenSet =>
      have isPlain : WorkerPost.IsPlain { task := .authenticate .starting } :=
        isPlain_of_ne nofun rfl
      cases ran
      exact { (taskEffect_end rfl : TaskEffect state .refreshTokenSet _) with
        posts := Or.inr (by simpa using isPlain) }
  | requestPairCode =>
      simp only [runTask] at ran
      split at ran
      · cases ran
        exact taskEffect_end rfl
      · cases ran
  | requestTopScores =>
      cases ran
      split
      · rename_i isPaired
        refine taskEffect_goOn rfl ⟨nofun, nofun⟩ fun checking => ?_
        simp [checking] at isPaired
      · exact taskEffect_end rfl
  | uploadDiagnostics =>
      cases ran
      split
      · exact taskEffect_goOn rfl ⟨nofun, nofun⟩ fun _ _ => rfl
      · exact taskEffect_end rfl
  | onPaired =>
      cases ran
      apply taskEffect_known (Or.inl rfl) (by simp)
      rintro _ ⟨⟩
      exact ⟨nofun, nofun⟩
  | onPairedStatus =>
      cases ran
      exact { (taskEffect_end rfl : TaskEffect state .onPairedStatus _) with
        posts := Or.inl ⟨rfl, rfl, rfl⟩ }
  | onUnpaired =>
      cases ran
      exact taskEffect_known (Or.inr rfl) (by simp)
        fun _ isLeft => nomatch isLeft
  | closure =>
      cases ran
      exact taskEffect_end rfl

/-- What a step of the worker can do. -/
inductive Step (state : NetWorker) : WorkerAction → NetWorker → Prop
  | call (call : WorkerCall) :
      Step state (.call call) (state.postAll (call.posts state))
  | setStop : Step state .setStop { state with stop := true }
  | tokenRefreshTimerExpires (armed : state.net.tokenRefreshTimer = true) :
      Step state .tokenRefreshTimerExpires
        ({ state with
          net := { state.net with tokenRefreshTimer := false } }.post
            { task := .refreshToken })
  | takeJob {thread : Fin numOfThreads}
      {pool : WorkerPool numOfThreads WorkerJob}
      (poolTaken : state.pool.take thread = some pool) :
      Step state (.takeJob thread) { state with pool := pool }
  | runJob {thread : Fin numOfThreads} {reply : WorkerReply} {job : WorkerJob}
      {outcome : TaskOutcome WorkerTask}
      (running : state.pool.threads thread = some job)
      (taskRan : state.runTask reply job.task = some outcome) :
      Step state (.runJob thread reply)
        (({ state with net := outcome.net }.postAll outcome.posts).goOn thread
          job outcome.left)

theorem step_cases {action : WorkerAction}
    (taken : state.step action = some next) : state.Step action next := by
  cases action with
  | call call =>
      cases taken
      exact .call call
  | setStop =>
      cases taken
      exact .setStop
  | tokenRefreshTimerExpires =>
      simp only [step] at taken
      split at taken
      · rename_i armed
        cases taken
        exact .tokenRefreshTimerExpires armed
      · cases taken
  | takeJob thread =>
      simp only [step, Option.map_eq_some_iff] at taken
      obtain ⟨pool, poolTaken, rfl⟩ := taken
      exact .takeJob poolTaken
  | runJob thread reply =>
      simp only [step, runJob, Option.bind_eq_some_iff,
        Option.map_eq_some_iff] at taken
      obtain ⟨job, running, outcome, taskRan, rfl⟩ := taken
      exact .runJob running taskRan

end NetWorker

end ScorbitSdk
