import ScorbitSdk.NetHandlers

/-!
# The mutex of the authentication status

Which handlers hold the mutex, what they have done with it, and which of them
wait.  The authenticate task holds it while the token is requested, and a
request while it looks at its predicate; the other handlers change the status
without it.
-/

namespace ScorbitSdk

/-- What a handler holds of `m_authMutex`: nothing, the mutex, or the mutex
after it has notified all that wait. -/
inductive MutexHold
  | free
  | held
  | notified
  deriving DecidableEq

namespace Statement

/-- What is held once the statement and all that it leads to has run, if it
may run at all. -/
def hold : MutexHold → Statement → Option MutexHold
  | .free, lockAuthMutex => some .held
  | .held, unlockAuthMutex => some .free
  | .notified, unlockAuthMutex => some .free
  | .held, checkNotAuthenticated => some .free
  | .held, waitPredicate _ _ => some .free
  | .held, wait _ _ => some .free
  | .held, checkUnauthorized _ _ => some .free
  | .held, requestToken true => some .free
  | .free, requestToken false => some .free
  | .notified, authenticated => some .notified
  | .held, notifyAll => some .notified
  | hold, notifyAll => some hold
  | hold, assignStatus _ => some hold
  | hold, resetLastEmittedPairingState => some hold
  | hold, setRefreshingToken _ => some hold
  | hold, startTokenRefreshTimer _ => some hold
  | hold, cancelTokenRefreshTimer => some hold
  | .free, authenticate => some .free
  | .free, postAuthenticate => some .free
  | .free, request _ _ => some .free
  | .free, asleep _ _ => some .free
  | .free, checkAllowedStatuses _ _ => some .free
  | .free, refuse _ => some .free
  | .free, send _ _ => some .free
  | .free, callback _ _ _ => some .free
  | .free, compareStatus _ => some .free
  | .free, emitPairingStatusEventIfChanged _ => some .free
  | .free, setLastEmittedPairingState _ => some .free
  | .free, pushPairingStatusChanged _ => some .free
  | _, _ => none

/-- What is held right after the statement, before what it leads to. -/
def holdNow (hold : MutexHold) : Statement → MutexHold
  | lockAuthMutex => .held
  | unlockAuthMutex => .free
  | wait _ _ => .free
  | notifyAll => if hold = .held then .notified else hold
  | _ => hold

/-- The request that waits for its predicate, having found it false. -/
def waitsFor? : Statement → Option HandlerRequest
  | wait awaited _ => some awaited
  | asleep awaited _ => some awaited
  | _ => none

end Statement

namespace Handler

/-- What is held once the handler has run. -/
def hold : MutexHold → Handler → Option MutexHold
  | hold, [] => some hold
  | hold, statement :: rest =>
      (statement.hold hold).bind fun later => Handler.hold later rest

@[simp]
theorem hold_nil (hold : MutexHold) : Handler.hold hold [] = some hold :=
  rfl

@[simp]
theorem hold_cons (hold : MutexHold) (statement : Statement) (rest : Handler) :
    Handler.hold hold (statement :: rest) =
      (statement.hold hold).bind fun later => Handler.hold later rest :=
  rfl

theorem hold_append (hold : MutexHold) (first second : Handler) :
    Handler.hold hold (first ++ second) =
      (Handler.hold hold first).bind fun later =>
        Handler.hold later second := by
  induction first generalizing hold with
  | nil => rfl
  | cons statement first ih =>
      rw [List.cons_append, hold_cons, hold_cons, Option.bind_assoc]
      exact congrArg _ (funext ih)

/-- The request that the handler waits with. -/
def waitsFor? (handler : Handler) : Option HandlerRequest :=
  handler.head?.bind Statement.waitsFor?

@[simp]
theorem waitsFor?_cons (statement : Statement) (rest : Handler) :
    Handler.waitsFor? (statement :: rest) = statement.waitsFor? :=
  rfl

/-- Nothing in the handler waits. -/
def NeverWaits (handler : Handler) : Prop :=
  ∀ statement ∈ handler, statement.waitsFor? = none

theorem NeverWaits.cons {statement : Statement} {rest : Handler}
    (restNever : NeverWaits rest) (notWaiting : statement.waitsFor? = none) :
    NeverWaits (statement :: rest) :=
  List.forall_mem_cons.mpr ⟨notWaiting, restNever⟩

theorem NeverWaits.append {first second : Handler}
    (firstNever : NeverWaits first) (secondNever : NeverWaits second) :
    NeverWaits (first ++ second) :=
  List.forall_mem_append.mpr ⟨firstNever, secondNever⟩

theorem NeverWaits.waitsFor? {handler : Handler} (never : handler.NeverWaits) :
    handler.waitsFor? = none := by
  cases handler with
  | nil => rfl
  | cons statement rest => exact never statement List.mem_cons_self

/-- The handler locks and unlocks in turn, and waits for nothing later on. -/
structure Balanced (hold : MutexHold) (handler : Handler) : Prop where
  released : Handler.hold hold handler = some .free
  waitsNow : NeverWaits handler.tail

theorem neverWaits_nextAttempt (request : HandlerRequest) (attempt : Nat) :
    NeverWaits (nextAttempt request attempt) := by
  unfold nextAttempt
  split <;> simp [NeverWaits, Statement.waitsFor?]

@[simp]
theorem hold_nextAttempt (request : HandlerRequest) (attempt : Nat) :
    Handler.hold .free (nextAttempt request attempt) = some .free := by
  unfold nextAttempt
  split <;> rfl

theorem wake_cases (handler : Handler) :
    handler.wake = handler ∨ ∃ request attempt rest,
      handler = .asleep request attempt :: rest ∧
        handler.wake =
          .lockAuthMutex :: .waitPredicate request attempt :: rest := by
  unfold wake
  split
  · exact Or.inr ⟨_, _, _, rfl, rfl⟩
  · exact Or.inl rfl

theorem Balanced.awake {hold : MutexHold} {handler : Handler}
    (balanced : handler.Balanced hold) : handler.wake.Balanced hold := by
  obtain same | ⟨request, attempt, rest, rfl, awake⟩ := wake_cases handler
  · rw [same]
    exact balanced
  · obtain ⟨released, waitsNow⟩ := balanced
    rw [awake]
    refine { released := ?_, waitsNow := ?_ }
    · cases hold with
      | free => simpa [Statement.hold] using released
      | _ => cases released
    · intro statement isLater
      obtain rfl | isRest := List.mem_cons.mp isLater
      · rfl
      · exact waitsNow statement isRest

/-- A handler that waits although it has been woken had not yet blocked. -/
theorem waitsFor?_wake {handler : Handler} {request : HandlerRequest}
    (waits : handler.wake.waitsFor? = some request) :
    ∃ attempt rest, handler = .wait request attempt :: rest := by
  unfold wake at waits
  split at waits
  · cases waits
  · rename_i notAsleep
    obtain ⟨statement, isHead, waits⟩ := Option.bind_eq_some_iff.mp waits
    obtain ⟨rest, rfl⟩ := List.head?_eq_some_iff.mp isHead
    cases statement with
    | wait other attempt =>
        cases waits
        exact ⟨attempt, rest, rfl⟩
    | asleep other attempt => exact absurd rfl (notAsleep other attempt rest)
    | _ => cases waits

end Handler

namespace NetHandlers

variable {state next : NetHandlers} {action : HandlerAction}

@[simp]
theorem hold_requestToken_true (state : NetHandlers) (reply : AuthReply) :
    Handler.hold .held (state.requestToken true reply) = some .notified := by
  cases reply <;> simp only [requestToken]
  all_goals first | rfl | (split <;> rfl)

@[simp]
theorem hold_requestToken_false (state : NetHandlers) (reply : AuthReply) :
    Handler.hold .free (state.requestToken false reply) = some .free := by
  cases reply <;> simp only [requestToken]
  all_goals first | rfl | (split <;> rfl)

@[simp]
theorem hold_parseScorbitronObject (error : Error)
    (object : Option ScorbitronObject) :
    Handler.hold .free (Handler.parseScorbitronObject error object) =
      some .free := by
  unfold Handler.parseScorbitronObject
  split <;> rfl

@[simp]
theorem hold_runCallback (error : Error) (callback : RequestCallback) :
    Handler.hold .free (Handler.runCallback error callback) = some .free := by
  unfold Handler.runCallback
  repeat' split
  all_goals rfl

/-- What a statement leads to holds in the end what the statement should. -/
theorem hold_left {reply : WorkerReply} {statement : Statement}
    {left : Handler} {hold later : MutexHold}
    (isLeft : state.left reply statement = some left)
    (isLater : statement.hold hold = some later) :
    Handler.hold (statement.holdNow hold) left = some later := by
  cases statement with
  | requestToken normalAuthentication =>
      cases isLeft
      cases normalAuthentication <;> cases hold <;> cases isLater <;>
        simp [Statement.holdNow, Handler.hold_append, Statement.hold]
  | send request attempt =>
      cases isLeft
      cases hold <;> cases isLater
      simp only [Statement.holdNow]
      split <;> simp [Statement.hold]
  | checkUnauthorized request attempt =>
      cases isLeft
      cases hold <;> cases isLater
      simp only [Statement.holdNow]
      split <;>
        simp [Statement.hold, Handler.stopTokenRefreshTimer]
  | callback request error object =>
      cases isLeft
      cases hold <;> cases isLater
      simp only [Statement.holdNow]
      split <;> simp [Handler.hold_append]
  | lockAuthMutex =>
      simp only [NetHandlers.left, Option.ite_none_right_eq_some,
        Option.some.injEq] at isLeft
      obtain ⟨-, rfl⟩ := isLeft
      cases hold <;> cases isLater
      rfl
  | _ =>
      cases isLeft <;> cases hold <;> cases isLater <;>
        first
        | rfl
        | (split <;> rfl)

theorem neverWaits_requestToken (state : NetHandlers)
    (normalAuthentication : Bool) (reply : AuthReply) :
    Handler.NeverWaits (state.requestToken normalAuthentication reply) := by
  unfold requestToken
  repeat' split
  all_goals
    simp [Handler.NeverWaits, Handler.authenticationFailed,
      Handler.stopTokenRefreshTimer, Statement.waitsFor?]

/-- Only a predicate that is false begins to wait. -/
theorem neverWaits_left {reply : WorkerReply} {statement : Statement}
    {left : Handler} (isLeft : state.left reply statement = some left)
    (notWaiting : statement.waitsFor? = none)
    (canGoOn : ∀ request attempt,
      statement = .waitPredicate request attempt →
        state.canGoOn request = true) :
    Handler.NeverWaits left := by
  cases statement with
  | waitPredicate request attempt =>
      cases isLeft
      rw [if_pos (canGoOn request attempt rfl)]
      simp [Handler.NeverWaits, Statement.waitsFor?]
  | requestToken normalAuthentication =>
      cases isLeft
      apply (neverWaits_requestToken state _ _).append
      split <;> simp [Handler.NeverWaits, Statement.waitsFor?]
  | send request attempt =>
      cases isLeft
      split
      · simp [Handler.NeverWaits, Statement.waitsFor?]
      · exact Handler.neverWaits_nextAttempt request attempt
      · simp [Handler.NeverWaits, Statement.waitsFor?]
      · simp [Handler.NeverWaits, Statement.waitsFor?]
  | checkUnauthorized request attempt =>
      cases isLeft
      split
      · exact (Handler.neverWaits_nextAttempt request attempt).cons rfl
      · refine Handler.NeverWaits.append ?_
          (Handler.neverWaits_nextAttempt request attempt)
        simp [Handler.NeverWaits, Handler.stopTokenRefreshTimer,
          Statement.waitsFor?]
  | callback request error object =>
      cases isLeft
      split
      · simp [Handler.NeverWaits]
      · apply Handler.NeverWaits.append
        · unfold Handler.parseScorbitronObject
          split <;> simp [Handler.NeverWaits, Statement.waitsFor?]
        · unfold Handler.runCallback
          repeat' split
          all_goals simp [Handler.NeverWaits, Statement.waitsFor?]
  | lockAuthMutex =>
      simp only [NetHandlers.left, Option.ite_none_right_eq_some,
        Option.some.injEq] at isLeft
      obtain ⟨-, rfl⟩ := isLeft
      simp [Handler.NeverWaits]
  | wait request attempt => cases notWaiting
  | asleep request attempt => cases notWaiting
  | _ =>
      cases isLeft
      first
      | simp [Handler.NeverWaits, Statement.waitsFor?]; done
      | (split <;> simp [Handler.NeverWaits, Statement.waitsFor?])

/-- How a handler stands to the mutex. -/
structure Holds (state : NetHandlers) (index : Nat) (handler : Handler)
    (hold : MutexHold) : Prop where
  balanced : handler.Balanced hold
  owns : hold ≠ .free ↔ state.authMutex = some index
  /-- Nobody can begin to wait while the one who notified has the mutex. -/
  quiet : hold = .notified →
    ∀ other ∈ state.handlers, other.waitsFor? = none

/-- Every handler holds of the mutex what it is to hold. -/
structure MutexKept (state : NetHandlers) : Prop where
  holds : ∀ index handler, state.handlers[index]? = some handler →
    ∃ hold, state.Holds index handler hold
  exists_owner : ∀ index, state.authMutex = some index →
    index < state.handlers.length

theorem neverWaits_left_tail {reply : WorkerReply} {statement : Statement}
    {left : Handler} (isLeft : state.left reply statement = some left) :
    Handler.NeverWaits left.tail := by
  cases statement with
  | wait request attempt =>
      cases isLeft
      exact List.forall_mem_nil _
  | asleep request attempt => cases isLeft
  | waitPredicate request attempt =>
      cases isLeft
      split <;> simp [Handler.NeverWaits, Statement.waitsFor?]
  | _ =>
      intro later isLater
      exact neverWaits_left isLeft rfl nofun later
        (List.mem_of_mem_tail isLater)

/-- What a handler waits for after its statement it waited for before, or has
found not to hold right now. -/
theorem waits_left {reply : WorkerReply} {statement : Statement}
    {rest left : Handler} {request : HandlerRequest}
    (isLeft : state.left reply statement = some left)
    (waitsNow : Handler.NeverWaits rest)
    (waits : Handler.waitsFor? (left ++ rest) = some request) :
    statement.waitsFor? = some request ∨
      ∃ attempt, statement = .waitPredicate request attempt ∧
        state.canGoOn request = false := by
  by_cases never : Handler.NeverWaits left
  · rw [(never.append waitsNow).waitsFor?] at waits
    cases waits
  · cases statement with
    | wait other attempt =>
        cases isLeft
        exact Or.inl waits
    | asleep other attempt => cases isLeft
    | waitPredicate other attempt =>
        apply Or.inr
        have cannotGoOn : state.canGoOn other = false := by
          by_contra canGoOn
          rw [Bool.not_eq_false] at canGoOn
          refine never (neverWaits_left isLeft rfl fun request attempt same => ?_)
          cases same
          exact canGoOn
        cases isLeft
        rw [if_neg (Bool.not_eq_true _ ▸ cannotGoOn)] at waits
        cases waits
        exact ⟨attempt, rfl, cannotGoOn⟩
    | _ => exact absurd (neverWaits_left isLeft rfl nofun) never

/-- A handler that waits after a step of one waited before, or has found its
predicate false right now. -/
theorem waits_cases {index other : Nat} {reply : WorkerReply}
    {statement : Statement} {rest left handler : Handler}
    {request : HandlerRequest}
    (isNext : state.handlers[index]? = some (statement :: rest))
    (isLeft : state.left reply statement = some left)
    (waitsNow : Handler.NeverWaits rest)
    (isHandler : (state.ran index statement (left ++ rest)).handlers[other]? =
      some handler)
    (waits : handler.waitsFor? = some request) :
    (∃ before, state.handlers[other]? = some before ∧
      before.waitsFor? = some request ∧
      (statement = .notifyAll → other ≠ index ∧
        ∃ attempt rest, before = .wait request attempt :: rest)) ∨
    (∃ attempt, statement = .waitPredicate request attempt ∧
      state.canGoOn request = false) := by
  obtain ⟨before, rfl, ⟨rfl, rfl⟩ | ⟨isOther, isBefore⟩⟩ | ⟨-, rfl⟩ :=
    runHandler_cases isHandler
  · by_cases notifies : statement = .notifyAll
    · subst notifies
      cases isLeft
      obtain ⟨attempt, later, restEq⟩ := Handler.waitsFor?_wake waits
      rw [List.nil_append] at restEq
      rw [restEq] at waitsNow
      cases waitsNow _ List.mem_cons_self
    · rw [if_neg notifies] at waits
      obtain waited | found := waits_left isLeft waitsNow waits
      · exact Or.inl ⟨_, isNext, waited, (absurd · notifies)⟩
      · exact Or.inr found
  · by_cases notifies : statement = .notifyAll
    · rw [if_pos notifies] at waits
      obtain ⟨attempt, later, rfl⟩ := Handler.waitsFor?_wake waits
      cases waits
      exact Or.inl ⟨_, isBefore, rfl, fun _ => ⟨isOther, attempt, later, rfl⟩⟩
    · rw [if_neg notifies] at waits
      exact Or.inl ⟨before, isBefore, waits, (absurd · notifies)⟩
  · cases waits

theorem MutexKept.init : MutexKept {} where
  holds index handler isHandler := by
    have idle : handler.Balanced .free := by
      obtain _ | _ | index := index
      · cases isHandler
        exact { released := rfl, waitsNow := by simp [Handler.NeverWaits] }
      · cases isHandler
        exact { released := rfl, waitsNow := by simp [Handler.NeverWaits] }
      · cases isHandler
    exact ⟨.free, { balanced := idle, owns := by simp, quiet := nofun }⟩
  exists_owner _ isOwner := by cases isOwner

/-- A handler of which nothing is held is one of a state in which another
owns the mutex. -/
theorem Holds.of_free {index : Nat} {handler : Handler}
    (balanced : handler.Balanced .free)
    (notOwner : state.authMutex ≠ some index) :
    state.Holds index handler .free where
  balanced := balanced
  owns := by simp [notOwner]
  quiet := nofun

theorem Holds.next_balanced {index : Nat} {reply : WorkerReply}
    {statement : Statement} {rest left : Handler} {hold : MutexHold}
    (isLeft : state.left reply statement = some left)
    (holds : state.Holds index (statement :: rest) hold) :
    (left ++ rest).Balanced (statement.holdNow hold) := by
  obtain ⟨released, waitsNow⟩ := holds.balanced
  rw [List.tail_cons] at waitsNow
  refine { released := ?_, waitsNow := ?_ }
  · obtain ⟨later, isLater, restHold⟩ := Option.bind_eq_some_iff.mp released
    rw [Handler.hold_append, hold_left isLeft isLater]
    exact restHold
  · cases left with
    | nil =>
        intro later isLater
        exact waitsNow later (List.mem_of_mem_tail isLater)
    | cons first later =>
        exact (neverWaits_left_tail isLeft).append waitsNow

theorem Holds.isLater {index : Nat} {statement : Statement} {rest : Handler}
    {hold : MutexHold} (holds : state.Holds index (statement :: rest) hold) :
    ∃ later, statement.hold hold = some later := by
  obtain ⟨later, isLater, -⟩ :=
    Option.bind_eq_some_iff.mp holds.balanced.released
  exact ⟨later, isLater⟩

/-- A handler keeps its part of the mutex when it runs a statement. -/
theorem Holds.run_self {index : Nat}
    {statement : Statement} {rest : Handler} {hold : MutexHold}
    (holds : state.Holds index (statement :: rest) hold) :
    statement.holdNow hold ≠ .free ↔
      (state.execute index statement).authMutex = some index := by
  have owns := holds.owns
  cases statement with
  | lockAuthMutex => simp [Statement.holdNow, execute]
  | unlockAuthMutex => simp [Statement.holdNow, execute]
  | wait request attempt => simp [Statement.holdNow, execute]
  | notifyAll =>
      cases hold <;> simpa [Statement.holdNow, execute] using owns
  | _ => exact owns

/-- So does every other handler. -/
theorem Holds.run_other {index other : Nat} {reply : WorkerReply}
    {statement : Statement} {rest left handler : Handler}
    {hold otherHold : MutexHold} (isOther : other ≠ index)
    (isLeft : state.left reply statement = some left)
    (holds : state.Holds index (statement :: rest) hold)
    (otherHolds : state.Holds other handler otherHold) :
    otherHold ≠ .free ↔
      (state.execute index statement).authMutex = some other := by
  rw [otherHolds.owns]
  obtain ⟨later, isLater⟩ := holds.isLater
  have notOwner (owner : hold ≠ .free) : state.authMutex ≠ some other := by
    rw [holds.owns.mp owner]
    intro same
    exact isOther (Option.some.inj same).symm
  cases statement with
  | lockAuthMutex =>
      simp only [NetHandlers.left, Option.ite_none_right_eq_some] at isLeft
      simp [execute, isLeft.1, isOther.symm]
  | unlockAuthMutex =>
      cases hold with
      | free => cases isLater
      | _ => simpa [execute] using notOwner (by decide)
  | wait request attempt =>
      cases hold with
      | held => simpa [execute] using notOwner (by decide)
      | _ => cases isLater
  | _ => exact Iff.rfl

theorem ran_authMutex (index : Nat) (statement : Statement)
    (new : Handler) :
    (state.ran index statement new).authMutex =
      (state.execute index statement).authMutex := by
  cases statement <;> rfl

theorem length_le_ran (index : Nat) (statement : Statement) (new : Handler) :
    state.handlers.length ≤
      (state.ran index statement new).handlers.length := by
  cases statement <;> simp [execute]

/-- A request about to block has the mutex. -/
theorem Holds.wait_owns {index : Nat} {request : HandlerRequest}
    {attempt : Nat} {rest : Handler} {hold : MutexHold}
    (holds : state.Holds index (.wait request attempt :: rest) hold) :
    state.authMutex = some index := by
  obtain ⟨later, isLater⟩ := holds.isLater
  cases hold with
  | held => exact holds.owns.mp nofun
  | _ => cases isLater

theorem Holds.waitPredicate_held {index : Nat} {request : HandlerRequest}
    {attempt : Nat} {rest : Handler} {hold : MutexHold}
    (holds : state.Holds index (.waitPredicate request attempt :: rest) hold) :
    hold = .held := by
  obtain ⟨later, isLater⟩ := holds.isLater
  cases hold with
  | held => rfl
  | _ => cases isLater

/-- Once the owner of the mutex has notified, no handler waits. -/
theorem MutexKept.quiet_self {index : Nat} {reply : WorkerReply}
    {statement : Statement} {rest left : Handler} {hold : MutexHold}
    (kept : state.MutexKept)
    (isNext : state.handlers[index]? = some (statement :: rest))
    (isLeft : state.left reply statement = some left)
    (holds : state.Holds index (statement :: rest) hold)
    (notified : statement.holdNow hold = .notified) :
    ∀ other ∈ (state.ran index statement (left ++ rest)).handlers,
      other.waitsFor? = none := by
  intro handler isHandler
  obtain ⟨other, isHandler⟩ := List.mem_iff_getElem?.mp isHandler
  by_contra waits
  obtain ⟨request, waits⟩ := Option.ne_none_iff_exists'.mp waits
  obtain ⟨before, isBefore, waited, woken⟩ | ⟨attempt, rfl, -⟩ :=
    waits_cases isNext isLeft holds.balanced.waitsNow isHandler waits
  · cases hold with
    | notified =>
        rw [holds.quiet rfl before (List.mem_of_getElem? isBefore)] at waited
        cases waited
    | held =>
        have notifies : statement = .notifyAll := by
          cases statement with
          | notifyAll => rfl
          | _ => cases notified
        obtain ⟨isOther, attempt, later, rfl⟩ := woken notifies
        obtain ⟨_, otherHolds⟩ := kept.holds other _ isBefore
        have owner := holds.owns.mp nofun
        rw [otherHolds.wait_owns] at owner
        exact isOther (Option.some.inj owner)
    | free =>
        cases statement with
        | _ => cases notified
  · rw [holds.waitPredicate_held] at notified
    cases notified

/-- Nor does one begin to wait until the owner has released the mutex. -/
theorem Holds.quiet_other {index other : Nat} {reply : WorkerReply}
    {statement : Statement} {rest left handler : Handler}
    {hold otherHold : MutexHold} (isOther : other ≠ index)
    (isNext : state.handlers[index]? = some (statement :: rest))
    (isLeft : state.left reply statement = some left)
    (holds : state.Holds index (statement :: rest) hold)
    (otherHolds : state.Holds other handler otherHold)
    (notified : otherHold = .notified) :
    ∀ other ∈ (state.ran index statement (left ++ rest)).handlers,
      other.waitsFor? = none := by
  intro waiting isWaiting
  obtain ⟨place, isWaiting⟩ := List.mem_iff_getElem?.mp isWaiting
  by_contra waits
  obtain ⟨request, waits⟩ := Option.ne_none_iff_exists'.mp waits
  obtain ⟨before, isBefore, waited, -⟩ | ⟨attempt, rfl, -⟩ :=
    waits_cases isNext isLeft holds.balanced.waitsNow isWaiting waits
  · rw [otherHolds.quiet notified before (List.mem_of_getElem? isBefore)]
      at waited
    cases waited
  · have owner := holds.owns.mp (by rw [holds.waitPredicate_held]; nofun)
    have otherOwner := otherHolds.owns.mp (by rw [notified]; nofun)
    rw [owner] at otherOwner
    exact isOther (Option.some.inj otherOwner).symm

theorem MutexKept.owner_lt {index owner : Nat} {statement : Statement}
    {rest : Handler} (kept : state.MutexKept)
    (isNext : state.handlers[index]? = some (statement :: rest))
    (isOwner : (state.execute index statement).authMutex = some owner) :
    owner < state.handlers.length := by
  cases statement with
  | lockAuthMutex =>
      cases isOwner
      exact (List.getElem?_eq_some_iff.mp isNext).1
  | unlockAuthMutex => cases isOwner
  | wait request attempt => cases isOwner
  | _ => exact kept.exists_owner owner isOwner

theorem MutexKept.run {index : Nat} {reply : WorkerReply}
    {statement : Statement} {rest left : Handler} (kept : state.MutexKept)
    (isNext : state.handlers[index]? = some (statement :: rest))
    (isLeft : state.left reply statement = some left) :
    MutexKept (state.ran index statement (left ++ rest)) where
  holds other handler isHandler := by
    obtain ⟨hold, holds⟩ := kept.holds index _ isNext
    obtain ⟨before, rfl, ⟨rfl, rfl⟩ | ⟨isOther, isBefore⟩⟩ | ⟨rfl, rfl⟩ :=
      runHandler_cases isHandler
    · refine ⟨statement.holdNow hold, ?_⟩
      have balanced := holds.next_balanced isLeft
      refine {
        balanced := ?_
        owns := by rw [ran_authMutex]; exact holds.run_self
        quiet := kept.quiet_self isNext isLeft holds }
      split
      · exact balanced.awake
      · exact balanced
    · obtain ⟨otherHold, otherHolds⟩ := kept.holds other _ isBefore
      refine ⟨otherHold, ?_⟩
      refine {
        balanced := ?_
        owns := by
          rw [ran_authMutex]
          exact holds.run_other isOther isLeft otherHolds
        quiet := holds.quiet_other isOther isNext isLeft otherHolds }
      split
      · exact otherHolds.balanced.awake
      · exact otherHolds.balanced
    · refine ⟨.free, Holds.of_free ?_ ?_⟩
      · exact { released := rfl, waitsNow := by simp [Handler.NeverWaits] }
      · intro owner
        rw [ran_authMutex] at owner
        exact (kept.owner_lt isNext owner).false
  exists_owner owner isOwner := by
    rw [ran_authMutex] at isOwner
    exact Nat.lt_of_lt_of_le (kept.owner_lt isNext isOwner)
      (length_le_ran index statement (left ++ rest))

/-- A new handler does not change who holds the mutex. -/
theorem MutexKept.append {new : Handler} (kept : state.MutexKept)
    (mutexEq : next.authMutex = state.authMutex)
    (handlersEq : next.handlers = state.handlers ++ [new])
    (balanced : new.Balanced .free) (noWait : new.waitsFor? = none) :
    next.MutexKept where
  holds index handler isHandler := by
    rw [handlersEq] at isHandler
    obtain isOld | ⟨rfl, rfl⟩ := getElem?_concat_cases isHandler
    · obtain ⟨hold, holds⟩ := kept.holds index handler isOld
      refine ⟨hold, { holds with owns := mutexEq ▸ holds.owns, quiet := ?_ }⟩
      intro notified other isOther
      rw [handlersEq, List.mem_append, List.mem_singleton] at isOther
      obtain isOther | rfl := isOther
      · exact holds.quiet notified other isOther
      · exact noWait
    · refine ⟨.free, Holds.of_free balanced fun owner => ?_⟩
      rw [mutexEq] at owner
      exact (kept.exists_owner _ owner).false
  exists_owner index owner := by
    rw [mutexEq] at owner
    rw [handlersEq, List.length_append]
    exact Nat.lt_add_right _ (kept.exists_owner index owner)

/-- Nor does a handler that is put in the place of one like it. -/
theorem MutexKept.replace {index : Nat} {old new : Handler}
    (kept : state.MutexKept) (isOld : state.handlers[index]? = some old)
    (balanced : ∀ hold, old.Balanced hold → new.Balanced hold)
    (noWait : new.waitsFor? = none) :
    MutexKept { state with handlers := state.handlers.set index new } where
  holds other handler isHandler := by
    have quiet (others : ∀ other ∈ state.handlers, other.waitsFor? = none) :
        ∀ other ∈ state.handlers.set index new, other.waitsFor? = none := by
      intro other isOther
      obtain isOther | rfl := List.mem_or_eq_of_mem_set isOther
      · exact others other isOther
      · exact noWait
    obtain ⟨rfl, rfl⟩ | ⟨isOther, isBefore⟩ := getElem?_set_cases isHandler
    · obtain ⟨hold, holds⟩ := kept.holds other old isOld
      exact ⟨hold, {
        balanced := balanced hold holds.balanced
        owns := holds.owns
        quiet := fun notified => quiet (holds.quiet notified) }⟩
    · obtain ⟨hold, holds⟩ := kept.holds other handler isBefore
      exact ⟨hold, {
        holds with quiet := fun notified => quiet (holds.quiet notified) }⟩
  exists_owner owner isOwner := by
    rw [List.length_set]
    exact kept.exists_owner owner isOwner

/-- A signal takes the place of a handler that has run. -/
theorem MutexKept.signal {handler : Handler} (kept : state.MutexKept)
    (idle : state.handlers[0]? = some [])
    (balanced : handler.Balanced .free) (noWait : handler.waitsFor? = none) :
    MutexKept { state with handlers := state.handlers.set 0 handler } := by
  refine kept.replace idle (fun hold hasRun => ?_) noWait
  cases hasRun.released
  exact balanced

theorem MutexKept.step (kept : state.MutexKept)
    (taken : state.step action = some next) : next.MutexKept := by
  cases step_cases taken with
  | call =>
      refine kept.append rfl rfl ?_ rfl
      exact { released := rfl, waitsNow := List.forall_mem_nil _ }
  | paired _ idle =>
      refine kept.signal idle ?_ rfl
      exact {
        released := rfl
        waitsNow := by
          simp [Handler.NeverWaits, Handler.onPaired, Statement.waitsFor?] }
  | unpaired _ idle =>
      refine kept.signal idle ?_ rfl
      exact {
        released := rfl
        waitsNow := by
          simp [Handler.NeverWaits, Handler.onUnpaired, Statement.waitsFor?] }
  | tokenRefreshTimerExpires =>
      refine kept.append rfl rfl ?_ rfl
      exact {
        released := rfl
        waitsNow := by
          simp [Handler.NeverWaits, Handler.refreshToken,
            Statement.waitsFor?] }
  | destroy =>
      refine kept.append rfl rfl ?_ rfl
      exact {
        released := rfl
        waitsNow := by
          simp [Handler.NeverWaits, Handler.destroy,
            Handler.stopTokenRefreshTimer, Statement.waitsFor?] }
  | run isNext isLeft => exact kept.run isNext isLeft
  | wake isAsleep =>
      exact kept.replace isAsleep (fun _ balanced => balanced.awake) rfl

end NetHandlers

end ScorbitSdk
