import Mathlib.Data.List.Chain
import ScorbitSdk.StatusSoundness

/-!
# Events of the pairing status

An event of the pairing status is pushed where the status is set and differs
from the state emitted last, in three statements between which the other
handlers run.  The callback of an unpair request sets the status without an
event.  The file says when the events alternate nevertheless, and when the
last of them is the status.
-/

namespace ScorbitSdk

namespace Statement

/-- Between the check of the state emitted last and the push of the event. -/
def emitting : Statement → Bool
  | setLastEmittedPairingState _ => true
  | pushPairingStatusChanged _ => true
  | _ => false

/-- The statement leads to the event of the pairing status, or to another
status. -/
def settles (isPaired : Bool) : Statement → Bool
  | emitPairingStatusEventIfChanged other => other = isPaired
  | pushPairingStatusChanged other => other = isPaired
  | assignStatus status =>
      status ≠ .authenticatedPaired ∧ status ≠ .authenticatedUnpaired
  | authenticated => true
  | requestToken normalAuthentication => normalAuthentication
  | _ => false

/-- What a request runs until it has its reply. -/
def awaitsReply : Statement → Bool
  | request _ _ => true
  | lockAuthMutex => true
  | unlockAuthMutex => true
  | waitPredicate _ _ => true
  | wait _ _ => true
  | asleep _ _ => true
  | checkAllowedStatuses _ _ => true
  | send _ _ => true
  | _ => false

end Statement

namespace Handler

/-- The handler is between the check of the state emitted last and the push of
the event. -/
def emitting (handler : Handler) : Bool :=
  handler.head?.any Statement.emitting

/-- The handler is still to push the event of the pairing status, or to replace
the status. -/
def settles (isPaired : Bool) (handler : Handler) : Bool :=
  handler.any (Statement.settles isPaired)

/-- The handler is not about to push an event that it has checked, and where it
resets the state emitted last it goes on to request a token. -/
def plain : Handler → Bool
  | [] => true
  | statement :: rest =>
      !statement.emitting &&
        (statement != .resetLastEmittedPairingState ||
          rest.contains (.requestToken true)) && plain rest

theorem plain_append {first second : Handler}
    (firstPlain : plain first = true) (secondPlain : plain second = true) :
    plain (first ++ second) = true := by
  induction first with
  | nil => exact secondPlain
  | cons statement first ih =>
      simp only [plain, Bool.and_eq_true, Bool.or_eq_true,
        List.contains_eq_mem, decide_eq_true_eq] at firstPlain
      obtain ⟨⟨notEmitting, goesOn⟩, restPlain⟩ := firstPlain
      simp only [List.cons_append, plain, Bool.and_eq_true, Bool.or_eq_true,
        List.contains_eq_mem, decide_eq_true_eq]
      exact ⟨⟨notEmitting, goesOn.imp id (List.mem_append_left second)⟩,
        ih restPlain⟩

theorem plain_nextAttempt (request : HandlerRequest) (attempt : Nat) :
    plain (nextAttempt request attempt) = true := by
  unfold nextAttempt
  split <;> rfl

theorem plain_wake {handler : Handler} (isPlain : handler.plain = true) :
    handler.wake.plain = true := by
  unfold wake
  split
  · exact isPlain
  · exact isPlain

theorem settles_wake {handler : Handler} {isPaired : Bool}
    (settles : handler.settles isPaired = true) :
    handler.wake.settles isPaired = true := by
  unfold wake
  split
  · exact settles
  · exact settles

end Handler

namespace NetHandlers

/-- No handler runs but requests that wait for the status or for a reply. -/
def Quiet (state : NetHandlers) : Prop :=
  ∀ handler ∈ state.handlers, ∀ statement ∈ handler,
    statement.awaitsReply = true

/-- The events alternate, and the last one is the pairing status once the
handlers have run. -/
structure EventsMirrorStatus (state : NetHandlers) : Prop where
  alternate : state.events.IsChain (· ≠ ·)
  mirror : state.Quiet → ∀ isPaired, state.status = pairingStatus isPaired →
    state.events.getLast? = some isPaired

/-- The last event is the given one, or one of the handlers is still to push it
or to replace the status. -/
def Settled (state : NetHandlers) (isPaired : Bool) (handlers : List Handler) :
    Prop :=
  state.events.getLast? = some isPaired ∨
    ∃ handler ∈ handlers, handler.settles isPaired = true

/-- No handler but the given one is between its check of the state emitted last
and its push. -/
def NoOtherEmits (state : NetHandlers) (index : Nat) : Prop :=
  ∀ other handler, other ≠ index → state.handlers[other]? = some handler →
    handler.emitting = false

/-- The state emitted last is looked at or reset while no other handler is
between its check and its push; an event is pushed and a pairing status is set
where the last event is that of the status afterwards, or some handler is
still to push it or to replace the status. -/
def EmitsSafely (state : NetHandlers) : HandlerAction → Prop
  | .run index _ => ∀ statement rest,
      state.handlers[index]? = some (statement :: rest) →
        match statement with
        | .emitPairingStatusEventIfChanged _ => state.NoOtherEmits index
        | .resetLastEmittedPairingState => state.NoOtherEmits index
        | .pushPairingStatusChanged isPaired =>
            state.status = pairingStatus !isPaired →
              ∃ handler ∈ state.handlers.set index rest,
                handler.settles (!isPaired) = true
        | .assignStatus status => ∀ isPaired,
            status = pairingStatus isPaired →
              state.Settled isPaired (state.handlers.set index rest)
        | _ => True
  | _ => True

variable {state next : NetHandlers} {action : HandlerAction}

theorem plain_requestToken (state : NetHandlers) (normalAuthentication : Bool)
    (reply : AuthReply) :
    Handler.plain (state.requestToken normalAuthentication reply) = true := by
  cases normalAuthentication <;> cases reply <;> simp only [requestToken]
  all_goals first | rfl | (split <;> rfl)

/-- Only the check of the state emitted last leads to a push. -/
theorem plain_left {reply : WorkerReply} {statement : Statement}
    {left : Handler} (isLeft : state.left reply statement = some left)
    (notEmit : ∀ isPaired,
      statement ≠ .emitPairingStatusEventIfChanged isPaired) :
    left.plain = true := by
  cases statement with
  | emitPairingStatusEventIfChanged isPaired => exact absurd rfl (notEmit _)
  | requestToken normalAuthentication =>
      cases isLeft
      apply Handler.plain_append (plain_requestToken state _ _)
      split <;> rfl
  | send request attempt =>
      cases isLeft
      split
      · rfl
      · exact Handler.plain_nextAttempt request attempt
      · rfl
      · rfl
  | checkUnauthorized request attempt =>
      cases isLeft
      split
      · have unlocks : Handler.plain [.unlockAuthMutex] = true := rfl
        exact Handler.plain_append unlocks
          (Handler.plain_nextAttempt request attempt)
      · exact Handler.plain_append rfl
          (Handler.plain_nextAttempt request attempt)
  | callback request error object =>
      cases isLeft
      split
      · rfl
      · apply Handler.plain_append
        · unfold Handler.parseScorbitronObject
          split <;> rfl
        · unfold Handler.runCallback
          repeat' split
          all_goals rfl
  | lockAuthMutex =>
      simp only [NetHandlers.left, Option.ite_none_right_eq_some,
        Option.some.injEq] at isLeft
      obtain ⟨-, rfl⟩ := isLeft
      rfl
  | asleep request attempt => cases isLeft
  | _ =>
      cases isLeft
      first
      | rfl
      | (split <;> rfl)

/-- The handlers, but for one at most, are not about to push an event. -/
def OthersPlain (handlers : List Handler) (except : Option Nat) : Prop :=
  ∀ other handler, some other ≠ except → handlers[other]? = some handler →
    Handler.plain handler = true

theorem OthersPlain.all {handlers : List Handler} {index : Nat}
    {handler : Handler} (othersPlain : OthersPlain handlers none)
    (isHandler : handlers[index]? = some handler) :
    Handler.plain handler = true :=
  othersPlain index handler (Option.some_ne_none _) isHandler

/-- How far the handlers are with the event that is pushed: none of them has
checked the state emitted last, one has, or one has stored its own. -/
inductive Emission (handlers : List Handler) (lastEmitted latest : Option Bool) :
    Prop
  | idle (othersPlain : OthersPlain handlers none)
      (same : lastEmitted = latest)
  | checked {index : Nat} {isPaired : Bool} {rest : Handler}
      (isNext : handlers[index]? = some
        (.setLastEmittedPairingState isPaired ::
          .pushPairingStatusChanged isPaired :: rest))
      (restPlain : Handler.plain rest = true)
      (othersPlain : OthersPlain handlers (some index))
      (same : lastEmitted = latest) (differs : latest ≠ some isPaired)
  | stored {index : Nat} {isPaired : Bool} {rest : Handler}
      (isNext : handlers[index]? = some
        (.pushPairingStatusChanged isPaired :: rest))
      (restPlain : Handler.plain rest = true)
      (othersPlain : OthersPlain handlers (some index))
      (same : lastEmitted = some isPaired) (differs : latest ≠ some isPaired)

theorem OthersPlain.ran {index : Nat} {statement : Statement}
    {rest left : Handler} {except : Option Nat}
    (othersPlain : ∀ other handler, other ≠ index → some other ≠ except →
      state.handlers[other]? = some handler → Handler.plain handler = true)
    (ownPlain : some index ≠ except → Handler.plain (left ++ rest) = true) :
    OthersPlain (state.ran index statement (left ++ rest)).handlers except := by
  intro other handler notExcept isHandler
  obtain ⟨before, rfl, ⟨rfl, rfl⟩ | ⟨isOther, isBefore⟩⟩ | ⟨-, rfl⟩ :=
    runHandler_cases isHandler
  · have isPlain := ownPlain notExcept
    split
    · exact Handler.plain_wake isPlain
    · exact isPlain
  · have isPlain := othersPlain other before isOther notExcept isBefore
    split
    · exact Handler.plain_wake isPlain
    · exact isPlain
  · rfl

theorem plain_cons {statement : Statement} {rest : Handler}
    (isPlain : Handler.plain (statement :: rest) = true) :
    statement.emitting = false ∧ Handler.plain rest = true ∧
      (statement = .resetLastEmittedPairingState →
        .requestToken true ∈ rest) := by
  simp only [Handler.plain, Bool.and_eq_true, Bool.not_eq_true', bne_iff_ne,
    Bool.or_eq_true, List.contains_eq_mem, decide_eq_true_eq] at isPlain
  obtain ⟨⟨notEmitting, goesOn⟩, restPlain⟩ := isPlain
  exact ⟨notEmitting, restPlain, fun resets => goesOn.resolve_left (absurd resets)⟩

/-- Only the handler that is excepted emits. -/
theorem OthersPlain.except_eq {handlers : List Handler} {except : Option Nat}
    {index : Nat} {statement : Statement} {rest : Handler}
    (othersPlain : OthersPlain handlers except)
    (isNext : handlers[index]? = some (statement :: rest))
    (emits : statement.emitting = true) : some index = except := by
  by_contra notExcept
  have notEmitting := (plain_cons (othersPlain index _ notExcept isNext)).1
  rw [emits] at notEmitting
  cases notEmitting

/-- Where no other handler emits, a handler that does not either finds the last
event as the state emitted last. -/
theorem Emission.idle_of_others {index : Nat} {statement : Statement}
    {rest : Handler} {handlers : List Handler}
    {lastEmitted latest : Option Bool}
    (emission : Emission handlers lastEmitted latest)
    (isNext : handlers[index]? = some (statement :: rest))
    (notEmitting : statement.emitting = false)
    (noOtherEmits : ∀ other handler, other ≠ index →
      handlers[other]? = some handler →
        Handler.emitting handler = false) :
    OthersPlain handlers none ∧ lastEmitted = latest := by
  have impossible {place : Nat} {other : Statement} {later : Handler}
      (isPlace : handlers[place]? = some (other :: later))
      (emits : other.emitting = true) : False := by
    by_cases same : place = index
    · subst same
      rw [isNext] at isPlace
      cases isPlace
      rw [notEmitting] at emits
      cases emits
    · have noEmission := noOtherEmits place _ same isPlace
      simp only [Handler.emitting, List.head?_cons, Option.any_some] at noEmission
      rw [emits] at noEmission
      cases noEmission
  cases emission with
  | idle othersPlain same => exact ⟨othersPlain, same⟩
  | checked isPlace => exact (impossible isPlace rfl).elim
  | stored isPlace => exact (impossible isPlace rfl).elim

theorem Emission.plain_of_next {handlers : List Handler}
    {lastEmitted latest : Option Bool} {index : Nat} {statement : Statement}
    {rest : Handler} (emission : Emission handlers lastEmitted latest)
    (isNext : handlers[index]? = some (statement :: rest))
    (notEmitting : statement.emitting = false) :
    Handler.plain (statement :: rest) = true := by
  have notPlace {place : Nat} {other : Statement} {later : Handler}
      (isPlace : handlers[place]? = some (other :: later))
      (emits : other.emitting = true) : some index ≠ some place := by
    rintro same
    cases same
    rw [isNext] at isPlace
    cases isPlace
    rw [notEmitting] at emits
    cases emits
  cases emission with
  | idle othersPlain => exact othersPlain.all isNext
  | checked isPlace _ othersPlain =>
      exact othersPlain index _ (notPlace isPlace rfl) isNext
  | stored isPlace _ othersPlain =>
      exact othersPlain index _ (notPlace isPlace rfl) isNext

/-- The handler that stores the state emitted last is the one that has checked
it. -/
theorem Emission.checked_of_store {index : Nat} {isPaired : Bool}
    {rest : Handler} {handlers : List Handler}
    {lastEmitted latest : Option Bool}
    (emission : Emission handlers lastEmitted latest)
    (isNext : handlers[index]? =
      some (.setLastEmittedPairingState isPaired :: rest)) :
    ∃ later, rest = .pushPairingStatusChanged isPaired :: later ∧
      Handler.plain later = true ∧ OthersPlain handlers (some index) ∧
        latest ≠ some isPaired := by
  cases emission with
  | idle othersPlain => cases othersPlain.except_eq isNext rfl
  | checked isPlace restPlain othersPlain same differs =>
      obtain rfl := Option.some.inj (othersPlain.except_eq isNext rfl)
      rw [isNext] at isPlace
      cases isPlace
      exact ⟨_, rfl, restPlain, othersPlain, differs⟩
  | stored isPlace restPlain othersPlain =>
      obtain rfl := Option.some.inj (othersPlain.except_eq isNext rfl)
      rw [isNext] at isPlace
      cases isPlace

/-- The handler that pushes an event is the one that has stored it. -/
theorem Emission.stored_of_push {index : Nat} {isPaired : Bool}
    {rest : Handler} {handlers : List Handler}
    {lastEmitted latest : Option Bool}
    (emission : Emission handlers lastEmitted latest)
    (isNext : handlers[index]? =
      some (.pushPairingStatusChanged isPaired :: rest)) :
    Handler.plain rest = true ∧ OthersPlain handlers (some index) ∧
      lastEmitted = some isPaired ∧ latest ≠ some isPaired := by
  cases emission with
  | idle othersPlain => cases othersPlain.except_eq isNext rfl
  | checked isPlace restPlain othersPlain =>
      obtain rfl := Option.some.inj (othersPlain.except_eq isNext rfl)
      rw [isNext] at isPlace
      cases isPlace
  | stored isPlace restPlain othersPlain same differs =>
      obtain rfl := Option.some.inj (othersPlain.except_eq isNext rfl)
      rw [isNext] at isPlace
      cases isPlace
      exact ⟨restPlain, othersPlain, same, differs⟩

/-- A statement that neither checks, stores, pushes nor resets leaves the
emission as it is. -/
theorem Emission.ran {index : Nat} {reply : WorkerReply}
    {statement : Statement} {rest left : Handler}
    {lastEmitted latest : Option Bool}
    (emission : Emission state.handlers lastEmitted latest)
    (isNext : state.handlers[index]? = some (statement :: rest))
    (isLeft : state.left reply statement = some left)
    (notEmitting : statement.emitting = false)
    (notEmit : ∀ isPaired,
      statement ≠ .emitPairingStatusEventIfChanged isPaired) :
    Emission (state.ran index statement (left ++ rest)).handlers lastEmitted
      latest := by
  have othersKept {except : Option Nat}
      (othersPlain : OthersPlain state.handlers except) :
      OthersPlain (state.ran index statement (left ++ rest)).handlers
        except := by
    refine OthersPlain.ran (fun other handler _ => othersPlain other handler)
      fun notExcept => ?_
    have ownPlain := othersPlain index _ notExcept isNext
    exact Handler.plain_append (plain_left isLeft notEmit)
      (plain_cons ownPlain).2.1
  have stays {place : Nat} {other : Statement} {later : Handler}
      (isPlace : state.handlers[place]? = some (other :: later))
      (emits : other.emitting = true) :
      (state.ran index statement (left ++ rest)).handlers[place]? =
        some (other :: later) := by
    have isOther : place ≠ index := by
      rintro rfl
      rw [isNext] at isPlace
      cases isPlace
      rw [notEmitting] at emits
      cases emits
    rw [ran_other isOther isPlace]
    cases other with
    | setLastEmittedPairingState isPaired => split <;> rfl
    | pushPairingStatusChanged isPaired => split <;> rfl
    | _ => cases emits
  cases emission with
  | idle othersPlain same => exact .idle (othersKept othersPlain) same
  | checked isPlace restPlain othersPlain same differs =>
      exact .checked (stays isPlace rfl) restPlain (othersKept othersPlain)
        same differs
  | stored isPlace restPlain othersPlain same differs =>
      exact .stored (stays isPlace rfl) restPlain (othersKept othersPlain)
        same differs

/-- What the next event is checked against, and that the events alternate. -/
structure EmissionsKept (state : NetHandlers) : Prop where
  emission : Emission state.handlers state.lastEmittedPairingState
    state.events.getLast?
  alternate : state.events.IsChain (· ≠ ·)

theorem EmissionsKept.run {index : Nat} {reply : WorkerReply}
    {statement : Statement} {rest left : Handler}
    (kept : state.EmissionsKept)
    (safely : state.EmitsSafely (.run index reply))
    (isNext : state.handlers[index]? = some (statement :: rest))
    (isLeft : state.left reply statement = some left) :
    EmissionsKept (state.ran index statement (left ++ rest)) := by
  obtain ⟨emission, alternate⟩ := kept
  cases statement with
  | emitPairingStatusEventIfChanged isPaired =>
      obtain ⟨othersPlain, same⟩ :=
        emission.idle_of_others isNext rfl (safely _ _ isNext)
      have restPlain := (plain_cons (othersPlain.all isNext)).2.1
      refine { emission := ?_, alternate := alternate }
      by_cases emitted : state.lastEmittedPairingState = some isPaired
      · simp only [NetHandlers.left, if_pos emitted, Option.some.injEq] at isLeft
        subst isLeft
        exact .idle (OthersPlain.ran
          (fun other handler _ => othersPlain other handler)
          fun _ => restPlain) same
      · simp only [NetHandlers.left, if_neg emitted, Option.some.injEq] at isLeft
        subst isLeft
        exact .checked (ran_self isNext) restPlain (OthersPlain.ran
          (fun other handler _ _ => othersPlain.all)
          (absurd rfl)) same (same ▸ emitted)
  | setLastEmittedPairingState isPaired =>
      obtain ⟨later, rfl, restPlain, othersPlain, differs⟩ :=
        emission.checked_of_store isNext
      cases isLeft
      refine { emission := ?_, alternate := alternate }
      exact .stored (ran_self isNext) restPlain (OthersPlain.ran
        (fun other handler _ => othersPlain other handler) (absurd rfl)) rfl
        differs
  | pushPairingStatusChanged isPaired =>
      obtain ⟨restPlain, othersPlain, same, differs⟩ :=
        emission.stored_of_push isNext
      cases isLeft
      refine { emission := ?_, alternate := ?_ }
      · refine .idle (OthersPlain.ran (fun other handler isOther _ =>
          othersPlain other handler (by simpa using isOther))
          fun _ => restPlain) ?_
        exact same.trans List.getLast?_concat.symm
      · apply alternate.append (List.isChain_singleton isPaired)
        intro latest isLatest other isOther sameEvent
        cases isOther
        exact differs (sameEvent ▸ isLatest)
  | resetLastEmittedPairingState =>
      obtain ⟨othersPlain, same⟩ :=
        emission.idle_of_others isNext rfl (safely _ _ isNext)
      have restPlain := (plain_cons (othersPlain.all isNext)).2.1
      cases isLeft
      refine { emission := ?_, alternate := List.isChain_nil }
      exact .idle (OthersPlain.ran
        (fun other handler _ => othersPlain other handler)
        fun _ => restPlain) rfl
  | _ =>
      refine ⟨emission.ran isNext isLeft rfl fun _ same => ?_, alternate⟩
      cases same

/-- A pairing status has its event, or will have it or be replaced. -/
def StatusSettled (state : NetHandlers) : Prop :=
  ∀ isPaired, state.status = pairingStatus isPaired →
    state.Settled isPaired state.handlers

theorem settles_requestToken (state : NetHandlers) (reply : AuthReply)
    (isPaired : Bool) :
    Handler.settles isPaired (state.requestToken true reply) = true := by
  cases reply <;> simp only [requestToken]
  all_goals first | rfl | (split <;> rfl)

theorem settles_append {first second : Handler} {isPaired : Bool} :
    Handler.settles isPaired (first ++ second) = true ↔
      first.settles isPaired = true ∨ second.settles isPaired = true := by
  simp [Handler.settles]

theorem exists_settles_ran {index : Nat} {statement : Statement}
    {new : Handler} {isPaired : Bool}
    (settles : ∃ handler ∈ state.handlers.set index new,
      handler.settles isPaired = true) :
    ∃ handler ∈ (state.ran index statement new).handlers,
      handler.settles isPaired = true := by
  obtain ⟨handler, isHandler, settles⟩ := settles
  obtain ⟨place, isPlace⟩ := List.mem_iff_getElem?.mp isHandler
  refine ⟨_, List.mem_of_getElem? (execute_getElem? isPlace), ?_⟩
  split
  · exact Handler.settles_wake settles
  · exact settles

/-- What a handler settles the one in its place does. -/
theorem exists_settles_set {index : Nat} {old new : Handler} {isPaired : Bool}
    (isOld : state.handlers[index]? = some old)
    (keeps : old.settles isPaired = true → new.settles isPaired = true)
    (settles : ∃ handler ∈ state.handlers, handler.settles isPaired = true) :
    ∃ handler ∈ state.handlers.set index new,
      handler.settles isPaired = true := by
  obtain ⟨handler, isHandler, settles⟩ := settles
  obtain ⟨place, isPlace⟩ := List.mem_iff_getElem?.mp isHandler
  by_cases same : place = index
  · subst same
    rw [isOld, Option.some.injEq] at isPlace
    subst isPlace
    have isIndex := (List.getElem?_eq_some_iff.mp isOld).1
    exact ⟨new, List.mem_set isIndex _, keeps settles⟩
  · refine ⟨handler, List.mem_of_getElem? (i := place) ?_, settles⟩
    rw [List.getElem?_set_ne (Ne.symm same)]
    exact isPlace

/-- What a handler settles it still does after a statement that does not set
the status itself, nor finds its event emitted, nor pushes it. -/
theorem exists_settles_left {index : Nat} {statement : Statement}
    {rest left : Handler} {isPaired : Bool}
    (isNext : state.handlers[index]? = some (statement :: rest))
    (keeps : statement.settles isPaired = true →
      left.settles isPaired = true)
    (settles : ∃ handler ∈ state.handlers, handler.settles isPaired = true) :
    ∃ handler ∈ state.handlers.set index (left ++ rest),
      handler.settles isPaired = true := by
  refine exists_settles_set isNext (fun settles => ?_) settles
  rw [settles_append]
  rw [Handler.settles, List.any_cons, Bool.or_eq_true] at settles
  exact settles.imp keeps id

theorem StatusSettled.run {index : Nat} {reply : WorkerReply}
    {statement : Statement} {rest left : Handler}
    (settled : state.StatusSettled) (kept : state.EmissionsKept)
    (safely : state.EmitsSafely (.run index reply))
    (isNext : state.handlers[index]? = some (statement :: rest))
    (isLeft : state.left reply statement = some left) :
    StatusSettled (state.ran index statement (left ++ rest)) := by
  intro isPaired isStatus
  cases statement with
  | assignStatus status =>
      cases isLeft
      obtain latest | settles := safely _ _ isNext isPaired isStatus
      · exact Or.inl latest
      · exact Or.inr (exists_settles_ran settles)
  | authenticated =>
      cases isPaired <;> cases isStatus
  | pushPairingStatusChanged pushed =>
      cases isLeft
      by_cases same : pushed = isPaired
      · subst same
        exact Or.inl List.getLast?_concat
      · obtain rfl : pushed = !isPaired := by
          cases pushed <;> cases isPaired <;> simp_all
        obtain ⟨handler, isHandler, settles⟩ := safely _ _ isNext
          (by rw [Bool.not_not]; exact isStatus)
        rw [Bool.not_not] at settles
        exact Or.inr (exists_settles_ran ⟨handler, isHandler, settles⟩)
  | resetLastEmittedPairingState =>
      obtain ⟨othersPlain, -⟩ :=
        kept.emission.idle_of_others isNext rfl (safely _ _ isNext)
      have isRequested :=
        (plain_cons (othersPlain.all isNext)).2.2 rfl
      cases isLeft
      refine Or.inr ⟨rest, List.mem_of_getElem? (ran_self isNext), ?_⟩
      exact List.any_eq_true.mpr ⟨_, isRequested, rfl⟩
  | emitPairingStatusEventIfChanged emitted =>
      obtain ⟨-, same⟩ :=
        kept.emission.idle_of_others isNext rfl (safely _ _ isNext)
      by_cases already : state.lastEmittedPairingState = some isPaired
      · exact Or.inl (same ▸ already)
      · refine (settled isPaired isStatus).imp id fun settles => ?_
        refine exists_settles_ran
          (exists_settles_left isNext (fun isSame => ?_) settles)
        obtain rfl := of_decide_eq_true isSame
        simp only [NetHandlers.left, if_neg already, Option.some.injEq]
          at isLeft
        subst isLeft
        simp [Handler.settles, Statement.settles]
  | requestToken normalAuthentication =>
      refine (settled isPaired isStatus).imp id fun settles => ?_
      refine exists_settles_ran
        (exists_settles_left isNext (fun normal => ?_) settles)
      cases isLeft
      rw [settles_append]
      cases normalAuthentication with
      | true => exact Or.inl (settles_requestToken state _ _)
      | false => cases normal
  | _ =>
      refine (settled isPaired isStatus).imp id fun settles => ?_
      refine exists_settles_ran
        (exists_settles_left isNext (fun settlesNow => ?_) settles)
      cases settlesNow

/-- Where no handler but those that wait is left, the status has its event. -/
theorem StatusSettled.mirror (settled : state.StatusSettled)
    (quiet : state.Quiet) {isPaired : Bool}
    (isStatus : state.status = pairingStatus isPaired) :
    state.events.getLast? = some isPaired := by
  obtain latest | ⟨handler, isHandler, settles⟩ := settled isPaired isStatus
  · exact latest
  · obtain ⟨statement, isStatement, settles⟩ := List.any_eq_true.mp settles
    have awaits := quiet handler isHandler statement isStatement
    cases statement with
    | _ => first | cases settles; done | cases awaits

/-- A new handler that does not emit at once changes nothing for the events. -/
theorem OthersPlain.append {handlers : List Handler} {except : Option Nat}
    {new : Handler} (othersPlain : OthersPlain handlers except)
    (newPlain : new.plain = true) :
    OthersPlain (handlers ++ [new]) except := by
  intro other handler notExcept isHandler
  obtain isOld | ⟨-, rfl⟩ := getElem?_concat_cases isHandler
  · exact othersPlain other handler notExcept isOld
  · exact newPlain

theorem Emission.append {handlers : List Handler}
    {lastEmitted latest : Option Bool} {new : Handler}
    (emission : Emission handlers lastEmitted latest)
    (newPlain : new.plain = true) :
    Emission (handlers ++ [new]) lastEmitted latest := by
  have stays {place : Nat} {handler : Handler}
      (isPlace : handlers[place]? = some handler) :
      (handlers ++ [new])[place]? = some handler := by
    have isOld := (List.getElem?_eq_some_iff.mp isPlace).1
    rw [List.getElem?_append_left isOld]
    exact isPlace
  cases emission with
  | idle othersPlain same => exact .idle (othersPlain.append newPlain) same
  | checked isPlace restPlain othersPlain same differs =>
      exact .checked (stays isPlace) restPlain (othersPlain.append newPlain)
        same differs
  | stored isPlace restPlain othersPlain same differs =>
      exact .stored (stays isPlace) restPlain (othersPlain.append newPlain)
        same differs

theorem OthersPlain.replace {handlers : List Handler} {except : Option Nat}
    {index : Nat} {new : Handler} (othersPlain : OthersPlain handlers except)
    (newPlain : new.plain = true) :
    OthersPlain (handlers.set index new) except := by
  intro other handler notExcept isHandler
  obtain ⟨-, rfl⟩ | ⟨-, isOld⟩ := getElem?_set_cases isHandler
  · exact newPlain
  · exact othersPlain other handler notExcept isOld

theorem Emission.replace {handlers : List Handler}
    {lastEmitted latest : Option Bool} {index : Nat} {old new : Handler}
    (emission : Emission handlers lastEmitted latest)
    (isOld : handlers[index]? = some old) (oldPlain : old.plain = true)
    (newPlain : new.plain = true) :
    Emission (handlers.set index new) lastEmitted latest := by
  have stays {place : Nat} {statement : Statement} {later : Handler}
      (isPlace : handlers[place]? = some (statement :: later))
      (emits : statement.emitting = true) :
      (handlers.set index new)[place]? = some (statement :: later) := by
    have isOther : index ≠ place := by
      rintro rfl
      rw [isPlace] at isOld
      cases isOld
      rw [(plain_cons oldPlain).1] at emits
      cases emits
    rw [List.getElem?_set_ne isOther]
    exact isPlace
  cases emission with
  | idle othersPlain same => exact .idle (othersPlain.replace newPlain) same
  | checked isPlace restPlain othersPlain same differs =>
      exact .checked (stays isPlace rfl) restPlain
        (othersPlain.replace newPlain) same differs
  | stored isPlace restPlain othersPlain same differs =>
      exact .stored (stays isPlace rfl) restPlain
        (othersPlain.replace newPlain) same differs

/-- The events alternate, and every pairing status has its event or will. -/
structure EventsKept (state : NetHandlers) : Prop where
  emissions : state.EmissionsKept
  settled : state.StatusSettled

theorem EventsKept.mirrorsStatus (kept : state.EventsKept) :
    state.EventsMirrorStatus where
  alternate := kept.emissions.alternate
  mirror quiet _ isStatus := kept.settled.mirror quiet isStatus

theorem EventsKept.append {new : Handler} (kept : state.EventsKept)
    (newPlain : new.plain = true)
    (handlersEq : next.handlers = state.handlers ++ [new])
    (statusEq : next.status = state.status)
    (eventsEq : next.events = state.events)
    (lastEq : next.lastEmittedPairingState = state.lastEmittedPairingState) :
    next.EventsKept where
  emissions := {
    emission := by
      rw [handlersEq, eventsEq, lastEq]
      exact kept.emissions.emission.append newPlain
    alternate := eventsEq ▸ kept.emissions.alternate }
  settled isPaired isStatus := by
    rw [statusEq] at isStatus
    rw [Settled, eventsEq, handlersEq]
    apply (kept.settled isPaired isStatus).imp id
    rintro ⟨handler, isHandler, settles⟩
    exact ⟨handler, List.mem_append_left _ isHandler, settles⟩

theorem EventsKept.replace {index : Nat} {old new : Handler}
    (kept : state.EventsKept) (isOld : state.handlers[index]? = some old)
    (oldPlain : old.plain = true) (newPlain : new.plain = true)
    (settlesToo : ∀ isPaired, old.settles isPaired = true →
      new.settles isPaired = true) :
    EventsKept { state with handlers := state.handlers.set index new } where
  emissions := {
    emission := kept.emissions.emission.replace isOld oldPlain newPlain
    alternate := kept.emissions.alternate }
  settled isPaired isStatus :=
    (kept.settled isPaired isStatus).imp id
      (exists_settles_set isOld (settlesToo isPaired))

theorem EventsKept.init : EventsKept {} where
  emissions := {
    emission := by
      refine .idle ?_ rfl
      intro other handler _ isHandler
      have isOne := List.mem_of_getElem? isHandler
      simp only [List.mem_cons, List.not_mem_nil, or_false] at isOne
      obtain rfl | rfl := isOne <;> rfl
    alternate := List.isChain_nil }
  settled isPaired isStatus := by cases isPaired <;> cases isStatus

theorem EventsKept.step (kept : state.EventsKept)
    (safely : state.EmitsSafely action)
    (taken : state.step action = some next) : next.EventsKept := by
  cases step_cases taken with
  | call => exact kept.append rfl rfl rfl rfl rfl
  | paired _ idle => exact kept.replace idle rfl rfl nofun
  | unpaired _ idle => exact kept.replace idle rfl rfl nofun
  | tokenRefreshTimerExpires => exact kept.append rfl rfl rfl rfl rfl
  | destroy => exact kept.append rfl rfl rfl rfl rfl
  | run isNext isLeft =>
      exact {
        emissions := kept.emissions.run safely isNext isLeft
        settled := kept.settled.run kept.emissions safely isNext isLeft }
  | wake isAsleep =>
      have isPlain := kept.emissions.emission.plain_of_next isAsleep rfl
      exact kept.replace isAsleep isPlain (Handler.plain_wake isPlain)
        fun _ settles => Handler.settles_wake settles

/-- The events of the pairing status alternate and mirror the status in every
run whose handlers emit and set the status where they may. -/
theorem eventsMirrorStatus {final : NetHandlers}
    {actions : List HandlerAction}
    (reached : Transition.run step {} actions = some final)
    (safely : Transition.HoldsAlong step EmitsSafely {} actions) :
    final.EventsMirrorStatus := by
  have preserved : ∀ (state : NetHandlers) action next, state.EventsKept →
      state.EmitsSafely action → state.step action = some next →
        next.EventsKept :=
    fun state action next kept safely taken => kept.step safely taken
  exact (Transition.run_preserves preserved reached safely
    EventsKept.init).mirrorsStatus

/-- No other handler is about to push, and a handler that sets the status goes
on to push its event. -/
def emitsInTurn (state : NetHandlers) : HandlerAction → Bool
  | .run index _ =>
      match state.handlers[index]? with
      | some (.emitPairingStatusEventIfChanged _ :: _)
      | some (.resetLastEmittedPairingState :: _) =>
          state.handlers.all fun other => !other.emitting
      | some (.pushPairingStatusChanged isPaired :: _) =>
          state.status ≠ pairingStatus !isPaired
      | some (.assignStatus status :: rest) =>
          [true, false].all fun isPaired =>
            status ≠ pairingStatus isPaired ||
              state.events.getLast? = some isPaired ||
                rest.contains (.emitPairingStatusEventIfChanged isPaired)
      | _ => true
  | _ => true

theorem emitsSafely_of_emitsInTurn (state : NetHandlers)
    (action : HandlerAction) (inTurn : state.emitsInTurn action = true) :
    state.EmitsSafely action := by
  cases action with
  | run index reply =>
      intro statement rest isNext
      simp only [emitsInTurn, isNext] at inTurn
      have noOtherEmits
          (noneEmits : (state.handlers.all fun other => !other.emitting) =
            true) : state.NoOtherEmits index := by
        intro other handler _ isHandler
        rw [← Bool.not_eq_true']
        exact List.all_eq_true.mp noneEmits handler
          (List.mem_of_getElem? isHandler)
      cases statement with
      | emitPairingStatusEventIfChanged isPaired => exact noOtherEmits inTurn
      | resetLastEmittedPairingState => exact noOtherEmits inTurn
      | pushPairingStatusChanged isPaired =>
          intro isStatus
          exact absurd isStatus (of_decide_eq_true inTurn)
      | assignStatus status =>
          intro isPaired isStatus
          have checked := List.all_eq_true.mp inTurn isPaired
            (by cases isPaired <;> simp)
          simp only [isStatus, ne_eq, not_true_eq_false, decide_false,
            Bool.false_or, Bool.or_eq_true, decide_eq_true_eq,
            List.contains_eq_mem] at checked
          refine checked.imp id fun isEmitted => ?_
          have isIndex := (List.getElem?_eq_some_iff.mp isNext).1
          refine ⟨rest, List.mem_set isIndex rest, ?_⟩
          exact List.any_eq_true.mpr ⟨_, isEmitted, decide_eq_true rfl⟩
      | _ => trivial
  | _ => trivial

/-- The machine is paired, and then a request unpairs it. -/
def unpairRequested : List HandlerAction :=
  authenticatedRun ++ [.call .sendScorbitronObject] ++
    List.replicate 5 (.run 2 {}) ++
    .run 2 { http := .ok (some { shortCode := none, isPaired := true }) } ::
    List.replicate 7 (.run 2 {}) ++ [.call .requestUnpair] ++
    List.replicate 5 (.run 3 {})

theorem eventsMirrorStatus_unpaired :
    ∃ final, Transition.run step {} (unpairRequested ++
        .run 3 { http := .ok (some { shortCode := none, isPaired := false }) }
          :: List.replicate 8 (.run 3 {})) = some final ∧
      final.events = [true, false] ∧ final.EventsMirrorStatus := by
  have evaluated : ((Transition.run step {} (unpairRequested ++
      .run 3 { http := .ok (some { shortCode := none, isPaired := false }) }
        :: List.replicate 8 (.run 3 {}))).any fun final =>
          decide (final.events = [true, false])) = true := by
    decide +kernel
  obtain ⟨final, reached, eventsEq⟩ := (Option.any_eq_true _ _).mp evaluated
  refine ⟨final, reached, of_decide_eq_true eventsEq,
    eventsMirrorStatus reached ?_⟩
  exact Transition.HoldsAlong.of_checksAlong emitsSafely_of_emitsInTurn
    (by decide +kernel)

/-- The reply to the request still names the machine: it is unpaired and no
event says so. -/
theorem not_eventsMirrorStatus_unpaired :
    ∃ final, Transition.run step {} (unpairRequested ++
        .run 3 { http := .ok (some { shortCode := none, isPaired := true }) }
          :: List.replicate 3 (.run 3 {})) = some final ∧
      ¬ final.EventsMirrorStatus := by
  have evaluated : ((Transition.run step {} (unpairRequested ++
      .run 3 { http := .ok (some { shortCode := none, isPaired := true }) }
        :: List.replicate 3 (.run 3 {}))).any fun final =>
          decide (final.handlers = [[], [], [], []]) &&
            (decide (final.status = pairingStatus false) &&
              decide (final.events = [true]))) = true := by
    decide +kernel
  obtain ⟨final, reached, silent⟩ := (Option.any_eq_true _ _).mp evaluated
  simp only [Bool.and_eq_true, decide_eq_true_eq] at silent
  obtain ⟨handlersEq, isUnpaired, eventsEq⟩ := silent
  refine ⟨final, reached, fun mirrors => ?_⟩
  have quiet : final.Quiet := by simp [Quiet, handlersEq]
  have latest := mirrors.mirror quiet false isUnpaired
  rw [eventsEq] at latest
  cases latest

end NetHandlers

end ScorbitSdk
