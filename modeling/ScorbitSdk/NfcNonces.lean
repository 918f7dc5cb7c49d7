import ScorbitSdk.TransitionRuns

/-!
# Nonces of the NFC tag

The tag is written with a nonce from a list, and taking one from a list that
runs low asks the server for more.  The callback of a reply replaces the list
and then writes the tag itself, so that a reply can ask for the next one.  The
mutex of the list is free between the two, where other callbacks, or the timer
of the tag, may run.
-/

namespace ScorbitSdk

structure NfcNonces where
  isNfcCapable : Bool
  machineUuid : List Char := []
  m_nonces : List (List Char) := []
  /-- The requests whose reply has not come yet. -/
  pending : Nat := 0
  /-- The callbacks that have replaced the list and have the tag to write. -/
  writing : Nat := 0
  /-- All requests that have been posted. -/
  issued : Nat := 0
  /-- What `m_probesManager->setNfcTag` has been called with. -/
  tags : List (List Char) := []

/-- `failed` stands for an error and for a reply without an array of texts. -/
inductive NonceReply
  | failed
  | nonces (batch : List (List Char))

/-- `connected` stands for `initializeConnectionState` and for `onPaired`. -/
inductive NonceAction
  | reply (reply : NonceReply)
  | writeTag
  | checkTimer (isNfcTagRead : Bool)
  | connected

namespace NfcNonces

section Operations

variable (state : NfcNonces)

def createNfcNonces : NfcNonces :=
  if !state.isNfcCapable then state
  else { state with pending := state.pending + 1, issued := state.issued + 1 }

def consumeNonce : NfcNonces × List Char :=
  match state.m_nonces.getLast? with
  | none => (state.createNfcNonces, [])
  | some nonce =>
      let size := state.m_nonces.length
      let state :=
        if size = 10 ∨ size ≤ 5 then state.createNfcNonces else state
      ({ state with m_nonces := state.m_nonces.dropLast }, nonce)

def urlNfcTag (machineUuid nonce : List Char) : List Char :=
  "https://scorbit.link/machines/".toList ++ machineUuid ++ "?n=".toList ++ nonce

def setNfcTag : NfcNonces :=
  let (state, nonce) := state.consumeNonce
  { state with tags := state.tags ++ [urlNfcTag state.machineUuid nonce] }

/-- The callback of `createNfcNonces` up to the end of its lock. -/
def receive : NonceReply → NfcNonces
  | .failed => state
  | .nonces batch =>
      { state with m_nonces := batch, writing := state.writing + 1 }

def step : NonceAction → Option NfcNonces
  | .reply reply =>
      if 0 < state.pending then
        some ({ state with pending := state.pending - 1 }.receive reply)
      else none
  | .writeTag =>
      if 0 < state.writing then
        some { state with writing := state.writing - 1 }.setNfcTag
      else none
  | .checkTimer isNfcTagRead =>
      if isNfcTagRead then some state.setNfcTag else some state
  | .connected => some state.createNfcNonces

end Operations

/-! ## What is asked for -/

/-- A list that runs low. -/
def Low (size : Nat) : Prop :=
  size = 10 ∨ size ≤ 5

/-- The machine before it has asked for nonces. -/
def initial (isNfcCapable : Bool) (machineUuid : List Char)
    (m_nonces : List (List Char)) : NfcNonces :=
  { isNfcCapable, machineUuid, m_nonces }

/-- The server has batches of `n` nonces. -/
def FromServer (n : Nat) : NonceAction → Prop
  | .reply (.nonces batch) => batch.length = n
  | _ => True

/-- Neither a tag that is read nor another event from outside. -/
def IsInternal : NonceAction → Prop
  | .reply _ => True
  | .writeTag => True
  | .checkTimer isNfcTagRead => isNfcTagRead = false
  | .connected => False

/-- A callback replaces the list when no other one has the tag to write. -/
def Apart (state : NfcNonces) : NonceAction → Prop
  | .reply (.nonces _) => state.writing = 0
  | _ => True

/-- After a reply has been processed, which ends with its tag, nothing is asked
for until an event from outside.  The callbacks run one at a time, or they may
overlap. -/
def Settles (isNfcCapable overlaps : Bool) (n : Nat) : Prop :=
  ∀ (machineUuid : List Char) (m_nonces : List (List Char))
    (before after : List NonceAction) (start replied final : NfcNonces),
    (∀ action ∈ before ++ .writeTag :: after, FromServer n action) →
      (∀ action ∈ after, IsInternal action) →
        (overlaps = false →
          Transition.HoldsAlong step Apart
            (initial isNfcCapable machineUuid m_nonces)
            (before ++ .writeTag :: after)) →
          Transition.run step (initial isNfcCapable machineUuid m_nonces)
            before = some start →
          start.step .writeTag = some replied →
            Transition.run step replied after = some final →
              final.issued = replied.issued

variable {state next : NfcNonces}

theorem createNfcNonces_of_not_capable (notCapable : state.isNfcCapable = false) :
    state.createNfcNonces = state := by
  simp [createNfcNonces, notCapable]

theorem createNfcNonces_of_capable (capable : state.isNfcCapable = true) :
    state.createNfcNonces =
      { state with pending := state.pending + 1, issued := state.issued + 1 } := by
  simp [createNfcNonces, capable]

@[simp]
theorem isNfcCapable_createNfcNonces :
    state.createNfcNonces.isNfcCapable = state.isNfcCapable := by
  unfold createNfcNonces
  split <;> rfl

@[simp]
theorem writing_createNfcNonces :
    state.createNfcNonces.writing = state.writing := by
  unfold createNfcNonces
  split <;> rfl

@[simp]
theorem m_nonces_createNfcNonces :
    state.createNfcNonces.m_nonces = state.m_nonces := by
  unfold createNfcNonces
  split <;> rfl

/-- Writing the tag asks for more exactly where the list runs low. -/
theorem setNfcTag_counts :
    (Low state.m_nonces.length →
      state.setNfcTag.issued = state.createNfcNonces.issued ∧
        state.setNfcTag.pending = state.createNfcNonces.pending) ∧
    (¬Low state.m_nonces.length →
      state.setNfcTag.issued = state.issued ∧
        state.setNfcTag.pending = state.pending) := by
  unfold setNfcTag consumeNonce
  cases isLast : state.m_nonces.getLast? with
  | none =>
      rw [List.getLast?_eq_none_iff] at isLast
      refine ⟨fun _ => ⟨rfl, rfl⟩, fun notLow => absurd (Or.inr ?_) notLow⟩
      rw [isLast]
      exact Nat.zero_le 5
  | some nonce =>
      constructor
      · intro low
        simp only [Low] at low
        simp [low]
      · intro notLow
        simp only [Low] at notLow
        simp [notLow]

@[simp]
theorem isNfcCapable_setNfcTag :
    state.setNfcTag.isNfcCapable = state.isNfcCapable := by
  unfold setNfcTag consumeNonce
  cases state.m_nonces.getLast? with
  | none => exact isNfcCapable_createNfcNonces
  | some nonce =>
      dsimp only
      split
      · exact isNfcCapable_createNfcNonces
      · rfl

@[simp]
theorem writing_setNfcTag : state.setNfcTag.writing = state.writing := by
  unfold setNfcTag consumeNonce
  cases state.m_nonces.getLast? with
  | none => exact writing_createNfcNonces
  | some nonce =>
      dsimp only
      split
      · exact writing_createNfcNonces
      · rfl

/-- The tag takes the last nonce. -/
@[simp]
theorem m_nonces_setNfcTag :
    state.setNfcTag.m_nonces = state.m_nonces.dropLast := by
  unfold setNfcTag consumeNonce
  cases isLast : state.m_nonces.getLast? with
  | none =>
      rw [List.getLast?_eq_none_iff] at isLast
      simp [isLast]
  | some nonce =>
      dsimp only
      split
      · rw [m_nonces_createNfcNonces]
      · rfl

theorem step_reply {reply : NonceReply} (waiting : 0 < state.pending) :
    state.step (.reply reply) =
      some ({ state with pending := state.pending - 1 }.receive reply) :=
  if_pos waiting

theorem step_writeTag (writes : 0 < state.writing) :
    state.step .writeTag =
      some { state with writing := state.writing - 1 }.setNfcTag :=
  if_pos writes

theorem isNfcCapable_step {action : NonceAction}
    (taken : state.step action = some next) :
    next.isNfcCapable = state.isNfcCapable := by
  cases action with
  | reply reply =>
      simp only [step, Option.ite_none_right_eq_some, Option.some.injEq] at taken
      obtain ⟨_, rfl⟩ := taken
      cases reply <;> rfl
  | writeTag =>
      simp only [step, Option.ite_none_right_eq_some, Option.some.injEq] at taken
      obtain ⟨_, rfl⟩ := taken
      exact isNfcCapable_setNfcTag
  | checkTimer isNfcTagRead =>
      simp only [step] at taken
      split at taken <;> obtain rfl := Option.some.inj taken
      · exact isNfcCapable_setNfcTag
      · rfl
  | connected =>
      obtain rfl := Option.some.inj taken
      exact isNfcCapable_createNfcNonces

theorem isNfcCapable_run {actions : List NonceAction} {final : NfcNonces}
    (reached : Transition.run step state actions = some final) :
    final.isNfcCapable = state.isNfcCapable := by
  apply @Transition.run_invariant NfcNonces NonceAction step
    (fun other => other.isNfcCapable = state.isNfcCapable) ?_ _ _ _ reached rfl
  intro other action next same taken
  exact (isNfcCapable_step taken).trans same

/-! ## Batches that settle -/

/-- The tag asks for nothing on a machine without a reader, nor where the list
does not run low. -/
theorem issued_setNfcTag
    (settled : state.isNfcCapable = false ∨ ¬Low state.m_nonces.length) :
    state.setNfcTag.issued = state.issued := by
  by_cases low : Low state.m_nonces.length
  · have notCapable := settled.resolve_right (not_not_intro low)
    have counts := (setNfcTag_counts.1 low).1
    rwa [createNfcNonces_of_not_capable notCapable] at counts
  · exact (setNfcTag_counts.2 low).1

/-- At most one callback has its tag to write, and it finds the whole batch. -/
def Fresh (n : Nat) (state : NfcNonces) : Prop :=
  state.writing = 0 ∨ state.writing = 1 ∧ state.m_nonces.length = n

/-- Callbacks one at a time: at most one has its tag to write. -/
theorem writing_step {action : NonceAction} (atMostOne : state.writing ≤ 1)
    (apart : Apart state action) (taken : state.step action = some next) :
    next.writing ≤ 1 := by
  cases action with
  | reply reply =>
      simp only [step, Option.ite_none_right_eq_some, Option.some.injEq] at taken
      obtain ⟨_, rfl⟩ := taken
      cases reply with
      | failed => exact atMostOne
      | nonces batch => exact Nat.le_of_eq (congrArg (· + 1) apart)
  | writeTag =>
      simp only [step, Option.ite_none_right_eq_some, Option.some.injEq] at taken
      obtain ⟨_, rfl⟩ := taken
      rw [writing_setNfcTag]
      exact Nat.le_trans (Nat.sub_le _ 1) atMostOne
  | checkTimer isNfcTagRead =>
      simp only [step] at taken
      split at taken <;> obtain rfl := Option.some.inj taken
      · rw [writing_setNfcTag]
        exact atMostOne
      · exact atMostOne
  | connected =>
      obtain rfl := Option.some.inj taken
      rw [writing_createNfcNonces]
      exact atMostOne

/-- An internal step asks for nothing where the only callback at work finds a
batch that does not run low with its first nonce. -/
theorem fresh_step {n : Nat} {action : NonceAction} (notLow : ¬Low n)
    (fresh : Fresh n state) (fromServer : FromServer n action)
    (internal : IsInternal action) (apart : Apart state action)
    (taken : state.step action = some next) :
    Fresh n next ∧ next.issued = state.issued := by
  cases action with
  | connected => exact internal.elim
  | checkTimer isNfcTagRead =>
      cases internal
      obtain rfl := Option.some.inj taken
      exact ⟨fresh, rfl⟩
  | reply reply =>
      simp only [step, Option.ite_none_right_eq_some, Option.some.injEq] at taken
      obtain ⟨_, rfl⟩ := taken
      cases reply with
      | failed => exact ⟨fresh, rfl⟩
      | nonces batch =>
          exact ⟨Or.inr ⟨congrArg (· + 1) apart, fromServer⟩, rfl⟩
  | writeTag =>
      simp only [step, Option.ite_none_right_eq_some, Option.some.injEq] at taken
      obtain ⟨writes, rfl⟩ := taken
      rcases fresh with none | ⟨one, whole⟩
      · rw [none] at writes
        exact absurd writes (Nat.lt_irrefl 0)
      · constructor
        · refine Or.inl (writing_setNfcTag.trans ?_)
          rw [one]
        · apply issued_setNfcTag
          right
          dsimp only
          rwa [whole]

theorem issued_run_of_apart {n : Nat} {actions : List NonceAction}
    {final : NfcNonces} (notLow : ¬Low n) (fresh : Fresh n state)
    (fromServer : ∀ action ∈ actions, FromServer n action)
    (internal : ∀ action ∈ actions, IsInternal action)
    (apart : Transition.HoldsAlong step Apart state actions)
    (reached : Transition.run step state actions = some final) :
    final.issued = state.issued := by
  induction actions generalizing state with
  | nil =>
      obtain rfl := Option.some.inj reached
      rfl
  | cons action actions ih =>
      obtain ⟨next, taken, toFinal⟩ := Transition.run_cons.mp reached
      rw [List.forall_mem_cons] at fromServer internal
      obtain ⟨now, later⟩ := apart next taken
      obtain ⟨nextFresh, same⟩ :=
        fresh_step notLow fresh fromServer.1 internal.1 now taken
      exact (ih nextFresh fromServer.2 internal.2 later toFinal).trans same

/-- A machine without a reader asks for nothing at all. -/
theorem issued_step_of_not_capable {action : NonceAction}
    (notCapable : state.isNfcCapable = false)
    (taken : state.step action = some next) : next.issued = state.issued := by
  cases action with
  | connected =>
      obtain rfl := Option.some.inj taken
      rw [createNfcNonces_of_not_capable notCapable]
  | checkTimer isNfcTagRead =>
      simp only [step] at taken
      split at taken <;> obtain rfl := Option.some.inj taken
      · exact issued_setNfcTag (Or.inl notCapable)
      · rfl
  | reply reply =>
      simp only [step, Option.ite_none_right_eq_some, Option.some.injEq] at taken
      obtain ⟨_, rfl⟩ := taken
      cases reply <;> rfl
  | writeTag =>
      simp only [step, Option.ite_none_right_eq_some, Option.some.injEq] at taken
      obtain ⟨_, rfl⟩ := taken
      exact issued_setNfcTag (Or.inl notCapable)

theorem issued_run_of_not_capable {actions : List NonceAction}
    {final : NfcNonces} (notCapable : state.isNfcCapable = false)
    (reached : Transition.run step state actions = some final) :
    final.issued = state.issued := by
  induction actions generalizing state with
  | nil =>
      obtain rfl := Option.some.inj reached
      rfl
  | cons action actions ih =>
      obtain ⟨next, taken, toFinal⟩ := Transition.run_cons.mp reached
      have nextNotCapable := (isNfcCapable_step taken).trans notCapable
      exact (ih nextNotCapable toFinal).trans
        (issued_step_of_not_capable notCapable taken)

theorem settles_of_not_capable {overlaps : Bool} {n : Nat} :
    Settles false overlaps n := by
  intro machineUuid m_nonces before after start replied final _ _ _ reached taken
    toFinal
  apply issued_run_of_not_capable ?_ toFinal
  rw [isNfcCapable_step taken, isNfcCapable_run reached]
  rfl

/-- One callback after the other, with batches that do not run low with their
first nonce. -/
theorem settles_of_apart {isNfcCapable : Bool} {n : Nat} (notLow : ¬Low n) :
    Settles isNfcCapable false n := by
  intro machineUuid m_nonces before after start replied final fromServer internal
    apart reached taken toFinal
  obtain ⟨apartBefore, apartAfter⟩ :=
    (Transition.holdsAlong_append_iff reached).mp (apart rfl)
  have atMostOne : start.writing ≤ 1 := Transition.run_preserves
    (fun _ _ _ atMostOne now taken => writing_step atMostOne now taken)
    reached apartBefore (Nat.zero_le 1)
  have fresh : Fresh n replied := by
    simp only [step, Option.ite_none_right_eq_some, Option.some.injEq] at taken
    obtain ⟨_, rfl⟩ := taken
    refine Or.inl (writing_setNfcTag.trans ?_)
    exact Nat.sub_eq_zero_of_le atMostOne
  refine issued_run_of_apart notLow fresh (fun action member => fromServer action ?_)
    internal (apartAfter replied taken).2 toFinal
  exact List.mem_append_right _ (List.mem_cons_of_mem _ member)

/-! ## Batches that do not -/

/-- What one callback does. -/
def processed (batch : List (List Char)) : List NonceAction :=
  [.reply (.nonces batch), .writeTag]

/-- A reply with a batch that runs low asks for the next one. -/
theorem run_processed_low {batch : List (List Char)}
    (capable : state.isNfcCapable = true) (waiting : 0 < state.pending)
    (apart : state.writing = 0) (low : Low batch.length) :
    ∃ next, Transition.run step state (processed batch) = some next ∧
      Transition.HoldsAlong step Apart state (processed batch) ∧
        next.isNfcCapable = true ∧ next.pending = state.pending ∧
          next.writing = 0 ∧ next.issued = state.issued + 1 := by
  let received : NfcNonces :=
    { state with
      pending := state.pending - 1, m_nonces := batch, writing := 0 }
  have first : state.step (.reply (.nonces batch)) =
      some { received with writing := 1 } := by
    rw [step_reply waiting]
    simp [receive, received, apart]
  have second : { received with writing := 1 }.step .writeTag =
      some received.setNfcTag := rfl
  have counts := (@setNfcTag_counts received).1 low
  rw [@createNfcNonces_of_capable received capable] at counts
  refine ⟨received.setNfcTag, ?_, ?_, isNfcCapable_setNfcTag.trans capable, ?_,
    writing_setNfcTag, counts.1⟩
  · exact Transition.run_cons.mpr ⟨_, first, Transition.run_cons.mpr ⟨_, second, rfl⟩⟩
  · exact .cons first apart (.cons second trivial trivial)
  · exact counts.2.trans (Nat.sub_add_cancel waiting)

/-- Such replies go on for ever: as many of them as one likes have a request
posted each, without any event from outside. -/
theorem run_replies_low {batch : List (List Char)} (count : Nat)
    (capable : state.isNfcCapable = true) (waiting : 0 < state.pending)
    (apart : state.writing = 0) (low : Low batch.length) :
    ∃ final, Transition.run step state
        (List.replicate count (processed batch)).flatten = some final ∧
      0 < final.pending ∧ final.issued = state.issued + count := by
  induction count generalizing state with
  | zero => exact ⟨state, rfl, waiting, rfl⟩
  | succ count ih =>
      obtain ⟨next, reached, _, nextCapable, samePending, nextApart, moreIssued⟩ :=
        run_processed_low capable waiting apart low
      obtain ⟨final, toFinal, stillWaiting, issued⟩ :=
        ih nextCapable (samePending ▸ waiting) nextApart
      refine ⟨final, Transition.run_append.mpr ⟨next, reached, toFinal⟩,
        stillWaiting, ?_⟩
      omega

theorem not_settles_of_low {overlaps : Bool} {batch : List (List Char)}
    (low : Low batch.length) : ¬Settles true overlaps batch.length := by
  intro settles
  let connected := (initial true [] []).createNfcNonces
  obtain ⟨replied, reached, apart, capable, samePending, repliedApart, _⟩ :=
    @run_processed_low connected batch rfl Nat.one_pos rfl low
  obtain ⟨start, toStart, written⟩ := Transition.run_cons.mp reached
  obtain ⟨_, taken, isReplied⟩ := Transition.run_cons.mp written
  obtain rfl := Option.some.inj isReplied
  obtain ⟨final, toFinal, again, _, _, _, issued⟩ :=
    run_processed_low capable (samePending ▸ Nat.one_pos) repliedApart low
  have along : Transition.HoldsAlong step Apart (initial true [] [])
      (.connected :: (processed batch ++ processed batch)) :=
    .cons rfl trivial
      ((Transition.holdsAlong_append_iff reached).mpr ⟨apart, again⟩)
  have same := settles [] [] [.connected, .reply (.nonces batch)]
    (processed batch) start _ final (by simp [FromServer, processed])
    (by simp [IsInternal, processed]) (fun _ => along)
    (Transition.run_cons.mpr
      ⟨connected, rfl, Transition.run_cons.mpr ⟨start, toStart, rfl⟩⟩)
    taken toFinal
  omega

/-- Tags that are read use up the list. -/
theorem run_tagsRead (state : NfcNonces) :
    ∃ final, Transition.run step state
        (List.replicate state.m_nonces.length (.checkTimer true)) = some final ∧
      final.isNfcCapable = state.isNfcCapable ∧
        final.writing = state.writing ∧ final.m_nonces = [] := by
  cases size : state.m_nonces.length with
  | zero => exact ⟨state, rfl, rfl, rfl, List.length_eq_zero_iff.mp size⟩
  | succ count =>
      have fewer : state.setNfcTag.m_nonces.length = count := by
        simp [size]
      obtain ⟨final, reached, capable, writing, isEmpty⟩ :=
        run_tagsRead state.setNfcTag
      rw [fewer] at reached
      exact ⟨final, Transition.run_cons.mpr ⟨_, rfl, reached⟩,
        capable.trans isNfcCapable_setNfcTag, writing.trans writing_setNfcTag,
        isEmpty⟩
termination_by state.m_nonces.length

/-- Where callbacks overlap, one of them can use up what another one has stored
for its own tag. -/
theorem not_settles_of_overlap (n : Nat) : ¬Settles true true n := by
  intro settles
  let batch : List (List Char) := List.replicate n []
  have length : batch.length = n := List.length_replicate
  let stored : NfcNonces :=
    { isNfcCapable := true, m_nonces := batch, writing := 2, issued := 2 }
  obtain ⟨start, toStart, capable, writing, isEmpty⟩ := run_tagsRead stored
  rw [show stored.m_nonces.length = n from length] at toStart
  let first := { start with writing := start.writing - 1 }.setNfcTag
  let second := { first with writing := first.writing - 1 }.setNfcTag
  have both : start.writing = 2 := writing
  have firstWriting : first.writing = 1 :=
    writing_setNfcTag.trans (congrArg (· - 1) both)
  have firstEmpty : first.m_nonces = [] :=
    m_nonces_setNfcTag.trans (congrArg List.dropLast isEmpty)
  have same := settles [] []
    ([.connected, .connected, .reply (.nonces batch), .reply (.nonces batch)] ++
      List.replicate n (.checkTimer true))
    [.writeTag] start first second ?_ (by simp [IsInternal]) nofun
    (Transition.run_append.mpr ⟨stored, rfl, toStart⟩)
    (step_writeTag (by omega))
    (Transition.run_cons.mpr ⟨second, step_writeTag (by omega), rfl⟩)
  · have firstCapable : first.isNfcCapable = true :=
      isNfcCapable_setNfcTag.trans capable
    have counts := (@setNfcTag_counts
      { first with writing := first.writing - 1 }).1 (by simp [firstEmpty, Low])
    rw [@createNfcNonces_of_capable { first with writing := first.writing - 1 }
      firstCapable] at counts
    have more : second.issued = first.issued + 1 := counts.1
    omega
  · intro action member
    simp only [List.mem_append, List.mem_cons, List.mem_replicate,
      List.not_mem_nil, or_false] at member
    rcases member with ((rfl | rfl | rfl | rfl) | ⟨_, rfl⟩) | rfl | rfl
    all_goals first | exact trivial | exact length

/-- Of two batches of eleven, the second tag finds ten nonces left. -/
example :
    let overlapping : List NonceAction :=
      [.connected, .connected, .reply (.nonces (List.replicate 11 [])),
        .reply (.nonces (List.replicate 11 [])), .writeTag]
    (Transition.run step (initial true [] []) overlapping).map issued = some 2 ∧
      (Transition.run step (initial true [] [])
        (overlapping ++ [.writeTag])).map issued = some 3 := by
  decide

/-- Refills settle exactly where callbacks do not overlap and the batches do not
run low with their first nonce, and on machines without a reader. -/
theorem settles_iff (isNfcCapable overlaps : Bool) (n : Nat) :
    Settles isNfcCapable overlaps n ↔
      isNfcCapable = false ∨ overlaps = false ∧ 5 < n ∧ n ≠ 10 := by
  have notLow : ¬Low n ↔ 5 < n ∧ n ≠ 10 := by
    unfold Low
    omega
  rw [← notLow]
  constructor
  · intro settles
    cases isNfcCapable with
    | false => exact Or.inl rfl
    | true =>
        right
        constructor
        · cases overlaps with
          | false => rfl
          | true => exact absurd settles (not_settles_of_overlap n)
        · intro low
          have length := List.length_replicate (n := n) (a := ([] : List Char))
          rw [← length] at low settles
          exact not_settles_of_low low settles
  · rintro (rfl | ⟨rfl, notLow⟩)
    · exact settles_of_not_capable
    · exact settles_of_apart notLow

/-- Batches of ten do not settle. -/
theorem not_settles_ten : ¬Settles true false 10 :=
  @not_settles_of_low false (List.replicate 10 []) (Or.inl rfl)

end NfcNonces

end ScorbitSdk
