import ScorbitSdk.ProducerQueues
import ScorbitSdk.TransitionRuns
import Mathlib.Algebra.GroupWithZero.Nat

/-!
# The delivery of log messages

Any thread enqueues log messages, and one thread hands each of them to the
callbacks in turn.  It holds `m_cbMutex` while it moves its iterator, and not
while a callback runs, so that callbacks may be added or cleared in between: then
its iterator is invalid, and once it has used that, anything may be the case.
-/

namespace ScorbitSdk

inductive LogLevel
  | debug
  | info
  | warn
  | error
  deriving DecidableEq

/-- No memory holds a message of `2 ^ 62` bytes. -/
structure LogData where
  message : List UInt8
  level : LogLevel
  file : String
  line : Int
  timestamp : Int
  fits : message.length < 2 ^ 62
  deriving DecidableEq

inductive LogQueueItem
  | log (logData : LogData)
  | dispatcherStop
  deriving DecidableEq

def elideString : List UInt8 := [0x20, 0x2e, 0x2e, 0x2e, 0x20]

/-- `substr` throws if it is to begin behind the end of the string; the sizes
are those of a `size_t`. -/
def cutLongString (str : List UInt8) (maxLength : Nat) : Option (List UInt8) :=
  if str.length ≤ maxLength then some str
  else
    let halfSize := (maxLength + 2 ^ 64 - elideString.length) % 2 ^ 64 / 2
    let start := (str.length + 2 ^ 64 - halfSize) % 2 ^ 64
    if start ≤ str.length then
      some (str.take halfSize ++ elideString ++ str.drop start)
    else none

/-- The text that a callback is called with. -/
def textFor (message : List UInt8) (maxLength : Nat) : Option (List UInt8) :=
  if message.length < maxLength then some message
  else cutLongString message ((maxLength + 2 ^ 64 - 1) % 2 ^ 64)

/-- The message need not be cut, or the length leaves room for `elideString`. -/
def CanCut (message : List UInt8) (maxLength : Nat) : Prop :=
  message.length < maxLength ∨ maxLength = 0 ∨ 6 ≤ maxLength

section Texts

variable {message text : List UInt8} {maxLength : Nat}

theorem textFor_of_length_lt (fits : message.length < maxLength) :
    textFor message maxLength = some message :=
  if_pos fits

theorem textFor_zero (fits : message.length < 2 ^ 62) :
    textFor message 0 = some message := by
  rw [textFor, if_neg (Nat.not_lt_zero _), cutLongString, if_pos (by omega)]

/-- A long message keeps its two ends. -/
theorem textFor_of_le_length (fits : message.length < 2 ^ 62)
    (enough : 6 ≤ maxLength) (tooLong : maxLength ≤ message.length) :
    textFor message maxLength =
      some (message.take ((maxLength - 6) / 2) ++ elideString ++
        message.drop (message.length - (maxLength - 6) / 2)) := by
  have elideLength : elideString.length = 5 := rfl
  have shorter : (maxLength + 2 ^ 64 - 1) % 2 ^ 64 = maxLength - 1 := by omega
  have half : (maxLength - 1 + 2 ^ 64 - elideString.length) % 2 ^ 64 / 2 =
      (maxLength - 6) / 2 := by omega
  have start : (message.length + 2 ^ 64 - (maxLength - 6) / 2) % 2 ^ 64 =
      message.length - (maxLength - 6) / 2 := by omega
  rw [textFor, if_neg (Nat.not_lt.mpr tooLong), cutLongString, shorter,
    if_neg (by omega), half]
  dsimp only
  rw [start]
  exact if_pos (Nat.sub_le _ _)

/-- Below six bytes `halfSize` wraps around. -/
theorem textFor_eq_none (fits : message.length < 2 ^ 62)
    (limited : maxLength ≠ 0) (small : maxLength < 6)
    (tooLong : maxLength ≤ message.length) :
    textFor message maxLength = none := by
  have elideLength : elideString.length = 5 := rfl
  have shorter : (maxLength + 2 ^ 64 - 1) % 2 ^ 64 = maxLength - 1 := by omega
  rw [textFor, if_neg (Nat.not_lt.mpr tooLong), cutLongString, shorter,
    if_neg (by omega)]
  exact if_neg (by omega)

theorem textFor_isSome (fits : message.length < 2 ^ 62) :
    (textFor message maxLength).isSome ↔ CanCut message maxLength := by
  by_cases isShort : message.length < maxLength
  · simp [textFor_of_length_lt isShort, CanCut, isShort]
  rw [Nat.not_lt] at isShort
  by_cases isZero : maxLength = 0
  · subst isZero
    simp [textFor_zero fits, CanCut]
  by_cases enough : 6 ≤ maxLength
  · simp [textFor_of_le_length fits enough isShort, CanCut, enough]
  · rw [textFor_eq_none fits isZero (by omega) isShort]
    simp only [Option.isSome_none, Bool.false_eq_true, CanCut, false_iff]
    omega

/-- With the NUL behind it the text fits in `maxLength` bytes. -/
theorem length_textFor (fits : message.length < 2 ^ 62)
    (limited : maxLength ≠ 0) (isText : textFor message maxLength = some text) :
    text.length < maxLength := by
  by_cases isShort : message.length < maxLength
  · rw [textFor_of_length_lt isShort, Option.some.injEq] at isText
    exact isText ▸ isShort
  rw [Nat.not_lt] at isShort
  by_cases enough : 6 ≤ maxLength
  · rw [textFor_of_le_length fits enough isShort, Option.some.injEq] at isText
    have elideLength : elideString.length = 5 := rfl
    rw [← isText, List.length_append, List.length_append, List.length_take,
      List.length_drop]
    omega
  · rw [textFor_eq_none fits limited (by omega) isShort] at isText
    exact nomatch isText

end Texts

/-- The program keeps neither of the last two: how many callbacks had been added
before this one, and how many items had been dequeued. -/
structure CallbackAndData (Callback : Type*) where
  callback : Option Callback
  maxLength : Nat
  number : Nat
  since : Nat

/-- What a callback is called with, and the number of that callback. -/
structure LogCall where
  number : Nat
  text : List UInt8
  level : LogLevel
  file : String
  line : Int
  timestamp : Int

/-- Where `processLogs` stands.  The iterator is at `place`. -/
inductive LogDispatcher (Callback : Type*)
  | dequeuing
  /-- The mutex is free again, and the copy `cbItem` is about to be called. -/
  | calling (logData : LogData) (place : Nat) (cbItem : CallbackAndData Callback)
  /-- The callback has returned. -/
  | locking (logData : LogData) (place : Nat)
  | stopped
  /-- An exception has left the thread. -/
  | terminated
  /-- An iterator has been used after a change had invalidated it. -/
  | undefined

/-- `iteratorsValid` is false once the callbacks have been changed behind an
iterator.  The program keeps neither that nor the last four. -/
structure CallbackLogger (Thread Callback : Type*) where
  m_queue : ProducerQueue Thread LogQueueItem := {}
  m_callbacks : List (CallbackAndData Callback) := []
  dispatcher : LogDispatcher Callback := .dequeuing
  iteratorsValid : Bool := true
  stopping : Bool := false
  enqueued : List (QueueEntry Thread LogQueueItem) := []
  dequeued : List (QueueEntry Thread LogQueueItem) := []
  added : Nat := 0
  calls : List LogCall := []

inductive LogAction (Thread Callback : Type*)
  | log (thread : Thread) (logData : LogData)
  | addCallback (callback : Option Callback) (maxLength : Nat)
  | clear
  /-- The destructor enqueues `LogDispatcherStop`. -/
  | destroy (thread : Thread)
  | dequeue (producer : Thread)
  | call
  | lock
  /-- After undefined behaviour. -/
  | anything (next : CallbackLogger Thread Callback)

namespace LogDispatcher

variable {Callback : Type*}

/-- The thread is in the middle of the loop over the callbacks. -/
def inLoop : LogDispatcher Callback → Bool
  | .calling _ _ _ => true
  | .locking _ _ => true
  | _ => false

def broken : LogDispatcher Callback → Bool
  | .terminated => true
  | .undefined => true
  | _ => false

end LogDispatcher

/-- What a callback is called with for a message. -/
def CallbackAndData.callFor {Callback : Type*}
    (cbItem : CallbackAndData Callback) (logData : LogData) : Option LogCall :=
  (textFor logData.message cbItem.maxLength).map fun text =>
    ⟨cbItem.number, text, logData.level, logData.file, logData.line,
      logData.timestamp⟩

/-- The messages among the items of a queue. -/
def logged {Thread : Type*} (entries : List (QueueEntry Thread LogQueueItem)) :
    List LogData :=
  entries.filterMap fun entry =>
    match entry.item with
    | .log logData => some logData
    | .dispatcherStop => none

namespace CallbackLogger

variable {Thread Callback : Type*}

def enqueue (state : CallbackLogger Thread Callback) (thread : Thread)
    (item : LogQueueItem) : CallbackLogger Thread Callback :=
  { state with
    m_queue := state.m_queue.enqueue thread item
    enqueued := state.enqueued ++ [state.m_queue.nextEntry thread item] }

/-- The iterator has come to `place`, and the mutex is held. -/
def visit (state : CallbackLogger Thread Callback) (logData : LogData)
    (place : Nat) : CallbackLogger Thread Callback :=
  match state.m_callbacks[place]? with
  | some cbItem =>
      { state with dispatcher := .calling logData place cbItem }
  | none => { state with dispatcher := .dequeuing }

/-- The loop over the callbacks begins with iterators of their own. -/
def handOut (state : CallbackLogger Thread Callback) :
    LogQueueItem → CallbackLogger Thread Callback
  | .dispatcherStop => { state with dispatcher := .stopped }
  | .log logData => { state with iteratorsValid := true }.visit logData 0

def callItem (state : CallbackLogger Thread Callback) (logData : LogData)
    (place : Nat) (cbItem : CallbackAndData Callback) :
    CallbackLogger Thread Callback :=
  match cbItem.callback with
  | none => { state with dispatcher := .locking logData place }
  | some _ =>
      match cbItem.callFor logData with
      | none => { state with dispatcher := .terminated }
      | some call =>
          { state with
            dispatcher := .locking logData place
            calls := state.calls ++ [call] }

def addCallback (state : CallbackLogger Thread Callback)
    (callback : Option Callback) (maxLength : Nat) :
    CallbackLogger Thread Callback :=
  { state with
    m_callbacks := state.m_callbacks ++
      [⟨callback, maxLength, state.added, state.dequeued.length⟩]
    iteratorsValid := false
    added := state.added + 1 }

variable [DecidableEq Thread]

def dequeue (state : CallbackLogger Thread Callback) (producer : Thread) :
    Option (CallbackLogger Thread Callback) :=
  (state.m_queue.dequeue producer).map fun (entry, m_queue) =>
    { state with m_queue, dequeued := state.dequeued ++ [entry] }.handOut
      entry.item

/-- Anything may come after undefined behaviour, and nothing after an exception
that ends the process.  Nothing is said of what the logger does once it is
destroyed. -/
def step (state : CallbackLogger Thread Callback)
    (action : LogAction Thread Callback) :
    Option (CallbackLogger Thread Callback) :=
  if state.dispatcher.broken then
    match state.dispatcher, action with
    | .undefined, .anything next => some next
    | _, _ => none
  else
    match action with
    | .log thread logData => some (state.enqueue thread (.log logData))
    | .addCallback callback maxLength =>
        some (state.addCallback callback maxLength)
    | .clear => some { state with m_callbacks := [], iteratorsValid := false }
    | .destroy thread =>
        if state.stopping then none
        else
          some { state.enqueue thread .dispatcherStop with stopping := true }
    | .dequeue producer =>
        match state.dispatcher with
        | .dequeuing => state.dequeue producer
        | _ => none
    | .call =>
        match state.dispatcher with
        | .calling logData place cbItem =>
            some (state.callItem logData place cbItem)
        | _ => none
    | .lock =>
        match state.dispatcher with
        | .locking logData place =>
            if state.iteratorsValid then some (state.visit logData (place + 1))
            else some { state with dispatcher := .undefined }
        | _ => none
    | .anything _ => none

/-- The calls of one callback. -/
def callsOf (state : CallbackLogger Thread Callback) (number : Nat) :
    List LogCall :=
  state.calls.filter (·.number = number)

/-- What the logger is for.  Between two messages each callback has been called
once for each message that was dequeued since it was added. -/
structure Delivers (state : CallbackLogger Thread Callback) : Prop where
  received : state.dispatcher = .dequeuing ∨ state.dispatcher = .stopped →
    ∀ cbItem ∈ state.m_callbacks, cbItem.callback.isSome →
      (state.callsOf cbItem.number).map some =
        (logged (state.dequeued.drop cbItem.since)).map cbItem.callFor
  limited : state.dispatcher = .dequeuing ∨ state.dispatcher = .stopped →
    ∀ cbItem ∈ state.m_callbacks, cbItem.callback.isSome →
      cbItem.maxLength ≠ 0 → ∀ call ∈ state.callsOf cbItem.number,
        call.text.length < cbItem.maxLength
  inOrder : ∀ thread, state.dequeued.filter (·.producer = thread) <+:
    state.enqueued.filter (·.producer = thread)
  flushed : state.dispatcher = .stopped →
    ∃ last ∈ state.dequeued, last.item = .dispatcherStop ∧
      ∀ entry ∈ state.enqueued, entry.producer = last.producer →
        entry.number < last.number → entry ∈ state.dequeued

/-- The dispatcher goes on, and its iterators may be used. -/
def Intact (state : CallbackLogger Thread Callback) : Prop :=
  state.dispatcher.broken = false ∧
    (state.dispatcher.inLoop = true → state.iteratorsValid = true)

/-- The callbacks are changed between two messages only, and no callback that
allows less than six bytes is called with a longer message. -/
def Orderly (state : CallbackLogger Thread Callback) :
    LogAction Thread Callback → Prop
  | .addCallback _ _ => state.dispatcher.inLoop = false
  | .clear => state.dispatcher.inLoop = false
  | .call => ∀ logData place cbItem,
      state.dispatcher = .calling logData place cbItem →
        cbItem.callback.isSome → CanCut logData.message cbItem.maxLength
  | _ => True

/-! ## What every step keeps -/

/-- `logData` is the message of the item that was dequeued last. -/
def CurrentIs (state : CallbackLogger Thread Callback) (logData : LogData) :
    Prop :=
  ∃ earlier entry, state.dequeued = earlier ++ [entry] ∧
    entry.item = .log logData ∧
      ∀ cbItem ∈ state.m_callbacks, cbItem.since ≤ earlier.length

/-- Only the first `count` callbacks have received the last item. -/
def ReceivedUpTo (state : CallbackLogger Thread Callback) (count : Nat) : Prop :=
  ∀ place cbItem, state.m_callbacks[place]? = some cbItem →
    cbItem.callback.isSome →
      (state.callsOf cbItem.number).map some =
        (logged ((if place < count then state.dequeued
          else state.dequeued.dropLast).drop cbItem.since)).map cbItem.callFor

/-- The number of callbacks that have received the last item. -/
def reached (state : CallbackLogger Thread Callback) : Nat :=
  match state.dispatcher with
  | .calling _ place _ => place
  | .locking _ place => place + 1
  | _ => state.m_callbacks.length

/-- The part of the invariant that does not speak of the dispatcher. -/
structure Numbered (state : CallbackLogger Thread Callback) : Prop where
  accounts : state.m_queue.Accounts state.enqueued state.dequeued
  increasing : state.m_callbacks.Pairwise (·.number < ·.number)
  numbered : ∀ cbItem ∈ state.m_callbacks, cbItem.number < state.added
  callNumbered : ∀ call ∈ state.calls, call.number < state.added
  since_le : ∀ cbItem ∈ state.m_callbacks,
    cbItem.since ≤ state.dequeued.length

structure Sound (state : CallbackLogger Thread Callback) : Prop
    extends Numbered state where
  calling : ∀ logData place cbItem,
    state.dispatcher = .calling logData place cbItem →
      cbItem.number < state.added ∧
        (state.iteratorsValid = true →
          state.CurrentIs logData ∧ state.m_callbacks[place]? = some cbItem)
  locking : ∀ logData place, state.dispatcher = .locking logData place →
    state.iteratorsValid = true → state.CurrentIs logData
  stopped : state.dispatcher = .stopped →
    ∃ last ∈ state.dequeued, last.item = .dispatcherStop
  received : state.Intact → state.ReceivedUpTo state.reached

variable {state next : CallbackLogger Thread Callback}
  {action : LogAction Thread Callback}

/-- What a step can do. -/
inductive StepEffect (state : CallbackLogger Thread Callback) :
    LogAction Thread Callback → CallbackLogger Thread Callback → Prop
  | log (thread : Thread) (logData : LogData) :
      StepEffect state (.log thread logData) (state.enqueue thread (.log logData))
  | addCallback (callback : Option Callback) (maxLength : Nat) :
      StepEffect state (.addCallback callback maxLength)
        (state.addCallback callback maxLength)
  | clear :
      StepEffect state .clear
        { state with m_callbacks := [], iteratorsValid := false }
  | destroy (thread : Thread) :
      StepEffect state (.destroy thread)
        { state.enqueue thread .dispatcherStop with stopping := true }
  | dequeue {producer : Thread} {entry : QueueEntry Thread LogQueueItem}
      {m_queue : ProducerQueue Thread LogQueueItem}
      (isDequeuing : state.dispatcher = .dequeuing)
      (isTaken : state.m_queue.dequeue producer = some (entry, m_queue)) :
      StepEffect state (.dequeue producer)
        ({ state with m_queue, dequeued := state.dequeued ++ [entry] }.handOut
          entry.item)
  | call {logData : LogData} {place : Nat} {cbItem : CallbackAndData Callback}
      (stands : state.dispatcher = .calling logData place cbItem) :
      StepEffect state .call (state.callItem logData place cbItem)
  | lock {logData : LogData} {place : Nat}
      (stands : state.dispatcher = .locking logData place)
      (valid : state.iteratorsValid = true) :
      StepEffect state .lock (state.visit logData (place + 1))
  | lockInvalid {logData : LogData} {place : Nat}
      (stands : state.dispatcher = .locking logData place)
      (invalid : state.iteratorsValid = false) :
      StepEffect state .lock { state with dispatcher := .undefined }
  | anything {next : CallbackLogger Thread Callback}
      (isUndefined : state.dispatcher = .undefined) :
      StepEffect state (.anything next) next

theorem step_effect (taken : state.step action = some next) :
    StepEffect state action next := by
  unfold step at taken
  split at taken
  · split at taken
    · next isUndefined =>
        obtain rfl := Option.some.inj taken
        exact .anything isUndefined
    · cases taken
  cases action with
  | log thread logData => exact Option.some.inj taken ▸ .log thread logData
  | addCallback callback maxLength =>
      exact Option.some.inj taken ▸ .addCallback callback maxLength
  | clear => exact Option.some.inj taken ▸ .clear
  | destroy thread =>
      obtain ⟨-, isNext⟩ := Option.ite_none_left_eq_some.mp taken
      exact Option.some.inj isNext ▸ .destroy thread
  | dequeue producer =>
      dsimp only at taken
      split at taken
      · next isDequeuing =>
          obtain ⟨⟨entry, m_queue⟩, isTaken, rfl⟩ :=
            Option.map_eq_some_iff.mp taken
          exact .dequeue isDequeuing isTaken
      · cases taken
  | call =>
      dsimp only at taken
      split at taken
      · next stands => exact Option.some.inj taken ▸ .call stands
      · cases taken
  | lock =>
      dsimp only at taken
      split at taken
      · next stands =>
          by_cases valid : state.iteratorsValid = true
          · rw [if_pos valid] at taken
            exact Option.some.inj taken ▸ .lock stands valid
          · rw [if_neg valid] at taken
            exact Option.some.inj taken ▸
              .lockInvalid stands (Bool.eq_false_iff.mpr valid)
      · cases taken
  | anything next => cases taken

theorem sound_initial : Sound ({} : CallbackLogger Thread Callback) where
  accounts := ProducerQueue.accounts_empty
  increasing := List.Pairwise.nil
  numbered := fun _ member => absurd member List.not_mem_nil
  callNumbered := fun _ member => absurd member List.not_mem_nil
  since_le := fun _ member => absurd member List.not_mem_nil
  calling := by simp
  locking := by simp
  stopped := by simp
  received := by
    intro _ place cbItem isItem
    simp at isItem

theorem Sound.enqueue (sound : Sound state) (thread : Thread)
    (item : LogQueueItem) : Sound (state.enqueue thread item) :=
  { sound with accounts := sound.accounts.enqueue thread item }

theorem Sound.destroy (sound : Sound state) (thread : Thread) :
    Sound { state.enqueue thread .dispatcherStop with stopping := true } :=
  { sound.enqueue thread .dispatcherStop with }

omit [DecidableEq Thread] in
/-- A callback that is added now has not been called yet. -/
theorem callsOf_of_le (numbers : ∀ call ∈ state.calls, call.number < state.added) :
    state.callsOf state.added = [] := by
  rw [callsOf, List.filter_eq_nil_iff]
  intro call member
  have less := numbers call member
  simp only [decide_eq_true_eq]
  omega

omit [DecidableEq Thread] in
theorem reached_of_not_inLoop (between : state.dispatcher.inLoop = false) :
    state.reached = state.m_callbacks.length := by
  unfold reached
  split
  · next stands => simp [stands, LogDispatcher.inLoop] at between
  · next stands => simp [stands, LogDispatcher.inLoop] at between
  · rfl

theorem Sound.addCallback (sound : Sound state) (callback : Option Callback)
    (maxLength : Nat) : Sound (state.addCallback callback maxLength) where
  accounts := sound.accounts
  increasing := by
    refine List.pairwise_append.mpr
      ⟨sound.increasing, List.pairwise_singleton _ _, ?_⟩
    intro cbItem old other new
    obtain rfl := List.mem_singleton.mp new
    exact sound.numbered cbItem old
  numbered := by
    intro cbItem member
    rcases List.mem_append.mp member with old | new
    · exact Nat.lt_succ_of_lt (sound.numbered cbItem old)
    · obtain rfl := List.mem_singleton.mp new
      exact Nat.lt_succ_self _
  callNumbered := fun call member =>
    Nat.lt_succ_of_lt (sound.callNumbered call member)
  since_le := by
    intro cbItem member
    rcases List.mem_append.mp member with old | new
    · exact sound.since_le cbItem old
    · obtain rfl := List.mem_singleton.mp new
      exact Nat.le_refl _
  calling := fun logData place cbItem stands =>
    ⟨Nat.lt_succ_of_lt (sound.calling logData place cbItem stands).1,
      fun valid => absurd valid Bool.false_ne_true⟩
  locking := fun _ _ _ valid => absurd valid Bool.false_ne_true
  stopped := sound.stopped
  received := by
    rintro ⟨goesOn, valid⟩
    have between : state.dispatcher.inLoop = false :=
      Bool.eq_false_iff.mpr fun inLoop => nomatch valid inLoop
    have before := sound.received ⟨goesOn, fun inLoop =>
      absurd (between.symm.trans inLoop) Bool.false_ne_true⟩
    rw [reached_of_not_inLoop between] at before
    have isReached : (state.addCallback callback maxLength).reached =
        (state.addCallback callback maxLength).m_callbacks.length :=
      reached_of_not_inLoop between
    rw [isReached]
    intro place cbItem isItem isSome
    have isPlace := (List.getElem?_eq_some_iff.mp isItem).1
    rw [if_pos isPlace]
    by_cases old : place < state.m_callbacks.length
    · rw [CallbackLogger.addCallback, List.getElem?_append_left old] at isItem
      have received := before place cbItem isItem isSome
      rwa [if_pos old] at received
    · have isLast : place = state.m_callbacks.length := by
        simp [CallbackLogger.addCallback] at isPlace
        omega
      subst isLast
      rw [CallbackLogger.addCallback, List.getElem?_concat_length,
        Option.some.injEq] at isItem
      subst isItem
      have uncalled : (state.addCallback callback maxLength).callsOf
          state.added = [] := callsOf_of_le sound.callNumbered
      have undue : (state.addCallback callback maxLength).dequeued.drop
          state.dequeued.length = [] := List.drop_length
      rw [uncalled, undue]
      rfl

theorem Sound.clear (sound : Sound state) :
    Sound { state with m_callbacks := [], iteratorsValid := false } where
  accounts := sound.accounts
  increasing := List.Pairwise.nil
  numbered := fun _ member => absurd member List.not_mem_nil
  callNumbered := sound.callNumbered
  since_le := fun _ member => absurd member List.not_mem_nil
  calling := fun logData place cbItem stands =>
    ⟨(sound.calling logData place cbItem stands).1,
      fun valid => absurd valid Bool.false_ne_true⟩
  locking := fun _ _ _ valid => absurd valid Bool.false_ne_true
  stopped := sound.stopped
  received := by
    intro _ place cbItem isItem
    simp at isItem

/-- The iterator comes to a place before which all callbacks have received the
message. -/
theorem Numbered.visit (numbered : Numbered state) {logData : LogData}
    {place : Nat} (current : state.CurrentIs logData)
    (received : state.ReceivedUpTo place) : Sound (state.visit logData place) := by
  unfold CallbackLogger.visit
  split
  · next cbItem isItem =>
      exact { numbered with
        calling := by
          rintro _ _ _ ⟨⟩
          exact ⟨numbered.numbered cbItem (List.mem_of_getElem? isItem),
            fun _ => ⟨current, isItem⟩⟩
        locking := by simp
        stopped := by simp
        received := fun _ => received }
  · next isEnd =>
      rw [List.getElem?_eq_none_iff] at isEnd
      exact { numbered with
        calling := by simp
        locking := by simp
        stopped := by simp
        received := by
          intro _ other cbItem isItem isSome
          have isPlace := (List.getElem?_eq_some_iff.mp isItem).1
          have atPlace := received other cbItem isItem isSome
          rw [if_pos (Nat.lt_of_lt_of_le isPlace isEnd)] at atPlace
          rw [reached_of_not_inLoop rfl, if_pos isPlace]
          exact atPlace }

omit [DecidableEq Thread] in
/-- An item more is due to the callbacks that were added before it. -/
theorem logged_drop_append
    {earlier : List (QueueEntry Thread LogQueueItem)} {since : Nat}
    (isOld : since ≤ earlier.length)
    (entry : QueueEntry Thread LogQueueItem) :
    logged ((earlier ++ [entry]).drop since) =
      logged (earlier.drop since) ++ logged [entry] := by
  rw [List.drop_append_of_le_length isOld, logged, List.filterMap_append]
  rfl

theorem Sound.dequeue (sound : Sound state) {producer : Thread}
    {entry : QueueEntry Thread LogQueueItem}
    {m_queue : ProducerQueue Thread LogQueueItem}
    (isDequeuing : state.dispatcher = .dequeuing)
    (isTaken : state.m_queue.dequeue producer = some (entry, m_queue)) :
    Sound ({ state with m_queue, dequeued := state.dequeued ++ [entry] }.handOut
      entry.item) := by
  have before : state.ReceivedUpTo state.m_callbacks.length := by
    rw [← reached_of_not_inLoop (by rw [isDequeuing]; rfl)]
    exact sound.received (by simp [Intact, isDequeuing, LogDispatcher.broken,
      LogDispatcher.inLoop])
  let left : CallbackLogger Thread Callback :=
    { state with m_queue, dequeued := state.dequeued ++ [entry] }
  have numbered : Numbered left :=
    { sound.toNumbered with
      accounts := sound.accounts.dequeue isTaken
      since_le := by
        intro cbItem member
        have isOld := sound.since_le cbItem member
        have longer : left.dequeued.length = state.dequeued.length + 1 :=
          List.length_append
        omega }
  change Sound (left.handOut entry.item)
  cases isItem : entry.item with
  | dispatcherStop =>
      exact { numbered with
        calling := by simp [handOut]
        locking := by simp [handOut]
        stopped := fun _ =>
          ⟨entry, List.mem_append_right _ (List.mem_singleton.mpr rfl), isItem⟩
        received := by
          rw [reached_of_not_inLoop rfl]
          intro _ place cbItem isPlaced isSome
          have isPlace : place < state.m_callbacks.length :=
            (List.getElem?_eq_some_iff.mp isPlaced).1
          have atPlace := before place cbItem isPlaced isSome
          have isOld := sound.since_le cbItem (List.mem_of_getElem? isPlaced)
          rw [if_pos isPlace] at atPlace
          change _ = (logged ((if place < state.m_callbacks.length then
            state.dequeued ++ [entry] else _).drop _)).map _
          have noMessage : logged [entry] = [] := by simp [logged, isItem]
          rw [if_pos isPlace, logged_drop_append isOld, noMessage,
            List.append_nil]
          exact atPlace }
  | log logData =>
      have current : left.CurrentIs logData :=
        ⟨state.dequeued, entry, rfl, isItem, sound.since_le⟩
      have received : left.ReceivedUpTo 0 := by
        intro place cbItem isPlaced isSome
        have isPlace := (List.getElem?_eq_some_iff.mp isPlaced).1
        have atPlace := before place cbItem isPlaced isSome
        rw [if_pos isPlace] at atPlace
        rw [if_neg (Nat.not_lt_zero _)]
        simpa [left, callsOf] using atPlace
      have begins : Numbered { left with iteratorsValid := true } :=
        { numbered with }
      exact begins.visit current received

omit [DecidableEq Thread] in
/-- A call is one of the callback with its number only. -/
theorem callsOf_append (state : CallbackLogger Thread Callback) (call : LogCall)
    (number : Nat) {calls : List LogCall}
    (isNext : next.calls = calls ++ [call]) (same : calls = state.calls) :
    next.callsOf number =
      state.callsOf number ++ if call.number = number then [call] else [] := by
  subst same
  rw [callsOf, isNext, List.filter_append]
  by_cases isOne : call.number = number <;> simp [isOne, callsOf]

omit [DecidableEq Thread] in
theorem number_inj (increasing : state.m_callbacks.Pairwise (·.number < ·.number))
    {place other : Nat} {cbItem otherItem : CallbackAndData Callback}
    (isItem : state.m_callbacks[place]? = some cbItem)
    (isOther : state.m_callbacks[other]? = some otherItem)
    (differ : other ≠ place) : cbItem.number ≠ otherItem.number := by
  obtain ⟨placeLt, rfl⟩ := List.getElem?_eq_some_iff.mp isItem
  obtain ⟨otherLt, rfl⟩ := List.getElem?_eq_some_iff.mp isOther
  have pairs := List.pairwise_iff_getElem.mp increasing
  rcases Nat.lt_or_gt_of_ne differ with less | greater
  · exact Nat.ne_of_gt (pairs other place otherLt placeLt less)
  · exact Nat.ne_of_lt (pairs place other placeLt otherLt greater)

/-- The others have received as much as before. -/
theorem Sound.received_other (sound : Sound state) {logData : LogData}
    {place : Nat} {cbItem : CallbackAndData Callback}
    (stands : state.dispatcher = .calling logData place cbItem)
    (valid : state.iteratorsValid = true) {other : Nat}
    {otherItem : CallbackAndData Callback} (differ : other ≠ place)
    (isOther : state.m_callbacks[other]? = some otherItem)
    (isSome : otherItem.callback.isSome) :
    (state.callsOf otherItem.number).map some =
      (logged ((if other < place + 1 then state.dequeued
        else state.dequeued.dropLast).drop otherItem.since)).map
          otherItem.callFor := by
  have received := sound.received ⟨by rw [stands]; rfl, fun _ => valid⟩ other
    otherItem isOther isSome
  have isReached : state.reached = place := by rw [reached, stands]
  have sameSide : other < place + 1 ↔ other < place := by omega
  simpa only [isReached, sameSide] using received

/-- The callback that is called receives the message that the others before it
have received. -/
theorem Sound.received_current (sound : Sound state) {logData : LogData}
    {place : Nat} {cbItem : CallbackAndData Callback} {call : LogCall}
    (stands : state.dispatcher = .calling logData place cbItem)
    (valid : state.iteratorsValid = true) (current : state.CurrentIs logData)
    (isItem : state.m_callbacks[place]? = some cbItem)
    (isSome : cbItem.callback.isSome)
    (isCall : cbItem.callFor logData = some call) :
    (state.callsOf cbItem.number).map some ++ [call].map some =
      (logged ((if place < place + 1 then state.dequeued
        else state.dequeued.dropLast).drop cbItem.since)).map cbItem.callFor := by
  obtain ⟨earlier, entry, dequeued, isMessage, isOld⟩ := current
  have received := sound.received ⟨by rw [stands]; rfl, fun _ => valid⟩ place
    cbItem isItem isSome
  have isReached : state.reached = place := by rw [reached, stands]
  have isLogged : logged [entry] = [logData] := by simp [logged, isMessage]
  rw [isReached, if_neg (Nat.lt_irrefl _), dequeued, List.dropLast_concat]
    at received
  rw [if_pos (Nat.lt_succ_self _), dequeued,
    logged_drop_append (isOld cbItem (List.mem_of_getElem? isItem)), isLogged,
    List.map_append, received, List.map_singleton, List.map_singleton, isCall]

theorem Sound.callItem (sound : Sound state) {logData : LogData} {place : Nat}
    {cbItem : CallbackAndData Callback}
    (stands : state.dispatcher = .calling logData place cbItem) :
    Sound (state.callItem logData place cbItem) := by
  obtain ⟨numbered, placed⟩ := sound.calling logData place cbItem stands
  unfold CallbackLogger.callItem
  split
  · next isNone =>
      exact { sound.toNumbered with
        calling := by simp
        locking := by
          rintro _ _ ⟨⟩ valid
          exact (placed valid).1
        stopped := by simp
        received := by
          rintro ⟨-, ifValid⟩ other otherItem isOther isSome
          have valid : state.iteratorsValid = true := ifValid rfl
          have differ : other ≠ place := by
            rintro rfl
            obtain rfl := Option.some.inj ((placed valid).2.symm.trans isOther)
            simp [isNone] at isSome
          exact sound.received_other stands valid differ isOther isSome }
  · next callback isCallback =>
      split
      · exact { sound.toNumbered with
          calling := by simp
          locking := by simp
          stopped := by simp
          received := fun intact => nomatch intact.1 }
      · next call isCall =>
          have isNumber : call.number = cbItem.number := by
            obtain ⟨text, -, rfl⟩ := Option.map_eq_some_iff.mp isCall
            rfl
          exact { sound.toNumbered with
            callNumbered := by
              intro other member
              rcases List.mem_append.mp member with old | new
              · exact sound.callNumbered other old
              · obtain rfl := List.mem_singleton.mp new
                exact isNumber ▸ numbered
            calling := by simp
            locking := by
              rintro _ _ ⟨⟩ valid
              exact (placed valid).1
            stopped := by simp
            received := by
              rintro ⟨-, ifValid⟩ other otherItem isOther isSome
              have valid : state.iteratorsValid = true := ifValid rfl
              rw [callsOf_append state call _ rfl rfl, List.map_append]
              by_cases differ : other = place
              · subst differ
                obtain ⟨current, isPlaced⟩ := placed valid
                obtain rfl := Option.some.inj (isPlaced.symm.trans isOther)
                rw [if_pos isNumber]
                exact sound.received_current stands valid current isOther isSome
                  isCall
              · have others := number_inj sound.increasing (placed valid).2
                  isOther differ
                rw [if_neg (isNumber ▸ others), List.map_nil, List.append_nil]
                exact sound.received_other stands valid differ isOther isSome }

theorem Sound.lock (sound : Sound state) {logData : LogData} {place : Nat}
    (stands : state.dispatcher = .locking logData place)
    (valid : state.iteratorsValid = true) :
    Sound (state.visit logData (place + 1)) := by
  have received := sound.received ⟨by rw [stands]; rfl, fun _ => valid⟩
  have isReached : state.reached = place + 1 := by rw [reached, stands]
  rw [isReached] at received
  exact sound.toNumbered.visit (sound.locking logData place stands valid) received

theorem Sound.undefined (sound : Sound state) :
    Sound { state with dispatcher := .undefined } :=
  { sound.toNumbered with
    calling := by simp
    locking := by simp
    stopped := by simp
    received := fun intact => nomatch intact.1 }

theorem Sound.step (sound : Sound state) (intact : state.Intact)
    (taken : state.step action = some next) : Sound next := by
  cases step_effect taken with
  | log thread logData => exact sound.enqueue thread _
  | addCallback callback maxLength => exact sound.addCallback callback maxLength
  | clear => exact sound.clear
  | destroy thread => exact sound.destroy thread
  | dequeue isDequeuing isTaken => exact sound.dequeue isDequeuing isTaken
  | call stands => exact sound.callItem stands
  | lock stands valid => exact sound.lock stands valid
  | lockInvalid _ _ => exact sound.undefined
  | anything isUndefined =>
      have goesOn := intact.1
      rw [isUndefined] at goesOn
      cases goesOn

/-- Between two messages every callback has received all of them. -/
theorem Sound.received_between (sound : Sound state)
    (between : state.dispatcher = .dequeuing ∨ state.dispatcher = .stopped)
    {cbItem : CallbackAndData Callback} (member : cbItem ∈ state.m_callbacks)
    (isSome : cbItem.callback.isSome) :
    (state.callsOf cbItem.number).map some =
      (logged (state.dequeued.drop cbItem.since)).map cbItem.callFor := by
  obtain ⟨place, isItem⟩ := List.mem_iff_getElem?.mp member
  have notInLoop : state.dispatcher.inLoop = false := by
    rcases between with stands | stands <;> rw [stands] <;> rfl
  have goesOn : state.dispatcher.broken = false := by
    rcases between with stands | stands <;> rw [stands] <;> rfl
  have received := sound.received ⟨goesOn, fun inLoop =>
    absurd (notInLoop.symm.trans inLoop) Bool.false_ne_true⟩ place cbItem isItem
      isSome
  rwa [reached_of_not_inLoop notInLoop,
    if_pos (List.getElem?_eq_some_iff.mp isItem).1] at received

/-- What a thread has enqueued before an item that was dequeued, was dequeued
too. -/
theorem Numbered.dequeued_of_lt (numbered : Numbered state)
    {last entry : QueueEntry Thread LogQueueItem}
    (isDequeued : last ∈ state.dequeued) (isEnqueued : entry ∈ state.enqueued)
    (sameThread : entry.producer = last.producer)
    (less : entry.number < last.number) : entry ∈ state.dequeued := by
  have split := numbered.accounts.split last.producer
  have increasing := numbered.accounts.increasing.filter (·.producer = last.producer)
  rw [← split, List.pairwise_append] at increasing
  have isOwn : entry ∈ state.enqueued.filter (·.producer = last.producer) :=
    List.mem_filter.mpr ⟨isEnqueued, decide_eq_true sameThread⟩
  rw [← split, List.mem_append] at isOwn
  rcases isOwn with gone | waits
  · exact (List.mem_filter.mp gone).1
  · have greater := increasing.2.2 last
      (List.mem_filter.mpr ⟨isDequeued, decide_eq_true rfl⟩) entry waits
    exact absurd less (Nat.lt_asymm greater)

theorem Sound.delivers (sound : Sound state) : Delivers state where
  received := fun between _ member isSome =>
    sound.received_between between member isSome
  limited := by
    intro between cbItem member isSome limited call isCall
    have received := sound.received_between between member isSome
    have isDue : some call ∈ (state.callsOf cbItem.number).map some :=
      List.mem_map_of_mem isCall
    rw [received] at isDue
    obtain ⟨logData, -, isText⟩ := List.mem_map.mp isDue
    obtain ⟨text, isCut, rfl⟩ := Option.map_eq_some_iff.mp isText
    exact length_textFor logData.fits limited isCut
  inOrder := sound.accounts.dequeued_isPrefix
  flushed := by
    intro stands
    obtain ⟨last, isDequeued, isStop⟩ := sound.stopped stands
    exact ⟨last, isDequeued, isStop, fun _ isEnqueued sameThread less =>
      sound.dequeued_of_lt isDequeued isEnqueued sameThread less⟩

/-! ## When the dispatcher breaks -/

omit [DecidableEq Thread] in
theorem intact_visit (state : CallbackLogger Thread Callback) (logData : LogData)
    (place : Nat) (valid : state.iteratorsValid = true) :
    Intact (state.visit logData place) := by
  unfold visit
  split <;> exact ⟨rfl, fun _ => valid⟩

omit [DecidableEq Thread] in
theorem intact_callItem_iff (intact : state.Intact) {logData : LogData}
    {place : Nat} {cbItem : CallbackAndData Callback}
    (stands : state.dispatcher = .calling logData place cbItem) :
    Intact (state.callItem logData place cbItem) ↔
      (cbItem.callback.isSome → CanCut logData.message cbItem.maxLength) := by
  have valid := intact.2 (by rw [stands]; rfl)
  have isDue : (cbItem.callFor logData).isSome ↔
      CanCut logData.message cbItem.maxLength := by
    rw [CallbackAndData.callFor, Option.isSome_map, textFor_isSome logData.fits]
  unfold callItem
  split
  · next isNone =>
      exact iff_of_true ⟨rfl, fun _ => valid⟩ (by simp [isNone])
  · next callback isCallback =>
      split
      · next noCall =>
          rw [noCall] at isDue
          refine iff_of_false (fun broken => nomatch broken.1) fun canCut => ?_
          exact nomatch isDue.mpr (canCut (by rw [isCallback]; rfl))
      · next call isCall =>
          rw [isCall] at isDue
          exact iff_of_true ⟨rfl, fun _ => valid⟩ fun _ => isDue.mp rfl

theorem intact_step_iff (intact : state.Intact)
    (taken : state.step action = some next) :
    next.Intact ↔ state.Orderly action := by
  -- A change leaves the iterators behind.
  have changed (isNext : next.dispatcher = state.dispatcher)
      (behind : next.iteratorsValid = false) :
      next.Intact ↔ state.dispatcher.inLoop = false := by
    rw [Intact, isNext, behind]
    constructor
    · intro still
      exact Bool.eq_false_iff.mpr fun inLoop => nomatch still.2 inLoop
    · intro between
      exact ⟨intact.1, fun inLoop =>
        absurd (between.symm.trans inLoop) Bool.false_ne_true⟩
  cases step_effect taken with
  | log thread logData => exact iff_of_true intact trivial
  | addCallback callback maxLength => exact changed rfl rfl
  | clear => exact changed rfl rfl
  | destroy thread => exact iff_of_true intact trivial
  | dequeue isDequeuing isTaken =>
      rename_i producer entry m_queue
      refine iff_of_true ?_ trivial
      cases entry.item with
      | dispatcherStop => exact ⟨rfl, fun inLoop => nomatch inLoop⟩
      | log logData => exact intact_visit _ logData 0 rfl
  | call stands =>
      rename_i logData place cbItem
      rw [intact_callItem_iff intact stands]
      constructor
      · intro canCut _ _ _ same
        obtain ⟨rfl, rfl, rfl⟩ :=
          LogDispatcher.calling.inj (stands.symm.trans same)
        exact canCut
      · intro orderly
        exact orderly logData place cbItem stands
  | lock stands valid => exact iff_of_true (intact_visit _ _ _ valid) trivial
  | lockInvalid stands invalid =>
      have valid := intact.2 (by rw [stands]; rfl)
      exact absurd (invalid.symm.trans valid) Bool.false_ne_true
  | anything isUndefined =>
      have goesOn := intact.1
      rw [isUndefined] at goesOn
      cases goesOn

omit [DecidableEq Thread] in
theorem intact_initial : Intact ({} : CallbackLogger Thread Callback) :=
  ⟨rfl, fun inLoop => nomatch inLoop⟩

/-- The steps that leave the dispatcher intact are those of orderly runs. -/
theorem intactAlong_iff {actions : List (LogAction Thread Callback)} :
    Transition.HoldsAlong step
        (fun state action => ∀ next : CallbackLogger Thread Callback,
          state.step action = some next → next.Intact) {} actions ↔
      Transition.HoldsAlong step Orderly {} actions :=
  Transition.holdsAlong_kept_iff
    (fun _ _ _ intact taken => intact_step_iff intact taken) intact_initial

/-! ## Runs -/

/-- In orderly runs the logger does what it is for. -/
theorem logDelivered {final : CallbackLogger Thread Callback}
    {actions : List (LogAction Thread Callback)}
    (reached : Transition.run step {} actions = some final)
    (orderly : Transition.HoldsAlong step Orderly {} actions) :
    final.Delivers := by
  have preserved (state : CallbackLogger Thread Callback)
      (action : LogAction Thread Callback) (next : CallbackLogger Thread Callback)
      (kept : state.Sound ∧ state.Intact) (now : state.Orderly action)
      (taken : state.step action = some next) : next.Sound ∧ next.Intact :=
    ⟨kept.1.step kept.2 taken, (intact_step_iff kept.2 taken).mpr now⟩
  have kept := Transition.run_preserves preserved reached orderly
    ⟨sound_initial, intact_initial⟩
  exact kept.1.delivers

/-- A message of ten bytes for a callback that allows eight, and the end. -/
def cutMessage : List (LogAction Nat Unit) :=
  [.addCallback (some ()) 8,
    .log 1 ⟨[48, 49, 50, 51, 52, 53, 54, 55, 56, 57], .info, "net.cpp", 7, 5,
      by decide⟩,
    .destroy 1, .dequeue 1, .call, .lock, .dequeue 1]

theorem orderly_cutMessage :
    Transition.HoldsAlong (@step Nat Unit _) Orderly {} cutMessage := by
  refine .cons rfl rfl (.cons rfl trivial (.cons rfl trivial (.cons rfl trivial
    (.cons rfl ?_ (.cons rfl trivial (.cons rfl trivial trivial))))))
  intro logData place cbItem stands _
  obtain ⟨rfl, rfl, rfl⟩ := LogDispatcher.calling.inj stands
  exact Or.inr (Or.inr (by decide))

theorem logDelivered_cutMessage :
    ∃ final, Transition.run step {} cutMessage = some final ∧
      final.calls =
        [⟨0, [48, 32, 46, 46, 46, 32, 57], .info, "net.cpp", 7, 5⟩] ∧
      final.Delivers := by
  obtain ⟨final, reached, calls⟩ :
      ∃ final, Transition.run step {} cutMessage = some final ∧
        final.calls =
          [⟨0, [48, 32, 46, 46, 46, 32, 57], .info, "net.cpp", 7, 5⟩] :=
    ⟨_, rfl, rfl⟩
  exact ⟨final, reached, calls, logDelivered reached orderly_cutMessage⟩

/-! ## After the callbacks were cleared -/

/-- After the callbacks were cleared only the copy that was about to be called
can still be called. -/
structure Silent (cleared state : CallbackLogger Thread Callback) : Prop where
  noCallbacks : state.m_callbacks = []
  defined : state.dispatcher ≠ .undefined
  calls : (state.calls = cleared.calls ∧ ∀ logData place cbItem,
      state.dispatcher = .calling logData place cbItem →
        cleared.dispatcher = .calling logData place cbItem) ∨
    ((∃ logData place cbItem call,
        cleared.dispatcher = .calling logData place cbItem ∧
          cbItem.callFor logData = some call ∧
          state.calls = cleared.calls ++ [call]) ∧
      ∀ logData place cbItem,
        state.dispatcher ≠ .calling logData place cbItem)

variable {cleared : CallbackLogger Thread Callback}

omit [DecidableEq Thread] in
theorem Silent.congr (silent : Silent cleared state)
    (noCallbacks : next.m_callbacks = state.m_callbacks)
    (calls : next.calls = state.calls)
    (defined : next.dispatcher ≠ .undefined)
    (dispatcher : ∀ logData place cbItem,
      next.dispatcher = .calling logData place cbItem →
        state.dispatcher = .calling logData place cbItem) :
    Silent cleared next where
  noCallbacks := noCallbacks.trans silent.noCallbacks
  defined := defined
  calls := by
    rw [calls]
    rcases silent.calls with ⟨same, stands⟩ | ⟨last, standsNot⟩
    · exact Or.inl ⟨same, fun logData place cbItem isCalling =>
        stands logData place cbItem (dispatcher logData place cbItem isCalling)⟩
    · exact Or.inr ⟨last, fun logData place cbItem isCalling =>
        standsNot logData place cbItem (dispatcher logData place cbItem isCalling)⟩

omit [DecidableEq Thread] in
/-- Where there are no callbacks the loop ends at once. -/
theorem Silent.visit (silent : Silent cleared state) (logData : LogData)
    (place : Nat) : Silent cleared (state.visit logData place) := by
  have isEnd : state.m_callbacks[place]? = none := by simp [silent.noCallbacks]
  rw [CallbackLogger.visit, isEnd]
  exact silent.congr rfl rfl (by simp) (by simp)

omit [DecidableEq Thread] in
theorem Silent.callItem (silent : Silent cleared state) {logData : LogData}
    {place : Nat} {cbItem : CallbackAndData Callback}
    (stands : state.dispatcher = .calling logData place cbItem) :
    Silent cleared (state.callItem logData place cbItem) := by
  unfold CallbackLogger.callItem
  split
  · exact silent.congr rfl rfl (by simp) (by simp)
  · split
    · exact silent.congr rfl rfl (by simp) (by simp)
    · next call isCall =>
        rcases silent.calls with ⟨same, still⟩ | ⟨-, standsNot⟩
        · exact ⟨silent.noCallbacks, by simp, Or.inr
            ⟨⟨logData, place, cbItem, call, still logData place cbItem stands,
              isCall, congrArg (· ++ [call]) same⟩, by simp⟩⟩
        · exact absurd stands (standsNot logData place cbItem)

/-- The dispatcher moves on only with an iterator that is valid. -/
def UsesValidIterators (state : CallbackLogger Thread Callback) :
    LogAction Thread Callback → Prop
  | .lock => state.iteratorsValid = true
  | _ => True

theorem Silent.step (silent : Silent cleared state)
    (addsNot : ∀ callback maxLength, action ≠ .addCallback callback maxLength)
    (usesValid : state.UsesValidIterators action)
    (taken : state.step action = some next) : Silent cleared next := by
  cases step_effect taken with
  | log thread logData =>
      exact silent.congr rfl rfl silent.defined fun _ _ _ same => same
  | addCallback callback maxLength =>
      exact absurd rfl (addsNot callback maxLength)
  | clear =>
      exact silent.congr silent.noCallbacks.symm rfl silent.defined
        fun _ _ _ same => same
  | destroy thread =>
      exact silent.congr rfl rfl silent.defined fun _ _ _ same => same
  | dequeue isDequeuing isTaken =>
      rename_i producer entry m_queue
      cases entry.item with
      | dispatcherStop =>
          exact silent.congr rfl rfl (by simp [handOut]) (by simp [handOut])
      | log logData =>
          have left : Silent cleared { state with
              m_queue, dequeued := state.dequeued ++ [entry]
              iteratorsValid := true } :=
            silent.congr rfl rfl silent.defined fun _ _ _ same => same
          exact left.visit logData 0
  | call stands => exact silent.callItem stands
  | lock stands valid => exact silent.visit _ _
  | lockInvalid stands invalid =>
      exact absurd (invalid.symm.trans usesValid) Bool.false_ne_true
  | anything isUndefined => exact absurd isUndefined silent.defined

/-- `sb_reset_logger` does not wait for the callback that is about to be called.
That is the last one, until the dispatcher uses the iterator that has become
invalid. -/
theorem callsAfterClear {final : CallbackLogger Thread Callback}
    {actions : List (LogAction Thread Callback)}
    (isCleared : state.step .clear = some cleared)
    (addsNot : ∀ callback maxLength, .addCallback callback maxLength ∉ actions)
    (usesValid : Transition.HoldsAlong step UsesValidIterators cleared actions)
    (reached : Transition.run step cleared actions = some final) :
    final.calls = state.calls ∨
      ∃ logData place cbItem call,
        state.dispatcher = .calling logData place cbItem ∧
          cbItem.callFor logData = some call ∧
          final.calls = state.calls ++ [call] := by
  have initially : Silent state cleared := by
    have goesOn : state.dispatcher.broken = false := by
      unfold step at isCleared
      split at isCleared
      · split at isCleared <;> simp_all
      · next goesOn => exact Bool.eq_false_iff.mpr goesOn
    cases step_effect isCleared with
    | clear =>
        refine ⟨rfl, fun isUndefined => ?_, Or.inl ⟨rfl, fun _ _ _ same => same⟩⟩
        rw [isUndefined] at goesOn
        cases goesOn
  have along : Transition.HoldsAlong step (fun _ action =>
      ∀ callback maxLength, action ≠ .addCallback callback maxLength)
      cleared actions :=
    .of_forall_mem fun action member callback maxLength isAdd =>
      addsNot callback maxLength (isAdd ▸ member)
  have silent : Silent state final := Transition.run_preserves
    (fun _ _ _ silent now taken => silent.step now.1 now.2 taken) reached
    (along.and usesValid) initially
  rcases silent.calls with ⟨same, -⟩ | ⟨last, -⟩
  · exact Or.inl same
  · exact Or.inr last

/-- In an orderly run the iterators that are used are valid. -/
theorem usesValidIterators_of_orderly
    {actions : List (LogAction Thread Callback)} (intact : state.Intact)
    (orderly : Transition.HoldsAlong step Orderly state actions) :
    Transition.HoldsAlong step UsesValidIterators state actions := by
  refine orderly.weaken
    (fun _ _ _ intact now taken => (intact_step_iff intact taken).mpr now) ?_
    intact
  intro state action next intact taken _
  cases step_effect taken with
  | lock _ valid => exact valid
  | lockInvalid stands _ => exact intact.2 (by rw [stands]; rfl)
  | _ => exact trivial

/-- Where the callbacks are cleared between two messages, and the run stays orderly,
none is called any more. -/
theorem noCallsAfterClear {final : CallbackLogger Thread Callback}
    {actions : List (LogAction Thread Callback)} (intact : state.Intact)
    (between : state.dispatcher.inLoop = false)
    (isCleared : state.step .clear = some cleared)
    (addsNot : ∀ callback maxLength, .addCallback callback maxLength ∉ actions)
    (orderly : Transition.HoldsAlong step Orderly cleared actions)
    (reached : Transition.run step cleared actions = some final) :
    final.calls = state.calls := by
  have clearedIntact := (intact_step_iff intact isCleared).mpr between
  rcases callsAfterClear isCleared addsNot
    (usesValidIterators_of_orderly clearedIntact orderly) reached with
      same | ⟨_, _, _, _, stands, -⟩
  · exact same
  · rw [stands] at between
    cases between

/-- The callbacks are cleared while the copy of one is about to be called. -/
theorem callsAfterClear_aboutToBeCalled :
    ∃ state cleared final : CallbackLogger Nat Unit,
      Transition.run step {} (cutMessage.take 2 ++ [.dequeue 1]) = some state ∧
        state.step .clear = some cleared ∧
        Transition.run step cleared [.call, .destroy 2] = some final ∧
        state.calls.length = 0 ∧ final.calls.length = 1 ∧
        (final.calls = state.calls ∨
          ∃ logData place cbItem call,
            state.dispatcher = .calling logData place cbItem ∧
              cbItem.callFor logData = some call ∧
              final.calls = state.calls ++ [call]) := by
  obtain ⟨state, cleared, final, reached, isCleared, goesOn, before, after⟩ :
      ∃ state cleared final : CallbackLogger Nat Unit,
        Transition.run step {} (cutMessage.take 2 ++ [.dequeue 1]) =
            some state ∧
          state.step .clear = some cleared ∧
          Transition.run step cleared [.call, .destroy 2] = some final ∧
          state.calls.length = 0 ∧ final.calls.length = 1 :=
    ⟨_, _, _, rfl, rfl, rfl, rfl, rfl⟩
  have usesValid : Transition.HoldsAlong step UsesValidIterators cleared
      [.call, .destroy 2] :=
    fun _ _ => ⟨trivial, fun _ _ => ⟨trivial, trivial⟩⟩
  exact ⟨state, cleared, final, reached, isCleared, goesOn, before, after,
    callsAfterClear isCleared (by simp) usesValid goesOn⟩

end CallbackLogger

end ScorbitSdk
