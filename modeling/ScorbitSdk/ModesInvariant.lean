import ScorbitSdk.Modes

/-!
# The list of modes and their deadlines

Some operations change the list alone, some the deadlines alone, some both.
Whatever their order and their times, the list keeps each mode once, and only
modes of the list have deadlines.
-/

namespace ScorbitSdk

/-- Every operation of `Modes` that changes it. -/
inductive ModesCall
  | op (change : ModesOp)
  | clearExpiries

def ModesCall.apply (now : SteadyTime) : ModesCall → Modes → Modes
  | .op change, modes => change.apply now modes
  | .clearExpiries, modes => modes.clearExpiries

namespace Modes

/-- The value that timed calls build from the default one. -/
def ofCalls (calls : List (SteadyTime × ModesCall)) : Modes :=
  calls.foldl (fun modes timed => timed.2.apply timed.1 modes) {}

/-- The modes whose deadline has passed at `now`. -/
def Due (self : Modes) (now : SteadyTime) (mode : String) : Prop :=
  ∃ deadline, self.modeExpiryDeadlines.lookup mode = some deadline ∧
    deadline ≤ now

/-- The list without the modes of a kind, in the same order. -/
structure RemovedExactly (removed : String → Prop) (before after : List String) :
    Prop where
  sublist : after.Sublist before
  mem_iff : ∀ mode, mode ∈ after ↔ mode ∈ before ∧ ¬removed mode

/-- What couples the list with the deadlines. -/
structure Coupled (value : Modes) : Prop where
  nodup : value.modes.Nodup
  listed : ∀ mode ∈ value.modeExpiryDeadlines, mode ∈ value.modes

theorem removedExactly_filter (mode : String) (modes : List String) :
    RemovedExactly (· = mode) modes (modes.filter (· ≠ mode)) where
  sublist := List.filter_sublist
  mem_iff := fun other => by simp

/-! ## Ticks -/

theorem modes_foldl_removeMode (due : List String) (self : Modes) :
    (due.foldl removeMode self).modes = self.modes.filter (· ∉ due) := by
  induction due generalizing self with
  | nil => simp
  | cons first due ih =>
      rw [List.foldl_cons, ih, removeMode, List.filter_filter]
      apply List.filter_congr
      intro mode _
      simp [Bool.and_comm]

theorem lookup_foldl_removeMode (due : List String) (self : Modes)
    (mode : String) :
    (due.foldl removeMode self).modeExpiryDeadlines.lookup mode =
      if mode ∈ due then none else self.modeExpiryDeadlines.lookup mode := by
  induction due generalizing self with
  | nil => simp
  | cons first due ih =>
      rw [List.foldl_cons, ih]
      by_cases later : mode ∈ due
      · simp [later]
      · by_cases same : mode = first
        · subst same
          simp [later, removeMode]
        · simp [later, same, removeMode]

theorem mem_due_iff {self : Modes} {now : SteadyTime} {mode : String} :
    mode ∈ self.due now ↔ self.Due now mode := by
  constructor
  · intro isDue
    obtain ⟨⟨_, deadline⟩, isEntry, rfl⟩ := List.mem_map.mp isDue
    obtain ⟨isEntry, passed⟩ := List.mem_filter.mp isEntry
    exact ⟨deadline, AList.mem_lookup_iff.mpr isEntry, of_decide_eq_true passed⟩
  · rintro ⟨deadline, isDeadline, passed⟩
    have isEntry := AList.mem_lookup_iff.mp isDeadline
    exact List.mem_map.mpr
      ⟨⟨mode, deadline⟩, List.mem_filter.mpr ⟨isEntry, decide_eq_true passed⟩, rfl⟩

/-- A tick removes exactly the modes that are due, from the list and from the
deadlines. -/
theorem removedExactly_tickExpiries (self : Modes) (now : SteadyTime) :
    RemovedExactly (self.Due now) self.modes (self.tickExpiries now).modes := by
  rw [tickExpiries, modes_foldl_removeMode]
  exact
    { sublist := List.filter_sublist
      mem_iff := fun mode => by simp [mem_due_iff] }

theorem lookup_tickExpiries (self : Modes) (now deadline : SteadyTime)
    (mode : String) :
    (self.tickExpiries now).modeExpiryDeadlines.lookup mode = some deadline ↔
      self.modeExpiryDeadlines.lookup mode = some deadline ∧ now < deadline := by
  rw [tickExpiries, lookup_foldl_removeMode]
  split
  · next isDue =>
      obtain ⟨own, isOwn, passed⟩ := mem_due_iff.mp isDue
      rw [isOwn]
      refine iff_of_false nofun ?_
      rintro ⟨same, later⟩
      obtain rfl := Option.some.inj same
      exact absurd later (Int.not_lt.mpr passed)
  · next notDue =>
      rw [mem_due_iff] at notDue
      refine (and_iff_left_of_imp ?_).symm
      intro isOwn
      exact Int.not_le.mp fun passed => notDue ⟨deadline, isOwn, passed⟩

/-! ## The next delay -/

theorem nextExpiryDelay_eq_none_iff {self : Modes} {now : SteadyTime} :
    self.nextExpiryDelay now = none ↔ ∀ mode, mode ∉ self.modeExpiryDeadlines := by
  rw [nextExpiryDelay, Option.map_eq_none_iff, List.min?_eq_none_iff,
    List.map_eq_nil_iff]
  constructor
  · intro noEntries mode member
    rw [AList.mem_keys, AList.keys, noEntries] at member
    exact absurd member List.not_mem_nil
  · intro noKeys
    apply List.eq_nil_iff_forall_not_mem.mpr
    intro entry isEntry
    exact noKeys entry.1 (List.mem_map_of_mem isEntry)

/-- The soonest deadline. -/
def IsSoonest (self : Modes) (soonest : SteadyTime) : Prop :=
  (∃ mode, self.modeExpiryDeadlines.lookup mode = some soonest) ∧
    ∀ mode deadline, self.modeExpiryDeadlines.lookup mode = some deadline →
      soonest ≤ deadline

theorem nextExpiryDelay_eq_some_iff {self : Modes} {now delay : SteadyTime} :
    self.nextExpiryDelay now = some delay ↔
      ∃ soonest, self.IsSoonest soonest ∧ delay = max (soonest - now) 0 := by
  have isLookup : ∀ deadline, deadline ∈ self.modeExpiryDeadlines.entries.map (·.2) ↔
      ∃ mode, self.modeExpiryDeadlines.lookup mode = some deadline := by
    intro deadline
    constructor
    · intro member
      obtain ⟨⟨mode, _⟩, isEntry, rfl⟩ := List.mem_map.mp member
      exact ⟨mode, AList.mem_lookup_iff.mpr isEntry⟩
    · rintro ⟨mode, isDeadline⟩
      exact List.mem_map_of_mem (f := fun entry => entry.2)
        (AList.mem_lookup_iff.mp isDeadline)
  rw [nextExpiryDelay, Option.map_eq_some_iff]
  apply exists_congr
  intro soonest
  rw [List.min?_eq_some_iff, isLookup, IsSoonest]
  constructor
  · rintro ⟨⟨isDeadline, least⟩, rfl⟩
    exact ⟨⟨isDeadline, fun mode deadline own => least deadline
      ((isLookup deadline).mpr ⟨mode, own⟩)⟩, rfl⟩
  · rintro ⟨⟨isDeadline, least⟩, rfl⟩
    refine ⟨⟨isDeadline, ?_⟩, rfl⟩
    intro deadline member
    obtain ⟨mode, own⟩ := (isLookup deadline).mp member
    exact least mode deadline own

/-! ## The invariant -/

theorem Coupled.empty : Coupled {} where
  nodup := List.nodup_nil
  listed := fun mode member => absurd member (AList.notMem_empty mode)

theorem Coupled.addMode {self : Modes} (coupled : self.Coupled) (mode : String) :
    (self.addMode mode).Coupled := by
  unfold Modes.addMode
  split
  · exact coupled
  · next absent =>
      exact
        { nodup := coupled.nodup.append (List.nodup_singleton mode)
            (List.disjoint_singleton.mpr absent)
          listed := fun other member =>
            List.mem_append_left _ (coupled.listed other member) }

/-- Promoting a mode keeps the others listed. -/
theorem mem_addOrPromoteToFront {self : Modes} {mode other : String} :
    other ∈ (self.addOrPromoteToFront mode).modes ↔
      other = mode ∨ other ∈ self.modes := by
  by_cases same : other = mode <;> simp [addOrPromoteToFront, same]

theorem nodup_addOrPromoteToFront {self : Modes} (nodup : self.modes.Nodup)
    (mode : String) : (self.addOrPromoteToFront mode).modes.Nodup := by
  have absent : mode ∉ self.modes.filter (· ≠ mode) := by simp
  exact List.nodup_cons.mpr ⟨absent, nodup.filter _⟩

theorem Coupled.addOrPromoteToFront {self : Modes} (coupled : self.Coupled)
    (mode : String) : (self.addOrPromoteToFront mode).Coupled where
  nodup := nodup_addOrPromoteToFront coupled.nodup mode
  listed := fun other member =>
    mem_addOrPromoteToFront.mpr (Or.inr (coupled.listed other member))

theorem Coupled.addModeExpiring {self : Modes} (coupled : self.Coupled)
    (now : SteadyTime) (mode : String) (durationSeconds : Nat) :
    (self.addModeExpiring now mode durationSeconds).Coupled where
  nodup := nodup_addOrPromoteToFront coupled.nodup mode
  listed := fun other member => by
    apply mem_addOrPromoteToFront.mpr
    rcases (AList.mem_insert _).mp member with same | old
    · exact Or.inl same
    · exact Or.inr (coupled.listed other old)

theorem Coupled.removeMode {self : Modes} (coupled : self.Coupled)
    (mode : String) : (self.removeMode mode).Coupled where
  nodup := coupled.nodup.filter _
  listed := fun other member => by
    obtain ⟨differs, old⟩ := AList.mem_erase.mp member
    exact List.mem_filter.mpr
      ⟨coupled.listed other old, decide_eq_true differs⟩

theorem Coupled.tickExpiries {self : Modes} (coupled : self.Coupled)
    (now : SteadyTime) : (self.tickExpiries now).Coupled := by
  unfold Modes.tickExpiries
  induction self.due now generalizing self with
  | nil => exact coupled
  | cons first due ih => exact ih (coupled.removeMode first)

theorem Coupled.clearExpiries {self : Modes} (coupled : self.Coupled) :
    self.clearExpiries.Coupled where
  nodup := coupled.nodup
  listed := fun mode member => absurd member (AList.notMem_empty mode)

/-- Every operation keeps the list and the deadlines coupled. -/
theorem Coupled.apply {self : Modes} (coupled : self.Coupled) (now : SteadyTime)
    (call : ModesCall) : (call.apply now self).Coupled := by
  cases call with
  | clearExpiries => exact coupled.clearExpiries
  | op change =>
      cases change with
      | addMode mode => exact coupled.addMode mode
      | addOrPromoteToFront mode => exact coupled.addOrPromoteToFront mode
      | addModeExpiring mode durationSeconds =>
          exact coupled.addModeExpiring now mode durationSeconds
      | removeMode mode => exact coupled.removeMode mode
      | tickExpiries => exact coupled.tickExpiries now
      | clear => exact Coupled.empty

theorem coupled_ofCalls (calls : List (SteadyTime × ModesCall)) :
    (ofCalls calls).Coupled := by
  induction calls using List.reverseRecOn with
  | nil => exact Coupled.empty
  | append_singleton calls timed ih =>
      rw [ofCalls, List.foldl_append]
      exact Coupled.apply ih timed.1 timed.2

/-- Zero stands for three seconds, and more than ten are ten. -/
theorem normalizeModeExpirySeconds_eq (s : Nat) :
    normalizeModeExpirySeconds s = if s = 0 then 3 else min s 10 := by
  unfold normalizeModeExpirySeconds modeExpiryDefaultSec modeExpiryMaxSec
  split_ifs <;> omega

/-- After any calls at any times the list and the deadlines are coupled, a tick
removes exactly the modes that are due, an expiring mode comes first and gets
its deadline, and the next delay is that to the soonest deadline. -/
theorem modes_of_calls (calls : List (SteadyTime × ModesCall)) :
    let self := ofCalls calls
    self.Coupled ∧
    (∀ now,
      RemovedExactly (self.Due now) self.modes (self.tickExpiries now).modes ∧
      ∀ mode deadline,
        (self.tickExpiries now).modeExpiryDeadlines.lookup mode = some deadline ↔
          self.modeExpiryDeadlines.lookup mode = some deadline ∧
            now < deadline) ∧
    (∀ now mode durationSeconds,
      let added := self.addModeExpiring now mode durationSeconds
      (∃ others, added.modes = mode :: others ∧
        RemovedExactly (· = mode) self.modes others) ∧
      added.modeExpiryDeadlines.lookup mode =
        some (now + seconds
          (if durationSeconds = 0 then 3 else min durationSeconds 10)) ∧
      ∀ other ≠ mode, added.modeExpiryDeadlines.lookup other =
        self.modeExpiryDeadlines.lookup other) ∧
    ∀ now,
      (self.nextExpiryDelay now = none ↔
        ∀ mode, mode ∉ self.modeExpiryDeadlines) ∧
      ∀ delay, self.nextExpiryDelay now = some delay ↔
        ∃ soonest, self.IsSoonest soonest ∧ delay = max (soonest - now) 0 := by
  intro self
  refine ⟨coupled_ofCalls calls, ?_, ?_, ?_⟩
  · intro now
    exact ⟨removedExactly_tickExpiries self now, fun mode deadline =>
      lookup_tickExpiries self now deadline mode⟩
  · intro now mode durationSeconds
    refine ⟨⟨_, rfl, removedExactly_filter mode self.modes⟩, ?_, ?_⟩
    · rw [← normalizeModeExpirySeconds_eq]
      exact AList.lookup_insert _
    · intro other differs
      exact AList.lookup_insert_ne differs
  · intro now
    exact ⟨nextExpiryDelay_eq_none_iff, fun delay => nextExpiryDelay_eq_some_iff⟩

end Modes

end ScorbitSdk
