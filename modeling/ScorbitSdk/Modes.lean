import Mathlib.Data.List.AList
import Mathlib.Data.List.Induction

/-!
# Game modes

`Modes` keeps the ordered list of mode strings a game currently shows and, for
the modes added with a duration, the deadline at which each one expires.  The
interned strings of the list behave as plain strings, and the unordered map of
deadlines is an association list with distinct keys.
-/

namespace ScorbitSdk

/-- Points of the steady clock and the durations between them, in
nanoseconds. -/
abbrev SteadyTime := Int

/-- `std::chrono::seconds`. -/
def seconds (count : Nat) : SteadyTime :=
  count * 1000000000

def modeExpiryDefaultSec : Nat := 3

def modeExpiryMaxSec : Nat := 10

/-- Zero stands for the default duration; longer ones are capped. -/
def normalizeModeExpirySeconds (s : Nat) : Nat :=
  if s = 0 then modeExpiryDefaultSec
  else if s > modeExpiryMaxSec then modeExpiryMaxSec
  else s

structure Modes where
  modes : List String := []
  modeExpiryDeadlines : AList (fun _ : String => SteadyTime) := ∅

namespace Modes

def addMode (self : Modes) (mode : String) : Modes :=
  if mode ∈ self.modes then self
  else { self with modes := self.modes ++ [mode] }

/-- Remove the mode if present, then insert it at the front. -/
def addOrPromoteToFront (self : Modes) (mode : String) : Modes :=
  { self with modes := mode :: self.modes.filter (· ≠ mode) }

def removeMode (self : Modes) (mode : String) : Modes where
  modes := self.modes.filter (· ≠ mode)
  modeExpiryDeadlines := self.modeExpiryDeadlines.erase mode

def clear (_ : Modes) : Modes := {}

/-- `now` is the steady clock's reading. -/
def addModeExpiring (self : Modes) (now : SteadyTime) (mode : String)
    (durationSeconds : Nat) : Modes :=
  let norm := normalizeModeExpirySeconds durationSeconds
  let deadline := now + seconds norm
  addOrPromoteToFront
    { self with
      modeExpiryDeadlines := self.modeExpiryDeadlines.insert mode deadline }
    mode

/-- The modes whose deadline has passed, in the map's iteration order. -/
def due (self : Modes) (now : SteadyTime) : List String :=
  (self.modeExpiryDeadlines.entries.filter (·.2 ≤ now)).map (·.1)

/-- Remove modes whose expiry deadline has passed, each one from the deadlines
and from the list. -/
def tickExpiries (self : Modes) (now : SteadyTime) : Modes :=
  (self.due now).foldl removeMode self

/-- Time left until the soonest deadline, never negative. -/
def nextExpiryDelay (self : Modes) (now : SteadyTime) : Option SteadyTime :=
  ((self.modeExpiryDeadlines.entries.map (·.2)).min?).map fun minTime =>
    max (minTime - now) 0

def hasExpiryDeadlines (self : Modes) : Bool :=
  !self.modeExpiryDeadlines.entries.isEmpty

def clearExpiries (self : Modes) : Modes :=
  { self with modeExpiryDeadlines := ∅ }

def isEmpty (self : Modes) : Bool :=
  self.modes.isEmpty

def contains (self : Modes) (mode : String) : Bool :=
  self.modes.contains mode

/-- The modes joined by semicolons. -/
def str (self : Modes) : String :=
  match self.modes with
  | [] => ""
  | front :: rest => rest.foldl (fun a b => a ++ ";" ++ b) front

/-- The modes as the text of a JSON array, each string pasted as it is. -/
def jsonStr (self : Modes) : String :=
  match self.modes with
  | [] => "[]"
  | front :: rest =>
      "[\"" ++ rest.foldl (fun a b => a ++ "\",\"" ++ b) front ++ "\"]"

/-- Equality compares the list of modes only, not the deadlines. -/
instance : BEq Modes where
  beq lhs rhs := lhs.modes == rhs.modes

@[simp]
theorem beq_iff {lhs rhs : Modes} :
    (lhs == rhs) = true ↔ lhs.modes = rhs.modes := by
  change (lhs.modes == rhs.modes) = true ↔ _
  exact beq_iff_eq

end Modes

/-- The operations that change a `Modes` value. -/
inductive ModesOp
  | addMode (mode : String)
  | addOrPromoteToFront (mode : String)
  | addModeExpiring (mode : String) (durationSeconds : Nat)
  | removeMode (mode : String)
  | tickExpiries
  | clear

namespace ModesOp

/-- Apply one operation at a reading `now` of the steady clock. -/
def apply (now : SteadyTime) : ModesOp → Modes → Modes
  | addMode mode, modes => modes.addMode mode
  | addOrPromoteToFront mode, modes => modes.addOrPromoteToFront mode
  | addModeExpiring mode durationSeconds, modes =>
      modes.addModeExpiring now mode durationSeconds
  | removeMode mode, modes => modes.removeMode mode
  | tickExpiries, modes => modes.tickExpiries now
  | clear, modes => modes.clear

/-- The mode an operation puts into the list, if it adds one. -/
def added? : ModesOp → Option String
  | addMode mode => some mode
  | addOrPromoteToFront mode => some mode
  | addModeExpiring mode _ => some mode
  | removeMode _ => none
  | tickExpiries => none
  | clear => none

end ModesOp

namespace Modes

/-- The value that timed operations build from the default one. -/
def ofOps (ops : List (SteadyTime × ModesOp)) : Modes :=
  ops.foldl (fun modes timed => timed.2.apply timed.1 modes) {}

theorem mem_foldl_removeMode {mode : String} (due : List String) (self : Modes)
    (mem : mode ∈ (due.foldl removeMode self).modes) :
    mode ∈ self.modes := by
  induction due generalizing self with
  | nil => exact mem
  | cons first due ih =>
      have afterFirst : mode ∈ (self.removeMode first).modes := ih _ mem
      exact List.mem_of_mem_filter afterFirst

/-- An operation leaves no mode in the list but old ones and the one it
adds. -/
theorem mem_apply {mode : String} {now : SteadyTime} {op : ModesOp}
    {self : Modes} (mem : mode ∈ (op.apply now self).modes) :
    mode ∈ self.modes ∨ op.added? = some mode := by
  cases op with
  | addMode added =>
      by_cases present : added ∈ self.modes
      · simp only [ModesOp.apply, addMode, if_pos present] at mem
        exact Or.inl mem
      · simp only [ModesOp.apply, addMode, if_neg present,
          List.mem_append, List.mem_singleton] at mem
        rcases mem with old | rfl
        · exact Or.inl old
        · exact Or.inr rfl
  | addOrPromoteToFront added =>
      rcases List.mem_cons.mp mem with rfl | old
      · exact Or.inr rfl
      · exact Or.inl (List.mem_of_mem_filter old)
  | addModeExpiring added durationSeconds =>
      rcases List.mem_cons.mp mem with rfl | old
      · exact Or.inr rfl
      · exact Or.inl (List.mem_of_mem_filter old)
  | removeMode removed => exact Or.inl (List.mem_of_mem_filter mem)
  | tickExpiries => exact Or.inl (mem_foldl_removeMode _ _ mem)
  | clear => exact absurd mem (List.not_mem_nil)

/-- Every mode of a reachable value was added by some operation. -/
theorem mem_ofOps {mode : String} {ops : List (SteadyTime × ModesOp)}
    (mem : mode ∈ (ofOps ops).modes) :
    ∃ timed ∈ ops, timed.2.added? = some mode := by
  induction ops using List.reverseRecOn with
  | nil => exact absurd mem (List.not_mem_nil)
  | append_singleton ops timed ih =>
      rw [ofOps, List.foldl_append] at mem
      rcases mem_apply mem with old | added
      · obtain ⟨earlier, earlierMem, earlierAdds⟩ := ih old
        exact ⟨earlier, List.mem_append_left _ earlierMem, earlierAdds⟩
      · exact ⟨timed, by simp, added⟩

end Modes

end ScorbitSdk
