import Mathlib.Data.List.Infix

/-!
# The longest prefix

One of several lists is to be found that a given list begins with: the longest
one, by a loop that keeps the best one so far.
-/

namespace ScorbitSdk

namespace LongestPrefix

variable {Letter : Type*}

/-- No member of a set that the text begins with is longer. -/
structure IsLongest (candidates : List Letter → Prop) (text best : List Letter) :
    Prop where
  candidate : candidates best
  isPrefix : best <+: text
  longest : ∀ other, candidates other → other <+: text →
    other.length ≤ best.length

/-- There is one of them at most. -/
theorem IsLongest.unique {candidates : List Letter → Prop}
    {text first second : List Letter} (isFirst : IsLongest candidates text first)
    (isSecond : IsLongest candidates text second) : first = second := by
  have sameLength : first.length = second.length :=
    Nat.le_antisymm (isSecond.longest first isFirst.candidate isFirst.isPrefix)
      (isFirst.longest second isSecond.candidate isSecond.isPrefix)
  have isPrefix := List.prefix_of_prefix_length_le isFirst.isPrefix
    isSecond.isPrefix sameLength.le
  exact isPrefix.eq_of_length sameLength

/-- Where there is one at all, there is a longest one. -/
theorem exists_isLongest {candidates : List Letter → Prop} {text : List Letter}
    {some : List Letter} (candidate : candidates some) (isPrefix : some <+: text) :
    ∃ best, IsLongest candidates text best := by
  by_contra none
  push Not at none
  have longer : ∀ length ≤ text.length + 1, ∃ other, candidates other ∧
      other <+: text ∧ length ≤ other.length := by
    intro length
    induction length with
    | zero => exact fun _ => ⟨some, candidate, isPrefix, Nat.zero_le _⟩
    | succ length ih =>
        intro bounded
        obtain ⟨other, isCandidate, begins, atLeast⟩ := ih (by omega)
        by_contra noLonger
        push Not at noLonger
        refine none other ⟨isCandidate, begins, fun third isThird thirdBegins => ?_⟩
        have less := noLonger third isThird thirdBegins
        omega
  obtain ⟨other, _, begins, tooLong⟩ := longer _ le_rfl
  have bounded := begins.length_le
  omega

variable [DecidableEq Letter]

/-- One round of the loop. -/
def better (text best candidate : List Letter) : List Letter :=
  if candidate <+: text ∧ best.length < candidate.length then candidate else best

/-- What the loop ends with: what it began with, or a candidate that the text
begins with; and no such candidate is longer. -/
theorem foldl_better {text best found : List Letter}
    {candidates : List (List Letter)}
    (isFound : candidates.foldl (better text) best = found) :
    (found = best ∨ found ∈ candidates ∧ found <+: text) ∧
      best.length ≤ found.length ∧
      ∀ other ∈ candidates, other <+: text → other.length ≤ found.length := by
  induction candidates generalizing best with
  | nil =>
      obtain rfl : best = found := isFound
      simp
  | cons candidate candidates ih =>
      obtain ⟨origin, atLeast, noLonger⟩ := ih isFound
      by_cases isBetter : candidate <+: text ∧ best.length < candidate.length
      · rw [better, if_pos isBetter] at origin atLeast
        refine ⟨Or.inr ?_, isBetter.2.le.trans atLeast, ?_⟩
        · rcases origin with rfl | ⟨member, begins⟩
          · exact ⟨List.mem_cons_self, isBetter.1⟩
          · exact ⟨List.mem_cons_of_mem _ member, begins⟩
        · rw [List.forall_mem_cons]
          exact ⟨fun _ => atLeast, noLonger⟩
      · rw [better, if_neg isBetter] at origin atLeast
        refine ⟨?_, atLeast, ?_⟩
        · rcases origin with same | ⟨member, begins⟩
          · exact Or.inl same
          · exact Or.inr ⟨List.mem_cons_of_mem _ member, begins⟩
        · rw [List.forall_mem_cons]
          refine ⟨fun begins => ?_, noLonger⟩
          exact (Nat.le_of_not_lt fun less => isBetter ⟨begins, less⟩).trans atLeast

/-- The loop finds the longest prefix, if there is one that is not empty. -/
theorem isLongest_foldl {text : List Letter} {candidates : List (List Letter)}
    (notEmpty : candidates.foldl (better text) [] ≠ []) :
    IsLongest (· ∈ candidates) text (candidates.foldl (better text) []) := by
  obtain ⟨origin, _, noLonger⟩ := foldl_better (@rfl _ (candidates.foldl _ []))
  obtain ⟨member, begins⟩ := origin.resolve_left notEmpty
  exact ⟨member, begins, noLonger⟩

end LongestPrefix

end ScorbitSdk
