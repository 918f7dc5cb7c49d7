import ScorbitSdk.SoftwareTpm

/-!
# Diagnostic probes

A probe is answered with a publication and an acknowledgement, unless its trace
id has been seen.  Of the ids a set is kept, from which half of the ids are erased
in the order of iteration when there are more than ten; that order is arbitrary.
-/

namespace ScorbitSdk

abbrev TraceId := List Char

/-- The order in which the set goes through its ids. -/
structure IterationOrder where
  order : List TraceId → List TraceId
  perm : ∀ ids, (order ids).Perm ids

structure ProbeCall where
  payload : JsonDocument
  /-- The order of iteration after the id has been inserted. -/
  iteration : IterationOrder
  /-- The present time. -/
  createdAt : List Char := []

/-- What is posted to the worker. -/
inductive ProbePost
  | publishDiagnosticPacket (traceId : TraceId) (sequence : BitVec 64)
      (createdAt : List Char)
  | postDiagnosticAck (traceId : TraceId) (sequence : BitVec 64)
      (createdAt : List Char)
  deriving DecidableEq

/-- `posted` records what has been posted, the latest first. -/
structure DiagnosticProbes where
  m_seenDiagTraceIds : List TraceId := []
  m_diagProbeSequence : BitVec 64 := 0
  posted : List ProbePost := []

/-- The trace id of a payload; one without a usable id is dropped. -/
def ProbeCall.traceId? (call : ProbeCall) : Option TraceId :=
  match call.payload.value JsonValue.asString [] "trace_id" with
  | none => none
  | some traceId => if traceId = [] then none else some traceId

namespace DiagnosticProbes

/-- Where there are more than ten ids, the first half of them is erased. -/
def capped (iteration : IterationOrder) (ids : List TraceId) : List TraceId :=
  if 10 < ids.length then (iteration.order ids).drop (ids.length / 2) else ids

def handleDiagnosticProbe (state : DiagnosticProbes) (call : ProbeCall) :
    DiagnosticProbes :=
  match call.traceId? with
  | none => state
  | some traceId =>
      if traceId ∈ state.m_seenDiagTraceIds then state
      else
        { m_seenDiagTraceIds :=
            capped call.iteration (traceId :: state.m_seenDiagTraceIds)
          m_diagProbeSequence := state.m_diagProbeSequence + 1
          posted :=
            .postDiagnosticAck traceId state.m_diagProbeSequence call.createdAt ::
              .publishDiagnosticPacket traceId state.m_diagProbeSequence
                call.createdAt :: state.posted }

/-- A device's probes since it has been started. -/
def probes (calls : List ProbeCall) : DiagnosticProbes :=
  calls.foldl handleDiagnosticProbe {}

/-- The id of the probe that has been answered last. -/
def lastAccepted (state : DiagnosticProbes) : Option TraceId :=
  match state.posted.head? with
  | some (.postDiagnosticAck traceId _ _) => some traceId
  | _ => none

/-- The probe is answered. -/
def Accepts (state : DiagnosticProbes) (call : ProbeCall) : Prop :=
  ∃ traceId, call.traceId? = some traceId ∧
    traceId ∉ state.m_seenDiagTraceIds

/-- The probe is answered, and its id, which is the eleventh, is among the five
that are erased at once. -/
def Evicts (state : DiagnosticProbes) (call : ProbeCall) : Prop :=
  ∃ traceId, call.traceId? = some traceId ∧
    traceId ∉ state.m_seenDiagTraceIds ∧
    state.m_seenDiagTraceIds.length = 10 ∧
    traceId ∈
      (call.iteration.order (traceId :: state.m_seenDiagTraceIds)).take 5

/-- A probe with the id of the one answered last is not answered. -/
def RepeatRefused (state : DiagnosticProbes) (call : ProbeCall) : Prop :=
  call.traceId? ≠ none → call.traceId? = state.lastAccepted →
    (state.handleDiagnosticProbe call).posted = state.posted

variable {state : DiagnosticProbes} {call : ProbeCall} {traceId : TraceId}

theorem handle_of_not_accepts (refused : ¬ state.Accepts call) :
    state.handleDiagnosticProbe call = state := by
  unfold handleDiagnosticProbe
  cases isId : call.traceId? with
  | none => rfl
  | some traceId =>
      apply if_pos
      by_contra unseen
      exact refused ⟨traceId, isId, unseen⟩

theorem handle_of_accepts (isId : call.traceId? = some traceId)
    (unseen : traceId ∉ state.m_seenDiagTraceIds) :
    (state.handleDiagnosticProbe call).m_seenDiagTraceIds =
        capped call.iteration (traceId :: state.m_seenDiagTraceIds) ∧
      (state.handleDiagnosticProbe call).lastAccepted = some traceId ∧
      (state.handleDiagnosticProbe call).posted.length =
        state.posted.length + 2 := by
  unfold handleDiagnosticProbe
  rw [isId]
  simp only [unseen, if_false]
  exact ⟨trivial, rfl, rfl⟩

theorem probes_concat (calls : List ProbeCall) (call : ProbeCall) :
    probes (calls ++ [call]) = (probes calls).handleDiagnosticProbe call :=
  List.foldl_concat ..

theorem posted_length_le (first second : List ProbeCall) :
    (probes first).posted.length ≤ (probes (first ++ second)).posted.length := by
  induction second using List.reverseRecOn with
  | nil => simp
  | append_singleton second call ih =>
      rw [← List.append_assoc, probes_concat]
      by_cases accepted : (probes (first ++ second)).Accepts call
      · obtain ⟨traceId, isId, unseen⟩ := accepted
        rw [(handle_of_accepts isId unseen).2.2]
        omega
      · rwa [handle_of_not_accepts accepted]

/-! ## The set of ids -/

/-- The ids differ, and there are at most ten. -/
structure Bounded (ids : List TraceId) : Prop where
  nodup : ids.Nodup
  atMostTen : ids.length ≤ 10

theorem bounded_capped {iteration : IterationOrder} {ids : List TraceId}
    (nodup : ids.Nodup) (atMost : ids.length ≤ 11) :
    Bounded (capped iteration ids) := by
  have perm := iteration.perm ids
  unfold capped
  split_ifs with more
  · refine ⟨(perm.nodup_iff.mpr nodup).sublist (List.drop_sublist _ _), ?_⟩
    rw [List.length_drop, perm.length_eq]
    omega
  · exact ⟨nodup, Nat.le_of_not_lt more⟩

theorem bounded_probes (calls : List ProbeCall) :
    Bounded (probes calls).m_seenDiagTraceIds := by
  induction calls using List.reverseRecOn with
  | nil => exact ⟨List.nodup_nil, Nat.zero_le _⟩
  | append_singleton calls call ih =>
      rw [probes_concat]
      by_cases accepted : (probes calls).Accepts call
      · obtain ⟨traceId, isId, unseen⟩ := accepted
        rw [(handle_of_accepts isId unseen).1]
        exact bounded_capped (List.nodup_cons.mpr ⟨unseen, ih.nodup⟩)
          (Nat.succ_le_succ ih.atMostTen)
      · rwa [handle_of_not_accepts accepted]

/-- An id that has been inserted is gone if it is in the first half. -/
theorem not_mem_capped_iff (bounded : Bounded state.m_seenDiagTraceIds)
    (isId : call.traceId? = some traceId)
    (unseen : traceId ∉ state.m_seenDiagTraceIds) :
    traceId ∉ capped call.iteration (traceId :: state.m_seenDiagTraceIds) ↔
      state.Evicts call := by
  obtain ⟨nodup, atMostTen⟩ := bounded
  have perm := call.iteration.perm (traceId :: state.m_seenDiagTraceIds)
  have evicts : state.Evicts call ↔ state.m_seenDiagTraceIds.length = 10 ∧
      traceId ∈
        (call.iteration.order (traceId :: state.m_seenDiagTraceIds)).take 5 := by
    simp [Evicts, isId, unseen]
  rw [evicts, capped, List.length_cons]
  split_ifs with more
  · have ten : state.m_seenDiagTraceIds.length = 10 := by omega
    have member := perm.mem_iff.mpr (List.mem_cons_self ..)
    have distinct := perm.nodup_iff.mpr (List.nodup_cons.mpr ⟨unseen, nodup⟩)
    rw [ten, and_iff_right rfl]
    rw [← List.take_append_drop 5 (call.iteration.order _)] at member distinct
    have apart := (List.nodup_append'.mp distinct).2.2
    constructor
    · exact (List.mem_append.mp member).resolve_right
    · exact fun first => apart first
  · refine iff_of_false (fun absent => absent (List.mem_cons_self ..)) ?_
    exact fun holds => more (by omega)

/-! ## Repeated probes -/

/-- The id of the probe answered last is not in the set. -/
def Lost (state : DiagnosticProbes) : Prop :=
  ∃ traceId, state.lastAccepted = some traceId ∧
    traceId ∉ state.m_seenDiagTraceIds

theorem lost_handle_iff (bounded : Bounded state.m_seenDiagTraceIds) :
    (state.handleDiagnosticProbe call).Lost ↔
      state.Evicts call ∨ (state.Lost ∧ ¬ state.Accepts call) := by
  by_cases accepted : state.Accepts call
  · obtain ⟨traceId, isId, unseen⟩ := accepted
    obtain ⟨seen, last, -⟩ := handle_of_accepts isId unseen
    rw [← not_mem_capped_iff bounded isId unseen]
    unfold Lost
    rw [last, seen]
    simp only [Option.some.injEq, exists_eq_left']
    exact (or_iff_left fun holds => holds.2 ⟨traceId, isId, unseen⟩).symm
  · rw [handle_of_not_accepts accepted]
    have notEvicts : ¬ state.Evicts call := fun ⟨traceId, isId, unseen, _⟩ =>
      accepted ⟨traceId, isId, unseen⟩
    simp [accepted, notEvicts]

/-- The last id is lost exactly if it was erased when it was inserted, and no other
probe has been answered since. -/
theorem lost_probes_iff (calls : List ProbeCall) :
    (probes calls).Lost ↔ ∃ before call between,
      calls = before ++ call :: between ∧ (probes before).Evicts call ∧
      (probes calls).posted = (probes (before ++ [call])).posted := by
  induction calls using List.reverseRecOn with
  | nil => exact iff_of_false (fun ⟨_, last, _⟩ => nomatch last) (by simp)
  | append_singleton calls last ih =>
      rw [probes_concat, lost_handle_iff (bounded_probes calls), ih]
      constructor
      · rintro (evicts | ⟨⟨before, call, between, rfl, evicts, same⟩, refused⟩)
        · exact ⟨calls, last, [], rfl, evicts, by rw [probes_concat]⟩
        · refine ⟨before, call, between ++ [last], by simp, evicts, ?_⟩
          rw [handle_of_not_accepts refused, same]
      · rintro ⟨before, call, between, split, evicts, same⟩
        rcases List.eq_nil_or_concat between with rfl | ⟨between, other, rfl⟩
        · obtain ⟨rfl, isLast⟩ := List.append_inj' split rfl
          obtain rfl := List.singleton_inj.mp isLast
          exact Or.inl evicts
        · rw [List.concat_eq_append, ← List.cons_append, ← List.append_assoc] at split
          obtain ⟨rfl, isLast⟩ := List.append_inj' split rfl
          have refused : ¬ (probes (before ++ call :: between)).Accepts last := by
            rintro ⟨traceId, isId, unseen⟩
            have longer := (handle_of_accepts isId unseen).2.2
            have earlier := posted_length_le (before ++ [call]) between
            rw [List.append_assoc, List.singleton_append] at earlier
            rw [same] at longer
            omega
          rw [handle_of_not_accepts refused] at same
          exact Or.inr ⟨⟨before, call, between, rfl, evicts, same⟩, refused⟩

/-- The set never has more than ten ids, and no probe that repeats the one answered
last is answered exactly if there is none after a probe whose id, the eleventh in
the set, was among the five that were erased when it was inserted. -/
theorem repeatRefused_iff (calls : List ProbeCall) :
    (∀ before, before <+: calls →
      (probes before).m_seenDiagTraceIds.length ≤ 10) ∧
    ((∀ before call, before ++ [call] <+: calls →
        (probes before).RepeatRefused call) ↔
      ∀ before call between again, before ++ call :: between ++ [again] <+: calls →
        (probes before).Evicts call →
        (probes (before ++ call :: between)).posted =
          (probes (before ++ [call])).posted →
        again.traceId? ≠ call.traceId?) := by
  refine ⟨fun before _ => (bounded_probes before).atMostTen, ?_⟩
  constructor
  · intro refused before call between again isPrefix evicts same repeated
    obtain ⟨traceId, isId, unseen, more⟩ := evicts
    have last : (probes (before ++ call :: between)).lastAccepted =
        some traceId := by
      rw [lastAccepted, same, probes_concat]
      exact (handle_of_accepts isId unseen).2.1
    obtain ⟨lostId, lastLost, gone⟩ := (lost_probes_iff _).mpr
      ⟨before, call, between, rfl, ⟨traceId, isId, unseen, more⟩, same⟩
    obtain rfl := Option.some.inj (last.symm.trans lastLost)
    have isAgain : again.traceId? = some traceId := repeated.trans isId
    have unchanged := refused _ again isPrefix (by simp [isAgain])
      (isAgain.trans last.symm)
    have longer := (handle_of_accepts isAgain gone).2.2
    rw [unchanged] at longer
    omega
  · intro noRepeat before again isPrefix hasId isLast
    obtain ⟨traceId, isAgain⟩ := Option.ne_none_iff_exists'.mp hasId
    by_cases accepted : (probes before).Accepts again
    · obtain ⟨other, isOther, unseen⟩ := accepted
      obtain rfl := Option.some.inj (isAgain.symm.trans isOther)
      obtain ⟨earlier, call, between, rfl, evicts, same⟩ :=
        (lost_probes_iff before).mp ⟨traceId, isLast.symm.trans isAgain, unseen⟩
      refine absurd ?_ (noRepeat earlier call between again isPrefix evicts same)
      obtain ⟨first, isFirst, unseenFirst, -⟩ := evicts
      have last : (probes (earlier ++ call :: between)).lastAccepted =
          some first := by
        rw [lastAccepted, same, probes_concat]
        exact (handle_of_accepts isFirst unseenFirst).2.1
      rw [isLast, last, isFirst]
    · rw [handle_of_not_accepts accepted]

/-! ## A probe that is answered twice -/

namespace Sample

/-- The set goes through its ids from the latest to the earliest. -/
def latestFirst : IterationOrder where
  order := id
  perm := fun _ => List.Perm.refl _

def probe (traceId : String) : ProbeCall where
  payload := .object (Finmap.singleton "trace_id" (.string traceId.toList))
  iteration := latestFirst

/-- Eleven probes with an id each. -/
def delivered : List ProbeCall :=
  ["a", "b", "c", "d", "e", "f", "g", "h", "i", "j", "l"].map probe

end Sample

/-- The eleventh probe is answered again when it is delivered again. -/
theorem not_repeatRefused_eleventh :
    ¬ ∀ before call, before ++ [call] <+: Sample.delivered ++ [Sample.probe "l"] →
      (probes before).RepeatRefused call := by
  intro refused
  have unchanged := refused Sample.delivered (Sample.probe "l")
    (List.prefix_refl _) (by decide +kernel) (by decide +kernel)
  exact absurd unchanged (by decide +kernel)

end DiagnosticProbes

end ScorbitSdk
