import Mathlib.Algebra.Order.Ring.Nat
import TrafficReplay.Proofs.Traffic.Preparing

/-!
# What a prepared batch is

The preparation of a batch sorts the sessions by their starts and lets all of them start earlier by
the first start.  Sessions with one start stay in their order, and nothing else in a session
changes; the totals are those of the sessions before.  A batch that is prepared once more stays as
it is.

* `RunState.filter_byStart`: sessions with one start stay in their order;
* `RunState.head?_byStart`, `RunState.getLast?_byStart`: the least start and the greatest one;
* `RunState.Prepared`, `RunState.prepare_sorts`: what a preparation comes to.
-/

namespace TrafficReplay
namespace RunState

/-! ### The order of the starts -/

theorem perm_byStart (ssns : List Session) : (byStart ssns).Perm ssns := List.mergeSort_perm _ _

/-- Sessions with one start stay in their order. -/
theorem filter_byStart (ssns : List Session) (start : Int) :
    (byStart ssns).filter (fun ssn => ssn.start = start) =
      ssns.filter fun ssn => ssn.start = start := by
  have hstart : ∀ ssn ∈ ssns.filter (fun ssn => ssn.start = start), ssn.start = start :=
    fun ssn hssn => of_decide_eq_true (List.mem_filter.mp hssn).2
  have hsame : (ssns.filter fun ssn => ssn.start = start).Pairwise
      fun a b => decide (a.start ≤ b.start) = true := by
    refine List.Pairwise.imp_of_mem (R := fun _ _ => True) (fun {a b} ha hb _ => ?_)
      (List.pairwise_of_forall fun _ _ => trivial)
    rw [hstart a ha, hstart b hb]
    exact decide_eq_true (Int.le_refl start)
  -- A sorted sublist is still one after a stable sort, and nothing else has this start.
  have hsublist : (ssns.filter fun ssn => ssn.start = start).Sublist (byStart ssns) :=
    List.sublist_mergeSort startLe_trans startLe_total hsame List.filter_sublist
  have hfilter := hsublist.filter fun ssn => decide (ssn.start = start)
  simp only [List.filter_filter, Bool.and_self] at hfilter
  have hlength := ((perm_byStart ssns).filter fun ssn => decide (ssn.start = start)).length_eq
  exact (hfilter.eq_of_length_le (Nat.le_of_eq hlength)).symm

/-- The first start is the least one. -/
theorem head?_byStart (ssns : List Session) :
    (byStart ssns).head?.map Session.start = (ssns.map Session.start).min? := by
  have hperm := perm_byStart ssns
  have hsorted := pairwise_byStart ssns
  generalize byStart ssns = sorted at hperm hsorted
  cases sorted with
  | nil =>
    obtain rfl := hperm.nil_eq
    rfl
  | cons first rest =>
    refine (List.min?_eq_some_iff.mpr ⟨?_, fun start hmem => ?_⟩).symm
    · exact List.mem_map_of_mem (hperm.mem_iff.mp List.mem_cons_self)
    · obtain ⟨ssn, hssn, rfl⟩ := List.mem_map.mp hmem
      rcases List.mem_cons.mp (hperm.mem_iff.mpr hssn) with rfl | hrest
      · exact Int.le_refl _
      · exact (List.pairwise_cons.mp hsorted).1 ssn hrest

/-- The last start is the greatest one. -/
theorem getLast?_byStart (ssns : List Session) :
    (byStart ssns).getLast?.map Session.start = (ssns.map Session.start).max? := by
  have hperm := perm_byStart ssns
  have hsorted := pairwise_byStart ssns
  generalize byStart ssns = sorted at hperm hsorted
  rcases List.eq_nil_or_concat sorted with rfl | ⟨front, last, rfl⟩
  · obtain rfl := hperm.nil_eq
    rfl
  · rw [List.concat_eq_append] at hperm hsorted ⊢
    rw [List.getLast?_concat]
    refine (List.max?_eq_some_iff.mpr ⟨?_, fun start hmem => ?_⟩).symm
    · exact List.mem_map_of_mem (hperm.mem_iff.mp (by simp))
    · obtain ⟨ssn, hssn, rfl⟩ := List.mem_map.mp hmem
      rcases List.mem_append.mp (hperm.mem_iff.mpr hssn) with hfront | hlast
      · exact (List.pairwise_append.mp hsorted).2.2 ssn hfront last List.mem_cons_self
      · obtain rfl := List.mem_singleton.mp hlast
        exact Int.le_refl _

/-! ### Totals -/

/-- The sizes of the request bodies of some sessions. -/
def bodySizes (ssns : List Session) : List Int :=
  ssns.flatMap fun ssn => ssn.transactions.map fun t => t.request.contentSize

theorem transactionCount_eq_sum (ssns : List Session) :
    transactionCount ssns = (ssns.map fun ssn => ssn.transactions.length).sum := by
  induction ssns with
  | nil => rfl
  | cons ssn ssns ih => rw [List.map_cons, List.sum_cons, ← ih]; rfl

theorem largestBody_eq_max (ssns : List Session) :
    largestBody ssns = max 0 ((bodySizes ssns).max?.getD 0) := by
  rw [← List.foldl_max, bodySizes, List.foldl_flatMap]
  simp only [List.foldl_map]
  rfl

theorem transactionCount_normalized (ssns : List Session) :
    transactionCount (normalized ssns) = transactionCount ssns := by
  have hsum := ((perm_byStart ssns).map fun ssn => ssn.transactions.length).sum_nat
  rw [transactionCount_eq_sum, transactionCount_eq_sum, ← hsum, normalized, shifted, List.map_map]
  rfl

theorem perm_bodySizes_normalized (ssns : List Session) :
    (bodySizes (normalized ssns)).Perm (bodySizes ssns) := by
  have hsizes : bodySizes (normalized ssns) = bodySizes (byStart ssns) := by
    rw [bodySizes, normalized, shifted, List.flatMap_map]
    rfl
  rw [hsizes]
  exact (perm_byStart ssns).flatMap_right _

theorem largestBody_normalized (ssns : List Session) :
    largestBody (normalized ssns) = largestBody ssns := by
  rw [largestBody_eq_max, largestBody_eq_max, ← List.foldl_max, ← List.foldl_max]
  exact (perm_bodySizes_normalized ssns).foldl_eq' (fun x _ y _ z => by omega) 0

theorem maxContentLength_batchInfo (ssns : List Session) :
    (batchInfo ssns).maxContentLength = largestBody ssns :=
  largestBody_normalized ssns

theorem span_normalized (ssns : List Session) :
    ((normalized ssns).getLast?.map Session.start).getD 0 =
      ((ssns.map Session.start).max?).getD 0 - ((ssns.map Session.start).min?).getD 0 := by
  rw [← getLast?_byStart, ← head?_byStart, normalized, shifted, List.getLast?_map]
  cases byStart ssns with
  | nil => rfl
  | cons first rest => rw [List.getLast?_cons]; rfl

theorem span_batchInfo (ssns : List Session) :
    (batchInfo ssns).span = ((normalized ssns).map Session.start).max?.getD 0 := by
  rw [← getLast?_byStart, byStart_eq_self (normal_normalized ssns).1]
  rfl

/-- The sessions of a prepared batch start within its span. -/
theorem start_mem_normalized {ssns : List Session} {ssn : Session} (h : ssn ∈ normalized ssns) :
    0 ≤ ssn.start ∧ ssn.start ≤ (batchInfo ssns).span := by
  have hmem : ssn.start ∈ (normalized ssns).map Session.start := List.mem_map_of_mem h
  constructor
  · obtain ⟨hsorted, hzero⟩ := normal_normalized ssns
    cases hssns : normalized ssns with
    | nil =>
      rw [hssns] at h
      cases h
    | cons first rest =>
      rw [hssns] at h hsorted hzero
      have hfirst := hzero first rfl
      rcases List.mem_cons.mp h with rfl | hrest
      · exact Int.le_of_eq hfirst.symm
      · exact Int.le_trans (Int.le_of_eq hfirst.symm) ((List.pairwise_cons.mp hsorted).1 ssn hrest)
  · rw [span_batchInfo]
    cases hmax : ((normalized ssns).map Session.start).max? with
    | none =>
      rw [List.max?_eq_none_iff.mp hmax] at hmem
      cases hmem
    | some last => exact (List.max?_eq_some_iff.mp hmax).2 _ hmem

theorem span_nonneg (ssns : List Session) : 0 ≤ (batchInfo ssns).span := by
  cases hssns : normalized ssns with
  | nil => simp [span_batchInfo, hssns]
  | cons first rest =>
    have hfirst : first ∈ normalized ssns := by simp [hssns]
    obtain ⟨hlow, hhigh⟩ := start_mem_normalized hfirst
    exact Int.le_trans hlow hhigh

/-- One session of a batch that takes some time starts at the end of the span. -/
theorem exists_start_eq_span {ssns : List Session} (h : 0 < (batchInfo ssns).span) :
    ∃ ssn ∈ normalized ssns, ssn.start = (batchInfo ssns).span := by
  rw [span_batchInfo] at h ⊢
  cases hmax : ((normalized ssns).map Session.start).max? with
  | none =>
    rw [hmax] at h
    exact absurd h (by decide)
  | some last => exact List.mem_map.mp (List.max?_eq_some_iff.mp hmax).1

/-- A batch that is prepared has the totals that it had, but it starts at zero. -/
theorem batchInfo_normalized (ssns : List Session) :
    batchInfo (normalized ssns) = { batchInfo ssns with offset := 0 } := by
  have hnormal := normal_normalized ssns
  have hoffset : ((byStart (normalized ssns)).head?.map Session.start).getD 0 = 0 := by
    rw [byStart_eq_self hnormal.1]
    cases hhead : (normalized ssns).head? with
    | none => rfl
    | some first => exact hnormal.2 first hhead
  rw [batchInfo, hoffset, normalized_normalized]
  rfl

theorem filled_ok_iff {size : Int} (h : 0 ≤ size) :
    (∃ buffer, Body.filled size = .ok buffer) ↔ size < Body.sizeLimit := by
  refine ⟨fun ⟨_, hfilled⟩ => (Body.inRange_of_filled hfilled).2, fun hlt => ?_⟩
  have hlimit : -Body.sizeLimit ≤ 0 := by decide
  exact ⟨_, Body.filled_of_inRange ⟨Int.le_trans hlimit h, hlt⟩⟩

theorem largestBody_lt_iff {ssns : List Session} {limit : Int} (h : 0 < limit) :
    largestBody ssns < limit ↔ ∀ size ∈ bodySizes ssns, size < limit := by
  rw [largestBody_eq_max]
  cases hmax : (bodySizes ssns).max? with
  | none =>
    rw [List.max?_eq_none_iff.mp hmax]
    simpa using h
  | some largest =>
    obtain ⟨hmem, hle⟩ := List.max?_eq_some_iff.mp hmax
    refine ⟨fun hlt size hsize => ?_, fun hall => ?_⟩
    · have hsize := hle size hsize
      rw [Option.getD_some] at hlt
      omega
    · have hlargest := hall largest hmem
      rw [Option.getD_some]
      omega

/-! ### Preparing -/

/-- What the preparation of a batch has to come to. -/
structure Prepared (loaded : RunState) (info : BatchInfo) (run : RunState) : Prop where
  /-- The sessions are sorted by their starts, those with one start in the order that they had, and
  all of them start earlier by the offset. -/
  sessions : ∃ sorted : List Session, sorted.Perm loaded.sessions ∧
    sorted.Pairwise (fun a b => a.start ≤ b.start) ∧
    (∀ start, sorted.filter (fun ssn => ssn.start = start) =
      loaded.sessions.filter fun ssn => ssn.start = start) ∧
    run.sessions = sorted.map fun ssn => { ssn with start := ssn.start - info.offset }
  first : ∀ ssn ∈ run.sessions.head?, ssn.start = 0
  sessionCount : info.sessionCount = loaded.sessions.length
  transactionCount : info.transactionCount =
    (loaded.sessions.map fun ssn => ssn.transactions.length).sum
  offset : info.offset = loaded.starts.min?.getD 0
  span : info.span = loaded.starts.max?.getD 0 - loaded.starts.min?.getD 0
  /-- The size of the largest body, zero if there is none. -/
  maxContentLength : info.maxContentLength = max 0 ((bodySizes loaded.sessions).max?.getD 0)
  /-- The size is kept with a buffer of that size, and the rest of the run stays as it was. -/
  stored : ∃ buffer, Body.filled info.maxContentLength = .ok buffer ∧
    run = { loaded with
      sessions := run.sessions
      maxContentLength := info.maxContentLength
      buffer }

theorem prepared_batchInfo (loaded : RunState) {buffer : Body}
    (h : Body.filled (batchInfo loaded.sessions).maxContentLength = .ok buffer) :
    Prepared loaded (batchInfo loaded.sessions) (loaded.prepared buffer) where
  sessions := ⟨byStart loaded.sessions, perm_byStart _, pairwise_byStart _, filter_byStart _, rfl⟩
  first := (normal_normalized loaded.sessions).2
  sessionCount := by
    rw [batchInfo, normalized, shifted, List.length_map]
    exact (perm_byStart _).length_eq
  transactionCount := by
    rw [batchInfo, transactionCount_normalized, transactionCount_eq_sum]
  offset := by
    rw [batchInfo, head?_byStart]
    rfl
  span := span_normalized loaded.sessions
  maxContentLength := by
    rw [maxContentLength_batchInfo, largestBody_eq_max]
  stored := ⟨buffer, h, rfl⟩

/-- **What the preparation of a batch comes to.** It returns exactly if the run is not frozen and a
buffer can be made for the largest body.  Then the sessions are sorted by their starts, stably, and
moved so that the first one starts at zero; the totals are exact; and a second preparation finds
nothing to do. -/
theorem prepare_sorts (loaded : RunState) :
    ((∃ info run, prepare.runOn loaded = (.ok info, run)) ↔
      loaded.frozen = false ∧ ∀ size ∈ bodySizes loaded.sessions, size < Body.sizeLimit) ∧
    ∀ info run, prepare.runOn loaded = (.ok info, run) →
      Prepared loaded info run ∧ prepare.runOn run = (.ok { info with offset := 0 }, run) := by
  refine ⟨?_, fun info run h => ?_⟩
  · have hzero : 0 ≤ (batchInfo loaded.sessions).maxContentLength := by
      rw [maxContentLength_batchInfo, largestBody_eq_max]
      exact Int.le_max_left _ _
    have hlimit : (batchInfo loaded.sessions).maxContentLength < Body.sizeLimit ↔
        ∀ size ∈ bodySizes loaded.sessions, size < Body.sizeLimit := by
      rw [maxContentLength_batchInfo]
      exact largestBody_lt_iff (by decide)
    rw [← hlimit, ← filled_ok_iff hzero]
    constructor
    · rintro ⟨info, run, h⟩
      obtain ⟨hwritable, rfl, buffer, hbuffer, -⟩ := prepare_eq_ok_iff.mp h
      exact ⟨hwritable, buffer, hbuffer⟩
    · rintro ⟨hwritable, buffer, hbuffer⟩
      exact ⟨_, _, prepare_eq_ok_iff.mpr ⟨hwritable, rfl, buffer, hbuffer, rfl⟩⟩
  · obtain ⟨hwritable, rfl, buffer, hbuffer, rfl⟩ := prepare_eq_ok_iff.mp h
    refine ⟨prepared_batchInfo loaded hbuffer,
      prepare_eq_ok_iff.mpr ⟨hwritable, ?_, buffer, hbuffer, ?_⟩⟩
    · exact (batchInfo_normalized loaded.sessions).symm
    · simp only [prepared, batchInfo_normalized, normalized_normalized]

/-- Four sessions out of order, two of them with one start, and a body of seven bytes. -/
def outOfOrder : RunState :=
  { withStarts [5, 3, 5] with
    sessions := (withStarts [5, 3, 5]).sessions ++
      [{ Session.blank "f.yaml" 9 with
        start := 4
        transactions := [{ Transaction.blank false with
          request := { Request.blank with contentSize := 7 } }] }] }

/-- They span two microseconds, and the first of them starts at three. -/
theorem prepare_sorts_outOfOrder :
    ∃ info run, prepare.runOn outOfOrder = (.ok info, run) ∧ info = ⟨4, 1, 2, 3, 7⟩ ∧
      prepare.runOn run = (.ok ⟨4, 1, 2, 0, 7⟩, run) := by
  obtain ⟨info, run, h⟩ := (prepare_sorts outOfOrder).1.mpr ⟨rfl, by decide⟩
  obtain ⟨hprepared, hagain⟩ := (prepare_sorts outOfOrder).2 info run h
  have hinfo : info = ⟨4, 1, 2, 3, 7⟩ := by
    obtain ⟨sessionCount, transactionCount, span, offset, maxContentLength⟩ := info
    have hcount := hprepared.sessionCount
    have htransactions := hprepared.transactionCount
    have hspan := hprepared.span
    have hoffset := hprepared.offset
    have hlargest := hprepared.maxContentLength
    simp only at hcount htransactions hspan hoffset hlargest
    rw [hcount, htransactions, hspan, hoffset, hlargest]
    decide
  subst hinfo
  exact ⟨_, run, h, rfl, hagain⟩

end RunState
end TrafficReplay
