import TrafficReplay.Proofs.Traffic.Freezing

/-!
# Preparing a batch

The preparation of a batch makes a buffer as long as the largest body of its sessions, so every body
can be cut from the buffer afterwards.

* `Session.Fits`, `Body.InRange`: sessions whose bodies can be cut from a buffer, and the sizes for
  which a buffer can be made;
* `RunState.runOn_prepare`, `RunState.prepare_eq_ok_iff`: when a batch can be prepared, and what
  comes of it;
* `RunState.fits_prepare`: the sessions of a prepared batch do so;
* `RunState.runOn_prepare_of_normal`: sessions that are in order from zero on stay as they are.
-/

namespace TrafficReplay

/-- That no body of a session is longer than a buffer. -/
def Session.Fits (buffer : Body) (ssn : Session) : Prop :=
  ∀ t ∈ ssn.transactions, t.request.contentSize ≤ buffer.length

namespace Body

variable {size : Int} {buffer : Body}

/-- Whether a body of a size can be made. -/
def InRange (size : Int) : Prop := -sizeLimit ≤ size ∧ size < sizeLimit

theorem filled_of_inRange (h : InRange size) :
    filled size = .ok (List.replicate size.toNat filler) := by
  obtain ⟨hlow, hhigh⟩ := h
  exact if_neg (by omega)

theorem filled_of_not_inRange (h : ¬ InRange size) : filled size = .error .bodyTooLarge := by
  unfold InRange at h
  exact if_pos (by omega)

theorem inRange_of_filled (h : filled size = .ok buffer) : InRange size := by
  unfold filled at h
  split at h
  · cases h
  · unfold InRange
    omega

theorem length_filled (h : filled size = .ok buffer) : buffer.length = size.toNat := by
  rw [filled_of_inRange (inRange_of_filled h)] at h
  cases h
  exact List.length_replicate

end Body

namespace RunState

variable {α : Type} {f : Int → α → Int}

theorem le_foldl (hf : ∀ m a, m ≤ f m a) (l : List α) (m : Int) : m ≤ l.foldl f m := by
  induction l generalizing m with
  | nil => exact Int.le_refl m
  | cons a l ih => exact Int.le_trans (hf m a) (ih (f m a))

/-- A fold that never falls is at least what one of its elements brings it to. -/
theorem le_foldl_of_mem (hf : ∀ m a, m ≤ f m a) {k : Int} {a : α} (ha : ∀ m, k ≤ f m a)
    {l : List α} (hmem : a ∈ l) (m : Int) : k ≤ l.foldl f m := by
  induction l generalizing m with
  | nil => cases hmem
  | cons b l ih =>
    rcases List.mem_cons.1 hmem with rfl | hmem
    · exact Int.le_trans (ha m) (le_foldl hf l _)
    · exact ih hmem _

theorem contentSize_le_largestBody {ssns : List Session} {ssn : Session} (hssn : ssn ∈ ssns)
    {t : Transaction} (ht : t ∈ ssn.transactions) : t.request.contentSize ≤ largestBody ssns := by
  have hmax (m : Int) (t : Transaction) : m ≤ max m t.request.contentSize := Int.le_max_left _ _
  refine le_foldl_of_mem (fun m ssn => le_foldl hmax _ m) (fun m => ?_) hssn 0
  exact le_foldl_of_mem hmax (fun m => Int.le_max_right _ _) ht m

/-- The totals of a batch of sessions. -/
def batchInfo (ssns : List Session) : BatchInfo where
  sessionCount := (normalized ssns).length
  transactionCount := transactionCount (normalized ssns)
  span := ((normalized ssns).getLast?.map Session.start).getD 0
  offset := ((byStart ssns).head?.map Session.start).getD 0
  maxContentLength := largestBody (normalized ssns)

/-- A run that holds a prepared batch and the buffer for its bodies. -/
def prepared (run : RunState) (buffer : Body) : RunState :=
  { run with
    sessions := normalized run.sessions
    maxContentLength := (batchInfo run.sessions).maxContentLength
    buffer }

theorem runOn_setMaxContentLength {run : RunState} (h : run.frozen = false) (length : Int) :
    (setMaxContentLength length).runOn run =
      match Body.filled length with
      | .ok buffer => (.ok ⟨⟩, { run with maxContentLength := length, buffer })
      | .error f => (.error f, { run with maxContentLength := length }) := by
  have hwritable : (checkWritable .body).runOn run = (.ok ⟨⟩, run) := by
    rw [checkWritable, Step.runOn_bind_of_ok (Step.runOn_get _), h]
    rfl
  rw [setMaxContentLength, Step.runOn_bind_of_ok hwritable,
    Step.runOn_bind_of_ok (Step.runOn_modify _ _), Step.runOn_bind, Step.runOn_liftM]
  cases Body.filled length <;> rfl

/-- A run whose sessions have been put in order and whose largest body is known, before a buffer is
made for it. -/
def unbuffered (run : RunState) : RunState :=
  { run with
    sessions := normalized run.sessions
    maxContentLength := (batchInfo run.sessions).maxContentLength }

/-- The preparation of a batch comes to its end if the buffer can be made, and is left in front of
it if not. -/
theorem runOn_prepare {loaded : RunState} (h : loaded.frozen = false) :
    prepare.runOn loaded =
      match Body.filled (batchInfo loaded.sessions).maxContentLength with
      | .ok buffer => (.ok (batchInfo loaded.sessions), loaded.prepared buffer)
      | .error f => (.error f, loaded.unbuffered) := by
  have hset := @runOn_setMaxContentLength { loaded with sessions := normalized loaded.sessions }
    h (batchInfo loaded.sessions).maxContentLength
  have hrun : prepare.runOn loaded =
      (do
        setMaxContentLength (batchInfo loaded.sessions).maxContentLength
        return batchInfo loaded.sessions : OnRun BatchInfo).runOn
          { loaded with sessions := normalized loaded.sessions } := rfl
  rw [hrun, Step.runOn_bind, hset]
  cases Body.filled (batchInfo loaded.sessions).maxContentLength <;> rfl

/-- The preparation of a batch returns exactly if the run is not frozen and the buffer can be made,
and this is all that it does then. -/
theorem prepare_eq_ok_iff {loaded run : RunState} {info : BatchInfo} :
    prepare.runOn loaded = (.ok info, run) ↔
      loaded.frozen = false ∧ info = batchInfo loaded.sessions ∧
        ∃ buffer, Body.filled info.maxContentLength = .ok buffer ∧ run = loaded.prepared buffer := by
  cases hfrozen : loaded.frozen with
  | true => simp [prepare, setMaxContentLength, checkWritable, Step.runOn_bind, hfrozen]
  | false =>
    rw [runOn_prepare hfrozen]
    constructor
    · intro h
      cases hbuffer : Body.filled (batchInfo loaded.sessions).maxContentLength with
      | error f =>
        rw [hbuffer] at h
        cases h
      | ok buffer =>
        rw [hbuffer] at h
        cases h
        exact ⟨rfl, rfl, buffer, hbuffer, rfl⟩
    · rintro ⟨-, rfl, buffer, hbuffer, rfl⟩
      rw [hbuffer]

/-- After the preparation of a batch every body can be cut from the buffer. -/
theorem fits_prepare {loaded run : RunState} {info : BatchInfo}
    (h : prepare.runOn loaded = (.ok info, run)) : ∀ ssn ∈ run.sessions, ssn.Fits run.buffer := by
  obtain ⟨-, rfl, buffer, hbuffer, rfl⟩ := prepare_eq_ok_iff.1 h
  intro ssn hssn t ht
  have hlength := Body.length_filled hbuffer
  have hsize : t.request.contentSize ≤ (batchInfo loaded.sessions).maxContentLength :=
    contentSize_le_largestBody hssn ht
  show t.request.contentSize ≤ buffer.length
  omega

/-- Sessions that are in order from zero on stay as they are when a batch is prepared. -/
theorem runOn_prepare_of_normal {loaded : RunState} (hrun : loaded.frozen = false)
    (hssns : Normal loaded.sessions) {buffer : Body}
    (hbuffer : Body.filled (largestBody loaded.sessions) = .ok buffer) :
    ∃ info, prepare.runOn loaded =
      (.ok info, { loaded with maxContentLength := largestBody loaded.sessions, buffer }) := by
  have hnormal := normalized_eq_self_iff.2 hssns
  have hinfo : (batchInfo loaded.sessions).maxContentLength = largestBody loaded.sessions := by
    rw [batchInfo, hnormal]
  refine ⟨_, prepare_eq_ok_iff.2 ⟨hrun, rfl, buffer, by rw [hinfo, hbuffer], ?_⟩⟩
  rw [prepared, hnormal, hinfo]

end RunState

end TrafficReplay
