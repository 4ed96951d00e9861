import TrafficReplay.Proofs.Loading.Frames
import TrafficReplay.Proofs.Loading.Sizes

/-!
# The bodies of requests

A request is sent with the data that were recorded for it, or else with a body of the size that was
declared.  Bodies of the second kind are cut from the buffer of the run; once a batch has been
prepared, that is long enough for all of them, whatever is done to the run afterwards.

* `Request.recordedBody`: the body that a node asks for;
* `RunState.Supplies`: states from whose buffer a body of some size can be cut;
* `RunState.Later`: the states that operations and loads lead to;
* `RunState.sent_of_prepared`: the body of every request that was loaded before the preparation.
-/

namespace TrafficReplay
open TrafficReplay.Yaml TrafficReplay.Text
open Handler (Section)

/-! ### Recorded bodies -/

namespace Request

/-- The body that a node asks for: the data that it records, or else a filled body of the size that
it declares, if that is not zero. -/
def recordedBody (path : String) (n : Node) : Option Body :=
  match recordedData? n with
  | some data => some (dataBytes data)
  | none =>
    if declaredSize path n = 0 then none
    else some (List.replicate (declaredSize path n).toNat Body.filler)

theorem length_recordedBody (path : String) (n : Node) :
    (((recordedBody path n).getD []).length : Int) = declaredSize path n := by
  unfold recordedBody
  cases hdata : recordedData? n with
  | some data => exact (declaredSize_of_recordedData? hdata path).symm
  | none =>
    dsimp only
    split
    · rename_i hzero
      exact hzero.symm
    · rw [Option.getD_some, List.length_replicate, Int.toNat_of_nonneg (declaredSize_nonneg path n)]

end Request

namespace Body

theorem fits_filled {length size : Int} {buffer : Body} (h : filled length = .ok buffer)
    (hsize : size ≤ length) : size ≤ buffer.length := by
  rw [length_filled h]
  exact Int.le_trans hsize (Int.self_le_toNat length)

/-- What is cut from a filled body is a filled body. -/
theorem filled_of_le {length size : Int} {buffer : Body} (h : filled length = .ok buffer)
    (hsize : 0 ≤ size) (hle : size ≤ buffer.length) : filled size = .ok (buffer.upTo size) := by
  have hlength := length_filled h
  obtain ⟨hlow, hhigh⟩ := inRange_of_filled h
  have hrange : InRange size := by
    unfold InRange sizeLimit at *
    omega
  rw [filled_of_inRange ⟨hlow, hhigh⟩, Except.ok.injEq] at h
  rw [filled_of_inRange hrange, upTo, if_pos hsize, ← h, List.take_replicate, ← hlength,
    Nat.min_eq_left (by omega)]

end Body

namespace RunState

variable {s s' : RunState} {size : Int}

/-! ### States with a buffer for a body -/

/-- That a body of some size in a run can be cut from its buffer. -/
structure Supplies (s : RunState) (size : Int) : Prop where
  registered : size ∈ bodySizes s.sessions
  largest : size ≤ s.maxContentLength
  fits : size ≤ s.buffer.length
  made : ∃ length, Body.filled length = .ok s.buffer

theorem le_largestBody {ssns : List Session} (h : size ∈ bodySizes ssns) :
    size ≤ largestBody ssns := by
  obtain ⟨ssn, hssn, t, ht, rfl⟩ := mem_bodySizes.mp h
  exact contentSize_le_largestBody hssn ht

theorem supplies_of_prepare {info : BatchInfo} (h : prepare.runOn s = (.ok info, s'))
    (hsize : size ∈ bodySizes s.sessions) : s'.Supplies size := by
  obtain ⟨-, rfl, buffer, hbuffer, rfl⟩ := prepare_eq_ok_iff.mp h
  have hlargest : size ≤ (batchInfo s.sessions).maxContentLength := by
    rw [maxContentLength_batchInfo]
    exact le_largestBody hsize
  exact ⟨(perm_bodySizes_normalized s.sessions).mem_iff.mpr hsize, hlargest,
    Body.fits_filled hbuffer hlargest, _, hbuffer⟩

/-! ### What operations keep -/

/-- The contract of a step that takes no body away. -/
def keepsBodies : Contract RunState Fault where
  change s t := bodySizes s.sessions ⊆ bodySizes t.sessions
  fault _ _ := True
  refl _ := List.Subset.refl _
  trans := List.Subset.trans
  fault_of_change _ _ := trivial

theorem meets_keepsBodies_of_quiet {α : Type} {x : OnRun α} (hx : x.Meets quiet) :
    x.Meets keepsBodies := by
  refine hx.mono (fun s t h => ?_) fun _ _ _ => trivial
  have hsessions : t.sessions = s.sessions := congrArg Prod.fst h
  show bodySizes s.sessions ⊆ bodySizes t.sessions
  rw [hsessions]
  exact List.Subset.refl _

theorem meets_freezeNames : freezeNames.Meets keepsBodies :=
  .getLiftBind (fun _ _ _ => trivial) fun _ _ => ⟨List.Subset.refl _, fun _ _ => trivial⟩

theorem meets_setMaxContentLength (length : Int) :
    (setMaxContentLength length).Meets keepsBodies := by
  have hcheck : (checkWritable .body).Meets keepsBodies := meets_checkWritable fun _ => trivial
  refine hcheck.bind fun _ => Step.Meets.bind (.modify fun _ => List.Subset.refl _) fun _ => ?_
  intro s
  rw [Step.runOn_bind, Step.runOn_liftM]
  cases Body.filled length with
  | error f => exact ⟨List.Subset.refl _, fun _ _ => trivial⟩
  | ok buffer => exact ⟨List.Subset.refl _, fun _ _ => trivial⟩

/-- Operations add sessions and put them in order, but no operation takes one away. -/
theorem meets_perform (o : Operation) : (perform o).Meets keepsBodies := by
  cases o with
  | localize name | localizeLower name =>
    exact (meets_keepsBodies_of_quiet (meets_localize _)).bind fun _ => .pure _
  | lookup name | contains name => exact .look fun _ => .pure _
  | freezeNames => exact meets_freezeNames.bind fun _ => .pure _
  | addSession ssn =>
    have hcheck : (checkWritable .sessions).Meets keepsBodies :=
      meets_checkWritable fun _ => trivial
    refine (hcheck.bind fun _ => ?_).bind fun _ => .pure _
    split
    · exact .pure _
    · refine Step.Meets.bind (.modify fun s => ?_) fun _ => .pure _
      simp [keepsBodies, bodySizes]
  | mergeRules rules =>
    exact (meets_keepsBodies_of_quiet (meets_mergeRules rules)).bind fun _ => .pure _
  | addRule rule =>
    refine Step.Meets.bind (.getLiftBind (fun _ _ _ => trivial) fun s rules => ?_) fun _ => .pure _
    exact ⟨List.Subset.refl _, fun _ _ => trivial⟩
  | setMaxContentLength length => exact (meets_setMaxContentLength length).bind fun _ => .pure _
  | body size =>
    refine Step.Meets.bind (.look fun s => ?_) fun _ => .pure _
    exact fun t => ⟨List.Subset.refl _, fun _ _ => trivial⟩
  | freeze =>
    refine Step.Meets.bind (.look fun s => ?_) fun _ => .pure _
    split
    · exact .throw fun _ => trivial
    · exact meets_freezeNames.bind fun _ => .modify fun _ => List.Subset.refl _
  | prepare =>
    refine Step.Meets.bind (.getBind fun s => ⟨?_, fun _ _ => trivial⟩) fun _ => .pure _
    have hsorted : keepsBodies.change s { s with sessions := normalized s.sessions } :=
      (perm_bodySizes_normalized s.sessions).symm.subset
    rw [Step.runOn_bind_of_ok (Step.runOn_modify _ _)]
    exact keepsBodies.trans hsorted (((meets_setMaxContentLength _).bind fun _ => .pure _) _).1

/-- That the buffer which an operation makes, if it makes one, is long enough for every body.  The
preparation of a batch makes such a buffer. -/
def LeavesRoom (s : RunState) (o : Operation) : Prop :=
  ∀ length ∈ o.bufferSize? s, largestBody s.sessions ≤ length

theorem Supplies.of_sameBuffer (h : s.Supplies size) (hbuffer : s.SameBuffer s')
    (hbodies : bodySizes s.sessions ⊆ bodySizes s'.sessions) : s'.Supplies size where
  registered := hbodies h.registered
  largest := hbuffer.1 ▸ h.largest
  fits := hbuffer.2 ▸ h.fits
  made := hbuffer.2 ▸ h.made

/-- What an operation leaves can still supply a body, whether the operation returns or stops. -/
theorem Supplies.perform (h : s.Supplies size) {o : Operation} (ho : s.LeavesRoom o) :
    ((perform o).runOn s).2.Supplies size := by
  have hbodies := (meets_perform o s).1
  cases hlength : o.bufferSize? s with
  | none =>
    obtain ⟨f, herror⟩ | ⟨a, t, hok, hsame⟩ := allOrNothing_perform hlength
    · rwa [herror]
    · rw [hok] at hbodies ⊢
      exact h.of_sameBuffer hsame hbodies
  | some length =>
    cases hfrozen : s.frozen with
    | true => exact h.of_sameBuffer (sameBuffer_of_frozen hfrozen hlength) hbodies
    | false =>
      have hsize : size ≤ length := Int.le_trans (le_largestBody h.registered) (ho length hlength)
      obtain ⟨hlargest, hbuffer⟩ := beforeBuffer_of_bufferSize? hlength
      obtain ⟨herror, hok⟩ := runOn_perform_of_bufferSize? hfrozen hlength
      cases hfilled : Body.filled length with
      | error f =>
        rw [herror f hfilled] at hbodies ⊢
        exact ⟨hbodies h.registered, hlargest ▸ hsize, hbuffer ▸ h.fits, hbuffer ▸ h.made⟩
      | ok buffer =>
        obtain ⟨a, ha⟩ := hok buffer hfilled
        rw [ha] at hbodies ⊢
        exact ⟨hbodies h.registered, hlargest ▸ hsize, Body.fits_filled hfilled hsize, _, hfilled⟩

theorem Loads.bodySizes_subset {files : FileTree} {settings : Settings} {ps : List FilePath}
    (hload : Loads files settings s ps s') (hs : s.Loading) :
    bodySizes s.sessions ⊆ bodySizes s'.sessions := by
  obtain ⟨ssns, hgains, -⟩ := hload.gained hs
  rw [hgains.sessions]
  simp [bodySizes]

theorem Supplies.load {files : FileTree} {settings : Settings} {ps : List FilePath}
    (h : s.Supplies size) (hs : s.Loading) (hload : Loads files settings s ps s') :
    s'.Supplies size := by
  obtain ⟨ssns, hgains, -⟩ := hload.gained hs
  exact h.of_sameBuffer ⟨hgains.maxContentLength, hgains.buffer⟩ (hload.bodySizes_subset hs)

/-- The states that operations of some kind lead to, and loads into runs that can still be loaded
into. -/
inductive Later (allowed : RunState → Operation → Prop) (run : RunState) : RunState → Prop
  | refl : Later allowed run run
  | perform {s : RunState} (h : Later allowed run s) (o : Operation) (ho : allowed s o) :
      Later allowed run ((perform o).runOn s).2
  | load {files : FileTree} {settings : Settings} {ps : List FilePath} {s s' : RunState}
      (h : Later allowed run s) (hs : s.Loading) (hload : Loads files settings s ps s') :
      Later allowed run s'

variable {allowed : RunState → Operation → Prop}

theorem Later.bodySizes_subset (h : Later allowed s s') :
    bodySizes s.sessions ⊆ bodySizes s'.sessions := by
  induction h with
  | refl => exact List.Subset.refl _
  | perform _ o _ ih => exact List.Subset.trans ih (meets_perform o _).1
  | load _ hloading hload ih => exact List.Subset.trans ih (hload.bodySizes_subset hloading)

theorem Later.supplies (h : Later LeavesRoom s s') (hs : s.Supplies size) : s'.Supplies size := by
  induction h with
  | refl => exact hs
  | perform _ o ho ih => exact ih.perform ho
  | load _ hloading hload ih => exact ih.load hloading hload

/-! ### Bodies that are sent -/

/-- What is sent as the body of a request is what its node asks for. It has the size of the request,
and if it is no recorded data it is cut from the buffer, to the same bytes that would be made
afresh. -/
structure Sends (s : RunState) (path : String) (n : Node) (r : Request) : Prop where
  body : r.body s.buffer = .ok (Request.recordedBody path n)
  length : (((Request.recordedBody path n).getD []).length : Int) = r.contentSize
  largest : r.contentSize ≤ s.maxContentLength
  fits : r.contentSize ≤ s.buffer.length
  same : Body.filled r.contentSize = .ok (s.buffer.upTo r.contentSize)

theorem Supplies.sends {path : String} {n : Node} {r : Request} (h : s.Supplies r.contentSize)
    (hr : r.HasContent (Request.recordedData? n) (Request.declaredSize path n)) :
    s.Sends path n r := by
  obtain ⟨hdata, hsize⟩ := hr
  obtain ⟨length, hmade⟩ := h.made
  have hnonneg : 0 ≤ r.contentSize := hsize ▸ Request.declaredSize_nonneg path n
  have hsame := Body.filled_of_le hmade hnonneg h.fits
  refine ⟨?_, hsize ▸ Request.length_recordedBody path n, h.largest, h.fits, hsame⟩
  unfold Request.body Request.recordedBody
  rw [hdata, ← hsize]
  cases Request.recordedData? n with
  | some data => rfl
  | none =>
    dsimp only [Option.map_none]
    split
    · rfl
    · rw [Body.filled_of_inRange (Body.inRange_of_filled hsame), Except.ok.injEq] at hsame
      rw [Body.cutFrom, if_pos h.fits, ← hsame]
      rfl

/-- **The body that is sent.** Take a transaction that a load brings into a run, whatever is loaded
and done afterwards, a preparation of the batch that returns, and what is loaded and done after
that, as long as no buffer is made by hand that is too short for the bodies of the run.  Then the
request is sent with the body that its node asks for. -/
theorem sent_of_prepared {files : FileTree} {settings : Settings} {ps : List FilePath}
    {run loaded before prepared s : RunState} (hrun : run.Loading)
    (hload : Loads files settings run ps loaded) {ssn : Session}
    (hssn : ssn ∈ loaded.sessions.drop run.sessions.length) {t : Transaction}
    (ht : t ∈ ssn.transactions) (hbefore : Later (fun _ _ => True) loaded before) {info : BatchInfo}
    (hprepare : prepare.runOn before = (.ok info, prepared)) (hs : Later LeavesRoom prepared s) :
    ∃ p ∈ ps, ∃ n ∈ documentTransactions (FileReading.document? files p), ∃ request,
      n.get? (Section.ofRequest settings.mode).key = some request ∧
        s.Sends p.text request t.request := by
  obtain ⟨ssns, hgains, hrecorded⟩ := hload.gained hrun
  have hmem : t.request.contentSize ∈ bodySizes loaded.sessions :=
    mem_bodySizes.mpr ⟨ssn, List.mem_of_mem_drop hssn, t, ht, rfl⟩
  rw [hgains.sessions, List.drop_left] at hssn
  obtain ⟨p, hp, n, hn, request, hrequest, hcontent⟩ := hrecorded ssn hssn t ht
  have hsupplies := supplies_of_prepare hprepare (hbefore.bodySizes_subset hmem)
  exact ⟨p, hp, n, hn, request, hrequest, (hs.supplies hsupplies).sends hcontent⟩

/-- A file with three requests: one with data, of which a character takes two bytes, one with a
size, and one with neither. -/
def contentFile : FileTree :=
  .directory .free
    [("a.yaml", .file .free (Utf8.bytes <|
      "sessions:\n- transactions:\n" ++
        "  - client-request: \x7bcontent: \x7bdata: \"\\xE9\", size: 9\x7d\x7d\n" ++
        "    proxy-response: \x7b\x7d\n" ++
        "  - client-request: \x7bcontent: \x7bsize: 3\x7d\x7d\n    proxy-response: \x7b\x7d\n" ++
        "  - client-request: \x7b\x7d\n    proxy-response: \x7b\x7d\n"))]

/-- The run after the load of that file. -/
def contentRun : RunState := (empty.load contentFile (.default, .ofText "a.yaml")).2

theorem loads_contentRun : Loads contentFile .default empty [.ofText "a.yaml"] contentRun := by
  rw [contentRun]
  exact .file _

/-- All three bodies are sent as they are recorded, after the batch has been prepared and the run
has been frozen. -/
theorem sent_of_prepared_three :
    ∃ info prepared, prepare.runOn contentRun = (.ok info, prepared) ∧
      bodySizes contentRun.sessions = [2, 3, 0] ∧
      ∀ ssn ∈ contentRun.sessions, ∀ t ∈ ssn.transactions,
        ∃ n request : Node, n.get? "client-request" = some request ∧
          ((perform .freeze).runOn prepared).2.Sends "a.yaml" request t.request := by
  have hsizes : bodySizes contentRun.sessions = [2, 3, 0] := by decide +kernel
  have hrange : Body.InRange (largestBody contentRun.sessions) :=
    inRange_largestBody_iff.mpr (by rw [hsizes]; decide)
  obtain ⟨_, ⟨hloading, -, -, -⟩, -⟩ := loads_contentRun.gained loading_empty
  obtain ⟨info, prepared, hprepare⟩ : ∃ info prepared,
      prepare.runOn contentRun = (.ok info, prepared) := by
    rw [← maxContentLength_batchInfo] at hrange
    exact ⟨_, _, prepare_eq_ok_iff.mpr
      ⟨hloading.writable, rfl, _, Body.filled_of_inRange hrange, rfl⟩⟩
  refine ⟨info, prepared, hprepare, hsizes, fun ssn hssn t ht => ?_⟩
  have hnone : empty.sessions.length = 0 := rfl
  have hnew : ssn ∈ contentRun.sessions.drop empty.sessions.length := by
    rwa [hnone, List.drop_zero]
  obtain ⟨p, hp, n, -, request, hrequest, hsends⟩ := sent_of_prepared loading_empty
    loads_contentRun hnew ht .refl hprepare (.perform .refl .freeze nofun)
  obtain rfl := List.mem_singleton.mp hp
  exact ⟨n, request, hrequest, hsends⟩

end RunState

end TrafficReplay
