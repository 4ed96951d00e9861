import TrafficReplay.Proofs.Loading.Directories
import TrafficReplay.Proofs.Loading.Origins
import TrafficReplay.Proofs.Traffic.Refusals

/-!
# Which loaded runs can be prepared

A file may declare a body of any size, and nothing on the way from the file into the run looks at
it.  So a run into which files have been loaded can be prepared exactly if none of its bodies is
beyond the size from which on no buffer can be made.

* `Request.declaredSize`, `Request.recordedData?`: the size of the body that a node declares, and
  the data that it records;
* `RunState.Loads`, `RunState.Loads.gained`: loads, and what they bring;
* `RunState.Collected`: runs that the loads of some files lead to;
* `RunState.prepare_collected`: when such a run can be prepared, and where its sizes come from.
-/

namespace TrafficReplay
open TrafficReplay.Yaml TrafficReplay.Text
open Handler (Section)

/-! ### Declared sizes -/

namespace Request

/-- The number that a text stands for, zero if for none. -/
def numberOf (s : Text) : Int :=
  match readSize? s with
  | .ok (some k) => k
  | _ => 0

/-- The bytes of data.  Data with a surrogate have none; they are never loaded. -/
def dataBytes (data : Text) : Body := (Utf8.encode data).toOption.getD []

/-- The size that a content block declares: that of its data, or else the number given as the
size. -/
def blockSize (content : Node) : Int :=
  match (content.get? "data").bind Node.scalar?, content.get? "size" with
  | some data, _ => (dataBytes data).length
  | none, some size => numberOf size.text
  | none, none => 0

/-- The size of the body that a node declares in its content block, or else in its length field. -/
def declaredSize (path : String) (n : Node) : Int :=
  match n.get? "content" with
  | some content => blockSize content
  | none =>
    match (LoadedFields.ofHeaders path n).fields.first? "content-length" with
    | some text => numberOf text
    | none => 0

/-- The data that a node records in its content block. -/
def recordedData? (n : Node) : Option Text :=
  (n.get? "content").bind fun content => (content.get? "data").bind Node.scalar?

/-- A size that is read is the number of its text. -/
theorem numberOf_eq {s : Text} {k : Option Nat} (h : (Reading.size? s).result = .ok k) :
    numberOf s = k.getD 0 := by
  unfold Reading.size? at h
  unfold numberOf
  cases hs : readSize? s with
  | ok m =>
    rw [hs] at h
    obtain rfl := Except.ok.inj h
    cases m <;> rfl
  | error f =>
    rw [hs] at h
    cases f with
    | malformed =>
      obtain rfl := Except.ok.inj h
      rfl
    | tooLong digits => cases h

theorem numberOf_nonneg (s : Text) : 0 ≤ numberOf s := by
  unfold numberOf
  split <;> simp

theorem blockSize_nonneg (content : Node) : 0 ≤ blockSize content := by
  unfold blockSize
  split
  · exact Int.natCast_nonneg _
  · exact numberOf_nonneg _
  · exact Int.le_refl 0

theorem declaredSize_nonneg (path : String) (n : Node) : 0 ≤ declaredSize path n := by
  unfold declaredSize
  split
  · exact blockSize_nonneg _
  · split
    · exact numberOf_nonneg _
    · exact Int.le_refl 0

/-- Data that are recorded count for the size, whatever else declares one. -/
theorem declaredSize_of_recordedData? {n : Node} {data : Text} (h : recordedData? n = some data)
    (path : String) : declaredSize path n = (dataBytes data).length := by
  obtain ⟨content, hcontent, hdata⟩ := Option.bind_eq_some_iff.mp h
  simp only [declaredSize, blockSize, hcontent, hdata]

/-- That a request holds data, and has a size. -/
def HasContent (r : Request) (data : Option Text) (size : Int) : Prop :=
  r.contentData = data.map dataBytes ∧ r.contentSize = size

theorem hasContent_contentBlockReading {path : String} {content : Node} {r : Request}
    (hr : r.HasContent none 0) {p : Request × Report}
    (hp : (contentBlockReading path content r).result = .ok p) :
    p.1.HasContent ((content.get? "data").bind Node.scalar?) (blockSize content) := by
  unfold contentBlockReading at hp
  unfold blockSize
  cases hdata : (content.get? "data").bind Node.scalar? with
  | some data =>
    rw [hdata] at hp
    obtain ⟨bytes, hbytes, hrest⟩ := Reading.result_bind_eq_ok.mp hp
    cases hrest
    have hbytes' : dataBytes data = bytes := by
      rw [dataBytes, Reading.result_bytes_eq_ok.mp hbytes]
      rfl
    rw [← hbytes']
    exact ⟨rfl, rfl⟩
  | none =>
    cases hsize : content.get? "size" with
    | none =>
      rw [hdata, hsize] at hp
      cases hp
      exact hr
    | some size =>
      rw [hdata, hsize] at hp
      obtain ⟨k, hk, hrest⟩ := Reading.result_bind_eq_ok.mp hp
      dsimp only
      rw [numberOf_eq hk]
      cases k <;> cases hrest
      · exact hr
      · exact ⟨hr.1, rfl⟩

theorem hasContent_contentReading {path : String} {n : Node} {r : Request}
    (hr : r.HasContent none 0) (hfields : r.fields = (LoadedFields.ofHeaders path n).fields)
    {p : Request × Report} (hp : (contentReading path n r).result = .ok p) :
    p.1.HasContent (recordedData? n) (declaredSize path n) := by
  unfold contentReading at hp
  unfold declaredSize recordedData?
  rw [← hfields]
  cases hcontent : n.get? "content" with
  | some content =>
    rw [hcontent] at hp
    exact hasContent_contentBlockReading hr hp
  | none =>
    rw [hcontent] at hp
    dsimp only [Option.bind_none] at hp ⊢
    cases hlength : r.fields.first? "content-length" with
    | none =>
      rw [hlength] at hp
      cases hp
      exact hr
    | some text =>
      rw [hlength] at hp
      obtain ⟨k, hk, hrest⟩ := Reading.result_bind_eq_ok.mp hp
      dsimp only
      rw [numberOf_eq hk]
      cases k <;> cases hrest
      · exact hr
      · exact ⟨hr.1, rfl⟩

/-- A request that is filled in has the data that its node records, and the size that it
declares. -/
theorem hasContent_reading {path : String} {n : Node} {p : Request × Report}
    (hp : (reading path n .blank).result = .ok p) :
    p.1.HasContent (recordedData? n) (declaredSize path n) := by
  unfold reading at hp
  dsimp only at hp
  rw [Reading.learn_bind] at hp
  obtain ⟨q, hq, hpure⟩ := Reading.result_bind_eq_ok.mp hp
  cases hpure
  obtain ⟨_, _, _, hline⟩ := Request.blank.loadLine_eq path n
  rw [hline] at hq
  have hcontent : q.1.HasContent (recordedData? n) (declaredSize path n) :=
    hasContent_contentReading ⟨rfl, rfl⟩ (List.nil_append _) hq
  exact hcontent

end Request

namespace RunState

/-! ### Loaded runs -/

/-- That a size is declared by a request section in a file that is loaded. -/
def DeclaredIn (files : FileTree) (l : FileLoad) (size : Int) : Prop :=
  ∃ n ∈ documentTransactions (FileReading.document? files l.2), ∃ request,
    n.get? (Section.ofRequest l.1.mode).key = some request ∧
      size = Request.declaredSize l.2.text request

/-- The runs that loads lead to from a run into which nothing was loaded, with the loads: of single
files, and of directories whose files are loaded at the same time. -/
inductive Collected : List (FileTree × FileLoad) → RunState → Prop
  | nothing : Collected [] empty
  | file {loads : List (FileTree × FileLoad)} {run : RunState} (files : FileTree) (l : FileLoad)
      (h : Collected loads run) : Collected (loads ++ [(files, l)]) (run.load files l).2
  | directory {loads : List (FileTree × FileLoad)} {run : RunState} (files : FileTree)
      (settings : Settings) (threads : Int) {p : FilePath} {tree : FileTree}
      (hfind : files.find p = .ok tree) (hdistinct : tree.Distinct)
      {turns : List LoadPool.Turn} {pool : LoadPool}
      (hturns : LoadPool.Reached files settings threads p tree run turns pool)
      (hfinished : pool.finished = true) (h : Collected loads run) :
      Collected (loads ++ pool.called.map fun q => (files, (settings, q))) pool.run

/-- That a request has the content that a request section in a file records. -/
def RecordedIn (files : FileTree) (l : FileLoad) (r : Request) : Prop :=
  ∃ n ∈ documentTransactions (FileReading.document? files l.2), ∃ request,
    n.get? (Section.ofRequest l.1.mode).key = some request ∧
      r.HasContent (Request.recordedData? request) (Request.declaredSize l.2.text request)

theorem RecordedIn.declaredIn {files : FileTree} {l : FileLoad} {r : Request}
    (h : RecordedIn files l r) : DeclaredIn files l r.contentSize := by
  obtain ⟨n, hn, request, hrequest, -, hsize⟩ := h
  exact ⟨n, hn, request, hrequest, hsize⟩

theorem recordedIn_own {files : FileTree} {rules : RuleSet} {l : FileLoad} {ssn : Session}
    (hssn : ssn ∈ (FileReading.ofFile l.1 files rules l.2).sessions) {t : Transaction}
    (ht : t ∈ ssn.transactions) : RecordedIn files l t.request := by
  obtain ⟨n, hn, request, response, hrequest, -, r, _, _, _, hr, -, rfl⟩ :=
    FileReading.exists_stems_ofFile hssn ht
  exact ⟨n, hn, request, hrequest, Request.hasContent_reading hr⟩

variable {loads : List (FileTree × FileLoad)} {run : RunState}

theorem mem_bodySizes {ssns : List Session} {size : Int} :
    size ∈ bodySizes ssns ↔
      ∃ ssn ∈ ssns, ∃ t ∈ ssn.transactions, t.request.contentSize = size := by
  simp [bodySizes]

/-- What is in the first of two lists goes with something in the second. -/
theorem exists_of_forall₂ {α β : Type} {R : α → β → Prop} {as : List α} {bs : List β}
    (h : List.Forall₂ R as bs) {a : α} (ha : a ∈ as) : ∃ b ∈ bs, R a b := by
  induction h with
  | nil => cases ha
  | cons hab _ ih =>
    rcases List.mem_cons.mp ha with rfl | ha
    · exact ⟨_, List.mem_cons_self, hab⟩
    · obtain ⟨b, hb, hr⟩ := ih ha
      exact ⟨b, List.mem_cons_of_mem _ hb, hr⟩

theorem RecordedIn.of_akin {files : FileTree} {l : FileLoad} {t t' : Transaction}
    (h : RecordedIn files l t'.request) (hakin : t.Akin t') : RecordedIn files l t.request := by
  obtain ⟨own, _, _, rfl, rfl⟩ := hakin
  exact h

/-- The requests that the load of a directory brings are recorded in its files. -/
theorem recorded_of_survived {files : FileTree} {settings : Settings} {p : FilePath}
    {tree : FileTree} {pool : LoadPool} (hpool : pool.Survived files settings p tree run)
    {ssn : Session} (hssn : ssn ∈ pool.closed.map Prod.snd) {t : Transaction} (ht : t ∈ ssn.transactions) :
    ∃ q ∈ pool.called, RecordedIn files (settings, q) t.request := by
  obtain ⟨⟨q, ssn⟩, he, rfl⟩ := List.mem_map.mp hssn
  have hq := hpool.closed.1 _ he
  have hclosed : ssn ∈ LoadPool.closedBy q pool.closed :=
    List.mem_map.mpr ⟨(q, ssn), List.mem_filter.mpr ⟨he, by simp⟩, rfl⟩
  -- The session is the one that the file gives alone, but for the global rules.
  obtain ⟨ssn', hown, hakin⟩ := exists_of_forall₂ (hpool.closed.2 q hq) hclosed
  obtain ⟨t', ht', hakin'⟩ := exists_of_forall₂ hakin.transactions ht
  rw [own, load_eq files loading_empty] at hown
  exact ⟨q, hq, (recordedIn_own hown ht').of_akin hakin'⟩

/-- The load of a file, or of a directory whose files are loaded at the same time, with the files
that it loads. -/
inductive Loads (files : FileTree) (settings : Settings) (run : RunState) :
    List FilePath → RunState → Prop
  | file (p : FilePath) : Loads files settings run [p] (run.load files (settings, p)).2
  | directory (threads : Int) {p : FilePath} {tree : FileTree}
      (hfind : files.find p = .ok tree) (hdistinct : tree.Distinct)
      {turns : List LoadPool.Turn} {pool : LoadPool}
      (hturns : LoadPool.Reached files settings threads p tree run turns pool)
      (hfinished : pool.finished = true) : Loads files settings run pool.called pool.run

/-- A load brings sessions whose requests are recorded in its files, and changes nothing else of
what bodies are made from. -/
theorem Loads.gained {files : FileTree} {settings : Settings} {ps : List FilePath}
    {run' : RunState} (h : Loads files settings run ps run') (hrun : run.Loading) :
    ∃ ssns, run.Gains run' ssns ∧ ∀ ssn ∈ ssns, ∀ t ∈ ssn.transactions,
      ∃ p ∈ ps, RecordedIn files (settings, p) t.request := by
  cases h with
  | file p =>
    rw [load_eq files hrun]
    refine ⟨_, ⟨hrun.after _, rfl, rfl, rfl⟩, fun ssn hssn t ht => ?_⟩
    exact ⟨p, List.mem_singleton_self p, recordedIn_own hssn ht⟩
  | directory threads hfind hdistinct hturns hfinished =>
    have hsound := (LoadPool.sound_start hrun _).turns
      (FileTree.nodup_replayFiles hdistinct _) hturns
    refine ⟨_, hsound.gains, fun ssn hssn t ht => ?_⟩
    exact recorded_of_survived (hsound.survived hdistinct hfinished) hssn ht

/-- A load keeps that all sizes are declared in files that were loaded. -/
theorem Loads.declared {files : FileTree} {settings : Settings} {ps : List FilePath}
    {run' : RunState} (h : Loads files settings run ps run')
    (hrun : run.Loading ∧ ∀ size ∈ bodySizes run.sessions, ∃ l ∈ loads, DeclaredIn l.1 l.2 size) :
    run'.Loading ∧ ∀ size ∈ bodySizes run'.sessions,
      ∃ l ∈ loads ++ ps.map fun p => (files, (settings, p)), DeclaredIn l.1 l.2 size := by
  obtain ⟨hloading, hdeclared⟩ := hrun
  obtain ⟨ssns, hgains, hrecorded⟩ := h.gained hloading
  refine ⟨hgains.loading, fun size hsize => ?_⟩
  obtain ⟨ssn, hssn, t, ht, rfl⟩ := mem_bodySizes.mp hsize
  rw [hgains.sessions] at hssn
  rcases List.mem_append.mp hssn with hssn | hssn
  · obtain ⟨l, hl, hsize⟩ := hdeclared _ (mem_bodySizes.mpr ⟨ssn, hssn, t, ht, rfl⟩)
    exact ⟨l, List.mem_append_left _ hl, hsize⟩
  · obtain ⟨p, hp, hrecorded⟩ := hrecorded ssn hssn t ht
    exact ⟨_, List.mem_append_right _ (List.mem_map_of_mem hp), hrecorded.declaredIn⟩

/-- Files can still be loaded into a run that some loads have led to, and all its sizes are declared
in their files. -/
theorem Collected.declared (h : Collected loads run) :
    run.Loading ∧ ∀ size ∈ bodySizes run.sessions, ∃ l ∈ loads, DeclaredIn l.1 l.2 size := by
  induction h with
  | nothing => exact ⟨loading_empty, fun size hsize => absurd hsize List.not_mem_nil⟩
  | file files l _ ih => exact (Loads.file l.2).declared ih
  | directory files settings threads hfind hdistinct hturns hfinished _ ih =>
    exact (Loads.directory threads hfind hdistinct hturns hfinished).declared ih

/-- **When a loaded run can be prepared.** The preparation of a run that some loads have led to
returns the totals of the batch exactly if all its bodies are below the limit; else it stops when
the buffer cannot be made.  Each size is one that a file declares, so it returns if no file declares
a size beyond the limit. -/
theorem prepare_collected (h : Collected loads run) :
    ((∃ info run', prepare.runOn run = (.ok info, run')) ↔
      ∀ size ∈ bodySizes run.sessions, size < Body.sizeLimit) ∧
    ((¬ ∀ size ∈ bodySizes run.sessions, size < Body.sizeLimit) →
      prepare.runOn run = (.error .bodyTooLarge, run.unbuffered)) ∧
    (∀ size ∈ bodySizes run.sessions, ∃ l ∈ loads, DeclaredIn l.1 l.2 size) ∧
    ((∀ l ∈ loads, ∀ size, DeclaredIn l.1 l.2 size → size < Body.sizeLimit) →
      ∃ info run', prepare.runOn run = (.ok info, run')) := by
  obtain ⟨hloading, hdeclared⟩ := h.declared
  have hprepare := runOn_prepare hloading.writable
  rw [maxContentLength_batchInfo] at hprepare
  have hreturns (hsmall : ∀ size ∈ bodySizes run.sessions, size < Body.sizeLimit) :
      ∃ info run', prepare.runOn run = (.ok info, run') := by
    rw [Body.filled_of_inRange (inRange_largestBody_iff.mpr hsmall)] at hprepare
    exact ⟨_, _, hprepare⟩
  have hstops (hlarge : ¬ ∀ size ∈ bodySizes run.sessions, size < Body.sizeLimit) :
      prepare.runOn run = (.error .bodyTooLarge, run.unbuffered) := by
    rw [Body.filled_of_not_inRange (inRange_largestBody_iff.not.mpr hlarge)] at hprepare
    exact hprepare
  refine ⟨⟨fun ⟨info, run', hok⟩ => ?_, hreturns⟩, hstops, hdeclared, fun hsmall => ?_⟩
  · by_contra hlarge
    rw [hstops hlarge] at hok
    cases hok
  · refine hreturns fun size hsize => ?_
    obtain ⟨l, hl, hin⟩ := hdeclared size hsize
    exact hsmall l hl size hin

/-- A file with a request whose body has a size. -/
def sizedFile (size : String) : FileTree :=
  .directory .free
    [("a.yaml", .file .free (Text.Utf8.bytes <|
      "sessions:\n- transactions:\n  - client-request:\n      method: GET\n      url: /a\n" ++
        "      content:\n        size: " ++ size ++ "\n    proxy-response:\n      status: 200\n"))]

/-- The run after the load of such a file. -/
def sizedRun (size : String) : RunState :=
  (empty.load (sizedFile size) (.default, .ofText "a.yaml")).2

theorem collected_sizedRun (size : String) :
    Collected [(sizedFile size, (.default, .ofText "a.yaml"))] (sizedRun size) :=
  .file _ _ .nothing

/-- A run with a body of seven bytes can be prepared. -/
theorem prepare_collected_seven :
    Collected [(sizedFile "7", (.default, .ofText "a.yaml"))] (sizedRun "7") ∧
      ∃ info run', prepare.runOn (sizedRun "7") = (.ok info, run') :=
  ⟨collected_sizedRun "7", (prepare_collected (collected_sizedRun "7")).1.mpr (by decide +kernel)⟩

/-- A run with a body at the limit cannot be prepared. -/
theorem not_prepared_sizeLimit :
    Collected [(sizedFile "9223372036854775808", (.default, .ofText "a.yaml"))]
        (sizedRun "9223372036854775808") ∧
      ¬ ∃ info run', prepare.runOn (sizedRun "9223372036854775808") = (.ok info, run') := by
  refine ⟨collected_sizedRun _, ?_⟩
  rintro ⟨info, run', hok⟩
  obtain ⟨-, rfl, buffer, hbuffer, -⟩ := prepare_eq_ok_iff.mp hok
  rw [maxContentLength_batchInfo] at hbuffer
  have hsmall := inRange_largestBody_iff.mp (Body.inRange_of_filled hbuffer)
  exact absurd hsmall (by decide +kernel)

end RunState

end TrafficReplay
