import TrafficReplay.Proofs.Loading.Demands

/-!
# Where loaded transactions come from

A mode loads two sections of a transaction and leaves the others alone.  So each transaction that is
loaded stems from a node of the file's document that has both of them: its request and its response
are what these two come to, and the rules for both messages have been added to both.

* `Transaction.Stems`: how a transaction comes from a node;
* `Transaction.stems_of_reading`: what a node comes to stems from it;
* `FileReading.exists_stems_ofFile`: what a file comes to stems from the nodes of its document.
-/

namespace TrafficReplay
open TrafficReplay.Yaml TrafficReplay.Text
open Handler (Section)

/-! ### The sections of a mode -/

namespace Handler.Section

/-- The section that holds the request. -/
def ofRequest : RunMode → Section
  | .client => .clientRequest
  | .noProxy => .proxyRequest

/-- The section that holds the response. -/
def ofResponse : RunMode → Section
  | .client => .proxyResponse
  | .noProxy => .serverResponse

end Handler.Section

namespace Request

theorem loadPart_eq (r : Request) (path : String) (n : Node) (p : Part) :
    ∃ method url version, (r.loadPart path n p).1 = { r with method, url, version } := by
  unfold loadPart
  split
  · exact ⟨_, _, _, rfl⟩
  · cases p <;> exact ⟨_, _, _, rfl⟩
  · exact ⟨_, _, _, rfl⟩

/-- The request line is all that is read before the headers. -/
theorem loadLine_eq (r : Request) (path : String) (n : Node) :
    ∃ method url version,
      (r.loadLine path n).1 = { r with method, url, version, line := n.line } := by
  unfold loadLine
  dsimp only
  obtain ⟨_, _, _, h⟩ := loadPart_eq { r with line := n.line } path n .method
  rw [h]
  obtain ⟨_, _, _, h⟩ := loadPart_eq _ path n .url
  rw [h]
  obtain ⟨_, _, _, h⟩ := loadPart_eq _ path n .version
  rw [h]
  exact ⟨_, _, _, rfl⟩

end Request

namespace Transaction

variable {c : ReadingContext} {n : Node} {t t' : Transaction} {a : Report}

/-- How a transaction comes from a node: its messages are what the sections of the mode come to, of
which the response begins with the global rules, and some rules have been added to both. -/
structure Stems (c : ReadingContext) (n request response : Node) (t : Transaction) : Prop where
  hasRequest : n.get? (Section.ofRequest c.settings.mode).key = some request
  hasResponse : n.get? (Section.ofResponse c.settings.mode).key = some response
  made : ∃ r s a b, (Request.reading c.path request .blank).result = .ok (r, a) ∧
    (Response.reading c.path response { Response.blank with rules := c.rules }).result =
      .ok (s, b) ∧
    t = keyed c.settings
      (withRules ⟨c.settings.strict, r, s, ""⟩ (LoadedFields.ofAll c.path n).rules)

/-- A section that is there and is not malformed is a map, and the transaction is what that comes
to. -/
theorem sectionReading_cases {s : Section}
    (h : (sectionReading c n t s).result = .ok (t', a, false)) :
    (n.get? s.key = none ∧ t' = t) ∨
      ∃ m b, n.get? s.key = some m ∧ (mapReading c s m t).result = .ok (t', b) := by
  unfold sectionReading at h
  split at h
  · cases h
    exact .inl ⟨‹_›, rfl⟩
  · split at h
    · obtain ⟨⟨t'', b⟩, hmap, hpure⟩ := Reading.result_bind_eq_ok.mp h
      cases hpure
      exact .inr ⟨_, _, ‹_›, hmap⟩
    · cases h

theorem eq_of_sectionReading_unused {s : Section} (hrole : s.role c.settings.mode = .unused)
    (h : (sectionReading c n t s).result = .ok (t', a, false)) : t' = t := by
  obtain ⟨-, rfl⟩ | ⟨m, b, -, hmap⟩ := sectionReading_cases h
  · rfl
  · rw [mapReading, hrole] at hmap
    cases hmap
    rfl

theorem request_of_sectionReading {s : Section} (hrole : s.role c.settings.mode = .request)
    (hhas : n.has s.key = true) (h : (sectionReading c n t s).result = .ok (t', a, false)) :
    ∃ m r b, n.get? s.key = some m ∧ (t.request.reading c.path m).result = .ok (r, b) ∧
      t' = { t with request := r } := by
  obtain ⟨hnone, -⟩ | ⟨m, b, hm, hmap⟩ := sectionReading_cases h
  · rw [Node.has, hnone] at hhas
    cases hhas
  · rw [mapReading, hrole] at hmap
    obtain ⟨⟨r, b'⟩, hr, hpure⟩ := Reading.result_bind_eq_ok.mp hmap
    cases hpure
    exact ⟨m, r, b, hm, hr, rfl⟩

theorem response_of_sectionReading {s : Section} (hrole : s.role c.settings.mode = .response)
    (hhas : n.has s.key = true) (h : (sectionReading c n t s).result = .ok (t', a, false)) :
    ∃ m r b, n.get? s.key = some m ∧
      (Response.reading c.path m { t.response with rules := c.rules }).result = .ok (r, b) ∧
      t' = { t with response := r } := by
  obtain ⟨hnone, -⟩ | ⟨m, b, hm, hmap⟩ := sectionReading_cases h
  · rw [Node.has, hnone] at hhas
    cases hhas
  · rw [mapReading, hrole] at hmap
    obtain ⟨⟨r, b'⟩, hr, hpure⟩ := Reading.result_bind_eq_ok.mp hmap
    cases hpure
    exact ⟨m, r, b, hm, hr, rfl⟩

theorem sectionsReading_cons {s : Section} {ss : List Section}
    (h : (sectionsReading c n t (s :: ss)).result = .ok (t', a, false)) :
    ∃ t₁ b b', (sectionReading c n t s).result = .ok (t₁, b, false) ∧
      (sectionsReading c n t₁ ss).result = .ok (t', b', false) := by
  obtain ⟨⟨t₁, b, bad⟩, hfirst, hmore⟩ := Reading.result_bind_eq_ok.mp h
  obtain ⟨⟨t₂, b', bad'⟩, hrest, hpure⟩ := Reading.result_bind_eq_ok.mp hmore
  injection hpure with hpure
  injection hpure with ht hpure
  injection hpure with ha hbad
  obtain ⟨rfl, rfl⟩ := Bool.or_eq_false_iff.mp hbad
  exact ⟨t₁, b, b', hfirst, ht ▸ hrest⟩

/-- The sections of a mode fill in the two messages, whatever the other sections are. -/
theorem messages_of_sectionsReading
    (hhas : (Handler.requiredSections c.settings.mode).all (fun p => n.has p.1) = true)
    (h : (sectionsReading c n t Section.all).result = .ok (t', a, false)) :
    ∃ request response r s b b',
      n.get? (Section.ofRequest c.settings.mode).key = some request ∧
      n.get? (Section.ofResponse c.settings.mode).key = some response ∧
      (t.request.reading c.path request).result = .ok (r, b) ∧
      (Response.reading c.path response { t.response with rules := c.rules }).result = .ok (s, b') ∧
      t' = { t with request := r, response := s } := by
  obtain ⟨t₁, _, _, h₁, h⟩ := sectionsReading_cons h
  obtain ⟨t₂, _, _, h₂, h⟩ := sectionsReading_cons h
  obtain ⟨t₃, _, _, h₃, h⟩ := sectionsReading_cons h
  obtain ⟨t₄, _, _, h₄, h⟩ := sectionsReading_cons h
  cases h
  cases hmode : c.settings.mode with
  | client =>
    rw [hmode] at hhas
    obtain ⟨hrequest, hresponse⟩ :
        n.has Section.clientRequest.key = true ∧ n.has Section.proxyResponse.key = true := by
      simpa [Handler.requiredSections, Section.key] using hhas
    obtain ⟨request, r, b, hm, hr, rfl⟩ :=
      request_of_sectionReading (by rw [hmode]; rfl) hrequest h₁
    obtain rfl := eq_of_sectionReading_unused (by rw [hmode]; rfl) h₂
    obtain rfl := eq_of_sectionReading_unused (by rw [hmode]; rfl) h₃
    obtain ⟨response, s, b', hm', hs, rfl⟩ :=
      response_of_sectionReading (by rw [hmode]; rfl) hresponse h₄
    exact ⟨request, response, r, s, b, b', hm, hm', hr, hs, rfl⟩
  | noProxy =>
    rw [hmode] at hhas
    obtain ⟨hrequest, hresponse⟩ :
        n.has Section.proxyRequest.key = true ∧ n.has Section.serverResponse.key = true := by
      simpa [Handler.requiredSections, Section.key] using hhas
    obtain rfl := eq_of_sectionReading_unused (by rw [hmode]; rfl) h₁
    obtain ⟨request, r, b, hm, hr, rfl⟩ :=
      request_of_sectionReading (by rw [hmode]; rfl) hrequest h₂
    obtain ⟨response, s, b', hm', hs, rfl⟩ :=
      response_of_sectionReading (by rw [hmode]; rfl) hresponse h₃
    obtain rfl := eq_of_sectionReading_unused (by rw [hmode]; rfl) h₄
    exact ⟨request, response, r, s, b, b', hm, hm', hr, hs, rfl⟩

/-- What a node comes to stems from it. -/
theorem stems_of_reading (h : (reading c n).result = .ok (some t, a)) :
    ∃ request response, Stems c n request response t := by
  unfold reading at h
  split at h
  · cases h
  · dsimp only at h
    split at h
    · rename_i hopen
      rw [Handler.ok_missingSections] at hopen
      obtain ⟨⟨t', b⟩, hcontents, hpure⟩ := Reading.result_bind_eq_ok.mp h
      cases hpure
      obtain ⟨⟨t', b, malformed⟩, hsections, hrest⟩ := Reading.result_bind_eq_ok.mp hcontents
      dsimp only at hrest
      rw [Reading.learn_bind] at hrest
      dsimp only at hrest
      cases malformed with
      | true =>
        rw [if_pos rfl] at hrest
        cases hrest
      | false =>
        rw [if_neg Bool.false_ne_true] at hrest
        obtain ⟨request, response, r, s, b, b', hm, hm', hr, hs, rfl⟩ :=
          messages_of_sectionsReading hopen hsections
        have hclosed := congrArg Prod.fst (Except.ok.inj hrest)
        dsimp only [closed] at hclosed
        split at hclosed
        · cases hclosed
          exact ⟨request, response, hm, hm', r, s, b, b', hr, hs, rfl⟩
        · cases hclosed
    · cases h

/-- The transactions of a node whose demands are met stem from it. -/
theorem stems_of_mem_transactionsOf {settings : Settings} {path : String} {rules : RuleSet}
    (hmet : ∀ d ∈ demands settings.mode path n, d.Met)
    (ht : t ∈ Handler.transactionsOf settings path rules n) :
    ∃ request response, Stems ⟨settings, path, rules⟩ n request response t := by
  obtain ⟨⟨t', a⟩, hread⟩ := (needs_reading (c := ⟨settings, path, rules⟩) n).mpr hmet
  rw [Handler.transactionsOf_eq hread] at ht
  obtain rfl := Option.mem_toList.mp ht
  exact stems_of_reading hread

end Transaction

theorem Session.mem_demands {mode : RunMode} {path : String} {m n : Node}
    (hn : n ∈ transactionNodes m) {d : Demand} (hd : d ∈ Transaction.demands mode path n) :
    d ∈ demands mode path m := by
  cases hmapping : m.isMapping with
  | false => simp [transactionNodes, hmapping] at hn
  | true =>
    rw [demands, if_pos hmapping]
    exact List.mem_append_right _ (List.mem_flatMap.mpr ⟨n, hn, hd⟩)

/-! ### Files -/

/-- The nodes of the transactions of a document. -/
def documentTransactions (root : Option Node) : List Node :=
  (sessionNodes root).flatMap Session.transactionNodes

namespace FileReading

variable {settings : Settings} {files : FileTree} {rules : RuleSet} {p : FilePath}

/-- The document in a file; none if the file cannot be read or is not well-formed. -/
def document? (files : FileTree) (p : FilePath) : Option Node :=
  if p.text.toList.contains '\x00' then none
  else
    match files.read p with
    | .error _ => none
    | .ok bytes =>
      match compose (.ofFile (.ofBytes bytes)) with
      | .error _ => none
      | .ok root => root

/-- A file brings the sessions and the rules of its document. -/
theorem sessions_ofFile (settings : Settings) (files : FileTree) (rules : RuleSet) (p : FilePath) :
    (ofFile settings files rules p).sessions =
        (ofDocument ⟨settings, p.text, rules⟩ (document? files p)).sessions ∧
      (ofFile settings files rules p).rules =
        (ofDocument ⟨settings, p.text, rules⟩ (document? files p)).rules := by
  unfold ofFile document? ofRead
  split
  · exact ⟨rfl, rfl⟩
  · cases files.read p with
    | error f => exact ⟨rfl, rfl⟩
    | ok bytes =>
      dsimp only
      cases compose (.ofFile (.ofBytes bytes)) with
      | ok root => exact ⟨rfl, rfl⟩
      | error f => cases f <;> exact ⟨rfl, rfl⟩

theorem exists_stems_ofDocument {c : ReadingContext} {root : Option Node} {ssn : Session}
    (hssn : ssn ∈ (ofDocument c root).sessions) {t : Transaction} (ht : t ∈ ssn.transactions) :
    ∃ n ∈ documentTransactions root, ∃ request response,
      Transaction.Stems { c with rules := (ofDocument c root).rules } n request response t := by
  rw [sessions_ofDocument] at hssn
  obtain ⟨m, hm, hssn⟩ := List.mem_flatMap.mp hssn
  have hmet := of_decide_eq_true (List.all_eq_true.mp List.all_takeWhile m hm)
  have hmem : t ∈ (Session.transactionNodes m).flatMap
      (Handler.transactionsOf c.settings c.path (ofDocument c root).rules) := by
    rw [← Handler.flatMap_sessionsOf hmet]
    exact List.mem_flatMap.mpr ⟨ssn, hssn, ht⟩
  obtain ⟨n, hn, ht⟩ := List.mem_flatMap.mp hmem
  refine ⟨n, List.mem_flatMap.mpr ⟨m, (List.takeWhile_prefix _).subset hm, hn⟩, ?_⟩
  refine Transaction.stems_of_mem_transactionsOf (fun d hd => hmet d ?_) ht
  exact Session.mem_demands hn hd

/-- The transactions of a file stem from the nodes of its document, in the context of the global
rules after the document's own. -/
theorem exists_stems_ofFile {ssn : Session} (hssn : ssn ∈ (ofFile settings files rules p).sessions)
    {t : Transaction} (ht : t ∈ ssn.transactions) :
    ∃ n ∈ documentTransactions (document? files p), ∃ request response,
      Transaction.Stems ⟨settings, p.text, (ofFile settings files rules p).rules⟩
        n request response t := by
  obtain ⟨hsessions, hrules⟩ := sessions_ofFile settings files rules p
  rw [hsessions] at hssn
  rw [hrules]
  exact exists_stems_ofDocument hssn ht

end FileReading

end TrafficReplay
