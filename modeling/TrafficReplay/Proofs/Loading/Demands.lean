import TrafficReplay.Proofs.Loading.InTurn

/-!
# What ends a file

A document can bring about two faults: a number of too many digits, and the data of a content block
with a surrogate, which has no bytes.  A file without either is loaded to its end, and nothing that
is malformed keeps the nodes behind it from being loaded; else the file ends with the session before
the first of them.

* `Demand`: a text of a document that is read as a number or taken as data, with `Demand.Met`;
* `documentDemands`: all of a document;
* `Reading.Needs`: a reading that has a result exactly if some demands are met;
* `Handler.walkDocument_returns_iff`: which documents are loaded to their ends.
-/

namespace TrafficReplay
open TrafficReplay.Yaml TrafficReplay.Text

/-- Whether a text is no number of too many digits. -/
def Text.ShortNumber (t : Text) : Prop :=
  ¬ (isDecimal pointValue? (trimmed t) = true ∧ maxDigits < (trimmed t).length)

instance (t : Text) : Decidable (ShortNumber t) :=
  inferInstanceAs (Decidable (¬ (_ ∧ _)))

/-- Whether a text has characters only. -/
def Text.SurrogateFree (t : Text) : Prop := ∀ c ∈ t.toList, c.isSurrogate = false

instance (t : Text) : Decidable (SurrogateFree t) :=
  inferInstanceAs (Decidable (∀ c ∈ t.toList, c.isSurrogate = false))

/-- A text of a document and what it is used as, if that may end the file. -/
inductive Demand
  /-- It is read as a number. -/
  | number (t : Text)
  /-- It is the data of a request. -/
  | data (t : Text)

/-- Whether a text can be used so. -/
def Demand.Met : Demand → Prop
  | .number t => ShortNumber t
  | .data t => SurrogateFree t

instance : DecidablePred Demand.Met
  | .number t => inferInstanceAs (Decidable (ShortNumber t))
  | .data t => inferInstanceAs (Decidable (SurrogateFree t))

theorem length_filterMap_pointValue? {s : List CodePoint} (h : isDecimal pointValue? s = true) :
    (s.filterMap pointValue?).length = s.length := by
  rw [isDecimal, Bool.and_eq_true] at h
  exact List.filterMap_length_eq_length.mpr (List.all_eq_true.mp h.2)

namespace Reading

variable {α β : Type}

/-- A reading has a result exactly if some demands are met. -/
def Needs (x : Reading α) (demands : List Demand) : Prop :=
  (∃ a, x.result = .ok a) ↔ ∀ d ∈ demands, d.Met

theorem needs_pure (a : α) : Needs (pure a) [] := by simp [Needs]

theorem Needs.bind {x : Reading α} {f : α → Reading β} {ss ts : List Demand} (hx : x.Needs ss)
    (hf : ∀ a, x.result = .ok a → (f a).Needs ts) : (x >>= f).Needs (ss ++ ts) := by
  unfold Needs
  simp only [result_bind_eq_ok, List.forall_mem_append]
  constructor
  · rintro ⟨b, a, ha, hb⟩
    exact ⟨hx.mp ⟨a, ha⟩, (hf a ha).mp ⟨b, hb⟩⟩
  · rintro ⟨hss, hts⟩
    obtain ⟨a, ha⟩ := hx.mpr hss
    obtain ⟨b, hb⟩ := (hf a ha).mpr hts
    exact ⟨b, a, ha, hb⟩

theorem Needs.bindPure {x : Reading α} {f : α → Reading β} {ss : List Demand} (hx : x.Needs ss)
    (hf : ∀ a, x.result = .ok a → (f a).Needs []) : (x >>= f).Needs ss := by
  simpa using hx.bind hf

theorem Needs.learnBind {x : Reading α} {names : List Text} {ss : List Demand} (hx : x.Needs ss) :
    Needs (do learn names; x) ss := by
  simpa [Needs] using hx

/-- Reading a size needs its text to be short. -/
theorem needs_size? (t : Text) : (size? t).Needs [.number t] := by
  unfold Needs size? readSize? readDigits
  simp only [List.forall_mem_singleton, Demand.Met, ShortNumber]
  cases hs : isDecimal pointValue? (trimmed t) with
  | false => simp
  | true =>
    simp only [if_true, length_filterMap_pointValue? hs, true_and]
    by_cases hlong : maxDigits < (trimmed t).length
    · simp [hlong, Except.map]
    · simp [hlong, Except.map]

/-- Taking the bytes of a text needs it to have characters only. -/
theorem needs_bytes (t : Text) : (bytes t).Needs [.data t] := by
  unfold Needs bytes
  rw [List.forall_mem_singleton, Demand.Met, SurrogateFree, ← Utf8.encode_isOk_iff]
  cases Utf8.encode t <;> simp [Except.isOk, Except.toBool]

end Reading

open Reading (Needs)

/-! ### Messages -/

namespace Request

/-- The demands of a request without content that has the given fields. -/
def lengthDemands (fields : FieldList) : List Demand :=
  (fields.first? "content-length").toList.map .number

/-- The demands of a content block. -/
def contentDemands (content : Node) : List Demand :=
  match (content.get? "data").bind Node.scalar?, content.get? "size" with
  | some data, _ => [.data data]
  | none, some size => [.number size.text]
  | none, none => []

/-- The demands of a request. -/
def demands (path : String) (n : Node) : List Demand :=
  match n.get? "content" with
  | some content => contentDemands content
  | none => lengthDemands (LoadedFields.ofHeaders path n).fields

theorem needs_contentBlockReading (path : String) (content : Node) (r : Request) :
    (contentBlockReading path content r).Needs (contentDemands content) := by
  unfold contentBlockReading contentDemands
  rcases (content.get? "data").bind Node.scalar? with _ | data
  · rcases content.get? "size" with _ | size
    · exact Reading.needs_pure _
    · refine (Reading.needs_size? size.text).bindPure fun k _ => ?_
      rcases k with _ | k
      · exact Reading.needs_pure _
      · exact Reading.needs_pure _
  · exact (Reading.needs_bytes data).bindPure fun _ _ => Reading.needs_pure _

theorem needs_contentReading (path : String) (n : Node) (r : Request) :
    (contentReading path n r).Needs
      (match n.get? "content" with
      | some content => contentDemands content
      | none => lengthDemands r.fields) := by
  unfold contentReading lengthDemands
  rcases n.get? "content" with _ | content
  · rcases r.fields.first? "content-length" with _ | text
    · exact Reading.needs_pure _
    · refine (Reading.needs_size? text).bindPure fun k _ => ?_
      rcases k with _ | k
      · exact Reading.needs_pure _
      · exact Reading.needs_pure _
  · exact needs_contentBlockReading path content r

theorem fields_loadPart (path : String) (n : Node) (part : Part) (r : Request) :
    (r.loadPart path n part).1.fields = r.fields := by
  unfold loadPart
  split
  · rfl
  · cases part <;> rfl
  · rfl

theorem fields_loadLine (path : String) (n : Node) (r : Request) :
    (r.loadLine path n).1.fields = r.fields := by
  simp only [loadLine, fields_loadPart]

theorem needs_reading (path : String) (n : Node) {r : Request} (hr : r.fields = []) :
    (reading path n r).Needs (demands path n) := by
  have hfields : ((r.loadLine path n).1.extend (LoadedFields.ofHeaders path n)).fields =
      (LoadedFields.ofHeaders path n).fields := by
    rw [extend, fields_loadLine, hr, List.nil_append]
  have hcontent := needs_contentReading path n
    ((r.loadLine path n).1.extend (LoadedFields.ofHeaders path n))
  rw [hfields] at hcontent
  exact (hcontent.bindPure fun p _ => Reading.needs_pure _).learnBind

end Request

namespace Response

/-- The demands of a response. -/
def demands (n : Node) : List Demand := ((n.get? "status").map Node.text).toList.map .number

theorem needs_reading (path : String) (n : Node) (r : Response) :
    (reading path n r).Needs (demands n) := by
  have hstatus (r : Response) : (statusReading path n r).Needs (demands n) := by
    unfold statusReading demands
    rcases n.get? "status" with _ | m
    · exact Reading.needs_pure _
    · refine (Reading.needs_size? m.text).bindPure fun k _ => ?_
      rcases k with _ | k
      · exact Reading.needs_pure _
      · dsimp only
        split
        · exact Reading.needs_pure _
        · exact Reading.needs_pure _
  exact (hstatus _).bindPure fun p _ => (Reading.needs_pure _).learnBind

end Response

/-! ### Transactions -/

namespace Transaction
open Handler (Section)

/-- The demands of a section. -/
def sectionDemands (mode : RunMode) (path : String) (n : Node) (s : Section) : List Demand :=
  match n.get? s.key with
  | none => []
  | some m =>
    if m.isMapping then
      match s.role mode with
      | .request => Request.demands path m
      | .response => Response.demands m
      | .unused => []
    else []

/-- The demands of a transaction. -/
def demands (mode : RunMode) (path : String) (n : Node) : List Demand :=
  if n.isMapping && (Handler.missingSections mode path n).ok then
    Section.all.flatMap (sectionDemands mode path n)
  else []

variable {c : ReadingContext}

theorem needs_sectionReading (n : Node) (s : Section) {t : Transaction}
    (ht : s.role c.settings.mode = .request → t.request.fields = []) :
    (sectionReading c n t s).Needs (sectionDemands c.settings.mode c.path n s) := by
  unfold sectionReading sectionDemands
  rcases n.get? s.key with _ | m
  · exact Reading.needs_pure _
  · dsimp only
    split
    · refine Needs.bindPure ?_ fun p _ => Reading.needs_pure _
      unfold mapReading
      cases hrole : s.role c.settings.mode with
      | request =>
        exact (Request.needs_reading c.path m (ht hrole)).bindPure fun p _ => Reading.needs_pure _
      | response =>
        exact (Response.needs_reading c.path m _).bindPure fun p _ => Reading.needs_pure _
      | unused => exact Reading.needs_pure _
    · exact Reading.needs_pure _

/-- Only the section with the request changes the request. -/
theorem request_sectionReading {n : Node} {s : Section} {t : Transaction}
    {p : Transaction × Report × Bool} (hrole : s.role c.settings.mode ≠ .request)
    (hp : (sectionReading c n t s).result = .ok p) : p.1.request = t.request := by
  unfold sectionReading at hp
  split at hp
  · cases hp
    rfl
  · split at hp
    · obtain ⟨⟨t', a⟩, hmap, hpure⟩ := Reading.result_bind_eq_ok.mp hp
      cases hpure
      unfold mapReading at hmap
      split at hmap
      · exact absurd ‹_› hrole
      · obtain ⟨q, -, hresponse⟩ := Reading.result_bind_eq_ok.mp hmap
        cases hresponse
        rfl
      · cases hmap
        rfl
    · cases hp
      rfl

theorem needs_sectionsReading (n : Node) {ss : List Section}
    (hss : ss.Pairwise fun s s' =>
      s.role c.settings.mode = .request → s'.role c.settings.mode ≠ .request)
    {t : Transaction}
    (ht : ∀ s ∈ ss, s.role c.settings.mode = .request → t.request.fields = []) :
    (sectionsReading c n t ss).Needs (ss.flatMap (sectionDemands c.settings.mode c.path n)) := by
  induction ss generalizing t with
  | nil => exact Reading.needs_pure _
  | cons s ss ih =>
    rw [List.flatMap_cons]
    refine (needs_sectionReading n s (ht s List.mem_cons_self)).bind fun p hp => ?_
    obtain ⟨hfirst, hrest⟩ := List.pairwise_cons.mp hss
    refine (ih hrest fun s' hs' hrole' => ?_).bindPure fun q _ => Reading.needs_pure _
    -- No section behind the one with the request holds the request again.
    have hrole : s.role c.settings.mode ≠ .request := fun hrole => hfirst s' hs' hrole hrole'
    rw [request_sectionReading hrole hp]
    exact ht s' (List.mem_cons_of_mem _ hs') hrole'

/-- What a node comes to needs the demands of the transaction to be met. -/
theorem needs_reading (n : Node) :
    (reading c n).Needs (demands c.settings.mode c.path n) := by
  unfold reading demands
  cases n.isMapping with
  | false => exact Reading.needs_pure _
  | true =>
    simp only [Bool.not_true, Bool.false_eq_true, if_false, Bool.true_and]
    split
    · have honce : Section.all.Pairwise fun s s' =>
          s.role c.settings.mode = .request → s'.role c.settings.mode ≠ .request := by
        cases c.settings.mode <;> decide
      refine Needs.bindPure ?_ fun p _ => Reading.needs_pure _
      refine (needs_sectionsReading n honce fun _ _ _ => rfl).bindPure fun p _ => Needs.learnBind ?_
      split
      · exact Reading.needs_pure _
      · exact Reading.needs_pure _
    · exact Reading.needs_pure _

theorem needs_readings (ns : List Node) :
    (readings c ns).Needs (ns.flatMap (demands c.settings.mode c.path)) := by
  induction ns with
  | nil => exact Reading.needs_pure _
  | cons n ns ih =>
    rw [List.flatMap_cons]
    exact (needs_reading n).bind fun p _ => ih.bindPure fun q _ => Reading.needs_pure _

end Transaction

/-! ### Sessions -/

namespace Session

/-- Whether a session can be opened: the server name of a session over TLS has to be a scalar. -/
def canOpen (n : Node) : Bool :=
  match n.get? "protocol" with
  | some (.sequence _ ps) =>
    if ps.any fun p => Handler.tlsMark.isPrefixOf (lower p.text.toList) then
      ((n.get? "tls").bind (·.get? "client-sni")).all Node.isScalar
    else true
  | _ => true

/-- The text of the start of a session. -/
def startTexts (n : Node) : List Text := ((n.get? "connection-time").bind Node.scalar?).toList

/-- The nodes of the transactions of a session. -/
def transactionNodes (n : Node) : List Node :=
  if n.isMapping && canOpen n then
    match n.get? "transactions" with
    | some (.sequence _ ts) => ts
    | _ => []
  else []

/-- The demands of a session. -/
def demands (mode : RunMode) (path : String) (n : Node) : List Demand :=
  if n.isMapping then
    (startTexts n).map .number ++ (transactionNodes n).flatMap (Transaction.demands mode path)
  else []

theorem needs_startReading (path : String) (n : Node) (ssn : Session) :
    (startReading path n ssn).Needs ((startTexts n).map .number) := by
  unfold startReading startTexts
  rcases n.get? "connection-time" with _ | ⟨_, text⟩ | ⟨_, _⟩ | ⟨_, _⟩
  · exact Reading.needs_pure _
  · refine (Reading.needs_size? text).bindPure fun k _ => ?_
    rcases k with _ | _ | k
    · exact Reading.needs_pure _
    · exact Reading.needs_pure _
    · exact Reading.needs_pure _
  · exact Reading.needs_pure _
  · exact Reading.needs_pure _

/-- The protocol of a session is reported with an error exactly if the session cannot be opened. -/
theorem ok_protocolReading (path : String) (n : Node) (ssn : Session) :
    ∃ ssn' a, (protocolReading path n ssn).result = .ok (ssn', a) ∧ a.ok = canOpen n := by
  unfold protocolReading canOpen
  rcases n.get? "protocol" with _ | ⟨_, _⟩ | ⟨_, ps⟩ | ⟨_, _⟩
  · exact ⟨_, _, rfl, rfl⟩
  · exact ⟨_, _, rfl, rfl⟩
  · refine ⟨_, _, result_protocolsReading path n ps ssn, ?_⟩
    dsimp only
    by_cases htls : ∃ p ∈ ps, OverTls p
    · rw [if_pos htls, if_pos ((any_overTls_iff ps).mpr htls), ok_clientNameReport]
      rfl
    · rw [if_neg htls, if_neg (mt (any_overTls_iff ps).mp htls)]
      rfl
  · exact ⟨_, _, rfl, rfl⟩

theorem ok_startReading {path : String} {n : Node} {ssn : Session} {p : Session × Report}
    (hp : (startReading path n ssn).result = .ok p) : p.2.ok = true := by
  unfold startReading at hp
  split at hp
  · cases hp
    rfl
  · obtain ⟨k, -, hk⟩ := Reading.result_bind_eq_ok.mp hp
    split at hk <;> cases hk <;> rfl
  · cases hp
    rfl

/-- Opening a session needs its start to be short. -/
theorem needs_openReading (path : String) (n : Node) :
    (openReading path n).Needs ((startTexts n).map .number) ∧
      ∀ p, (openReading path n).result = .ok p → p.2.ok = canOpen n := by
  obtain ⟨ssn, a, hresult, hok⟩ := ok_protocolReading path n (.blank path n.line)
  have hprotocol : (protocolReading path n (.blank path n.line)).Needs [] :=
    iff_of_true ⟨_, hresult⟩ nofun
  refine ⟨hprotocol.bind fun p _ => ?_, fun p hp => ?_⟩
  · exact (needs_startReading path n _).bindPure fun q _ => Reading.needs_pure _
  · obtain ⟨q, hq, hrest⟩ := Reading.result_bind_eq_ok.mp hp
    cases hresult.symm.trans hq
    obtain ⟨r, hr, hpure⟩ := Reading.result_bind_eq_ok.mp hrest
    cases hpure
    rw [Report.ok_append, hok, ok_startReading hr, Bool.and_true]

theorem needs_transactionsReading (c : ReadingContext) {n : Node}
    (hn : (n.isMapping && canOpen n) = true) (ssn : Session) :
    (transactionsReading c n ssn).Needs
      ((transactionNodes n).flatMap (Transaction.demands c.settings.mode c.path)) := by
  unfold transactionsReading transactionNodes
  rw [if_pos hn]
  rcases n.get? "transactions" with _ | ⟨_, _⟩ | ⟨_, ts⟩ | ⟨_, _⟩
  · exact Reading.needs_pure _
  · exact Reading.needs_pure _
  · exact (Transaction.needs_readings ts).bindPure fun p _ => Reading.needs_pure _
  · exact Reading.needs_pure _

/-- What a node comes to needs the demands of the session to be met. -/
theorem needs_reading (c : ReadingContext) (n : Node) :
    (reading c n).Needs (demands c.settings.mode c.path n) := by
  unfold reading demands
  cases hn : n.isMapping with
  | false => exact Reading.needs_pure _
  | true =>
    obtain ⟨hopen, hok⟩ := needs_openReading c.path n
    refine Needs.bindPure ?_ fun p _ => Reading.needs_pure _
    refine hopen.bind fun p hp => ?_
    have hp' := hok p hp
    dsimp only
    rw [hp']
    cases hcan : canOpen n with
    | true =>
      simp only [if_true]
      exact (needs_transactionsReading c (by rw [hn, hcan]; rfl) p.1).bindPure
        fun q _ => Reading.needs_pure _
    | false =>
      simp only [transactionNodes, hn, hcan, Bool.and_false, Bool.false_eq_true, if_false]
      exact Reading.needs_pure _

end Session

/-! ### Nodes alone -/

namespace Handler

variable {settings : Settings} {path : String} {rules : RuleSet}

/-- The sessions that the walk through a node gives a run into which nothing was loaded but some
global rules. -/
def sessionsOf (settings : Settings) (path : String) (rules : RuleSet) (n : Node) : List Session :=
  (((recording settings).walkSession n).runOn (.start (.fresh rules) path)).2.run.sessions

/-- The transactions that the walk through a node gives a session that has none. -/
def transactionsOf (settings : Settings) (path : String) (rules : RuleSet) (n : Node) :
    List Transaction :=
  let s := LoadState.start (.fresh rules) path
  match (((recording settings).walkTransaction n).runOn
    { s with session := some (.blank path 0) }).2.session with
  | some ssn => ssn.transactions
  | none => []

theorem sessionsOf_eq (settings : Settings) (path : String) (rules : RuleSet) (n : Node) :
    sessionsOf settings path rules n =
      Session.gained (Session.reading ⟨settings, path, rules⟩ n) := by
  obtain ⟨left, hrun⟩ :=
    @runOn_walkSession (.start (.fresh rules) path) settings rfl rfl rfl rfl n
  rw [sessionsOf, hrun]
  rfl

theorem transactionsOf_eq {n : Node} {t : Option Transaction} {a : Report}
    (h : (Transaction.reading ⟨settings, path, rules⟩ n).result = .ok (t, a)) :
    transactionsOf settings path rules n = t.toList := by
  obtain ⟨ssn, hrun, hssn⟩ := @follows_walkTransaction (.start (.fresh rules) path) settings
    rfl rfl rfl n (.blank path 0) []
  have hattach : (Session.blank path 0).attach t = ssn :=
    hssn _ (Reading.result_bind_eq_ok.mpr ⟨_, h, rfl⟩)
  have hrun' : ((recording settings).walkTransaction n).runOn
      { LoadState.start (.fresh rules) path with session := some (.blank path 0) } = _ := hrun
  rw [transactionsOf, hrun', ← hattach]
  rfl

theorem readings_eq {ns : List Node} {ts : List Transaction} {a : Report}
    (h : (Transaction.readings ⟨settings, path, rules⟩ ns).result = .ok (ts, a)) :
    ts = ns.flatMap (transactionsOf settings path rules) := by
  induction ns generalizing ts a with
  | nil =>
    cases h
    rfl
  | cons n ns ih =>
    obtain ⟨⟨t, b⟩, hfirst, hmore⟩ := Reading.result_bind_eq_ok.mp h
    obtain ⟨⟨ts', b'⟩, hrest, hpure⟩ := Reading.result_bind_eq_ok.mp hmore
    cases hpure
    rw [List.flatMap_cons, transactionsOf_eq hfirst, ih hrest]

theorem transactions_contentsReading {n : Node} (hn : n.isMapping = true)
    {p : Session × Report}
    (hp : (Session.contentsReading ⟨settings, path, rules⟩ n).result = .ok p) :
    p.1.transactions =
      (Session.transactionNodes n).flatMap (transactionsOf settings path rules) := by
  obtain ⟨q, hq, hrest⟩ := Reading.result_bind_eq_ok.mp hp
  have hnone := Session.transactions_openReading hq
  have hok := (Session.needs_openReading path n).2 q hq
  unfold Session.transactionNodes
  dsimp only at hrest
  rw [hok] at hrest
  cases hcan : Session.canOpen n with
  | false =>
    simp only [hcan, Bool.false_eq_true, if_false] at hrest
    cases hrest
    simpa using hnone
  | true =>
    simp only [hcan, if_true] at hrest
    obtain ⟨r, hr, hpure⟩ := Reading.result_bind_eq_ok.mp hrest
    cases hpure
    rw [hn, Bool.true_and, if_pos rfl]
    unfold Session.transactionsReading at hr
    generalize n.get? "transactions" = transactions at hr ⊢
    rcases transactions with _ | ⟨_, _⟩ | ⟨_, ts⟩ | ⟨_, _⟩
    · cases hr
      exact hnone
    · cases hr
      exact hnone
    · obtain ⟨⟨ts', b⟩, hts, hpure⟩ := Reading.result_bind_eq_ok.mp hr
      cases hpure
      simp only [hnone, List.nil_append]
      exact readings_eq hts
    · cases hr
      exact hnone

theorem flatMap_registered (ssn : Session) :
    ssn.registered.toList.flatMap Session.transactions = ssn.transactions := by
  rw [Session.registered]
  cases h : ssn.transactions <;> simp [h]

/-- A session node whose demands are met gives all transactions that its nodes give. -/
theorem flatMap_sessionsOf {n : Node}
    (h : ∀ d ∈ Session.demands settings.mode path n, d.Met) :
    (sessionsOf settings path rules n).flatMap Session.transactions =
      (Session.transactionNodes n).flatMap (transactionsOf settings path rules) := by
  obtain ⟨⟨ssn, a⟩, hread⟩ := (Session.needs_reading ⟨settings, path, rules⟩ n).mpr h
  rw [sessionsOf_eq, Session.gained, hread]
  dsimp only
  unfold Session.reading at hread
  cases hn : n.isMapping with
  | false =>
    simp only [hn, Bool.not_false, if_true] at hread
    cases hread
    simp [Session.transactionNodes, hn]
  | true =>
    simp only [hn, Bool.not_true, Bool.false_eq_true, if_false] at hread
    obtain ⟨p, hp, hpure⟩ := Reading.result_bind_eq_ok.mp hread
    cases hpure
    rw [flatMap_registered, transactions_contentsReading hn hp]

end Handler

/-! ### Documents -/

/-- The nodes of the sessions of a document. -/
def sessionNodes : Option Node → List Node
  | some (.mapping line entries) =>
    match (Node.mapping line entries).get? "sessions" with
    | some (.sequence _ ns) => ns
    | _ => []
  | _ => []

/-- The demands of a document. -/
def documentDemands (mode : RunMode) (path : String) (root : Option Node) : List Demand :=
  (sessionNodes root).flatMap (Session.demands mode path)

/-- Whether the demands of a session node are met. -/
def isReadableSession (mode : RunMode) (path : String) (n : Node) : Bool :=
  decide (∀ d ∈ Session.demands mode path n, d.Met)

namespace FileReading

theorem isReadableSession_iff (c : ReadingContext) (n : Node) :
    isReadableSession c.settings.mode c.path n = true ↔
      ∃ a, (Session.reading c n).result = .ok a := by
  rw [isReadableSession, decide_eq_true_iff]
  exact (Session.needs_reading c n).symm

theorem ok_ofSessions_iff (c : ReadingContext) (ns : List Node) :
    (∃ a, (ofSessions c ns).result = .ok a) ↔
      ∀ d ∈ ns.flatMap (Session.demands c.settings.mode c.path), d.Met := by
  induction ns with
  | nil => simp [ofSessions, nothing]
  | cons n ns ih =>
    have hneeds := Session.needs_reading c n
    unfold Needs at hneeds
    rw [List.flatMap_cons, List.forall_mem_append, ← ih, ← hneeds, ofSessions]
    cases hr : (Session.reading c n).result with
    | error e => simp
    | ok p =>
      dsimp only
      cases (ofSessions c ns).result <;> simp [Except.map]

theorem sessions_ofSessions (c : ReadingContext) (ns : List Node) :
    (ofSessions c ns).sessions =
      (ns.takeWhile (isReadableSession c.settings.mode c.path)).flatMap
        (Handler.sessionsOf c.settings c.path c.rules) := by
  induction ns with
  | nil => rfl
  | cons n ns ih =>
    have hshort := isReadableSession_iff c n
    rw [ofSessions, List.takeWhile_cons]
    cases hr : (Session.reading c n).result with
    | error e =>
      have hfalse : isReadableSession c.settings.mode c.path n = false := by simpa [hr] using hshort
      simp [hfalse]
    | ok p =>
      have htrue : isReadableSession c.settings.mode c.path n = true := hshort.mpr ⟨p, hr⟩
      simp only [htrue, if_true, List.flatMap_cons, Handler.sessionsOf_eq, Session.gained, hr, ih]

theorem ok_ofDocument_iff (c : ReadingContext) (root : Option Node) :
    (∃ a, (ofDocument c root).result = .ok a) ↔
      ∀ d ∈ documentDemands c.settings.mode c.path root, d.Met := by
  rcases root with _ | ⟨_, _⟩ | ⟨_, _⟩ | ⟨line, entries⟩
  · exact iff_of_true ⟨_, rfl⟩ nofun
  · exact iff_of_true ⟨_, rfl⟩ nofun
  · exact iff_of_true ⟨_, rfl⟩ nofun
  unfold ofDocument documentDemands sessionNodes
  dsimp only
  rcases (Node.mapping line entries).get? "sessions" with _ | ⟨_, _⟩ | ⟨_, ns⟩ | ⟨_, _⟩
  · exact iff_of_true ⟨_, rfl⟩ nofun
  · exact iff_of_true ⟨_, rfl⟩ nofun
  · rw [← ok_ofSessions_iff
      { c with rules := c.rules.merge (addedRules c.path (.mapping line entries)) } ns]
    dsimp only
    cases (ofSessions _ ns).result <;> simp [Except.map]
  · exact iff_of_true ⟨_, rfl⟩ nofun

theorem sessions_ofDocument (c : ReadingContext) (root : Option Node) :
    (ofDocument c root).sessions =
      ((sessionNodes root).takeWhile (isReadableSession c.settings.mode c.path)).flatMap
        (Handler.sessionsOf c.settings c.path (ofDocument c root).rules) := by
  rcases root with _ | ⟨_, _⟩ | ⟨_, _⟩ | ⟨line, entries⟩
  · rfl
  · rfl
  · rfl
  unfold ofDocument sessionNodes
  dsimp only
  rcases (Node.mapping line entries).get? "sessions" with _ | ⟨_, _⟩ | ⟨_, ns⟩ | ⟨_, _⟩
  · rfl
  · rfl
  · exact sessions_ofSessions
      { c with rules := c.rules.merge (addedRules c.path (.mapping line entries)) } ns
  · rfl

end FileReading

namespace Handler

/-- **What ends a file.** The load of a document comes to its end exactly if no text that is read as
a number has too many digits and no content data has a surrogate.  The sessions that it gives are
those that its nodes give alone, up to the first node with such a text; so if there is none, all
nodes are there, whatever is malformed in the others.  And a node without such a text gives all
transactions that its nodes give alone. -/
theorem walkDocument_returns_iff {run : RunState} (h : run.Loading) (settings : Settings)
    (path : String) (root : Option Node) :
    let out := ((recording settings).walkDocument path root).runOn (.start run "")
    ((∃ report, out.1 = .ok report) ↔
      ∀ d ∈ documentDemands settings.mode path root, d.Met) ∧
    out.2.run.sessions = run.sessions ++
      ((sessionNodes root).takeWhile (isReadableSession settings.mode path)).flatMap
        (sessionsOf settings path out.2.run.rules.rules) ∧
    ∀ n ∈ sessionNodes root, (∀ d ∈ Session.demands settings.mode path n, d.Met) →
      (sessionsOf settings path out.2.run.rules.rules n).flatMap Session.transactions =
        (Session.transactionNodes n).flatMap
          (transactionsOf settings path out.2.run.rules.rules) := by
  obtain ⟨t, hrun, ht⟩ := @runOn_walkDocument (.start run "") settings h rfl path root
  dsimp only
  rw [hrun, ht]
  refine ⟨FileReading.ok_ofDocument_iff _ root, ?_, fun n _ hn => flatMap_sessionsOf hn⟩
  exact congrArg (run.sessions ++ ·) (FileReading.sessions_ofDocument _ root)

/-- A session node with a start and a transaction, whose request has data. -/
def demoSession (start data : Text) : Node :=
  .mapping 2
    [(.scalar 2 "connection-time", .scalar 2 start),
     (.scalar 3 "transactions", .sequence 4
      [.mapping 4
        [(.scalar 4 "client-request", .mapping 5
          [(.scalar 5 "method", .scalar 5 "GET"), (.scalar 6 "url", .scalar 6 "/a"),
           (.scalar 7 "content", .mapping 7 [(.scalar 7 "data", .scalar 7 data)])]),
         (.scalar 8 "proxy-response", .mapping 9
          [(.scalar 9 "status", .scalar 9 "200")])]])]

/-- A document with two sessions; nothing is wrong with the second one. -/
def demoDocument (start data : Text) : Option Node :=
  some (.mapping 1
    [(.scalar 1 "sessions", .sequence 2 [demoSession start data, demoSession "5000" "b"])])

/-- A start that is no number does not keep a document from being loaded. -/
theorem walkDocument_returns_demo :
    RunState.empty.Loading ∧ ∃ report,
      (((recording .default).walkDocument "a.yaml" (demoDocument "soon" "a")).runOn
        (.start .empty "")).1 = .ok report := by
  refine ⟨RunState.loading_empty, ?_⟩
  exact (walkDocument_returns_iff RunState.loading_empty .default "a.yaml"
    (demoDocument "soon" "a")).1.mpr (by decide +kernel)

/-- A number of some nines. -/
def nines (k : Nat) : Text := .ofList (List.replicate k (.char '9'))

theorem not_shortNumber_nines {k : Nat} (hk : maxDigits < k) : ¬ ShortNumber (nines k) := by
  have hblank : ∀ c ∈ List.replicate k (CodePoint.char '9'), c.char?.any isBlank = false := by
    intro c hc
    rw [List.eq_of_mem_replicate hc]
    decide
  have htrim : trimmed (nines k) = List.replicate k (.char '9') := trimBy_eq_self hblank
  have hdecimal : isDecimal pointValue? (List.replicate k (.char '9')) = true := by
    have hpos : k ≠ 0 := by
      unfold maxDigits at hk
      omega
    have hdigit : (pointValue? (.char '9')).isSome = true := by decide
    simp [isDecimal, hpos, hdigit]
  rw [ShortNumber, htrim, hdecimal, List.length_replicate]
  exact not_not_intro ⟨rfl, hk⟩

/-- A smiling face, as the two surrogates of an escape for other encodings. -/
def surrogates : Text := .ofList [.ofNat 0xd83d, .ofNat 0xde00]

/-- That the load of a document does not come to its end, and gives no session. -/
def Stops (root : Option Node) : Prop :=
  let out := ((recording .default).walkDocument "a.yaml" root).runOn (.start .empty "")
  (¬ ∃ report, out.1 = .ok report) ∧ out.2.run.sessions = []

theorem stops_of_unmet {start data : Text} (h : ¬ (ShortNumber start ∧ SurrogateFree data)) :
    Stops (demoDocument start data) := by
  have hdemands : Session.demands .client "a.yaml" (demoSession start data) =
      [.number start, .data data, .number "200"] := rfl
  have hunmet : ¬ ∀ d ∈ Session.demands .client "a.yaml" (demoSession start data), d.Met := by
    rw [hdemands]
    exact fun hmet => h ⟨hmet (.number start) (by simp), hmet (.data data) (by simp)⟩
  have hfirst : isReadableSession .client "a.yaml" (demoSession start data) = false :=
    decide_eq_false hunmet
  obtain ⟨t, hrun, ht⟩ := @runOn_walkDocument (.start .empty "") .default RunState.loading_empty rfl
    "a.yaml" (demoDocument start data)
  unfold Stops
  dsimp only
  rw [hrun, ht]
  refine ⟨fun hok => hunmet fun d hd => ?_, ?_⟩
  · exact (FileReading.ok_ofDocument_iff _ _).mp hok d (List.mem_append_left _ hd)
  · have htake : (sessionNodes (demoDocument start data)).takeWhile
        (isReadableSession .client "a.yaml") = [] :=
      List.takeWhile_cons_of_neg (ne_true_of_eq_false hfirst)
    have hsessions := FileReading.sessions_ofDocument ⟨.default, "a.yaml", .empty⟩
      (demoDocument start data)
    dsimp only [Settings.default] at hsessions
    rw [htake] at hsessions
    exact hsessions

/-- A start of too many digits ends a document, and so do data with surrogates; the session behind
is not loaded. -/
theorem walkDocument_stops_demo :
    Stops (demoDocument (nines 4301) "a") ∧ Stops (demoDocument "5000" surrogates) ∧
      (sessionsOf .default "a.yaml" .empty (demoSession "5000" "b")).length = 1 := by
  refine ⟨stops_of_unmet fun h => ?_, stops_of_unmet fun h => ?_, by decide +kernel⟩
  · exact not_shortNumber_nines (by decide) h.1
  · exact absurd h.2 (by decide)

end Handler

end TrafficReplay
