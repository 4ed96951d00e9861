import TrafficReplay.Proofs.Loading.Demands
import TrafficReplay.Proofs.Loading.Stages

/-!
# What an opened session says of itself

A session is opened from its node alone: its marks come from the protocols up to the first one over
TLS, its server name from the `tls` block if there is such a protocol, its start from the time of
the connection.  A frozen name table or a held lock can keep a session from being opened, but does
not change what an opened one says.

* `Step.ReturnsAs`: a step that has the result of a reading wherever it returns;
* `Session.Opened`: an opened session and its report, by the node;
* `Handler.openSession_classifies`: what is opened, and when.
-/

namespace TrafficReplay
open TrafficReplay.Yaml TrafficReplay.Text

/-! ### Steps that may stop for other reasons than their reading -/

namespace Step

variable {σ κ α β : Type}

/-- Where a step returns from a state that has a part, its result is that of a reading of the part,
and the state after it has the part that the reading gives.  The step may stop at faults that the
reading does not know of. -/
def ReturnsAs (has : σ → κ → Prop) (x : Step σ Fault α) (k : κ) (r : Reading (κ × α)) : Prop :=
  ∀ s, has s k → ∀ a t, x.runOn s = (.ok a, t) → ∃ k', r.result = .ok (k', a) ∧ has t k'

namespace ReturnsAs

variable {has : σ → κ → Prop} {k : κ}

theorem pure (a : α) : ReturnsAs has (pure a) k (pure (k, a)) := by
  intro s hs b t hrun
  cases hrun
  exact ⟨k, rfl, hs⟩

theorem bind {x : Step σ Fault α} {f : α → Step σ Fault β} {r : Reading (κ × α)}
    {g : κ × α → Reading (κ × β)} (hx : ReturnsAs has x k r)
    (hf : ∀ k' a, ReturnsAs has (f a) k' (g (k', a))) :
    ReturnsAs has (x >>= f) k (r >>= g) := by
  intro s hs b t hrun
  obtain ⟨a, u, hfirst, hrest⟩ := runOn_bind_eq_ok.mp hrun
  obtain ⟨k', hr, hu⟩ := hx s hs a u hfirst
  obtain ⟨k'', hg, ht⟩ := hf k' a u hu b t hrest
  exact ⟨k'', Reading.result_bind_eq_ok.mpr ⟨_, hr, hg⟩, ht⟩

/-- A step that has one result if it returns, and then one that returns as a reading. -/
theorem runBind {x : Step σ Fault α} {f : α → Step σ Fault β} {k' : κ} {a : α}
    {r : Reading (κ × β)}
    (hx : ∀ s, has s k → ∀ b t, x.runOn s = (.ok b, t) → b = a ∧ has t k')
    (hf : ReturnsAs has (f a) k' r) : ReturnsAs has (x >>= f) k r := by
  intro s hs c t hrun
  obtain ⟨b, u, hfirst, hrest⟩ := runOn_bind_eq_ok.mp hrun
  obtain ⟨rfl, hu⟩ := hx s hs b u hfirst
  exact hf u hu c t hrest

theorem modifyBind {g : σ → σ} {f : PUnit → Step σ Fault α} {k' : κ} {r : Reading (κ × α)}
    (hg : ∀ s, has s k → has (g s) k') (hf : ReturnsAs has (f ⟨⟩) k' r) :
    ReturnsAs has (modify g >>= f) k r := by
  refine runBind (fun s hs b t hrun => ?_) hf
  cases hrun
  exact ⟨rfl, hg s hs⟩

theorem getBind {f : σ → Step σ Fault α} {r : Reading (κ × α)}
    (hf : ∀ s, has s k → ReturnsAs has (f s) k r) : ReturnsAs has (get >>= f) k r := by
  intro s hs a t hrun
  rw [runOn_bind_of_ok (runOn_get s)] at hrun
  exact hf s hs s hs a t hrun

/-- Names that a reading meets are of no account to what is returned. -/
theorem learn {x : Step σ Fault α} {names : List Text} {r : Reading (κ × α)}
    (hx : ReturnsAs has x k r) : ReturnsAs has x k (do Reading.learn names; r) := by
  intro s hs a t hrun
  obtain ⟨k', hr, ht⟩ := hx s hs a t hrun
  exact ⟨k', Reading.result_bind_eq_ok.mpr ⟨_, rfl, hr⟩, ht⟩

end ReturnsAs

end Step

open Step (ReturnsAs)

namespace Handler

variable {path : String}

/-- That a session of a file is open. -/
def IsOpen (path : String) (s : LoadState) (ssn : Session) : Prop :=
  s.path = path ∧ s.session = some ssn

theorem returnsAs_change {α : Type} {f : Session → Session} {g : PUnit → Load α} {ssn : Session}
    {r : Reading (Session × α)} (hg : ReturnsAs (IsOpen path) (g ⟨⟩) (f ssn) r) :
    ReturnsAs (IsOpen path) (Load.changeSession f >>= g) ssn r :=
  .modifyBind (fun _ hs => ⟨hs.1, congrArg (Option.map f) hs.2⟩) hg

theorem returnsAs_loadServerName (n : Node) (ssn : Session) :
    ReturnsAs (IsOpen path) (loadServerName n) ssn (Session.serverNameReading path n ssn) := by
  -- Asking for a name gives this name back, or nothing at all.
  have hlocalize (name : Text) (s : LoadState) (hs : IsOpen path s ssn) (b : Text)
      (t : LoadState)
      (hrun : (Load.onRun (RunState.withLock (RunState.localize name))).runOn s = (.ok b, t)) :
      b = name ∧ IsOpen path t ssn := by
    rw [Load.onRun, Step.runOn_onPart, RunState.withLock, Step.runOn_ofRun] at hrun
    obtain ⟨hresult, rfl⟩ := Prod.mk.inj hrun
    refine ⟨?_, hs⟩
    split at hresult
    · cases hresult
    · have hname : ((RunState.localize name).runOn { s.run with locked := true }).1 = .ok b :=
        hresult
      rw [RunState.localize, Step.runOn_bind_of_ok (Step.runOn_get _), Step.runOn_bind,
        Step.runOn_liftM] at hname
      split at hname
      · exact (Except.ok.inj hname).symm
      · cases hname
  unfold loadServerName Session.serverNameReading
  rcases (n.get? "tls").bind (·.get? "client-sni") with _ | ⟨_, name⟩ | ⟨_, _⟩ | ⟨_, _⟩
  · exact .pure _
  · refine (ReturnsAs.runBind (hlocalize _) ?_).learn
    exact returnsAs_change (.pure _)
  · refine ReturnsAs.getBind fun s hs => ?_
    rw [hs.1, hs.2]
    exact .pure _
  · refine ReturnsAs.getBind fun s hs => ?_
    rw [hs.1, hs.2]
    exact .pure _

theorem returnsAs_loadProtocols (n : Node) (ps : List Node) (ssn : Session) :
    ReturnsAs (IsOpen path) (loadProtocols n ps) ssn (Session.protocolsReading path n ps ssn) := by
  induction ps generalizing ssn with
  | nil => exact .pure _
  | cons p ps ih =>
    have hrest (ssn : Session) :
        ReturnsAs (IsOpen path)
          (if tlsMark.isPrefixOf (lower p.text.toList) then do
            Load.changeSession fun s => { s with isTls := true }
            loadServerName n
          else loadProtocols n ps) ssn
          (if tlsMark.isPrefixOf (lower p.text.toList) then
            Session.serverNameReading path n { ssn with isTls := true }
          else Session.protocolsReading path n ps ssn) := by
      split
      · exact returnsAs_change (returnsAs_loadServerName n _)
      · exact ih ssn
    unfold loadProtocols Session.protocolsReading
    dsimp only
    split
    · exact returnsAs_change (hrest _)
    · exact hrest ssn

theorem returnsAs_loadProtocol (n : Node) (ssn : Session) :
    ReturnsAs (IsOpen path) (loadProtocol n) ssn (Session.protocolReading path n ssn) := by
  unfold loadProtocol Session.protocolReading
  refine ReturnsAs.getBind fun s hs => ?_
  rw [hs.1]
  rcases n.get? "protocol" with _ | ⟨_, _⟩ | ⟨_, ps⟩ | ⟨_, _⟩
  · exact .pure _
  · exact .pure _
  · exact returnsAs_loadProtocols n ps ssn
  · exact .pure _

theorem returnsAs_loadStart (n : Node) (ssn : Session) :
    ReturnsAs (IsOpen path) (loadStart n) ssn (Session.startReading path n ssn) := by
  unfold loadStart Session.startReading
  refine ReturnsAs.getBind fun s hs => ?_
  rw [hs.1]
  rcases n.get? "connection-time" with _ | ⟨_, text⟩ | ⟨_, _⟩ | ⟨_, _⟩
  · exact .pure _
  · dsimp only
    unfold Reading.size?
    rcases readSize? text with ⟨_ | digits⟩ | _ | _ | k
    · exact .pure _
    · exact fun s _ a t hrun => nomatch hrun
    · exact .pure _
    · exact .pure _
    · exact returnsAs_change (.pure _)
  · exact .pure _
  · exact .pure _

/-- A session that is opened is the one that the reading of its node gives. -/
theorem reading_of_openSession {settings : Settings} {n : Node} {s t : LoadState} {report : Report}
    (hrun : ((recording settings).openSession n).runOn s = (.ok report, t)) :
    ∃ ssn, (Session.openReading s.path n).result = .ok (ssn, report) ∧ t.session = some ssn := by
  have hparts : ReturnsAs (IsOpen s.path)
      (do
        let a ← loadProtocol n
        Load.changeSession fun s => { s with protocol := .classify s.isTls s.isH2 }
        let b ← loadStart n
        return a ++ b)
      (.blank s.path n.line) (Session.openReading s.path n) := by
    refine (returnsAs_loadProtocol n _).bind fun ssn a => ?_
    exact returnsAs_change ((returnsAs_loadStart n ssn.classified).bind fun _ _ => .pure _)
  obtain ⟨ssn, hresult, -, hssn⟩ :=
    hparts { s with session := some (.blank s.path n.line) } ⟨rfl, rfl⟩ report t hrun
  exact ⟨ssn, hresult, hssn⟩

end Handler

/-! ### What a session says of itself -/

namespace Session

/-- The protocols of a session; there are none unless they are given as a sequence. -/
def protocols (n : Node) : List Node := ((n.get? "protocol").map Node.items).getD []

/-- That the time of the connection is given as a number of nanoseconds, in digits alone, and is not
zero. -/
def RecordedStart (n : Node) (k : Nat) : Prop :=
  ∃ line text, n.get? "connection-time" = some (.scalar line text) ∧
    isDecimal pointValue? (trimmed text) = true ∧
    digitsValue ((trimmed text).filterMap pointValue?) = k ∧ 0 < k

theorem RecordedStart.unique {n : Node} {k k' : Nat} (h : RecordedStart n k)
    (h' : RecordedStart n k') : k = k' := by
  obtain ⟨line, text, hn, -, hk, -⟩ := h
  obtain ⟨line', text', hn', -, hk', -⟩ := h'
  cases hn.symm.trans hn'
  exact hk.symm.trans hk'

/-- What an opened session and its report say, by the node of the session. -/
structure Opened (n : Node) (ssn : Session) (report : Report) : Prop where
  tls : ssn.isTls = true ↔ ∃ p ∈ protocols n, OverTls p
  h2 : ssn.isH2 = true ↔ ∃ p ∈ (protocols n).takeWhile fun p => ¬ OverTls p, OverH2 p
  protocol : ssn.protocol = if ssn.isH2 then .http2 else if ssn.isTls then .tls else .plain
  serverName : ssn.serverName =
    if ssn.isTls then ((clientName? n).bind Node.scalar?).map lowerText else none
  error : (∃ note ∈ report, note.severity = .error) ↔
    ssn.isTls = true ∧ ∃ m, clientName? n = some m ∧ m.isScalar = false
  start : ∀ k, RecordedStart n k → ssn.start = (k / 1000 : Nat)
  noStart : (¬ ∃ k, RecordedStart n k) → ssn.start = 0
  warn : (∃ note ∈ report, note.severity = .warn) ↔
    (n.has "connection-time" = true ∧ ¬ ∃ k, RecordedStart n k) ∨
      ∃ m, n.get? "protocol" = some m ∧ m.isSequence = false

/-- The marks of a session follow from its protocols, and it is warned of them exactly if they are not
given as a sequence. -/
theorem protocolReading_eq {path : String} {n : Node} {ssn : Session} {p : Session × Report}
    (hp : (protocolReading path n ssn).result = .ok p) :
    p.1 = ssn.marked n (protocols n) ∧
      ((∃ note ∈ p.2, note.severity = .warn) ↔
        ∃ m, n.get? "protocol" = some m ∧ m.isSequence = false) := by
  have hbare : ssn = ssn.marked n [] := by simp [marked]
  unfold protocolReading at hp
  unfold protocols
  generalize n.get? "protocol" = given at hp ⊢
  rcases given with _ | ⟨line, text⟩ | ⟨line, ps⟩ | ⟨line, entries⟩
  · cases hp
    exact ⟨hbare, by simp⟩
  · cases hp
    exact ⟨hbare, by simp [Node.isSequence]⟩
  · rw [result_protocolsReading] at hp
    cases hp
    refine ⟨rfl, iff_of_false ?_ (by simp [Node.isSequence])⟩
    rintro ⟨note, hnote, hwarn⟩
    dsimp only at hnote
    split at hnote
    · rw [severity_clientNameReport hnote] at hwarn
      cases hwarn
    · cases hnote
  · cases hp
    exact ⟨hbare, by simp [Node.isSequence]⟩

/-- A number that is read from a text is the value of its digits. -/
theorem result_size?_eq_ok {text : Text} {k : Option Nat}
    (h : (Reading.size? text).result = .ok k) :
    k = if isDecimal pointValue? (trimmed text) then
      some (digitsValue ((trimmed text).filterMap pointValue?)) else none := by
  unfold Reading.size? readSize? readDigits at h
  by_cases hdecimal : isDecimal pointValue? (trimmed text) = true
  · by_cases hlong : maxDigits < ((trimmed text).filterMap pointValue?).length
    · simp [hdecimal, hlong, Except.map] at h
    · simpa [hdecimal, hlong, Except.map, eq_comm] using h
  · simpa [hdecimal, eq_comm] using h

/-- The start of a session follows from the time of its connection, and it is warned of the time
exactly if there is one that cannot be taken. -/
theorem startReading_eq {path : String} {n : Node} {ssn : Session} {p : Session × Report}
    (hp : (startReading path n ssn).result = .ok p) :
    (∃ k, RecordedStart n k ∧ p = ({ ssn with start := (k / 1000 : Nat) }, [])) ∨
      ((¬ ∃ k, RecordedStart n k) ∧ p.1 = ssn ∧
        ((∃ note ∈ p.2, note.severity = .warn) ↔ n.has "connection-time" = true)) := by
  unfold startReading at hp
  unfold RecordedStart Node.has
  generalize n.get? "connection-time" = given at hp ⊢
  rcases given with _ | ⟨line, text⟩ | ⟨line, ps⟩ | ⟨line, entries⟩
  · cases hp
    exact .inr ⟨by simp, rfl, by simp⟩
  · obtain ⟨k, hk, hrest⟩ := Reading.result_bind_eq_ok.mp hp
    have hvalue := result_size?_eq_ok hk
    rcases k with _ | _ | k
    · cases hrest
      refine .inr ⟨?_, rfl, by simp⟩
      rintro ⟨k, _, _, heq, hdecimal, -⟩
      cases heq
      simp [hdecimal] at hvalue
    · cases hrest
      refine .inr ⟨?_, rfl, by simp⟩
      rintro ⟨k, _, _, heq, hdecimal, hk', hpos⟩
      cases heq
      simp only [hdecimal, if_true, Option.some.injEq, hk'] at hvalue
      omega
    · cases hrest
      by_cases hdecimal : isDecimal pointValue? (trimmed text) = true
      · rw [if_pos hdecimal] at hvalue
        exact .inl ⟨k + 1,
          ⟨line, text, rfl, hdecimal, (Option.some.inj hvalue).symm, k.succ_pos⟩, rfl⟩
      · rw [if_neg hdecimal] at hvalue
        cases hvalue
  · cases hp
    exact .inr ⟨by simp, rfl, by simp⟩
  · cases hp
    exact .inr ⟨by simp, rfl, by simp⟩

theorem exists_error_iff (report : Report) :
    (∃ note ∈ report, note.severity = .error) ↔ report.ok = false := by
  simp [Report.ok]

/-- A session cannot be loaded exactly if it is over TLS and the name of its server is no scalar. -/
theorem canOpen_eq_false_iff (n : Node) :
    canOpen n = false ↔
      (∃ p ∈ protocols n, OverTls p) ∧ ∃ m, clientName? n = some m ∧ m.isScalar = false := by
  unfold canOpen protocols
  rcases n.get? "protocol" with _ | ⟨line, text⟩ | ⟨line, ps⟩ | ⟨line, entries⟩
  · simp
  · simp [Node.items]
  · dsimp only
    by_cases htls : ∃ p ∈ ps, OverTls p
    · rw [if_pos ((any_overTls_iff ps).mpr htls)]
      change (clientName? n).all Node.isScalar = false ↔ _
      cases clientName? n <;> simp [htls, Node.items]
    · rw [if_neg (mt (any_overTls_iff ps).mp htls)]
      simp [htls, Node.items]
  · simp [Node.items]

/-- What is read from a node is what an opened session says of itself. -/
theorem opened_of_openReading {path : String} {n : Node} {ssn : Session} {report : Report}
    (hp : (openReading path n).result = .ok (ssn, report)) : Opened n ssn report := by
  have herror : (∃ note ∈ report, note.severity = .error) ↔ canOpen n = false := by
    rw [exists_error_iff]
    exact iff_of_eq (congrArg (· = false) ((needs_openReading path n).2 _ hp))
  obtain ⟨⟨marks, a⟩, hprotocol, hrest⟩ := Reading.result_bind_eq_ok.mp hp
  obtain ⟨⟨_, b⟩, hstart, hpure⟩ := Reading.result_bind_eq_ok.mp hrest
  cases hpure
  obtain ⟨rfl, hwarn⟩ := protocolReading_eq hprotocol
  have hstart' := startReading_eq hstart
  -- The start is the only thing that is taken after the marks.
  have hssn : ssn = { ((blank path n.line).marked n (protocols n)).classified with
      start := ssn.start } := by
    obtain ⟨k, -, heq⟩ | ⟨-, rfl, -⟩ := hstart'
    · cases heq
      rfl
    · rfl
  have htls : ssn.isTls = true ↔ ∃ p ∈ protocols n, OverTls p := by
    rw [hssn]
    simp [classified, marked, blank]
  constructor
  · exact htls
  · rw [hssn]
    simp [classified, marked, blank]
  · rw [hssn]
    rfl
  · rw [hssn]
    simp [classified, marked, blank, clientText?]
  · rw [herror, canOpen_eq_false_iff, htls]
  · intro k hk
    obtain ⟨k', hk', heq⟩ | ⟨hnone, -, -⟩ := hstart'
    · cases heq
      rw [hk.unique hk']
    · exact absurd ⟨k, hk⟩ hnone
  · intro hnone
    obtain ⟨k, hk, -⟩ | ⟨-, hbare, -⟩ := hstart'
    · exact absurd ⟨k, hk⟩ hnone
    · rw [show ssn.start = _ from congrArg Session.start hbare]
      rfl
  · have happend : (∃ note ∈ a ++ b, note.severity = .warn) ↔
        (∃ note ∈ b, note.severity = .warn) ∨ ∃ note ∈ a, note.severity = .warn := by
      simp only [List.mem_append, or_and_right, exists_or, or_comm]
    rw [happend, hwarn]
    refine or_congr_left ?_
    obtain ⟨k, hk, heq⟩ | ⟨hnone, -, hb⟩ := hstart'
    · cases heq
      exact iff_of_false (by simp) fun h => h.2 ⟨k, hk⟩
    · exact hb.trans (and_iff_left hnone).symm

end Session

namespace Handler

/-- Where names can be added and the load lock is free, a session is opened as its reading says. -/
theorem openSession_of_openReading (settings : Settings) {n : Node} {s : LoadState}
    (hnames : s.run.names.frozen = false) (hlock : s.run.locked = false) {p : Session × Report}
    (hp : (Session.openReading s.path n).result = .ok p) :
    ∃ t, ((recording settings).openSession n).runOn s = (.ok p.2, t) := by
  obtain ⟨ssn, hopen, -⟩ := @runOn_openSession s settings hnames hlock n
  rw [hp] at hopen
  exact ⟨_, hopen⟩

/-- **Opened sessions.** In whatever state a session is opened, if it is opened then it says of
itself what its node says.  Where names can be added and the load lock is free, it is opened exactly
if the time of the connection is no number of too many digits. -/
theorem openSession_classifies (settings : Settings) (n : Node) (s : LoadState) :
    (∀ report t, ((recording settings).openSession n).runOn s = (.ok report, t) →
      ∃ ssn, t.session = some ssn ∧ Session.Opened n ssn report) ∧
    (s.run.names.frozen = false → s.run.locked = false →
      ((∃ report t, ((recording settings).openSession n).runOn s = (.ok report, t)) ↔
        ∀ text ∈ Session.startTexts n, ShortNumber text)) := by
  constructor
  · intro report t hrun
    obtain ⟨ssn, hresult, hssn⟩ := reading_of_openSession hrun
    exact ⟨ssn, hssn, Session.opened_of_openReading hresult⟩
  · intro hnames hlock
    have hneeds : (∃ p, (Session.openReading s.path n).result = .ok p) ↔ _ :=
      (Session.needs_openReading s.path n).1
    rw [List.forall_mem_map] at hneeds
    refine .trans ?_ hneeds
    constructor
    · rintro ⟨report, t, hrun⟩
      obtain ⟨ssn, hresult, -⟩ := reading_of_openSession hrun
      exact ⟨_, hresult⟩
    · rintro ⟨p, hp⟩
      obtain ⟨t, hrun⟩ := openSession_of_openReading settings hnames hlock hp
      exact ⟨p.2, t, hrun⟩

/-- A session with protocols in front of the first one over TLS and behind it. -/
def mixedOpening : Node :=
  .mapping 2
    [(.scalar 2 "protocol", .sequence 2 [.scalar 2 "tcp", .scalar 2 "TLSv1.3", .scalar 2 "h2"]),
     (.scalar 3 "tls", .mapping 3 [(.scalar 3 "client-sni", .scalar 3 "WWW.Example.COM")]),
     (.scalar 4 "connection-time", .scalar 4 " 1500 ")]

/-- The second version of the protocol does not count behind one over TLS, and the start is cut to
microseconds. -/
theorem openSession_classifies_mixed :
    ∃ report t ssn,
      ((recording .default).openSession mixedOpening).runOn (.start .empty "a.yaml") =
        (.ok report, t) ∧ t.session = some ssn ∧ ssn.protocol = .tls ∧
      ssn.serverName = some ("www.example.com" : Text) ∧ ssn.start = 1 := by
  obtain ⟨hopened, hreturns⟩ :=
    openSession_classifies .default mixedOpening (.start .empty "a.yaml")
  obtain ⟨report, t, hrun⟩ := (hreturns rfl rfl).mpr (by decide)
  obtain ⟨ssn, hssn, h⟩ := hopened report t hrun
  have htls : ssn.isTls = true := h.tls.mpr (by decide)
  have hh2 : ssn.isH2 = false := by
    rw [← Bool.not_eq_true, h.h2]
    decide
  refine ⟨report, t, ssn, hrun, hssn, ?_, ?_, ?_⟩
  · rw [h.protocol, hh2, htls]
    rfl
  · rw [h.serverName, htls]
    decide
  · exact h.start 1500 ⟨4, " 1500 ", rfl, by decide, by decide, by decide⟩

end Handler

end TrafficReplay
