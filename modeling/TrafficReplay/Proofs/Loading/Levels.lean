import TrafficReplay.Proofs.Loading.SideBySide
import TrafficReplay.Proofs.Yaml.Unfolding

/-!
# The levels of a document that are looked at

A loader goes down a document by keys and items, and stops at the scalars of field lists: the root,
its sessions, a session, its transactions, a transaction, a section, its headers, their list, an
entry, a name.  What is below these ten levels makes no difference.  So a document with a node that
has no end has been read often enough when it has been read again ten times.

* `Yaml.Node.Alike.get?_cases`: what nodes have under a key if they are the same down to some level;
* `FileReading.ofDocument_congr`: what documents come to that are the same down to ten levels;
* `RunState.loadDocument_composeIn`: further readings of a document do not change its load.
-/

namespace TrafficReplay
open TrafficReplay.Yaml TrafficReplay.Text

/-! ### One level -/

namespace Yaml.Node.Alike

variable {k : Nat} {n n' : Node}

theorem layer (h : Alike (k + 1) n n') : Layer (Alike k) n n' := h

theorem line_eq (h : Alike (k + 1) n n') : n.line = n'.line := by
  cases h.layer <;> rfl

theorem scalar?_eq (h : Alike (k + 1) n n') : n.scalar? = n'.scalar? := by
  cases h.layer <;> rfl

theorem text_eq (h : Alike (k + 1) n n') : n.text = n'.text := by
  rw [text, text, h.scalar?_eq]

theorem isMapping_eq (h : Alike (k + 1) n n') : n.isMapping = n'.isMapping := by
  cases h.layer <;> rfl

theorem isSequence_eq (h : Alike (k + 1) n n') : n.isSequence = n'.isSequence := by
  cases h.layer <;> rfl

theorem items (h : Alike (k + 1) n n') : List.Forall₂ (Alike k) n.items n'.items := by
  cases h.layer with
  | scalar => exact .nil
  | sequence _ hns => exact hns
  | mapping => exact .nil

theorem map_items_eq {α : Type} (h : Alike (k + 1) n n') {f : Node → α}
    (hf : ∀ m m', Alike k m m' → f m = f m') : n.items.map f = n'.items.map f := by
  have hitems := h.items
  generalize n.items = ns at hitems ⊢
  generalize n'.items = ns' at hitems ⊢
  induction hitems with
  | nil => rfl
  | cons hm _ ih => rw [List.map_cons, List.map_cons, hf _ _ hm, ih]

theorem entries (h : Alike (k + 1) n n') :
    List.Forall₂ (PairAlike (Alike k)) n.entries n'.entries := by
  cases h.layer with
  | scalar => exact .nil
  | sequence => exact .nil
  | mapping _ hes => exact hes

/-- Under a key there is nothing in both nodes, or there are nodes that are the same down to one
level less. -/
theorem get?_cases (h : Alike (k + 2) n n') (key : Text) :
    (n.get? key = none ∧ n'.get? key = none) ∨
      ∃ m m', n.get? key = some m ∧ n'.get? key = some m' ∧ Alike (k + 1) m m' := by
  have hentries := h.entries
  unfold get?
  generalize n.entries = es at hentries ⊢
  generalize n'.entries = es' at hentries ⊢
  induction hentries with
  | nil => exact .inl ⟨rfl, rfl⟩
  | @cons e e' es es' he _ ih =>
    obtain ⟨hkey, hvalue⟩ := he
    unfold lookup
    rw [hkey.scalar?_eq]
    split
    · exact .inr ⟨e.2, e'.2, rfl, rfl, hvalue⟩
    · exact ih

theorem get?_bind_eq {α : Type} (h : Alike (k + 2) n n') (key : Text) {f : Node → Option α}
    (hf : ∀ m m', Alike (k + 1) m m' → f m = f m') :
    (n.get? key).bind f = (n'.get? key).bind f := by
  obtain ⟨hn, hn'⟩ | ⟨m, m', hn, hn', hm⟩ := h.get?_cases key
  · rw [hn, hn']
  · rw [hn, hn']
    exact hf m m' hm

theorem has_eq (h : Alike (k + 2) n n') (key : Text) : n.has key = n'.has key := by
  unfold has
  obtain ⟨hn, hn'⟩ | ⟨m, m', hn, hn', -⟩ := h.get?_cases key
  · rw [hn, hn']
  · rw [hn, hn']
    rfl

end Yaml.Node.Alike

open Yaml.Node (Alike)

variable {k : Nat} {n n' : Node}

/-! ### Field lists -/

theorem Entry.ofNode_congr (h : Alike (k + 2) n n') : ofNode n = ofNode n' := by
  have htexts : n.items.mapM Node.scalar? = n'.items.mapM Node.scalar? := by
    have hscalars := h.map_items_eq fun _ _ => Alike.scalar?_eq
    have hsplit (ns : List Node) : ns.mapM Node.scalar? = (ns.map Node.scalar?).mapM id :=
      (List.mapM_map (f := Node.scalar?) (g := id)).symm
    rw [hsplit, hsplit, hscalars]
  rw [ofNode, ofNode, htexts, h.line_eq]

namespace LoadedFields

theorem ofNode_congr (path : String) (h : Alike (k + 3) n n') : ofNode path n = ofNode path n' := by
  have hentries := h.map_items_eq fun _ _ => Entry.ofNode_congr
  rw [ofNode, ofNode, h.isSequence_eq, hentries, h.line_eq]

theorem ofHeaders_congr (path : String) (h : Alike (k + 5) n n') :
    ofHeaders path n = ofHeaders path n' := by
  unfold ofHeaders
  obtain ⟨hn, hn'⟩ | ⟨m, m', hn, hn', hm⟩ := h.get?_cases "headers"
  · rw [hn, hn']
  rw [hn, hn']
  dsimp only
  obtain ⟨hm₁, hm₁'⟩ | ⟨l, l', hm₁, hm₁', hl⟩ := hm.get?_cases "fields"
  · rw [hm₁, hm₁', hm.line_eq]
  · rw [hm₁, hm₁']
    exact ofNode_congr path hl

theorem ofRules_congr (path : String) (h : Alike (k + 4) n n') : ofRules path n = ofRules path n' := by
  unfold ofRules
  obtain ⟨hn, hn'⟩ | ⟨l, l', hn, hn', hl⟩ := h.get?_cases "fields"
  · rw [hn, hn', h.line_eq]
  · rw [hn, hn']
    dsimp only
    rw [ofNode_congr path hl]

theorem ofAll_congr (path : String) (h : Alike (k + 6) n n') : ofAll path n = ofAll path n' := by
  unfold ofAll
  obtain ⟨hn, hn'⟩ | ⟨m, m', hn, hn', hm⟩ := h.get?_cases "all"
  · rw [hn, hn']
  rw [hn, hn']
  dsimp only
  obtain ⟨hm₁, hm₁'⟩ | ⟨l, l', hm₁, hm₁', hl⟩ := hm.get?_cases "headers"
  · rw [hm₁, hm₁', hm.line_eq]
  · rw [hm₁, hm₁']
    exact ofRules_congr path hl

end LoadedFields

/-! ### Messages -/

namespace Request

theorem loadPart_congr (r : Request) (path : String) (h : Alike (k + 2) n n') (p : Part) :
    r.loadPart path n p = r.loadPart path n' p := by
  unfold loadPart
  obtain ⟨hn, hn'⟩ | ⟨m, m', hn, hn', hm⟩ := h.get?_cases p.name
  · rw [hn, hn']
  · rw [hn, hn']
    cases hm.layer <;> rfl

theorem loadLine_congr (r : Request) (path : String) (h : Alike (k + 2) n n') :
    r.loadLine path n = r.loadLine path n' := by
  unfold loadLine
  simp only [loadPart_congr _ path h, h.line_eq]

theorem contentBlockReading_congr (path : String) (h : Alike (k + 2) n n') (r : Request) :
    contentBlockReading path n r = contentBlockReading path n' r := by
  have hdata := h.get?_bind_eq "data" fun _ _ => Alike.scalar?_eq
  unfold contentBlockReading
  rw [hdata]
  cases (n'.get? "data").bind Node.scalar? with
  | some data => rfl
  | none =>
    obtain ⟨hn, hn'⟩ | ⟨m, m', hn, hn', hm⟩ := h.get?_cases "size"
    · rw [hn, hn']
    · rw [hn, hn']
      simp only [hm.text_eq, hm.line_eq]

theorem contentReading_congr (path : String) (h : Alike (k + 3) n n') (r : Request) :
    contentReading path n r = contentReading path n' r := by
  unfold contentReading
  obtain ⟨hn, hn'⟩ | ⟨m, m', hn, hn', hm⟩ := h.get?_cases "content"
  · rw [hn, hn', h.line_eq]
  · rw [hn, hn']
    exact contentBlockReading_congr path hm r

theorem reading_congr (path : String) (h : Alike (k + 5) n n') (r : Request) :
    reading path n r = reading path n' r := by
  unfold reading
  simp only [loadLine_congr r path h, LoadedFields.ofHeaders_congr path h, contentReading_congr path h]

end Request

namespace Response

theorem statusReading_congr (path : String) (h : Alike (k + 2) n n') (r : Response) :
    statusReading path n r = statusReading path n' r := by
  unfold statusReading
  obtain ⟨hn, hn'⟩ | ⟨m, m', hn, hn', hm⟩ := h.get?_cases "status"
  · rw [hn, hn', h.line_eq]
  · rw [hn, hn']
    simp only [loadStatus.invalid, hm.text_eq, hm.line_eq]

theorem reading_congr (path : String) (h : Alike (k + 5) n n') (r : Response) :
    reading path n r = reading path n' r := by
  have hreason (r : Response) : r.withReason n = r.withReason n' := by
    rw [withReason, withReason, h.get?_bind_eq "reason" fun _ _ => Alike.scalar?_eq]
  unfold reading
  simp only [statusReading_congr path h, h.line_eq, LoadedFields.ofHeaders_congr path h, hreason]

end Response

/-! ### Transactions -/

namespace Transaction
open Handler (Section)

variable {c : ReadingContext}

theorem mapReading_congr (s : Section) (h : Alike (k + 5) n n') (t : Transaction) :
    mapReading c s n t = mapReading c s n' t := by
  unfold mapReading
  simp only [Request.reading_congr c.path h, Response.reading_congr c.path h]

theorem sectionReading_congr (h : Alike (k + 6) n n') (t : Transaction) (s : Section) :
    sectionReading c n t s = sectionReading c n' t s := by
  unfold sectionReading
  obtain ⟨hn, hn'⟩ | ⟨m, m', hn, hn', hm⟩ := h.get?_cases s.key
  · rw [hn, hn']
  · rw [hn, hn']
    simp only [hm.isMapping_eq, hm.line_eq, mapReading_congr s hm]

theorem sectionsReading_congr (h : Alike (k + 6) n n') (t : Transaction) (ss : List Section) :
    sectionsReading c n t ss = sectionsReading c n' t ss := by
  induction ss generalizing t with
  | nil => rfl
  | cons s ss ih => simp only [sectionsReading, sectionReading_congr h, ih]

theorem reading_congr (h : Alike (k + 6) n n') : reading c n = reading c n' := by
  have hmissing (mode : RunMode) :
      Handler.missingSections mode c.path n = Handler.missingSections mode c.path n' := by
    unfold Handler.missingSections
    simp only [h.has_eq, h.line_eq]
  have hcontents : contentsReading c n = contentsReading c n' := by
    unfold contentsReading
    simp only [sectionsReading_congr h, LoadedFields.ofAll_congr c.path h, h.line_eq]
  unfold reading
  simp only [h.isMapping_eq, h.line_eq, hmissing, hcontents]

theorem readings_congr {ns ns' : List Node} (h : List.Forall₂ (Alike (k + 6)) ns ns') :
    readings c ns = readings c ns' := by
  induction h with
  | nil => rfl
  | cons hn _ ih => rw [readings, readings, reading_congr hn, ih]

end Transaction

/-! ### Sessions -/

namespace Session

theorem serverNameReading_congr (path : String) (h : Alike (k + 3) n n') (ssn : Session) :
    serverNameReading path n ssn = serverNameReading path n' ssn := by
  unfold serverNameReading
  obtain ⟨hn, hn'⟩ | ⟨m, m', hn, hn', hm⟩ := h.get?_cases "tls"
  · rw [hn, hn']
  rw [hn, hn', Option.bind_some, Option.bind_some]
  obtain ⟨hm₁, hm₁'⟩ | ⟨l, l', hm₁, hm₁', hl⟩ := hm.get?_cases "client-sni"
  · rw [hm₁, hm₁']
  · rw [hm₁, hm₁']
    cases hl.layer <;> rfl

theorem protocolsReading_congr (path : String) (h : Alike (k + 3) n n') {ps ps' : List Node}
    (hps : List.Forall₂ (Alike (k + 1)) ps ps') (ssn : Session) :
    protocolsReading path n ps ssn = protocolsReading path n' ps' ssn := by
  induction hps generalizing ssn with
  | nil => rfl
  | cons hp _ ih => simp only [protocolsReading, hp.text_eq, serverNameReading_congr path h, ih]

theorem protocolReading_congr (path : String) (h : Alike (k + 3) n n') (ssn : Session) :
    protocolReading path n ssn = protocolReading path n' ssn := by
  unfold protocolReading
  obtain ⟨hn, hn'⟩ | ⟨m, m', hn, hn', hm⟩ := h.get?_cases "protocol"
  · rw [hn, hn', h.line_eq]
  rw [hn, hn', h.line_eq]
  cases hm.layer with
  | scalar => rfl
  | sequence _ hps => exact protocolsReading_congr path h hps ssn
  | mapping => rfl

theorem startReading_congr (path : String) (h : Alike (k + 2) n n') (ssn : Session) :
    startReading path n ssn = startReading path n' ssn := by
  unfold startReading
  obtain ⟨hn, hn'⟩ | ⟨m, m', hn, hn', hm⟩ := h.get?_cases "connection-time"
  · rw [hn, hn']
  rw [hn, hn', h.line_eq]
  cases hm.layer <;> rfl

theorem openReading_congr (path : String) (h : Alike (k + 3) n n') :
    openReading path n = openReading path n' := by
  unfold openReading
  simp only [protocolReading_congr path h, startReading_congr path h, h.line_eq]

theorem transactionsReading_congr (c : ReadingContext) (h : Alike (k + 8) n n') (ssn : Session) :
    transactionsReading c n ssn = transactionsReading c n' ssn := by
  unfold transactionsReading
  obtain ⟨hn, hn'⟩ | ⟨m, m', hn, hn', hm⟩ := h.get?_cases "transactions"
  · rw [hn, hn', h.line_eq]
  rw [hn, hn', h.line_eq]
  cases hm.layer with
  | scalar => rfl
  | sequence _ hts =>
    dsimp only
    rw [Transaction.readings_congr hts]
  | mapping => rfl

theorem reading_congr (c : ReadingContext) (h : Alike (k + 8) n n') : reading c n = reading c n' := by
  unfold reading contentsReading
  simp only [h.isMapping_eq, h.line_eq, openReading_congr c.path h,
    transactionsReading_congr c h]

end Session

/-! ### Documents -/

namespace FileReading

theorem ofSessions_congr (c : ReadingContext) {ns ns' : List Node}
    (h : List.Forall₂ (Alike (k + 8)) ns ns') : ofSessions c ns = ofSessions c ns' := by
  induction h with
  | nil => rfl
  | cons hn _ ih => rw [ofSessions, ofSessions, Session.reading_congr c hn, ih]

theorem globalBlock_congr (path : String) (h : Alike (k + 6) n n') :
    globalBlock path n = globalBlock path n' := by
  unfold globalBlock
  obtain ⟨hn, hn'⟩ | ⟨m, m', hn, hn', hm⟩ := h.get?_cases "meta"
  · rw [hn, hn']
  rw [hn, hn', Option.bind_some, Option.bind_some]
  obtain ⟨hm₁, hm₁'⟩ | ⟨l, l', hm₁, hm₁', hl⟩ := hm.get?_cases "global-field-rules"
  · rw [hm₁, hm₁']
  · rw [hm₁, hm₁']
    exact LoadedFields.ofRules_congr path hl

/-- Ten levels of a document are looked at. -/
theorem ofDocument_congr (c : ReadingContext) {root root' : Option Node}
    (h : Option.Rel (Alike 10) root root') : ofDocument c root = ofDocument c root' := by
  cases h with
  | none => rfl
  | @some n n' h =>
    have hblock := globalBlock_congr c.path h
    have hadded : addedRules c.path n = addedRules c.path n' := by
      rw [addedRules, addedRules, hblock]
    have hsessions := h.get?_cases "sessions"
    cases h.layer with
    | scalar => rfl
    | sequence => rfl
    | mapping line hes =>
      unfold ofDocument
      dsimp only
      rw [hblock, hadded]
      obtain ⟨hn, hn'⟩ | ⟨m, m', hn, hn', hm⟩ := hsessions
      · rw [hn, hn']
      rw [hn, hn']
      cases hm.layer with
      | scalar => rfl
      | sequence _ hns =>
        dsimp only
        rw [ofSessions_congr _ hns]
      | mapping => rfl

end FileReading

namespace RunState

/-- Documents that are the same down to ten levels are loaded alike. -/
theorem loadDocument_congr {run : RunState} (hrun : run.Loading) (settings : Settings)
    (path : String) {root root' : Option Node} (h : Option.Rel (Alike 10) root root') :
    run.loadDocument settings path root = run.loadDocument settings path root' := by
  rw [loadDocument_eq hrun, loadDocument_eq hrun, FileReading.ofDocument_congr _ h]

/-- **Documents are read often enough.** If a document is read again at most some other number of
times, but that is ten at least, then there is the same fault, or its load is the same. -/
theorem loadDocument_composeIn {times : Nat} (h : 10 ≤ times) (source : Source) :
    SameOutcome (fun root root' => ∀ run : RunState, run.Loading → ∀ settings path,
        run.loadDocument settings path root = run.loadDocument settings path root')
      (composeIn times source) (compose source) := by
  have htimes := composeIn_alike h source
  have hunfoldings := composeIn_alike (n := unfoldings) (by decide : 10 ≤ unfoldings) source
  rw [compose_eq_composeIn]
  generalize composeIn 10 source = x at htimes hunfoldings
  generalize composeIn times source = y at htimes ⊢
  generalize composeIn unfoldings source = z at hunfoldings ⊢
  cases htimes with
  | error f =>
    cases hunfoldings with
    | error => exact .error f
  | ok h₁ =>
    cases hunfoldings with
    | ok h₂ =>
      refine .ok fun run hrun settings path => ?_
      rw [← loadDocument_congr hrun settings path h₁,
        loadDocument_congr hrun settings path h₂]

end RunState

end TrafficReplay
