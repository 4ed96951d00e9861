import Mathlib.Data.List.Forall2
import TrafficReplay.Proofs.Loading.InTurn
import TrafficReplay.Proofs.Loading.Related

/-!
# Documents side by side

Two documents that are the same but for the nodes of their transactions are loaded with two settings.
If corresponding nodes come to the same transactions, or if one of the settings leaves some of them
out, then so it is with the documents: nothing else in a document depends on the settings or on the
nodes of transactions.

* `Yaml.Node.DocumentsAlike`: documents that are the same but for the nodes of transactions;
* `Transaction.Agree`: what is asked of corresponding nodes;
* `FileReading.agree_ofDocument`: what follows for documents;
* `RunState.loadDocument`: the load of a document into a run.
-/

namespace TrafficReplay

/-! ### Nodes -/

namespace Yaml.Node

/-- Nodes that are the same but for the items of a sequence, which correspond. -/
inductive ItemsAlike (R : Node → Node → Prop) : Node → Node → Prop
  | scalar (line : Nat) (s : Text) : ItemsAlike R (.scalar line s) (.scalar line s)
  | mapping (line : Nat) (es : List (Node × Node)) :
    ItemsAlike R (.mapping line es) (.mapping line es)
  | sequence (line : Nat) {ns ns' : List Node} (h : List.Forall₂ R ns ns') :
    ItemsAlike R (.sequence line ns) (.sequence line ns')

/-- Entries with one key and one value, but that under `key` the items of the value correspond. -/
def EntriesAlike (key : Text) (R : Node → Node → Prop) (e e' : Node × Node) : Prop :=
  e'.1 = e.1 ∧ if e.1.scalar? = some key then ItemsAlike R e.2 e'.2 else e'.2 = e.2

/-- Nodes that are the same but for the items of what a mapping has under `key`, which
correspond. -/
inductive AlikeUnder (key : Text) (R : Node → Node → Prop) : Node → Node → Prop
  | scalar (line : Nat) (s : Text) : AlikeUnder key R (.scalar line s) (.scalar line s)
  | sequence (line : Nat) (ns : List Node) :
    AlikeUnder key R (.sequence line ns) (.sequence line ns)
  | mapping (line : Nat) {es es' : List (Node × Node)}
    (h : List.Forall₂ (EntriesAlike key R) es es') :
    AlikeUnder key R (.mapping line es) (.mapping line es')

/-- Documents that are the same but for the nodes of their transactions, which correspond. -/
def DocumentsAlike (R : Node → Node → Prop) : Option Node → Option Node → Prop :=
  Option.Rel (AlikeUnder "sessions" (AlikeUnder "transactions" R))

variable {key : Text} {R : Node → Node → Prop} {n n' : Node}

theorem ItemsAlike.refl (hR : ∀ n, R n n) : ∀ n, ItemsAlike R n n
  | .scalar line s => .scalar line s
  | .sequence line _ => .sequence line (List.forall₂_same.mpr fun n _ => hR n)
  | .mapping line es => .mapping line es

theorem AlikeUnder.refl (hR : ∀ n, R n n) : ∀ n, AlikeUnder key R n n
  | .scalar line s => .scalar line s
  | .sequence line ns => .sequence line ns
  | .mapping line _ => by
    refine .mapping line (List.forall₂_same.mpr fun e _ => ⟨rfl, ?_⟩)
    split
    · exact ItemsAlike.refl hR e.2
    · rfl

theorem DocumentsAlike.refl (hR : ∀ n, R n n) : ∀ root, DocumentsAlike R root root
  | none => .none
  | some n => .some (AlikeUnder.refl (AlikeUnder.refl hR) n)

theorem AlikeUnder.line_eq (h : AlikeUnder key R n n') : n'.line = n.line := by
  cases h <;> rfl

theorem AlikeUnder.isMapping_eq (h : AlikeUnder key R n n') : n'.isMapping = n.isMapping := by
  cases h <;> rfl

/-- Under all other keys there is the same. -/
theorem EntriesAlike.lookup_of_ne {es es' : List (Node × Node)}
    (h : List.Forall₂ (EntriesAlike key R) es es') {k : Text} (hk : k ≠ key) :
    lookup k es' = lookup k es := by
  induction h with
  | nil => rfl
  | @cons e e' es es' he _ ih =>
    obtain ⟨hkey, hvalue⟩ := he
    unfold lookup
    rw [hkey]
    by_cases hfound : e.1.scalar? = some k
    · have hother : ¬ e.1.scalar? = some key := fun h => hk (Option.some.inj (hfound.symm.trans h))
      rw [if_neg hother] at hvalue
      rw [if_pos hfound, if_pos hfound, hvalue]
    · rw [if_neg hfound, if_neg hfound]
      exact ih

/-- Under the key itself the items correspond. -/
theorem EntriesAlike.lookup_self {es es' : List (Node × Node)}
    (h : List.Forall₂ (EntriesAlike key R) es es') :
    Option.Rel (ItemsAlike R) (lookup key es) (lookup key es') := by
  induction h with
  | nil => exact .none
  | @cons e e' es es' he _ ih =>
    obtain ⟨hkey, hvalue⟩ := he
    unfold lookup
    rw [hkey]
    by_cases hfound : e.1.scalar? = some key
    · rw [if_pos hfound] at hvalue
      rw [if_pos hfound, if_pos hfound]
      exact .some hvalue
    · rw [if_neg hfound, if_neg hfound]
      exact ih

theorem AlikeUnder.get?_of_ne (h : AlikeUnder key R n n') {k : Text} (hk : k ≠ key) :
    n'.get? k = n.get? k := by
  cases h with
  | scalar => rfl
  | sequence => rfl
  | mapping _ hes => exact EntriesAlike.lookup_of_ne hes hk

theorem AlikeUnder.get?_self (h : AlikeUnder key R n n') :
    Option.Rel (ItemsAlike R) (n.get? key) (n'.get? key) := by
  cases h with
  | scalar => exact .none
  | sequence => exact .none
  | mapping _ hes => exact EntriesAlike.lookup_self hes

end Yaml.Node

open Yaml (Node)
open Reading (Related)

/-! ### Transactions -/

/-- Keeping everything changes nothing. -/
theorem keep_all {α : Type} (o : Option α) : o.filter (fun _ => true) = o := by
  cases o <;> rfl

/-- What is asked of the nodes of transactions that correspond, with two settings: with the first
settings a node comes to the transaction that the other node comes to with the second ones, if `kept`
holds of it, and to none otherwise.  If `exact` holds, none is left out, and the reports are the
same. -/
structure Transaction.Agree (settings settings' : Settings) (R : Node → Node → Prop)
    (kept : Transaction → Bool) (exact : Prop) : Prop where
  related : ∀ path rules n n', R n n' →
    Related (fun p q => p.1 = q.1.filter kept ∧ (exact → p.2 = q.2))
      (reading ⟨settings, path, rules⟩ n) (reading ⟨settings', path, rules⟩ n')
  all : exact → ∀ t, kept t = true

namespace Session

/-- A session with only those of its transactions that `kept` holds of. -/
def keep (kept : Transaction → Bool) (ssn : Session) : Session :=
  { ssn with transactions := ssn.transactions.filter kept }

/-- Sessions with only those of their transactions that `kept` holds of, without the sessions that
have none left. -/
def thinned (kept : Transaction → Bool) (ssns : List Session) : List Session :=
  (ssns.map (keep kept)).filter fun ssn => !ssn.transactions.isEmpty

variable {kept : Transaction → Bool}

@[simp] theorem thinned_append (ssns ssns' : List Session) :
    thinned kept (ssns ++ ssns') = thinned kept ssns ++ thinned kept ssns' := by
  simp [thinned]

theorem keep_eq_self (h : ∀ t, kept t = true) (ssn : Session) : ssn.keep kept = ssn := by
  rw [keep, List.filter_eq_self.mpr fun t _ => h t]

theorem keep_of_nil {ssn : Session} (h : ssn.transactions = []) : ssn.keep kept = ssn := by
  obtain ⟨_, _, _, _, _, _, _, _⟩ := ssn
  cases h
  rfl

theorem thinned_eq_self (h : ∀ t, kept t = true) {ssns : List Session}
    (hssns : ∀ ssn ∈ ssns, ssn.transactions ≠ []) : thinned kept ssns = ssns := by
  have hkeep : ssns.map (keep kept) = ssns := List.map_id'' (keep_eq_self h) ssns
  rw [thinned, hkeep, List.filter_eq_self]
  intro ssn hssn
  simpa using hssns ssn hssn

theorem toList_registered_keep (ssn : Session) :
    (ssn.keep kept).registered.toList = thinned kept ssn.registered.toList := by
  unfold registered
  by_cases h : ssn.transactions = []
  · simp [keep_of_nil h, h, thinned]
  · by_cases hkeep : (ssn.keep kept).transactions = []
    · simp [h, hkeep, thinned]
    · simp [h, hkeep, thinned]

theorem transactions_ne_nil_of_registered {ssn ssn' : Session} (h : ssn' ∈ ssn.registered) :
    ssn'.transactions ≠ [] := by
  unfold registered at h
  split at h
  · cases h
  · rename_i hne
    cases h
    simpa using hne

end Session

variable {settings settings' : Settings} {R : Node → Node → Prop} {kept : Transaction → Bool}
  {exact : Prop}

namespace Transaction

/-- Nodes of transactions that come to the same until their transactions are closed. -/
structure NodesAgree (c c' : ReadingContext) (n n' : Node) : Prop where
  isMapping : n.isMapping = n'.isMapping
  opened : (Handler.missingSections c.settings.mode c.path n).ok =
    (Handler.missingSections c'.settings.mode c'.path n').ok
  sections : Related (fun p q => p.1 = q.1 ∧ p.2.2 = q.2.2)
    (sectionsReading c n (.blank c.settings.strict) Handler.Section.all)
    (sectionsReading c' n' (.blank c'.settings.strict) Handler.Section.all)
  all : LoadedFields.ofAll c.path n = LoadedFields.ofAll c'.path n'

theorem NodesAgree.related {c c' : ReadingContext} {n n' : Node} (h : NodesAgree c c' n n')
    (hclosed : ∀ t, (closed c t).1 = (closed c' t).1.filter kept) :
    Related (fun p q => p.1 = q.1.filter kept) (reading c n) (reading c' n') := by
  have hcontents : Related (fun p q => p.1 = q.1.filter kept)
      (contentsReading c n) (contentsReading c' n') := by
    unfold contentsReading
    rw [h.all]
    refine h.sections.bind ?_
    rintro ⟨t, a, bad⟩ ⟨_, a', _⟩ ⟨rfl, rfl⟩
    refine Related.learnBind ?_
    dsimp only
    split
    · exact .pure rfl
    · exact .pure (hclosed _)
  unfold reading
  dsimp only
  rw [h.isMapping, h.opened]
  split
  · exact .pure rfl
  · split
    · exact hcontents.bind fun _ _ hclosed => .pure hclosed
    · exact .pure rfl

theorem Agree.readings (h : Agree settings settings' R kept exact) (path : String)
    (rules : RuleSet) {ns ns' : List Node} (hns : List.Forall₂ R ns ns') :
    Related (fun p q => p.1 = q.1.filter kept ∧ (exact → p.2 = q.2))
      (readings ⟨settings, path, rules⟩ ns) (readings ⟨settings', path, rules⟩ ns') := by
  induction hns with
  | nil => exact .pure ⟨rfl, fun _ => rfl⟩
  | cons hn _ ih =>
    refine (h.related path rules _ _ hn).bind ?_
    rintro ⟨t, a⟩ ⟨t', a'⟩ ⟨rfl, hfirst⟩
    refine ih.bind ?_
    rintro ⟨ts, b⟩ ⟨ts', b'⟩ ⟨rfl, hrest⟩
    refine .pure ⟨?_, fun hexact => ?_⟩
    · simp [Option.toList_filter]
    · exact congrArg₂ (· ++ ·) (hfirst hexact) (hrest hexact)

end Transaction

/-! ### Sessions -/

namespace Session

variable {n n' : Node}

theorem openReading_eq (h : n.AlikeUnder "transactions" R n') (path : String) :
    openReading path n' = openReading path n := by
  have hserver (ssn : Session) : serverNameReading path n' ssn = serverNameReading path n ssn := by
    unfold serverNameReading
    rw [h.get?_of_ne (by decide)]
  have hprotocols (ps : List Node) (ssn : Session) :
      protocolsReading path n' ps ssn = protocolsReading path n ps ssn := by
    induction ps generalizing ssn with
    | nil => rfl
    | cons p ps ih => simp only [protocolsReading, hserver, ih]
  have hprotocol (ssn : Session) : protocolReading path n' ssn = protocolReading path n ssn := by
    unfold protocolReading
    simp only [h.get?_of_ne (k := "protocol") (by decide), h.line_eq, hprotocols]
  have hstart (ssn : Session) : startReading path n' ssn = startReading path n ssn := by
    unfold startReading
    rw [h.get?_of_ne (by decide), h.line_eq]
  unfold openReading
  simp only [hprotocol, hstart, h.line_eq]

theorem agree_transactionsReading (h : Transaction.Agree settings settings' R kept exact)
    (path : String) (rules : RuleSet) (hn : n.AlikeUnder "transactions" R n') {ssn : Session}
    (hssn : ssn.transactions = []) :
    Related (fun p q => p.1 = q.1.keep kept ∧ (exact → p.2 = q.2))
      (transactionsReading ⟨settings, path, rules⟩ n ssn)
      (transactionsReading ⟨settings', path, rules⟩ n' ssn) := by
  have hsame := @keep_of_nil kept ssn hssn
  have hvalue := hn.get?_self
  unfold transactionsReading
  rw [hn.line_eq]
  generalize n.get? "transactions" = value at hvalue ⊢
  generalize n'.get? "transactions" = value' at hvalue ⊢
  cases hvalue with
  | none => exact .pure ⟨hsame.symm, fun _ => rfl⟩
  | some hitems =>
    cases hitems with
    | scalar => exact .pure ⟨hsame.symm, fun _ => rfl⟩
    | mapping => exact .pure ⟨hsame.symm, fun _ => rfl⟩
    | sequence line hns =>
      refine (h.readings path rules hns).bind ?_
      rintro ⟨ts, a⟩ ⟨ts', a'⟩ ⟨rfl, ha⟩
      refine .pure ⟨?_, ha⟩
      simp [keep, hssn]

theorem agree_contentsReading (h : Transaction.Agree settings settings' R kept exact)
    (path : String) (rules : RuleSet) (hn : n.AlikeUnder "transactions" R n') :
    Related (fun p q => p.1 = q.1.keep kept ∧ (exact → p.2 = q.2))
      (contentsReading ⟨settings, path, rules⟩ n) (contentsReading ⟨settings', path, rules⟩ n') := by
  have hopen : Related (fun p q => q = p ∧ p.1.transactions = [])
      (openReading path n) (openReading path n') := by
    rw [openReading_eq hn]
    exact .refl _ fun _ hp => ⟨rfl, transactions_openReading hp⟩
  refine hopen.bind ?_
  rintro ⟨ssn, a⟩ _ ⟨rfl, hssn⟩
  dsimp only
  split
  · refine (agree_transactionsReading h path rules hn hssn).bind ?_
    rintro ⟨ssn', b⟩ ⟨ssn'', b'⟩ ⟨rfl, hb⟩
    exact .pure ⟨rfl, fun hexact => congrArg (a ++ ·) (hb hexact)⟩
  · exact .pure ⟨(keep_of_nil hssn).symm, fun _ => rfl⟩

/-- The nodes of sessions that are the same but for corresponding nodes of transactions come to the
same sessions, but for the transactions that are left out. -/
theorem agree_reading (h : Transaction.Agree settings settings' R kept exact) (path : String)
    (rules : RuleSet) (hn : n.AlikeUnder "transactions" R n') :
    Related (fun p q => p.1.toList = thinned kept q.1.toList ∧
        (∀ ssn ∈ q.1, ssn.transactions ≠ []) ∧ (exact → p.2 = q.2))
      (reading ⟨settings, path, rules⟩ n) (reading ⟨settings', path, rules⟩ n') := by
  unfold reading
  rw [hn.isMapping_eq, hn.line_eq]
  split
  · exact .pure ⟨rfl, nofun, fun _ => rfl⟩
  · refine (agree_contentsReading h path rules hn).bind ?_
    rintro ⟨ssn, a⟩ ⟨ssn', a'⟩ ⟨rfl, ha⟩
    refine .pure ⟨toList_registered_keep ssn', fun _ => transactions_ne_nil_of_registered,
      fun hexact => ?_⟩
    -- Nothing is left out then, so the notes on closing the session are the same.
    obtain rfl : a = a' := ha hexact
    rw [keep_eq_self (h.all hexact) ssn']

end Session

/-! ### Files -/

/-- Loads that stop at the same fault, or both end with reports, which are the same if `exact`
holds. -/
inductive SameEnd (exact : Prop) : Except Fault Report → Except Fault Report → Prop
  | ok {a b : Report} (h : exact → a = b) : SameEnd exact (.ok a) (.ok b)
  | error {e : Fault} : SameEnd exact (.error e) (.error e)

theorem SameEnd.map_append {r r' : Except Fault Report} (h : SameEnd exact r r') {a b : Report}
    (hab : exact → a = b) : SameEnd exact (r.map (a ++ ·)) (r'.map (b ++ ·)) := by
  cases h with
  | ok hr => exact .ok fun hexact => congrArg₂ (· ++ ·) (hab hexact) (hr hexact)
  | error => exact .error

theorem SameEnd.error_iff {r r' : Except Fault Report} (h : SameEnd exact r r') (e : Fault) :
    r = .error e ↔ r' = .error e := by
  cases h with
  | ok => exact iff_of_false nofun nofun
  | error => exact Iff.rfl

namespace FileReading

/-- What two files have in common that come to the same sessions, but for the transactions that are
left out of the first one. -/
structure Agree (kept : Transaction → Bool) (exact : Prop) (r r' : FileReading) : Prop where
  names : r.names = r'.names
  rules : r.rules = r'.rules
  sessions : r.sessions = Session.thinned kept r'.sessions
  full : ∀ ssn ∈ r'.sessions, ssn.transactions ≠ []
  result : SameEnd exact r.result r'.result

namespace Agree

variable {r r' : FileReading}

theorem sessions_eq (h : Agree kept exact r r') (hkept : ∀ t, kept t = true) :
    r.sessions = r'.sessions :=
  h.sessions.trans (Session.thinned_eq_self hkept h.full)

theorem eq (h : Agree kept exact r r') (hexact : exact) (hkept : ∀ t, kept t = true) : r = r' := by
  obtain ⟨names, rules, sessions, result⟩ := r
  obtain ⟨names', rules', sessions', result'⟩ := r'
  obtain rfl : names = names' := h.names
  obtain rfl : rules = rules' := h.rules
  obtain rfl : sessions = sessions' := h.sessions_eq hkept
  have hresult : SameEnd exact result result' := h.result
  cases hresult with
  | ok hr => rw [hr hexact]
  | error => rfl

/-- Files without sessions. -/
theorem of_nil {names : List Text} {rules : RuleSet} {result : Except Fault Report} :
    Agree kept exact ⟨names, rules, [], result⟩ ⟨names, rules, [], result⟩ :=
  ⟨rfl, rfl, rfl, nofun, by cases result <;> first | exact .error | exact .ok fun _ => rfl⟩

end Agree

theorem agree_ofSessions (h : Transaction.Agree settings settings' R kept exact) (path : String)
    (rules : RuleSet) {ns ns' : List Node}
    (hns : List.Forall₂ (Node.AlikeUnder "transactions" R) ns ns') :
    Agree kept exact (ofSessions ⟨settings, path, rules⟩ ns)
      (ofSessions ⟨settings', path, rules⟩ ns') := by
  induction hns with
  | nil => exact .of_nil
  | @cons n n' ns ns' hn _ ih =>
    have hread := Session.agree_reading h path rules hn
    unfold ofSessions
    generalize Session.reading ⟨settings, path, rules⟩ n = x at hread ⊢
    generalize Session.reading ⟨settings', path, rules⟩ n' = y at hread ⊢
    cases hread with
    | error => exact .of_nil
    | @ok names p q hpq =>
      obtain ⟨hssn, hfull, hnotes⟩ := hpq
      dsimp only
      refine ⟨congrArg (names ++ ·) ih.names, rfl, ?_, ?_, ih.result.map_append hnotes⟩
      · simp only [hssn, ih.sessions, Session.thinned_append]
      · intro ssn hmem
        rcases List.mem_append.mp hmem with hmem | hmem
        · exact hfull ssn (Option.mem_toList.mp hmem)
        · exact ih.full ssn hmem

/-- Documents that are the same but for corresponding nodes of transactions come to the same, but
for the transactions that are left out. -/
theorem agree_ofDocument (h : Transaction.Agree settings settings' R kept exact) (path : String)
    (rules : RuleSet) {root root' : Option Node} (hroot : Node.DocumentsAlike R root root') :
    Agree kept exact (ofDocument ⟨settings, path, rules⟩ root)
      (ofDocument ⟨settings', path, rules⟩ root') := by
  rcases hroot with ⟨hn⟩ | _
  swap
  · exact .of_nil
  have hmeta := hn.get?_of_ne (k := "meta") (by decide)
  have hvalue := hn.get?_self
  cases hn with
  | scalar => exact .of_nil
  | sequence => exact .of_nil
  | @mapping line es es' hes =>
    have hblock : globalBlock path (.mapping line es') = globalBlock path (.mapping line es) := by
      rw [globalBlock, globalBlock, hmeta]
    have hadded : addedRules path (.mapping line es') = addedRules path (.mapping line es) := by
      rw [addedRules, addedRules, hblock]
    unfold ofDocument
    simp only [hblock, hadded]
    generalize (Node.mapping line es).get? "sessions" = value at hvalue ⊢
    generalize (Node.mapping line es').get? "sessions" = value' at hvalue ⊢
    cases hvalue with
    | none => exact .of_nil
    | some hitems =>
      cases hitems with
      | scalar => exact .of_nil
      | mapping => exact .of_nil
      | sequence _ hns =>
        have hsessions := agree_ofSessions h path
          (rules.merge (addedRules path (.mapping line es))) hns
        exact ⟨congrArg (_ ++ ·) hsessions.names, rfl, hsessions.sessions, hsessions.full,
          hsessions.result.map_append fun _ => rfl⟩

theorem agree_ofRead (h : Transaction.Agree settings settings' Eq kept exact) (path : String)
    (rules : RuleSet) (outcome : Except FileFault (List UInt8)) :
    Agree kept exact (ofRead ⟨settings, path, rules⟩ outcome)
      (ofRead ⟨settings', path, rules⟩ outcome) := by
  unfold ofRead
  split
  · exact .of_nil
  · split
    · exact agree_ofDocument h path rules (.refl (fun _ => rfl) _)
    · exact .of_nil
    · exact .of_nil

/-- A file comes to the same with the two settings, but for the transactions that are left out. -/
theorem agree_ofFile (h : Transaction.Agree settings settings' Eq kept exact) (files : FileTree)
    (rules : RuleSet) (p : FilePath) :
    Agree kept exact (ofFile settings files rules p) (ofFile settings' files rules p) := by
  unfold ofFile
  split
  · exact .of_nil
  · exact agree_ofRead h p.text rules _

end FileReading

/-! ### Loads -/

namespace RunState

/-- Load a document into a run, with the path of its file: the report or the fault, and the run after
it. -/
def loadDocument (settings : Settings) (path : String) (run : RunState) (root : Option Node) :
    Except Fault Report × RunState :=
  let out := ((Handler.recording settings).walkDocument path root).runOn (.start run "")
  (out.1, out.2.run)

theorem loadDocument_eq {run : RunState} (h : run.Loading) (settings : Settings) (path : String)
    (root : Option Node) :
    run.loadDocument settings path root =
      ((FileReading.ofDocument ⟨settings, path, run.rules.rules⟩ root).result,
        run.after (FileReading.ofDocument ⟨settings, path, run.rules.rules⟩ root)) := by
  obtain ⟨t, hrun, ht⟩ := @Handler.runOn_walkDocument (.start run "") settings h rfl path root
  rw [loadDocument, hrun]
  exact congrArg (_, ·) ht

/-- To load a file is to load the document in it, if there is one. -/
theorem load_eq_loadDocument {run : RunState} (h : run.Loading) (settings : Settings)
    {files : FileTree} {p : FilePath} {bytes : List UInt8} {root : Option Node}
    (hpath : p.text.toList.contains '\x00' = false) (hread : files.read p = .ok bytes)
    (hdocument : Yaml.compose (.ofFile (.ofBytes bytes)) = .ok root) :
    run.load files (settings, p) = run.loadDocument settings p.text root := by
  have hfile : FileReading.ofFile settings files run.rules.rules p =
      FileReading.ofDocument ⟨settings, p.text, run.rules.rules⟩ root := by
    simp only [FileReading.ofFile, FileReading.ofRead, hpath, hread, hdocument, Bool.false_eq_true,
      if_false]
  rw [load_eq files h, loadDocument_eq h, hfile]

end RunState

end TrafficReplay
