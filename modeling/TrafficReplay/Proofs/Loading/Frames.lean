import TrafficReplay.Loading.Directory
import TrafficReplay.Proofs.Contract

/-!
# What the parts of a load leave alone

Each callback of a handler and each part of the walk through a file keeps to a contract, whether it
ends with a report or at a fault.

* `Load.within`, `Load.beside`, `Load.around`: what the messages of a transaction, the opening of a
  session, and the parts of a document leave alone;
* `Handler.meets_loadFile`: loading a file leaves the load lock, the scopes and the open transaction
  as they were.
-/

namespace TrafficReplay
open TrafficReplay.Yaml TrafficReplay.Text

/-! ### Names and rules -/

theorem NameTable.localize_ne {t : NameTable} {name : Text} :
    t.localize name ≠ .error .lockHeld := by
  unfold localize
  split <;> try split
  all_goals simp

theorem NameTable.localizeAll_ne {t : NameTable} {names : List Text} :
    t.localizeAll names ≠ .error .lockHeld := by
  induction names generalizing t with
  | nil => simp [localizeAll, pure, Except.pure]
  | cons name names ih =>
    intro h
    rw [localizeAll, List.foldlM_cons] at h
    cases hname : t.localize name with
    | error e =>
      rw [hname] at h
      cases h
      exact localize_ne hname
    | ok t' =>
      rw [hname] at h
      exact ih h

theorem loadFields_ne {names : NameTable} {path : String} {n : Node} :
    loadFields names path n ≠ .error .lockHeld := by
  unfold loadFields
  split
  · intro h
    dsimp only at h
    cases hnames : names.localizeAll
        ((LoadedFields.ofEntries path (n.items.map Entry.ofNode)).fields.map Prod.fst) with
    | error e =>
      rw [hnames] at h
      cases h
      exact NameTable.localizeAll_ne hnames
    | ok names' =>
      rw [hnames] at h
      cases h
  · simp

theorem loadRules_ne {names : NameTable} {path : String} {n : Option Node} :
    loadRules names path n ≠ .error .lockHeld := by
  unfold loadRules
  split
  · simp
  · rename_i list _
    intro h
    cases hfields : loadFields names path list with
    | error e =>
      rw [hfields] at h
      cases h
      exact loadFields_ne hfields
    | ok p =>
      rw [hfields] at h
      cases h

theorem FieldRules.merge_ne {s : FieldRules} {rules : RuleSet} :
    s.merge rules ≠ .error .lockHeld := by
  unfold merge change
  split <;> simp

/-! ### The run -/

namespace RunState

/-- The contract of a step that neither adds sessions nor has to do with the load lock. -/
def quiet : Contract RunState Fault :=
  .leaving (fun s => (s.sessions, s.locked)) fun _ e => e ≠ .lockHeld

/-- The contract of a step that adds sessions with transactions only, and has nothing to do with the
load lock. -/
def adding : Contract RunState Fault where
  change s t := t.locked = s.locked ∧ ∀ ssn ∈ t.sessions, ssn ∈ s.sessions ∨ ssn.transactions ≠ []
  fault _ e := e ≠ .lockHeld
  refl _ := ⟨rfl, fun _ => .inl⟩
  trans := by
    rintro s t u ⟨hlocked, hssns⟩ ⟨hlocked', hssns'⟩
    exact ⟨hlocked'.trans hlocked, fun ssn hssn => (hssns' ssn hssn).elim (hssns ssn) .inr⟩
  fault_of_change _ := id

/-- The contract of a step that adds no sessions and gives the load lock back if it takes it. -/
def guarded : Contract RunState Fault :=
  .leaving (fun s => (s.sessions, s.locked)) fun p e => e = .lockHeld → p.2 = true

theorem meets_localize (name : Text) : (localize name).Meets quiet := by
  refine .getLiftBind (fun s e h hheld => ?_) fun s names => ⟨rfl, nofun⟩
  exact NameTable.localize_ne (h.trans (congrArg _ hheld))

theorem meets_checkWritable {c : Contract RunState Fault} {part : Part}
    (hfault : ∀ s, c.fault s (.partFrozen part)) : (checkWritable part).Meets c := by
  refine .look fun s => ?_
  split
  · exact .throw hfault
  · exact .pure _

/-- Only sessions with transactions are added. -/
theorem meets_addSession (ssn : Session) : (addSession ssn).Meets adding := by
  have hcheck : (checkWritable .sessions).Meets adding := meets_checkWritable fun _ => nofun
  refine hcheck.bind fun _ => ?_
  split
  · exact .pure _
  · rename_i hssn
    refine Step.Meets.bind (.modify fun s => ⟨rfl, fun ssn' h => ?_⟩) fun _ => .pure _
    rcases List.mem_append.1 h with h | h
    · exact .inl h
    · obtain rfl := List.mem_singleton.1 h
      exact .inr fun hnil => hssn (List.isEmpty_iff.2 hnil)

theorem meets_mergeRules (rules : RuleSet) : (mergeRules rules).Meets quiet := by
  have hcheck : (checkWritable .rules).Meets quiet := meets_checkWritable fun _ => nofun
  refine hcheck.bind fun _ => ?_
  refine .getLiftBind (fun s e h hheld => ?_) fun s rules => ⟨rfl, nofun⟩
  exact FieldRules.merge_ne (h.trans (congrArg _ hheld))

theorem meets_withLock {α : Type} {x : OnRun α} (hx : x.Meets quiet) :
    (withLock x).Meets guarded := by
  refine .ofRun (fun s => ?_) fun s e h hheld => ?_
  · by_cases hlocked : s.locked = true
    · simp [guarded, Contract.leaving, hlocked]
    · have hsessions := (hx { s with locked := true }).1
      simp only [quiet, Contract.leaving, Prod.mk.injEq] at hsessions
      simp [guarded, Contract.leaving, hlocked, hsessions.1]
  · by_cases hlocked : s.locked = true
    · exact hlocked
    · simp only [hlocked, Bool.false_eq_true, if_false] at h
      exact absurd hheld ((hx { s with locked := true }).2 e h)

end RunState

/-! ### Messages -/

namespace Fill

variable {μ : Type}

/-- The contract of a step that has nothing to do with the load lock. -/
def filling : Contract (Draft μ) Fault := .leaving (fun _ => ()) fun _ e => e ≠ .lockHeld

theorem meets_change (f : μ → μ) : (change f).Meets filling := .modify fun _ => rfl

theorem meets_size? (s : Text) : (size? (μ := μ) s).Meets filling := by
  unfold size?
  split
  · exact .pure _
  · exact .throw fun _ => nofun
  · exact .pure _

theorem meets_bytes (t : Text) : (bytes (μ := μ) t).Meets filling := by
  unfold bytes
  split
  · exact .pure _
  · exact .throw fun _ => nofun

theorem meets_headers (path : String) (n : Node) (extend : FieldList → RuleSet → μ → μ) :
    (headers path n extend).Meets filling := by
  unfold headers
  split
  · exact .pure _
  · split
    · exact .pure _
    · rename_i list _
      refine .update (fun _ _ _ => rfl) fun d e h hheld => ?_
      cases hfields : loadFields d.names path list with
      | error e' =>
        rw [hfields] at h
        cases h
        exact loadFields_ne (hfields.trans (congrArg _ hheld))
      | ok p =>
        rw [hfields] at h
        cases h

end Fill

namespace Request

theorem meets_loadContentBlock (path : String) (content : Node) :
    (loadContentBlock path content).Meets Fill.filling := by
  unfold loadContentBlock
  split
  · exact (Fill.meets_bytes _).bind fun _ => (Fill.meets_change _).bind fun _ => .pure _
  · refine (Fill.meets_size? _).bind fun k => ?_
    cases k with
    | none => exact .pure _
    | some k => exact (Fill.meets_change _).bind fun _ => .pure _
  · exact .pure _

theorem meets_loadContent (path : String) (n : Node) :
    (loadContent path n).Meets Fill.filling := by
  unfold loadContent
  split
  · exact meets_loadContentBlock path _
  · refine .look fun d => ?_
    split
    · exact .pure _
    · refine (Fill.meets_size? _).bind fun k => ?_
      cases k with
      | none => exact .pure _
      | some k => exact (Fill.meets_change _).bind fun _ => .pure _

theorem meets_load (path : String) (n : Node) : (load path n).Meets Fill.filling := by
  unfold load
  split
  · exact (Fill.meets_change _).bind fun _ => .pure _
  · refine .look fun d => ?_
    refine (Fill.meets_change _).bind fun _ => ?_
    refine (Fill.meets_headers path n _).bind fun _ => ?_
    exact (meets_loadContent path n).bind fun _ => .pure _

end Request

namespace Response

theorem meets_loadStatus (path : String) (n : Node) :
    (loadStatus path n).Meets Fill.filling := by
  unfold loadStatus
  split
  · exact .pure _
  · refine (Fill.meets_size? _).bind fun k => ?_
    cases k with
    | none => exact .pure _
    | some k =>
      dsimp only
      split
      · exact (Fill.meets_change _).bind fun _ => .pure _
      · exact .pure _

theorem meets_load (path : String) (n : Node) : (load path n).Meets Fill.filling := by
  unfold load
  refine (Fill.meets_change _).bind fun _ => ?_
  split
  · exact .pure _
  · refine (meets_loadStatus path n).bind fun a => ?_
    have hrest : (do
        let b ← Fill.headers path n fun fs rs r =>
          { r with fields := r.fields ++ fs, rules := r.rules.merge rs }
        return a ++ b : Fill Response Report).Meets Fill.filling :=
      (Fill.meets_headers path n _).bind fun _ => .pure _
    split
    · exact (Fill.meets_change _).bind fun _ => hrest
    · exact hrest

end Response

/-! ### Callbacks -/

namespace LoadState

/-- The open scopes, and whether the load lock is held. -/
def hold (s : LoadState) : List Bool × Bool := (s.scopes, s.run.locked)

end LoadState

namespace Load

/-- The contract of what is told of an open transaction: it adds no sessions and has nothing to do
with the load lock. -/
def within : Contract LoadState Fault :=
  .leaving (fun s => (s.hold, s.run.sessions)) fun _ e => e ≠ .lockHeld

/-- The contract of what is told beside a transaction: it leaves the transaction alone too, and
gives the load lock back if it takes it. -/
def beside : Contract LoadState Fault :=
  .leaving (fun s => (s.hold, s.run.sessions, s.transaction)) fun p e =>
    e = .lockHeld → p.1.2 = true

/-- The contract of what holds whole transactions: the load lock, the scopes and the open
transaction are left as they were, and the sessions that it adds have transactions. -/
def around : Contract LoadState Fault where
  change s t := t.hold = s.hold ∧ t.transaction = s.transaction ∧
    ∀ ssn ∈ t.run.sessions, ssn ∈ s.run.sessions ∨ ssn.transactions ≠ []
  fault s e := e = .lockHeld → s.run.locked = true
  refl _ := ⟨rfl, rfl, fun _ => .inl⟩
  trans := by
    rintro s t u ⟨hhold, ht, hssns⟩ ⟨hhold', ht', hssns'⟩
    refine ⟨hhold'.trans hhold, ht'.trans ht, fun ssn hssn => ?_⟩
    exact (hssns' ssn hssn).elim (hssns ssn) .inr
  fault_of_change := by
    rintro s t e ⟨hhold, -, -⟩ he hheld
    exact (congrArg Prod.snd hhold).symm.trans (he hheld)

variable {α : Type}

theorem meets_around {x : Load α} (hx : x.Meets beside) : x.Meets around := by
  refine hx.mono (fun s t h => ?_) fun s e he => he
  simp only [beside, Contract.leaving, Prod.mk.injEq] at h
  exact ⟨h.1, h.2.2, fun ssn hssn => .inl (h.2.1 ▸ hssn)⟩

theorem meets_onRun {x : OnRun α} (hx : x.Meets RunState.guarded) : (onRun x).Meets beside := by
  refine hx.onPart (fun s run h => ?_) fun s e he => he
  simp only [RunState.guarded, Contract.leaving, Prod.mk.injEq] at h
  simp [beside, Contract.leaving, LoadState.hold, h]

theorem meets_addSession (ssn : Session) : (onRun (RunState.addSession ssn)).Meets around := by
  refine (RunState.meets_addSession ssn).onPart (fun s run h => ?_) fun s e he hheld => ?_
  · exact ⟨congrArg (Prod.mk s.scopes) h.1, rfl, h.2⟩
  · exact absurd hheld he

theorem meets_changeTransaction (f : Transaction → Transaction) :
    (changeTransaction f).Meets within := .modify fun _ => rfl

theorem meets_changeSession (f : Session → Session) : (changeSession f).Meets beside :=
  .modify fun _ => rfl

theorem meets_transaction : transaction.Meets within := by
  refine .look fun s => ?_
  split
  · exact .pure _
  · exact .throw fun _ => nofun

theorem meets_fill {μ : Type} {message : Transaction → μ}
    {replace : Transaction → μ → Transaction} {x : Fill μ Report} (hx : x.Meets Fill.filling) :
    (fill message replace x).Meets within :=
  meets_transaction.bind fun _ => hx.onPart (fun _ _ _ => rfl) fun _ _ he => he

/-- Loading the rules of a block takes no lock, so it can be done anywhere. -/
theorem meets_rules (n : Node) :
    (rules n).Meets (.leaving (fun s => (s.hold, s.run.sessions, s.transaction))
      fun _ e => e ≠ .lockHeld) := by
  refine .look fun s => ?_
  refine Step.Meets.onPart (d := RunState.quiet) ?_ (fun s run h => ?_) fun _ _ he => he
  · refine .getLiftBind (fun s' e h hheld => ?_) fun s' p => ⟨rfl, fun e h => ?_⟩
    · exact loadRules_ne (h.trans (congrArg _ hheld))
    · cases h
  · simp only [RunState.quiet, Contract.leaving, Prod.mk.injEq] at h
    simp [Contract.leaving, LoadState.hold, h]

end Load

namespace Handler

variable {settings : Settings}

theorem meets_fillRequest (n : Node) : (fillRequest n).Meets Load.within :=
  .look fun s => Load.meets_fill (Request.meets_load s.path n)

theorem meets_fillResponse (n : Node) : (fillResponse n).Meets Load.within := by
  refine .look fun s => ?_
  refine Load.meets_transaction.bind fun _ => ?_
  refine (Load.meets_changeTransaction _).bind fun _ => ?_
  exact Load.meets_fill (Response.meets_load s.path n)

theorem meets_tell (sec : Section) (n : Node) :
    ((recording settings).tell sec n).Meets Load.within := by
  have hrequest := meets_fillRequest n
  have hresponse := meets_fillResponse n
  cases sec <;>
    simp only [tell, clientRequest, proxyRequest, proxyResponse, serverResponse] <;> split <;>
    first | exact hrequest | exact hresponse | exact .pure _

theorem meets_applyToAll (rules : RuleSet) :
    ((recording settings).applyToAll rules).Meets Load.within := by
  refine Load.meets_transaction.bind fun _ => ?_
  exact (Load.meets_changeTransaction _).bind fun _ => .pure _

theorem meets_discardTransaction : (recording settings).discardTransaction.Meets Load.within :=
  .modify fun _ => rfl

theorem meets_closeTransaction : (recording settings).closeTransaction.Meets Load.within := by
  refine .getBind fun s => ?_
  split
  · exact ⟨rfl, fun e h => by cases h; nofun⟩
  · rw [Step.runOn_bind_of_ok (Step.runOn_set _ _)]
    dsimp only
    split
    · split
      · exact ⟨rfl, fun e h => by cases h; nofun⟩
      · exact ⟨rfl, nofun⟩
    · exact ⟨rfl, nofun⟩

theorem meets_openTransaction (n : Node) :
    ((recording settings).openTransaction n).Meets Load.within := by
  refine .getBind fun s => ?_
  split
  · exact ⟨rfl, fun e h => by cases h; nofun⟩
  · dsimp only
    split
    · exact ⟨rfl, nofun⟩
    · exact ⟨rfl, nofun⟩

theorem meets_globalRules (rules : RuleSet) :
    ((recording settings).globalRules rules).Meets Load.beside := by
  refine Step.Meets.bind (Load.meets_onRun ?_) fun _ => .pure _
  exact RunState.meets_withLock (RunState.meets_mergeRules rules)

theorem meets_loadServerName (n : Node) : (loadServerName n).Meets Load.beside := by
  unfold loadServerName
  split
  · exact .pure _
  · refine Step.Meets.bind (Load.meets_onRun ?_) fun _ => ?_
    · exact RunState.meets_withLock (RunState.meets_localize _)
    · exact (Load.meets_changeSession _).bind fun _ => .pure _
  · exact .look fun _ => .pure _

theorem meets_loadProtocols (n : Node) (ps : List Node) :
    (loadProtocols n ps).Meets Load.beside := by
  induction ps with
  | nil => exact .pure _
  | cons p ps ih =>
    have hrest : (if tlsMark.isPrefixOf (lower p.text.toList) then do
        Load.changeSession fun s => { s with isTls := true }
        loadServerName n
      else loadProtocols n ps).Meets Load.beside := by
      split
      · exact (Load.meets_changeSession _).bind fun _ => meets_loadServerName n
      · exact ih
    unfold loadProtocols
    dsimp only
    split
    · exact (Load.meets_changeSession _).bind fun _ => hrest
    · exact hrest

theorem meets_loadProtocol (n : Node) : (loadProtocol n).Meets Load.beside := by
  refine .look fun s => ?_
  split
  · exact .pure _
  · exact meets_loadProtocols n _
  · exact .pure _

theorem meets_loadStart (n : Node) : (loadStart n).Meets Load.beside := by
  refine .look fun s => ?_
  split
  · exact .pure _
  · split
    · exact .throw fun _ => nofun
    · exact (Load.meets_changeSession _).bind fun _ => .pure _
    · exact .pure _
  · exact .pure _

theorem meets_openSession (n : Node) : ((recording settings).openSession n).Meets Load.beside := by
  refine Step.Meets.bind (.modify fun _ => rfl) fun _ => ?_
  refine (meets_loadProtocol n).bind fun _ => ?_
  refine (Load.meets_changeSession _).bind fun _ => ?_
  exact (meets_loadStart n).bind fun _ => .pure _

theorem meets_closeSession : (recording settings).closeSession.Meets Load.around := by
  refine .look fun s => ?_
  split
  · exact .pure _
  · have hclosed : (modify fun s : LoadState => { s with session := none } : Load Unit).Meets
        Load.around := .modify fun _ => ⟨rfl, rfl, fun _ => .inl⟩
    refine hclosed.bind fun _ => ?_
    refine (Load.meets_addSession _).bind fun added => ?_
    cases added <;> exact .pure _

theorem meets_openFile (path : String) : (openFile path).Meets Load.beside :=
  Step.Meets.bind (.modify fun _ => rfl) fun _ => .pure _

end Handler

/-! ### Files -/

namespace Load

theorem meets_each {c : Contract LoadState Fault} {f : Node → Load Report}
    (hf : ∀ n, (f n).Meets c) (ns : List Node) : (each f ns).Meets c := by
  induction ns with
  | nil => exact .pure _
  | cons n ns ih => exact (hf n).bind fun _ => ih.bind fun _ => .pure _

end Load

namespace Handler

theorem meets_walkSections (n : Node) (secs : List Section) :
    ((recording settings).walkSections n secs).Meets Load.within := by
  have hsection (sec : Section) : ((recording settings).walkSection n sec).Meets Load.within := by
    unfold walkSection
    split
    · exact .pure _
    · split
      · exact (meets_tell sec _).bind fun _ => .pure _
      · exact .look fun _ => .pure _
  induction secs with
  | nil => exact .pure _
  | cons sec secs ih => exact (hsection sec).bind fun _ => ih.bind fun _ => .pure _

theorem meets_walkAll (n : Node) : ((recording settings).walkAll n).Meets Load.within := by
  unfold walkAll
  split
  · exact .pure _
  · split
    · exact .look fun _ => .pure _
    · rename_i headers _
      have hrules : (Load.rules headers).Meets Load.within := by
        refine (Load.meets_rules headers).mono (fun s t h => ?_) fun _ _ he => he
        simp only [Contract.leaving, Prod.mk.injEq] at h
        simp [Load.within, Contract.leaving, h]
      exact hrules.bind fun _ => (meets_applyToAll _).bind fun _ => .pure _

/-- The walk through the contents of a transaction has nothing to do with the load lock. -/
theorem meets_walkContents (n : Node) :
    ((recording settings).walkContents n).Meets Load.within := by
  refine (meets_walkSections n Section.all).bind fun p => ?_
  refine (meets_walkAll n).bind fun a => ?_
  obtain ⟨b, malformed⟩ := p
  cases malformed with
  | false => exact meets_closeTransaction.bind fun _ => .pure _
  | true => exact .look fun _ => meets_discardTransaction.bind fun _ => .pure _

/-- What entering a scope can come to: a transaction is still open, or the node lacks sections, or
the load lock is held, or the scope takes the lock and holds an open transaction. -/
inductive Entering (settings : Settings) (s : LoadState) : Except Fault Report → LoadState → Prop
  | nested (h : s.transaction.isSome) : Entering settings s (.error .transactionOpen) s
  | failed (report : Report) (h : report.ok = false) :
    Entering settings s (.ok report) { s with scopes := false :: s.scopes }
  | blocked (h : s.run.locked = true) : Entering settings s (.error .lockHeld) s
  | opened (report : Report) (h : report.ok = true) (ht : s.transaction = none)
      (hl : s.run.locked = false) :
    Entering settings s (.ok report)
      { s with
        run := { s.run with locked := true }
        transaction := some (.blank settings.strict)
        scopes := true :: s.scopes }

theorem entering_openScope (settings : Settings) (s : LoadState) (n : Node) :
    Entering settings s (((recording settings).openScope n).runOn s).1
      (((recording settings).openScope n).runOn s).2 := by
  obtain ⟨run, path, session, transaction, scopes⟩ := s
  cases transaction with
  | some t =>
    have hopen :
        ((recording settings).openTransaction n).runOn ⟨run, path, session, some t, scopes⟩ =
        (.error .transactionOpen, ⟨run, path, session, some t, scopes⟩) := rfl
    rw [openScope, Step.runOn_bind_of_error hopen]
    exact .nested rfl
  | none =>
    by_cases hok : (missingSections settings.mode path n).ok = true
    · have hopen :
          ((recording settings).openTransaction n).runOn ⟨run, path, session, none, scopes⟩ =
          (.ok (missingSections settings.mode path n),
            ⟨run, path, session, some (.blank settings.strict), scopes⟩) := by
        simp [openTransaction, Step.runOn_bind, hok, Except.map]
      rw [openScope, Step.runOn_bind_of_ok hopen]
      simp only [hok, if_true, Step.runOn_bind_of_ok (Step.runOn_get _)]
      by_cases hlocked : run.locked = true
      · simp only [hlocked, if_true]
        exact .blocked hlocked
      · simp only [hlocked, Bool.false_eq_true, if_false]
        exact .opened _ hok rfl (Bool.eq_false_iff.2 hlocked)
    · have hopen :
          ((recording settings).openTransaction n).runOn ⟨run, path, session, none, scopes⟩ =
          (.ok (missingSections settings.mode path n), ⟨run, path, session, none, scopes⟩) := by
        simp [openTransaction, Step.runOn_bind, hok]
      rw [openScope, Step.runOn_bind_of_ok hopen]
      simp only [hok, Bool.false_eq_true, if_false]
      exact .failed _ (Bool.eq_false_iff.2 hok)

/-- Leaving a scope that holds the load lock gives it back and drops the transaction. -/
theorem runOn_leaveScope_true {s : LoadState} {scopes : List Bool} (h : s.scopes = true :: scopes) :
    (leaveScope.runOn s).2 =
      { s with run := { s.run with locked := false }, transaction := none, scopes } := by
  simp [leaveScope, h]

/-- Leaving any other scope does nothing else. -/
theorem runOn_leaveScope_false {s : LoadState} {scopes : List Bool}
    (h : s.scopes = false :: scopes) : (leaveScope.runOn s).2 = { s with scopes } := by
  simp [leaveScope, h]

/-- A scope is left as it was entered, whatever happens in it. -/
theorem meets_walkTransaction (n : Node) :
    ((recording settings).walkTransaction n).Meets Load.around := by
  unfold walkTransaction
  split
  · exact .look fun _ => .pure _
  · intro s
    have hentering := entering_openScope settings s n
    rcases hrun : ((recording settings).openScope n).runOn s with ⟨r, t⟩
    rw [hrun] at hentering
    unfold inScope
    cases hentering with
    | nested h =>
      rw [Step.runOn_bind_of_error hrun]
      exact ⟨Load.around.refl _, fun e h => by cases h; nofun⟩
    | blocked h =>
      rw [Step.runOn_bind_of_error hrun]
      exact ⟨Load.around.refl _, fun _ _ _ => h⟩
    | failed report h =>
      rw [Step.runOn_bind_of_ok hrun]
      simp only [h, Bool.false_eq_true, if_false]
      exact ⟨Load.around.refl s, nofun⟩
    | opened report h ht hl =>
      rw [Step.runOn_bind_of_ok hrun]
      simp only [h, if_true, Step.runOn_ofRun]
      have hcontents : (do return report ++ (← (recording settings).walkContents n)).Meets
          Load.within := (meets_walkContents n).bind fun _ => .pure _
      -- The contents leave the scope the innermost one, so it is this one that is left.
      obtain ⟨hchange, hfault⟩ := hcontents { s with
        run := { s.run with locked := true }
        transaction := some (.blank settings.strict)
        scopes := true :: s.scopes }
      simp only [Load.within, Contract.leaving, Prod.mk.injEq, LoadState.hold] at hchange
      obtain ⟨⟨hscopes, -⟩, hsessions⟩ := hchange
      rw [runOn_leaveScope_true hscopes]
      refine ⟨⟨?_, ht.symm, fun ssn hssn => .inl (hsessions ▸ hssn)⟩, fun e he hheld => ?_⟩
      · rw [LoadState.hold, LoadState.hold, hl]
      · exact absurd hheld (hfault e he)

theorem meets_walkSession (n : Node) :
    ((recording settings).walkSession n).Meets Load.around := by
  have htransactions : ((recording settings).walkTransactions n).Meets Load.around := by
    refine .look fun s => ?_
    split
    · exact .pure _
    · exact Load.meets_each meets_walkTransaction _
    · exact .pure _
  unfold walkSession
  split
  · exact .look fun _ => .pure _
  · refine (Load.meets_around (meets_openSession n)).bind fun a => ?_
    have hclose (b : Report) : (do
        let c ← (recording settings).closeSession
        return a ++ b ++ c).Meets Load.around := meets_closeSession.bind fun _ => .pure _
    split
    · exact htransactions.bind hclose
    · exact Step.Meets.bind (.pure _) hclose

theorem meets_walkGlobalRules (root : Node) :
    ((recording settings).walkGlobalRules root).Meets Load.around := by
  unfold walkGlobalRules
  split
  · exact .pure _
  · refine Load.meets_around (Step.Meets.bind ?_ fun p => ?_)
    · exact (Load.meets_rules _).mono (fun _ _ h => h) fun _ _ he hheld => absurd hheld he
    · dsimp only
      split
      · exact (meets_globalRules _).bind fun _ => .pure _
      · exact Step.Meets.bind (.pure _) fun _ => .pure _

theorem meets_walkDocument (path : String) (root : Option Node) :
    ((recording settings).walkDocument path root).Meets Load.around := by
  unfold walkDocument
  split
  · refine (Load.meets_around (meets_openFile path)).bind fun _ => ?_
    refine (meets_walkGlobalRules _).bind fun _ => ?_
    split
    · exact .pure _
    · exact (Load.meets_each meets_walkSession _).bind fun _ => .pure _
    · exact .pure _
  · exact .pure _

/-- Loading a file leaves the load lock, the scopes and the open transaction as they were, whether
it ends with a report or at a fault, and waits for the lock only if that was held before. -/
theorem meets_loadFile (files : FileTree) (p : FilePath) :
    ((recording settings).loadFile files p).Meets Load.around := by
  have hread : ((recording settings).walkRead p.text (files.read p)).Meets Load.around := by
    unfold walkRead
    split
    · exact .pure _
    · split
      · exact meets_walkDocument _ _
      · exact .pure _
      · split
        · exact .pure _
        · exact .throw fun _ => nofun
  unfold loadFile
  split
  · exact Step.Meets.bind (.throw fun _ => nofun) fun _ => hread
  · exact hread

end Handler

end TrafficReplay
