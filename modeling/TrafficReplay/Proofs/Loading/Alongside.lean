import Mathlib.Data.List.Forall2
import TrafficReplay.Proofs.Loading.GlobalRules
import TrafficReplay.Proofs.Loading.Stages

/-!
# A load alongside others

Between two parts of a load, other loads may do anything to the run that keeps it a run into which
files can be loaded.  Two loads of one file that go on part by part, each on a run of its own, stay
at the same stage, and they close the same sessions but for the global rules that the responses
begin with.

* `Session.Akin`: sessions that are the same but for these rules;
* `Task.closing`: the session that the next part of a load puts into the run;
* `Task.Alongside`, `Task.Alongside.go`: two loads of one file, and what the next part keeps.
-/

namespace TrafficReplay
open TrafficReplay.Yaml TrafficReplay.Text

/-! ### Sessions that differ in global rules -/

/-- Whether two transactions are one and the same but for the global rules before the response's
own. -/
def Transaction.Akin (t t' : Transaction) : Prop :=
  ∃ (own : Transaction) (global global' : RuleSet), t = own.under global ∧ t' = own.under global'

/-- Sessions that are the same but for the global rules that the responses begin with. -/
structure Session.Akin (ssn ssn' : Session) : Prop where
  alike : ssn' = { ssn with transactions := ssn'.transactions }
  transactions : List.Forall₂ Transaction.Akin ssn.transactions ssn'.transactions

namespace Session

variable {ssn ssn' : Session}

theorem akin_of_nil (h : ssn.transactions = []) : ssn.Akin ssn where
  alike := rfl
  transactions := by rw [h]; exact .nil

/-- What a node of a transaction comes to is attached to both. -/
theorem Akin.attach (h : ssn.Akin ssn') (t : Option Transaction) (global global' : RuleSet) :
    (ssn.attach (t.map (Transaction.under global))).Akin
      (ssn'.attach (t.map (Transaction.under global'))) where
  alike := by
    rw [h.alike]
    rfl
  transactions := by
    refine List.rel_append h.transactions ?_
    cases t with
    | none => exact .nil
    | some t => exact .cons ⟨t, global, global', rfl, rfl⟩ .nil

theorem Akin.length_eq (h : ssn.Akin ssn') :
    ssn'.transactions.length = ssn.transactions.length :=
  h.transactions.length_eq.symm

theorem Akin.isEmpty_eq (h : ssn.Akin ssn') :
    ssn'.transactions.isEmpty = ssn.transactions.isEmpty := by
  rw [Bool.eq_iff_iff, List.isEmpty_iff_length_eq_zero, List.isEmpty_iff_length_eq_zero,
    h.length_eq]

theorem Akin.closeNote_eq (h : ssn.Akin ssn') : ssn'.closeNote = ssn.closeNote := by
  have hlocation : ssn'.location = ssn.location := by
    rw [h.alike]
    rfl
  rw [closeNote, closeNote, hlocation, h.isEmpty_eq, h.length_eq]

theorem Akin.registered (h : ssn.Akin ssn') :
    List.Forall₂ Akin ssn.registered.toList ssn'.registered.toList := by
  unfold Session.registered
  rw [h.isEmpty_eq]
  split
  · exact .nil
  · exact .cons h .nil

end Session

/-- Global rules only come before those of a response: a node comes to what it comes to without
any. -/
theorem Transaction.result_reading (settings : Settings) (path : String) (rules : RuleSet)
    (n : Node) :
    (reading ⟨settings, path, rules⟩ n).result =
      (reading ⟨settings, path, .empty⟩ n).result.map fun p => (p.1.map (under rules), p.2) := by
  have hread := @related_reading ⟨settings, path, .empty⟩ rules List.nodup_nil n
  have hcontext : (⟨settings, path, .empty⟩ : ReadingContext).under rules =
      ⟨settings, path, rules⟩ := rfl
  rw [hcontext] at hread
  generalize reading ⟨settings, path, .empty⟩ n = x at hread ⊢
  generalize reading ⟨settings, path, rules⟩ n = y at hread ⊢
  cases hread with
  | error => rfl
  | ok h => exact congrArg Except.ok h.1

/-! ### What the parts do -/

namespace Stage

/-- The stage after the document has been opened. -/
def afterDocument (path : String) (root : Node) : Stage :=
  match (root.get? "meta").bind (·.get? "global-field-rules") with
  | none => .afterRules path root []
  | some n =>
    let l := LoadedFields.ofRules path n
    if l.report.ok then .rules path root l.rules l.report else .afterRules path root l.report

/-- Whether a session is open. -/
def inSession : Stage → Bool
  | .transactions _ _ _ => true
  | _ => false

theorem inSession_ofFile (files : FileTree) (p : FilePath) :
    (ofFile files p).inSession = false := by
  unfold ofFile ofRead
  repeat' split
  all_goals rfl

theorem inSession_afterRules (path : String) (root : Node) (a : Report) :
    (afterRules path root a).inSession = false := by
  unfold afterRules
  split <;> rfl

theorem inSession_afterDocument (path : String) (root : Node) :
    (afterDocument path root).inSession = false := by
  unfold afterDocument
  split
  · exact inSession_afterRules _ _ _
  · dsimp only
    split
    · rfl
    · exact inSession_afterRules _ _ _

end Stage

namespace Handler

variable {s : LoadState} {settings : Settings}

theorem runOn_step_document (h : s.run.names.frozen = false) (path : String) (root : Node) :
    ((recording settings).step (.document path root)).runOn s =
      (.ok (.afterDocument path root),
        { s with path, run := s.run.learn (FileReading.globalBlock path root).names }) := by
  have hopen : (openFile path).runOn s = (.ok [], { s with path }) := rfl
  unfold step Stage.afterDocument FileReading.globalBlock
  rw [Step.runOn_bind_of_ok hopen]
  rcases (root.get? "meta").bind (·.get? "global-field-rules") with _ | n
  · rfl
  · have hrules := @Load.runOn_rules { s with path } h n
    dsimp only at hrules ⊢
    rw [Step.runOn_bind_of_ok hrules]
    dsimp only
    split <;> rfl

theorem runOn_step_rules (hs : s.run.Loading) (path : String) (root : Node) (rules : RuleSet)
    (a : Report) :
    ((recording settings).step (.rules path root rules a)).runOn s =
      (.ok (.afterRules path root a), s.ruled [] rules) := by
  have hmerge : ((recording settings).globalRules rules).runOn s = (.ok [], s.ruled [] rules) :=
    runOn_globalRules hs [] rules
  rw [step, Step.runOn_bind_of_ok hmerge, List.append_nil]
  rfl

theorem runOn_step_session (settings : Settings) (hs : s.run.Loading) {n : Node}
    (hn : n.isMapping = true) (ns : List Node) (a : Report) :
    ∃ ssn, ((recording settings).step (.sessions (n :: ns) a)).runOn s =
        ((Session.openReading s.path n).result.map fun p => .afterOpening s.path n ns a p.2,
          s.building (Session.openReading s.path n).names ssn) ∧
      ∀ p, (Session.openReading s.path n).result = .ok p → p.1 = ssn := by
  obtain ⟨ssn, hopen, hssn⟩ := @runOn_openSession s settings hs.names hs.unlocked n
  refine ⟨ssn, ?_, hssn⟩
  simp only [step, hn, Bool.not_true, Bool.false_eq_true, if_false]
  cases hr : (Session.openReading s.path n).result with
  | error e =>
    rw [hr] at hopen
    exact Step.runOn_bind_of_error hopen
  | ok p =>
    rw [hr] at hopen
    rw [Step.runOn_bind_of_ok hopen]
    rfl

theorem runOn_step_transaction (settings : Settings) (hs : s.run.Loading)
    (ht : s.transaction = none) {ssn : Session} (hssn : s.session = some ssn) (t : Node)
    (ts ns : List Node) (a : Report) :
    ∃ ssn', ((recording settings).step (.transactions (t :: ts) ns a)).runOn s =
        ((Transaction.reading (s.context settings) t).result.map
            fun p => .transactions ts ns (a ++ p.2),
          s.building (Transaction.reading (s.context settings) t).names ssn') ∧
      ∀ p, (Transaction.reading (s.context settings) t).result = .ok p → ssn.attach p.1 = ssn' := by
  obtain ⟨ssn', hrun, hattach⟩ :=
    @follows_walkTransaction s settings hs.names ht hs.unlocked t ssn []
  have hsame : s.building [] ssn = s := by
    rw [LoadState.building, ← hssn]
    rfl
  rw [hsame] at hrun
  refine ⟨ssn', ?_, fun p hp => ?_⟩
  · rw [step]
    cases hr : (Transaction.reading (s.context settings) t).result with
    | error e =>
      rw [Reading.bind_of_error hr] at hrun
      exact Step.runOn_bind_of_error hrun
    | ok p =>
      rw [Reading.bind_of_ok hr] at hrun
      simp only [Reading.names_pure, List.append_nil] at hrun
      rw [Step.runOn_bind_of_ok hrun]
      rfl
  · rw [Reading.bind_of_ok hp] at hattach
    exact hattach _ rfl

theorem runOn_step_close (hs : s.run.Loading) {ssn : Session} (hssn : s.session = some ssn)
    (ns : List Node) (a : Report) :
    ((recording settings).step (.transactions [] ns a)).runOn s =
      (.ok (.sessions ns (a ++ [ssn.closeNote])), s.between [] ssn.registered.toList none) := by
  have hclose := @runOn_closeSession s settings hs.writable [] ssn
  have hsame : s.building [] ssn = s := by
    rw [LoadState.building, ← hssn]
    rfl
  rw [hsame] at hclose
  rw [step, Step.runOn_bind_of_ok hclose]
  rfl

end Handler

/-! ### Two loads of one file -/

namespace RunState

/-- A run into which files can be loaded has gained some sessions, and kept its buffer. -/
structure Gains (run run' : RunState) (ssns : List Session) : Prop where
  loading : run'.Loading
  sessions : run'.sessions = run.sessions ++ ssns
  maxContentLength : run'.maxContentLength = run.maxContentLength
  buffer : run'.buffer = run.buffer

variable {run run' run'' : RunState} {ssns ssns' : List Session}

theorem Gains.trans (h : run.Gains run' ssns) (h' : run'.Gains run'' ssns') :
    run.Gains run'' (ssns ++ ssns') where
  loading := h'.loading
  sessions := by rw [h'.sessions, h.sessions, List.append_assoc]
  maxContentLength := h'.maxContentLength.trans h.maxContentLength
  buffer := h'.buffer.trans h.buffer

theorem Loading.gains (h : run.Loading) : run.Gains run [] :=
  ⟨h, (List.append_nil _).symm, rfl, rfl⟩

theorem Loading.gains_learn (h : run.Loading) (ns : List Text) : run.Gains (run.learn ns) [] where
  loading := by
    have hgain := h.gain ns []
    rwa [RunState.gain, List.append_nil] at hgain
  sessions := (List.append_nil _).symm
  maxContentLength := rfl
  buffer := rfl

theorem Loading.gains_ruled (h : run.Loading) (rules : RuleSet) :
    run.Gains
      { run.learn [] with rules := { run.rules with rules := run.rules.rules.merge rules } }
      [] where
  loading := ⟨h.names, h.rules, h.writable, h.unlocked⟩
  sessions := (List.append_nil _).symm
  maxContentLength := rfl
  buffer := rfl

theorem Loading.gains_gain (h : run.Loading) (ssns : List Session) :
    run.Gains (run.gain [] ssns) ssns :=
  ⟨h.gain [] ssns, rfl, rfl, rfl⟩

end RunState

namespace Task

variable {w w' : Task} {run run' : RunState} {settings : Settings}

/-- The session that the next part of a load puts into the run, if there is one. -/
def closing (w : Task) : List Session :=
  match w.stage, w.state.session with
  | .transactions [] _ _, some ssn => ssn.registered.toList
  | _, _ => []

/-- Two loads of one file at the same stage, and with the same session open but for the global rules
that its responses begin with. -/
structure Alongside (w w' : Task) : Prop where
  file : w'.file = w.file
  stage : w'.stage = w.stage
  path : w'.state.path = w.state.path
  closed : w.state.transaction = none ∧ w'.state.transaction = none
  session : w.stage.inSession = true →
    ∃ ssn ssn', w.state.session = some ssn ∧ w'.state.session = some ssn' ∧ ssn.Akin ssn'

/-- With no session open, nothing but the stage and the path matters. -/
theorem alongside_of_not_inSession {stage : Stage} (h : stage.inSession = false)
    {file : FilePath} {path : String} {session session' : Option Session}
    {scopes scopes' : List Bool} :
    (⟨file, stage, ⟨run, path, session, none, scopes⟩⟩ : Task).Alongside
      ⟨file, stage, ⟨run', path, session', none, scopes'⟩⟩ where
  file := rfl
  stage := rfl
  path := rfl
  closed := ⟨rfl, rfl⟩
  session hin := by
    rw [h] at hin
    cases hin

theorem alongside_start (files : FileTree) (p : FilePath) :
    (start files p).Alongside (start files p) :=
  alongside_of_not_inSession (Stage.inSession_ofFile files p)

/-- The next part of both loads, on runs that may differ, leads to the same stage; and both put the
same sessions into their runs but for the global rules. -/
theorem Alongside.go (h : w.Alongside w') (hrun : run.Loading) (hrun' : run'.Loading) :
    (w.go (.recording settings) run).1.Alongside (w'.go (.recording settings) run').1 ∧
      run.Gains (w.go (.recording settings) run).2 w.closing ∧
      run'.Gains (w'.go (.recording settings) run').2 w'.closing ∧
      List.Forall₂ Session.Akin w.closing w'.closing := by
  obtain ⟨file, stage, ⟨old, path, session, transaction, scopes⟩⟩ := w
  obtain ⟨file', stage', ⟨old', path', session', transaction', scopes'⟩⟩ := w'
  obtain ⟨rfl, rfl, rfl, ⟨rfl, rfl⟩, hsession⟩ := h
  unfold Task.go
  dsimp only at hsession ⊢
  cases stage' with
  | document path root =>
    rw [Handler.runOn_step_document hrun.names, Handler.runOn_step_document hrun'.names]
    exact ⟨alongside_of_not_inSession (Stage.inSession_afterDocument path root),
      hrun.gains_learn _, hrun'.gains_learn _, .nil⟩
  | rules path root rules a =>
    rw [Handler.runOn_step_rules hrun, Handler.runOn_step_rules hrun']
    dsimp only
    exact ⟨alongside_of_not_inSession (Stage.inSession_afterRules path root a),
      hrun.gains_ruled rules, hrun'.gains_ruled rules, .nil⟩
  | sessions ns a =>
    cases ns with
    | nil => exact ⟨alongside_of_not_inSession rfl, hrun.gains, hrun'.gains, .nil⟩
    | cons n ns =>
      cases hn : n.isMapping with
      | false =>
        simp only [Handler.step, hn, Bool.not_false, if_true]
        exact ⟨alongside_of_not_inSession rfl, hrun.gains, hrun'.gains, .nil⟩
      | true =>
        obtain ⟨ssn, hstep, hssn⟩ := Handler.runOn_step_session
          (s := ⟨run, path', session, none, scopes⟩) settings hrun hn ns a
        obtain ⟨ssn', hstep', hssn'⟩ := Handler.runOn_step_session
          (s := ⟨run', path', session', none, scopes'⟩) settings hrun' hn ns a
        rw [hstep, hstep']
        cases hr : (Session.openReading path' n).result with
        | error e =>
          exact ⟨alongside_of_not_inSession rfl, hrun.gains_learn _, hrun'.gains_learn _, .nil⟩
        | ok p =>
          obtain rfl := hssn p hr
          obtain rfl := hssn' p hr
          refine ⟨⟨rfl, rfl, rfl, ⟨rfl, rfl⟩, fun _ => ⟨p.1, p.1, rfl, rfl, ?_⟩⟩,
            hrun.gains_learn _, hrun'.gains_learn _, .nil⟩
          exact Session.akin_of_nil (Session.transactions_openReading hr)
  | transactions ts ns a =>
    cases ts with
    | nil =>
      obtain ⟨ssn, ssn', rfl, rfl, hakin⟩ := hsession rfl
      rw [Handler.runOn_step_close hrun rfl, Handler.runOn_step_close hrun' rfl]
      dsimp only
      rw [hakin.closeNote_eq]
      exact ⟨alongside_of_not_inSession rfl, hrun.gains_gain _, hrun'.gains_gain _,
        hakin.registered⟩
    | cons t ts =>
      obtain ⟨ssn, ssn', rfl, rfl, hakin⟩ := hsession rfl
      obtain ⟨ssn₁, hstep, hattach⟩ := Handler.runOn_step_transaction
        (s := ⟨run, path', some ssn, none, scopes⟩) settings hrun rfl rfl t ts ns a
      obtain ⟨ssn₂, hstep', hattach'⟩ := Handler.runOn_step_transaction
        (s := ⟨run', path', some ssn', none, scopes'⟩) settings hrun' rfl rfl t ts ns a
      rw [hstep, hstep']
      dsimp only [LoadState.context] at hattach hattach' ⊢
      rw [Transaction.result_reading] at hattach hattach' ⊢
      rw [Transaction.result_reading settings path' run'.rules.rules]
      cases hr : (Transaction.reading ⟨settings, path', .empty⟩ t).result with
      | error e =>
        dsimp only [Except.map]
        exact ⟨alongside_of_not_inSession rfl, hrun.gains_learn _, hrun'.gains_learn _, .nil⟩
      | ok p =>
        rw [hr] at hattach hattach'
        obtain rfl := hattach _ rfl
        obtain rfl := hattach' _ rfl
        dsimp only [Except.map]
        refine ⟨⟨rfl, rfl, rfl, ⟨rfl, rfl⟩, fun _ => ⟨_, _, rfl, rfl, ?_⟩⟩,
          hrun.gains_learn _, hrun'.gains_learn _, .nil⟩
        exact hakin.attach p.1 _ _
  | ended r => exact ⟨alongside_of_not_inSession rfl, hrun.gains, hrun'.gains, .nil⟩

/-! ### A load, and the load of its file alone -/

/-- A load that is under way and has closed some sessions: going on alongside it, from where it
stands, the load of its file alone has put the same sessions into a run. -/
def Partway (files : FileTree) (settings : Settings) (w : Task) (closed : List Session) : Prop :=
  ∃ w' run', w.Alongside w' ∧ run'.Loading ∧
    w'.finish (.recording settings) run' = RunState.empty.load files (settings, w.file) ∧
    List.Forall₂ Session.Akin closed run'.sessions

variable {files : FileTree} {closed : List Session}

theorem partway_start (files : FileTree) (settings : Settings) (p : FilePath) :
    (start files p).Partway files settings [] :=
  ⟨start files p, .empty, alongside_start files p, RunState.loading_empty,
    finish_start _ files p .empty, .nil⟩

theorem file_go (h : Handler) (w : Task) (run : RunState) : (w.go h run).1.file = w.file := by
  unfold Task.go
  split <;> rfl

/-- What a load closes next, whatever the run, is what the load alone closes next. -/
theorem Partway.go (h : w.Partway files settings closed) (hrun : run.Loading) :
    (w.go (.recording settings) run).1.Partway files settings (closed ++ w.closing) := by
  obtain ⟨w', run', halongside, hrun', hfinish, hclosed⟩ := h
  obtain ⟨hnext, -, hgains, hclosing⟩ := @Alongside.go w w' run run' settings halongside hrun hrun'
  refine ⟨_, _, hnext, hgains.loading, ?_, ?_⟩
  · rw [finish_go, hfinish, file_go]
  · rw [hgains.sessions]
    exact List.rel_append hclosed hclosing

theorem Partway.gains (h : w.Partway files settings closed) (hrun : run.Loading) :
    run.Gains (w.go (.recording settings) run).2 w.closing := by
  obtain ⟨w', run', halongside, hrun', -, -⟩ := h
  exact (halongside.go hrun hrun').2.1

/-- A load that has ended has the result of the load alone, and has closed the same sessions. -/
theorem Partway.ended {r : Except Fault Report} (h : w.Partway files settings closed)
    (hw : w.stage = .ended r) :
    r = (RunState.empty.load files (settings, w.file)).1 ∧
      List.Forall₂ Session.Akin closed (RunState.own files (settings, w.file)).sessions := by
  obtain ⟨w', run', halongside, -, hfinish, hclosed⟩ := h
  rw [finish_of_ended _ (halongside.stage.trans hw)] at hfinish
  rw [RunState.own, ← hfinish]
  exact ⟨rfl, hclosed⟩

end Task

end TrafficReplay
