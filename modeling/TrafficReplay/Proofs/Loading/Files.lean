import TrafficReplay.Proofs.Loading.Walk

/-!
# A load does what the reading of its file says

Loading a file into a run that is being loaded ends with the result of the file's reading, and the
run has gained the names, rules and sessions of the reading and nothing else
(`Handler.runOn_loader`).  The run can then take the next file (`RunState.Loading.after`).
-/

namespace TrafficReplay
open TrafficReplay.Yaml TrafficReplay.Text

namespace RunState

/-- A run into which files can be loaded: nothing is frozen, and no one holds the load lock. -/
structure Loading (run : RunState) : Prop where
  names : run.names.frozen = false
  rules : run.rules.frozen = false
  writable : run.frozen = false
  unlocked : run.locked = false

theorem loading_empty : empty.Loading := ⟨rfl, rfl, rfl, rfl⟩

/-- A run after the loading of a file. -/
def after (run : RunState) (r : FileReading) : RunState :=
  { run.gain r.names r.sessions with rules := { run.rules with rules := r.rules } }

theorem Loading.after {run : RunState} (h : run.Loading) (r : FileReading) :
    (run.after r).Loading where
  names := by rw [← h.names]; exact NameTable.frozen_addAll _ _
  rules := h.rules
  writable := h.writable
  unlocked := h.unlocked

theorem Loading.gain {run : RunState} (h : run.Loading) (ns : List Text) (ssns : List Session) :
    (run.gain ns ssns).Loading where
  names := by rw [← h.names]; exact NameTable.frozen_addAll _ _
  rules := h.rules
  writable := h.writable
  unlocked := h.unlocked

theorem after_nothing (run : RunState) (result : Except Fault Report) :
    run.after (.nothing run.rules.rules result) = run := by
  simp [RunState.after, FileReading.nothing, gain, learn]

end RunState

namespace LoadState

variable {s : LoadState}

theorem between_between (s : LoadState) (ns ms : List Text) (ssns ssns' : List Session)
    (left left' : Option Session) :
    (s.between ns ssns left).between ms ssns' left' =
      s.between (ns ++ ms) (ssns ++ ssns') left' := by
  simp [between, RunState.gain, RunState.learn]

/-- A state with some names and global rules more. -/
def ruled (s : LoadState) (ns : List Text) (rules : RuleSet) : LoadState :=
  { s with
    run := { s.run.learn ns with
      rules := { s.run.rules with rules := s.run.rules.rules.merge rules } } }

theorem context_ruled (s : LoadState) (ns : List Text) (rules : RuleSet) (settings : Settings) :
    (s.ruled ns rules).context settings = ⟨settings, s.path, s.run.rules.rules.merge rules⟩ := rfl

theorem run_ruled (s : LoadState) (ns : List Text) (rules : RuleSet)
    (result : Except Fault Report) :
    (s.ruled ns rules).run = s.run.after ⟨ns, s.run.rules.rules.merge rules, [], result⟩ := by
  simp [ruled, RunState.after, RunState.gain, RunState.learn]

theorem run_between_ruled (s : LoadState) (ns ms : List Text) (rules : RuleSet)
    (ssns : List Session) (left : Option Session) (result : Except Fault Report) :
    ((s.ruled ns rules).between ms ssns left).run =
      s.run.after ⟨ns ++ ms, s.run.rules.rules.merge rules, ssns, result⟩ := by
  simp [ruled, between, RunState.after, RunState.gain, RunState.learn]

end LoadState

namespace Handler

variable {s : LoadState} {settings : Settings}

theorem runOn_walkSessions (hs : s.run.Loading) (ht : s.transaction = none) (ns : List Node) :
    ∃ left, (Load.each (recording settings).walkSession ns).runOn s =
      ((FileReading.ofSessions (s.context settings) ns).result,
        s.between (FileReading.ofSessions (s.context settings) ns).names
          (FileReading.ofSessions (s.context settings) ns).sessions left) := by
  induction ns generalizing s with
  | nil => exact ⟨s.session, by simp [Load.each, FileReading.ofSessions, FileReading.nothing,
      LoadState.between, RunState.gain, RunState.learn]⟩
  | cons n ns ih =>
    obtain ⟨left, hrun⟩ :=
      @runOn_walkSession s settings hs.names ht hs.unlocked hs.writable n
    unfold Load.each FileReading.ofSessions
    cases hr : (Session.reading (s.context settings) n).result with
    | error e =>
      rw [hr] at hrun
      rw [Step.runOn_bind_of_error hrun]
      exact ⟨left, by simp [Session.gained, hr]⟩
    | ok p =>
      obtain ⟨ssn, a⟩ := p
      rw [hr] at hrun
      rw [Step.runOn_bind_of_ok hrun]
      obtain ⟨left', hrest⟩ := ih (s := s.between (Session.reading (s.context settings) n).names
        (Session.gained (Session.reading (s.context settings) n)) left) (hs.gain _ _) ht
      -- Neither names nor sessions are part of the context, so the rest is read in the same one.
      have hcontext (ns : List Text) (ssns : List Session) (left : Option Session) :
          (s.between ns ssns left).context settings = s.context settings := rfl
      rw [hcontext, LoadState.between_between] at hrest
      refine ⟨left', ?_⟩
      simp only [Session.gained, hr] at hrest ⊢
      cases hresult : (FileReading.ofSessions (s.context settings) ns).result with
      | error e =>
        rw [hresult] at hrest
        rw [Step.runOn_bind_of_error hrest]
        rfl
      | ok b =>
        rw [hresult] at hrest
        rw [Step.runOn_bind_of_ok hrest]
        rfl

theorem runOn_globalRules (hs : s.run.Loading) (ns : List Text) (rules : RuleSet) :
    ((recording settings).globalRules rules).runOn (s.ruled ns .empty) =
      (.ok [], s.ruled ns rules) := by
  -- With the lock free and nothing frozen, all checks on the way are decided.
  obtain ⟨⟨names, sessions, ⟨rs, frozen⟩, size, buffer, closed, locked⟩, _, _, _, _⟩ := s
  obtain ⟨_, hrules, hwritable, hunlocked⟩ := hs
  cases hrules
  cases hwritable
  cases hunlocked
  rfl

/-- The walk through the global rules of a document adds the rules that the document adds. -/
theorem runOn_walkGlobalRules (hs : s.run.Loading) (root : Node) :
    ((recording settings).walkGlobalRules root).runOn s =
      (.ok (FileReading.globalBlock s.path root).report,
        s.ruled (FileReading.globalBlock s.path root).names
          (FileReading.addedRules s.path root)) := by
  unfold walkGlobalRules FileReading.addedRules FileReading.globalBlock
  rcases (root.get? "meta").bind (·.get? "global-field-rules") with _ | n
  · rfl
  · have hrules : (Load.rules n).runOn s = (.ok ((LoadedFields.ofRules s.path n).rules,
        (LoadedFields.ofRules s.path n).report),
          s.ruled (LoadedFields.ofRules s.path n).names .empty) :=
      Load.runOn_rules hs.names n
    dsimp only
    rw [Step.runOn_bind_of_ok hrules]
    dsimp only
    cases (LoadedFields.ofRules s.path n).report.ok with
    | false =>
      simp only [Bool.false_eq_true, if_false, pure_bind, Step.runOn_pure, List.append_nil]
    | true =>
      simp only [if_true]
      rw [Step.runOn_bind_of_ok (runOn_globalRules hs _ _), Step.runOn_pure, List.append_nil]

theorem runOn_walkMapping (hs : s.run.Loading) (ht : s.transaction = none) (line : Nat)
    (entries : List (Node × Node)) :
    ∃ t, ((recording settings).walkDocument s.path (some (.mapping line entries))).runOn s =
      ((FileReading.ofDocument (s.context settings) (some (.mapping line entries))).result, t) ∧
      t.run = s.run.after
        (FileReading.ofDocument (s.context settings) (some (.mapping line entries))) := by
  have hopen : (openFile s.path).runOn s = (.ok [], s) := rfl
  have hglobal := @runOn_walkGlobalRules _ settings hs (.mapping line entries)
  unfold walkDocument FileReading.ofDocument
  dsimp only
  rw [Step.runOn_bind_of_ok hopen, Step.runOn_bind_of_ok hglobal]
  rcases (Node.mapping line entries).get? "sessions" with _ | ⟨_, _⟩ | ⟨_, ns⟩ | ⟨_, _⟩
  · exact ⟨_, rfl, LoadState.run_ruled _ _ _ _⟩
  · exact ⟨_, rfl, LoadState.run_ruled _ _ _ _⟩
  · have hloading : (s.ruled (FileReading.globalBlock s.path (.mapping line entries)).names
        (FileReading.addedRules s.path (.mapping line entries))).run.Loading := by
      rw [LoadState.run_ruled _ _ _ (.ok [])]
      exact hs.after _
    obtain ⟨left, hrun⟩ := @runOn_walkSessions _ settings hloading ht ns
    refine ⟨_, ?_, LoadState.run_between_ruled _ _ _ _ _ left _⟩
    rw [LoadState.context_ruled] at hrun
    dsimp only [LoadState.context] at hrun ⊢
    rw [Step.runOn_bind, hrun]
    cases (FileReading.ofSessions _ ns).result <;> rfl
  · exact ⟨_, rfl, LoadState.run_ruled _ _ _ _⟩

/-- The walk through a document does what the reading of the document says. -/
theorem runOn_walkDocument (hs : s.run.Loading) (ht : s.transaction = none) (path : String)
    (root : Option Node) :
    ∃ t, ((recording settings).walkDocument path root).runOn s =
      ((FileReading.ofDocument ⟨settings, path, s.run.rules.rules⟩ root).result, t) ∧
      t.run = s.run.after (FileReading.ofDocument ⟨settings, path, s.run.rules.rules⟩ root) := by
  rcases root with _ | ⟨_, _⟩ | ⟨_, _⟩ | ⟨line, entries⟩
  · exact ⟨s, rfl, (s.run.after_nothing _).symm⟩
  · exact ⟨s, rfl, (s.run.after_nothing _).symm⟩
  · exact ⟨s, rfl, (s.run.after_nothing _).symm⟩
  · exact @runOn_walkMapping { s with path } settings hs ht line entries

/-- The load of a file, given what reading it gave, does what the reading of the file says. -/
theorem runOn_walkRead (hs : s.run.Loading) (ht : s.transaction = none) (path : String)
    (read : Except FileFault (List UInt8)) :
    ∃ t, ((recording settings).walkRead path read).runOn s =
      ((FileReading.ofRead ⟨settings, path, s.run.rules.rules⟩ read).result, t) ∧
      t.run = s.run.after (FileReading.ofRead ⟨settings, path, s.run.rules.rules⟩ read) := by
  unfold walkRead FileReading.ofRead
  rcases read with f | bytes
  · exact ⟨s, rfl, (s.run.after_nothing _).symm⟩
  · dsimp only
    rcases compose (.ofFile (.ofBytes bytes)) with f | root
    · cases f with
      | undecodable f => exact ⟨s, rfl, (s.run.after_nothing _).symm⟩
      | _ =>
        dsimp only
        split <;> exact ⟨s, rfl, (s.run.after_nothing _).symm⟩
    · exact runOn_walkDocument hs ht path root

/-- Loading a file ends with the result of the file's reading, and leaves the run with what the
reading brings. -/
theorem runOn_loader {run : RunState} (h : run.Loading) (files : FileTree) (p : FilePath) :
    ((recording settings).loader files p).runOn run =
      ((FileReading.ofFile settings files run.rules.rules p).result,
        run.after (FileReading.ofFile settings files run.rules.rules p)) := by
  rw [loader, Step.runOn_ofRun, loadFile, FileReading.ofFile]
  -- A path with a null character is refused before anything is opened.
  by_cases hnull : p.text.toList.contains '\x00' = true
  · simp only [hnull, if_true, RunState.after_nothing]
    rfl
  · obtain ⟨t, hrun, ht⟩ := @runOn_walkRead (.start run "") settings h rfl p.text (files.read p)
    simp only [hnull, Bool.false_eq_true, if_false]
    rw [hrun]
    exact congrArg (_, ·) ht

end Handler

end TrafficReplay
