import Mathlib.Algebra.Order.Ring.Nat
import TrafficReplay.Loading.Directory

/-!
# The load of a file in parts

Several files are loaded at the same time.  A part of a load is what other loads can only see as a
whole: it holds the load lock all along, or it works on nothing that they share but the name table
and the registry, which have locks of their own.

* `Stage`, `Handler.step`: where a load stands between two parts, and the next part;
* `Handler.rest`, `Handler.rest_eq_step`: what is left of a load, part by part;
* `Handler.loadFile_eq_rest`: the load of a file is what is left at its first stage.
-/

namespace TrafficReplay
open TrafficReplay.Yaml TrafficReplay.Text

/-- Where the load of a file stands, and what it has reported so far. -/
inductive Stage
  /-- The file has been read: this is its document. -/
  | document (path : String) (root : Node)
  /-- The rules in the block of global rules have been read. -/
  | rules (path : String) (root : Node) (rules : RuleSet) (report : Report)
  /-- Some sessions are to be loaded. -/
  | sessions (ns : List Node) (report : Report)
  /-- A session is open: transactions are to be loaded, and sessions after it. -/
  | transactions (ts ns : List Node) (report : Report)
  /-- The load has ended. -/
  | ended (result : Except Fault Report)

namespace Stage

/-- The stage after reading a file. -/
def ofRead (path : String) : Except FileFault (List UInt8) → Stage
  | .error f => .ended (.ok [⟨.error, "Failed to read \"" ++ path ++ "\": " ++ f.message path⟩])
  | .ok bytes =>
    match compose (.ofFile (.ofBytes bytes)) with
    | .ok (some (.mapping line entries)) => .document path (.mapping line entries)
    | .ok _ =>
      .ended (.ok [⟨.error, "Replay file \"" ++ path ++ "\" is empty or not a map."⟩])
    | .error (.undecodable f) =>
      .ended (.ok [⟨.error, "Failed to read \"" ++ path ++ "\": " ++ f.message⟩])
    | .error f =>
      if f.isFormal then
        .ended (.ok [⟨.error, "Failed to parse \"" ++ path ++ "\": " ++ f.message⟩])
      else .ended (.error (.unreadable f))

/-- The first stage of the load of a file. -/
def ofFile (files : FileTree) (p : FilePath) : Stage :=
  if p.text.toList.contains '\x00' then .ended (.error .nullInPath)
  else ofRead p.text (files.read p)

/-- The stage after the global rules of a document. -/
def afterRules (path : String) (root : Node) (report : Report) : Stage :=
  match root.get? "sessions" with
  | none =>
    .ended (.ok (report ++ [⟨.error, "Replay file \"" ++ path ++ "\" has no \"sessions\" key."⟩]))
  | some (.sequence _ ns) => .sessions ns report
  | some _ =>
    .ended (.ok (report ++
      [⟨.error, "\"sessions\" value in \"" ++ path ++ "\" is not a sequence."⟩]))

/-- The stage after opening a session, given what that reported. -/
def afterOpening (path : String) (n : Node) (ns : List Node) (report opened : Report) : Stage :=
  let here : Text := "Session at " ++ place path n.line
  if opened.ok then
    match n.get? "transactions" with
    | none =>
      .transactions [] ns
        (report ++ opened ++ [⟨.warn, here ++ " has no \"transactions\" key."⟩])
    | some (.sequence _ ts) => .transactions ts ns (report ++ opened)
    | some _ =>
      .transactions [] ns
        (report ++ opened ++
          [⟨.error, here ++ " has a \"transactions\" value that is not a sequence."⟩])
  else .transactions [] ns (report ++ opened)

/-! ### How many parts there are -/

/-- The nodes of the sequence under a key, if there is one. -/
def nodesUnder (key : Text) (n : Node) : List Node :=
  match n.get? key with
  | some (.sequence _ ns) => ns
  | _ => []

/-- The number of parts of some sessions. -/
def sessionParts (ns : List Node) : Nat :=
  (ns.map fun n => (nodesUnder "transactions" n).length + 2).sum + 1

/-- The number of parts that are left at most. -/
def parts : Stage → Nat
  | .document _ root => sessionParts (nodesUnder "sessions" root) + 2
  | .rules _ root _ _ => sessionParts (nodesUnder "sessions" root) + 1
  | .sessions ns _ => sessionParts ns
  | .transactions ts ns _ => ts.length + 1 + sessionParts ns
  | .ended _ => 0

theorem eq_ended_of_parts_eq_zero {st : Stage} (h : st.parts = 0) : ∃ r, st = .ended r := by
  cases st with
  | ended r => exact ⟨r, rfl⟩
  | _ => cases h

theorem parts_afterRules (path : String) (root : Node) (a : Report) :
    (afterRules path root a).parts ≤ sessionParts (nodesUnder "sessions" root) := by
  unfold afterRules nodesUnder
  rcases root.get? "sessions" with _ | ⟨_, _⟩ | ⟨_, ns⟩ | ⟨_, _⟩
  · exact Nat.zero_le _
  · exact Nat.zero_le _
  · exact Nat.le_refl _
  · exact Nat.zero_le _

theorem parts_afterOpening (path : String) (n : Node) (ns : List Node) (a b : Report) :
    (afterOpening path n ns a b).parts < sessionParts (n :: ns) := by
  unfold afterOpening
  dsimp only
  split
  · split <;> rename_i hts <;> simp [parts, sessionParts, nodesUnder, hts] <;> omega
  · simp only [parts, sessionParts, List.map_cons, List.sum_cons, List.length_nil]
    omega

end Stage

theorem Step.runOn_bind_eq_ok {σ ε α β : Type} {x : Step σ ε α} {f : α → Step σ ε β} {s t : σ}
    {b : β} : (x >>= f).runOn s = (.ok b, t) ↔
      ∃ a u, x.runOn s = (.ok a, u) ∧ (f a).runOn u = (.ok b, t) := by
  rw [runOn_bind]
  rcases x.runOn s with ⟨e | a, u⟩
  · exact ⟨nofun, nofun⟩
  · exact ⟨fun h => ⟨a, u, rfl, h⟩, fun ⟨_, _, hx, h⟩ => by cases hx; exact h⟩

namespace Handler

variable (h : Handler)

/-! ### The next part, and what is left -/

/-- The next part of a load: the stage after it. -/
def step : Stage → Load Stage
  | .document path root => do
    let a ← openFile path
    match (root.get? "meta").bind (·.get? "global-field-rules") with
    | none => return .afterRules path root a
    | some n => do
      let (rules, b) ← Load.rules n
      if b.ok then return .rules path root rules (a ++ b)
      else return .afterRules path root (a ++ b)
  | .rules path root rules a => do
    let b ← h.globalRules rules
    return .afterRules path root (a ++ b)
  | .sessions [] a => return .ended (.ok a)
  | .sessions (n :: ns) a => do
    if !n.isMapping then
      let path := (← get).path
      return .sessions ns
        (a ++ [⟨.error, "Session at " ++ place path n.line ++ " is not a map."⟩])
    else
      let b ← h.openSession n
      return .afterOpening (← get).path n ns a b
  | .transactions (t :: ts) ns a => do
    let b ← h.walkTransaction t
    return .transactions ts ns (a ++ b)
  | .transactions [] ns a => do
    let b ← h.closeSession
    return .sessions ns (a ++ b)
  | .ended r => return .ended r

/-- What is left behind the global rules of a document. -/
def walkSessions (path : String) (root : Node) : Load Report :=
  match root.get? "sessions" with
  | none => return [⟨.error, "Replay file \"" ++ path ++ "\" has no \"sessions\" key."⟩]
  | some (.sequence _ ns) => Load.each h.walkSession ns
  | some _ => return [⟨.error, "\"sessions\" value in \"" ++ path ++ "\" is not a sequence."⟩]

/-- What is left of a load at a stage, with its report as a whole. -/
def rest : Stage → Load Report
  | .document path root => do
    let a ← openFile path
    let b ← h.walkGlobalRules root
    return a ++ b ++ (← h.walkSessions path root)
  | .rules path root rules a => do
    let b ← h.globalRules rules
    return a ++ b ++ (← h.walkSessions path root)
  | .sessions ns a => return a ++ (← Load.each h.walkSession ns)
  | .transactions ts ns a => do
    let b ← Load.each h.walkTransaction ts
    let c ← h.closeSession
    return a ++ b ++ c ++ (← Load.each h.walkSession ns)
  | .ended r => liftM r

/-- The transactions of a session, told with the path of the file. -/
def walkTransactionsAt (path : String) (n : Node) : Load Report :=
  match n.get? "transactions" with
  | none =>
    return [⟨.warn, "Session at " ++ place path n.line ++ " has no \"transactions\" key."⟩]
  | some (.sequence _ ts) => Load.each h.walkTransaction ts
  | some _ =>
    return [⟨.error, "Session at " ++ place path n.line ++
      " has a \"transactions\" value that is not a sequence."⟩]

theorem walkTransactions_eq (n : Node) :
    h.walkTransactions n = (get >>= fun s => h.walkTransactionsAt s.path n) := by
  unfold walkTransactions walkTransactionsAt
  refine bind_congr fun s => ?_
  rcases n.get? "transactions" with _ | ⟨_, _⟩ | ⟨_, ts⟩ | ⟨_, _⟩ <;> rfl

theorem rest_afterRules (path : String) (root : Node) (a : Report) :
    h.rest (.afterRules path root a) = do return a ++ (← h.walkSessions path root) := by
  unfold Stage.afterRules walkSessions
  rcases root.get? "sessions" with _ | ⟨_, _⟩ | ⟨_, ns⟩ | ⟨_, _⟩
  all_goals simp only [pure_bind]
  all_goals rfl

theorem walkDocument_eq_rest (path : String) (line : Nat) (entries : List (Node × Node)) :
    h.walkDocument path (some (.mapping line entries)) =
      h.rest (.document path (.mapping line entries)) := by
  unfold walkDocument rest walkSessions
  refine bind_congr fun a => bind_congr fun b => ?_
  rcases (Node.mapping line entries).get? "sessions" with _ | ⟨_, _⟩ | ⟨_, ns⟩ | ⟨_, _⟩
  all_goals simp only [pure_bind]

theorem rest_afterOpening (path : String) (n : Node) (ns : List Node) (a b : Report) :
    h.rest (.afterOpening path n ns a b) = do
      let c ← if b.ok then h.walkTransactionsAt path n else pure []
      let d ← h.closeSession
      return a ++ b ++ c ++ d ++ (← Load.each h.walkSession ns) := by
  unfold Stage.afterOpening walkTransactionsAt
  dsimp only
  split
  · rcases n.get? "transactions" with _ | ⟨_, _⟩ | ⟨_, ts⟩ | ⟨_, _⟩
    all_goals simp only [rest, Load.each, pure_bind, List.append_assoc, List.nil_append]
  · simp only [rest, Load.each, pure_bind, List.append_assoc, List.nil_append]

/-- What is left is the next part, and what is left after that. -/
theorem rest_eq_step (st : Stage) : h.rest st = h.step st >>= h.rest := by
  cases st with
  | document path root =>
    rw [rest, step, walkGlobalRules, bind_assoc]
    refine bind_congr fun a => ?_
    rcases (root.get? "meta").bind (·.get? "global-field-rules") with _ | n
    · simp only [pure_bind, rest_afterRules, List.append_nil]
    · simp only [bind_assoc]
      refine bind_congr fun p => ?_
      split
      · simp only [pure_bind, rest, bind_assoc, List.append_assoc]
      · simp only [pure_bind, rest_afterRules, List.append_nil]
  | rules path root rules a =>
    rw [rest, step, bind_assoc]
    simp only [pure_bind, rest_afterRules]
  | sessions ns a =>
    cases ns with
    | nil =>
      simp only [step, rest, Load.each, pure_bind, List.append_nil]
      rfl
    | cons n ns =>
      rw [rest, step, Load.each, walkSession]
      split
      · simp only [bind_assoc, pure_bind, rest, List.append_assoc]
      · simp only [bind_assoc, pure_bind, rest_afterOpening]
        refine bind_congr fun b => ?_
        split
        · simp only [walkTransactions_eq, bind_assoc, pure_bind, List.append_assoc]
        · simp only [bind_assoc, pure_bind, List.append_nil, List.append_assoc]
          rfl
  | transactions ts ns a =>
    cases ts with
    | nil => simp only [step, rest, Load.each, bind_assoc, pure_bind, List.append_nil]
    | cons t ts =>
      simp only [step, rest, Load.each, bind_assoc, pure_bind, List.append_assoc]
  | ended r => exact (pure_bind _ _).symm

/-- Every part leaves fewer parts. -/
theorem parts_step {st st' : Stage} (hst : 0 < st.parts) {s s' : LoadState}
    (hrun : (h.step st).runOn s = (.ok st', s')) : st'.parts < st.parts := by
  cases st with
  | document path root =>
    obtain ⟨a, _, -, hrun⟩ := Step.runOn_bind_eq_ok.mp hrun
    have hafter := Stage.parts_afterRules path root
    cases hblock : (root.get? "meta").bind (·.get? "global-field-rules") with
    | none =>
      rw [hblock] at hrun
      cases hrun
      exact Nat.lt_of_le_of_lt (hafter a) (Nat.lt_add_of_pos_right (by decide))
    | some n =>
      rw [hblock] at hrun
      obtain ⟨⟨rules, b⟩, _, -, hrun⟩ := Step.runOn_bind_eq_ok.mp hrun
      dsimp only at hrun
      split at hrun <;> cases hrun
      · exact Nat.lt_succ_self _
      · exact Nat.lt_of_le_of_lt (hafter _) (Nat.lt_add_of_pos_right (by decide))
  | rules path root rules a =>
    obtain ⟨b, _, -, hrun⟩ := Step.runOn_bind_eq_ok.mp hrun
    cases hrun
    exact Nat.lt_succ_of_le (Stage.parts_afterRules path root _)
  | sessions ns a =>
    cases ns with
    | nil =>
      cases hrun
      exact Nat.succ_pos _
    | cons n ns =>
      rw [step] at hrun
      split at hrun
      · cases hrun
        simp only [Stage.parts, Stage.sessionParts, List.map_cons, List.sum_cons]
        omega
      · obtain ⟨b, _, -, hrun⟩ := Step.runOn_bind_eq_ok.mp hrun
        cases hrun
        exact Stage.parts_afterOpening _ _ _ _ _
  | transactions ts ns a =>
    cases ts with
    | nil =>
      obtain ⟨b, _, -, hrun⟩ := Step.runOn_bind_eq_ok.mp hrun
      cases hrun
      simp only [Stage.parts, List.length_nil]
      omega
    | cons t ts =>
      obtain ⟨b, _, -, hrun⟩ := Step.runOn_bind_eq_ok.mp hrun
      cases hrun
      simp only [Stage.parts, List.length_cons]
      omega
  | ended r => exact absurd hst (Nat.lt_irrefl 0)

/-- The load of a file is what is left of it at its first stage. -/
theorem loadFile_eq_rest (files : FileTree) (p : FilePath) :
    h.loadFile files p = h.rest (.ofFile files p) := by
  unfold loadFile Stage.ofFile
  by_cases hnull : p.text.toList.contains '\x00' = true
  · simp only [hnull, if_true]
    rfl
  · simp only [hnull, Bool.false_eq_true, if_false]
    unfold walkRead Stage.ofRead
    rcases files.read p with f | bytes
    · rfl
    · dsimp only
      rcases compose (.ofFile (.ofBytes bytes)) with f | _ | ⟨_, _⟩ | ⟨_, _⟩ | ⟨_, _⟩
      · cases f with
        | undecodable f => rfl
        | _ =>
          dsimp only
          split <;> rfl
      · rfl
      · rfl
      · rfl
      · exact h.walkDocument_eq_rest _ _ _

end Handler

/-! ### Loads that go on part by part -/

/-- The load of a file that is under way.  The run in its state is not used: that is shared. -/
structure Task where
  file : FilePath
  stage : Stage
  state : LoadState

namespace Task

variable (h : Handler)

/-- The load of a file that has been called. -/
def start (files : FileTree) (p : FilePath) : Task := ⟨p, .ofFile files p, .start .empty ""⟩

/-- Do the next part of a load on a run. A fault ends it. -/
def go (w : Task) (run : RunState) : Task × RunState :=
  match (h.step w.stage).runOn { w.state with run } with
  | (.ok stage, s) => ({ w with stage, state := s }, s.run)
  | (.error f, s) => ({ w with stage := .ended (.error f) }, s.run)

/-- Do all of what is left of a load on a run. -/
def finish (w : Task) (run : RunState) : Except Fault Report × RunState :=
  let (r, s) := (h.rest w.stage).runOn { w.state with run }
  (r, s.run)

/-- All of what is left is the next part, and what is left after that. -/
theorem finish_go (w : Task) (run : RunState) :
    (w.go h run).1.finish h (w.go h run).2 = w.finish h run := by
  unfold go finish
  rw [h.rest_eq_step w.stage, Step.runOn_bind]
  rcases (h.step w.stage).runOn { w.state with run } with ⟨f | stage, s⟩
  · rfl
  · rfl

/-- All of a load that has been called is the load of its file. -/
theorem finish_start (files : FileTree) (p : FilePath) (run : RunState) :
    (start files p).finish h run = (h.loader files p).runOn run := by
  rw [Handler.loader, Step.runOn_ofRun, h.loadFile_eq_rest]
  rfl

/-- A load that has not ended has fewer parts left after the next one. -/
theorem parts_go {w : Task} (hw : 0 < w.stage.parts) (run : RunState) :
    (w.go h run).1.stage.parts < w.stage.parts := by
  unfold go
  rcases hrun : (h.step w.stage).runOn { w.state with run } with ⟨f | stage, s⟩
  · exact hw
  · exact h.parts_step hw hrun

theorem finish_of_ended {w : Task} {r : Except Fault Report} (hw : w.stage = .ended r)
    (run : RunState) : w.finish h run = (r, run) := by
  unfold finish
  rw [hw]
  rfl

end Task

end TrafficReplay
