import TrafficReplay.Proofs.Loading.SideBySide

/-!
# Loads with a list of wanted keys

Settings can list the keys of the wanted transactions.  Files loaded with such a list leave a run
with the sessions that they leave without one, thinned out: of every session there are the
transactions whose keys are in the list, and the sessions with none left are gone.  What the other
transactions bring beside themselves is there all the same.

* `Settings.allowing`: settings with a list of wanted keys;
* `Transaction.keyIn`: whether the key that is made of a transaction is in a list;
* `RunState.thinned`: a run with some transactions left out, before or after a load
  (`load_thinned`);
* `RunState.loadInTurn_allowing`: what it comes to for files loaded one after another.
-/

namespace TrafficReplay
open TrafficReplay.Yaml TrafficReplay.Text

/-- The settings with a list of wanted keys; with the empty list all are wanted. -/
def Settings.allowing (settings : Settings) (keys : List Text) : Settings :=
  { settings with keys }

/-- Whether the key that a format makes of a transaction is in a list. -/
def Transaction.keyIn (keys : List Text) (keyFormat : Text) (t : Transaction) : Bool :=
  keys.contains (t.request.key keyFormat)

/-! ### One transaction -/

namespace Transaction

variable (settings : Settings) {keys : List Text}

theorem sectionsReading_allowing (path : String) (rules : RuleSet) (n : Node) (t : Transaction)
    (ss : List Handler.Section) :
    sectionsReading ⟨settings.allowing keys, path, rules⟩ n t ss =
      sectionsReading ⟨settings.allowing [], path, rules⟩ n t ss := by
  induction ss generalizing t with
  | nil => rfl
  | cons s ss ih =>
    unfold sectionsReading
    simp only [ih]
    rfl

theorem wanted_allowing (hkeys : keys ≠ []) (t : Transaction) :
    (t.keyed settings).wanted (settings.allowing keys) =
      (t.keyed settings).keyIn keys settings.keyFormat := by
  simp [wanted, Settings.allowing, hkeys, keyIn, keyed]

/-- Of the transactions that are closed without a list, the list keeps those with keys in it. -/
theorem closed_allowing (hkeys : keys ≠ []) (path : String) (rules : RuleSet) (t : Transaction) :
    (closed ⟨settings.allowing keys, path, rules⟩ t).1 =
      (closed ⟨settings.allowing [], path, rules⟩ t).1.filter (keyIn keys settings.keyFormat) := by
  -- The key of a transaction is made of its request, so it is the same with and without the list.
  have hall : (closed ⟨settings.allowing [], path, rules⟩ t).1 = some (t.keyed settings) := rfl
  have hsome : (closed ⟨settings.allowing keys, path, rules⟩ t).1 =
      if (t.keyed settings).wanted (settings.allowing keys) then some (t.keyed settings)
      else none := by
    unfold closed
    exact apply_ite Prod.fst _ _ _
  rw [hall, hsome, wanted_allowing settings hkeys, Option.filter_some]

theorem agree_allowing (hkeys : keys ≠ []) :
    Agree (settings.allowing keys) (settings.allowing []) Eq (keyIn keys settings.keyFormat)
      False where
  related path rules n n' hn := by
    subst hn
    have hnodes : NodesAgree ⟨settings.allowing keys, path, rules⟩
        ⟨settings.allowing [], path, rules⟩ n n :=
      { isMapping := rfl
        opened := rfl
        all := rfl
        sections := by
          rw [sectionsReading_allowing]
          exact .refl _ fun _ _ => ⟨rfl, rfl⟩ }
    exact (hnodes.related (closed_allowing settings hkeys path rules)).mono fun _ _ h =>
      ⟨h, nofun⟩
  all := nofun

end Transaction

/-! ### Loads one after another -/

namespace RunState

variable {settings settings' : Settings} {kept : Transaction → Bool} {exact : Prop} {run : RunState}

/-- A run with only those of its transactions that `kept` holds of, and only those of its sessions
that have any left. -/
def thinned (kept : Transaction → Bool) (run : RunState) : RunState :=
  { run with sessions := Session.thinned kept run.sessions }

theorem Loading.thinned (h : run.Loading) : (run.thinned kept).Loading :=
  ⟨h.names, h.rules, h.writable, h.unlocked⟩

/-- A run can be thinned out before a file is loaded with the one settings or after it is loaded
with the other ones. -/
theorem load_thinned (hagree : Transaction.Agree settings settings' Eq kept exact)
    (h : run.Loading) (files : FileTree) (p : FilePath) :
    ((run.thinned kept).load files (settings, p)).2 =
      (run.load files (settings', p)).2.thinned kept := by
  have hfile := FileReading.agree_ofFile hagree files run.rules.rules p
  rw [load_eq files h.thinned, load_eq files h]
  change (run.thinned kept).after (FileReading.ofFile settings files run.rules.rules p) =
    (run.after (FileReading.ofFile settings' files run.rules.rules p)).thinned kept
  simp only [after, gain, learn, RunState.thinned, hfile.names, hfile.rules, hfile.sessions,
    Session.thinned_append]

theorem loadInTurn_thinned (hagree : Transaction.Agree settings settings' Eq kept exact)
    (h : run.Loading) (files : FileTree) (paths : List FilePath) :
    (run.thinned kept).loadInTurn files (paths.map (settings, ·)) =
      (run.loadInTurn files (paths.map (settings', ·))).thinned kept := by
  induction paths generalizing run with
  | nil => rfl
  | cons p paths ih =>
    simp only [List.map_cons, loadInTurn, List.foldl_cons]
    rw [load_thinned hagree h files p]
    exact ih (h.load files (settings', p))

/-- **A list of wanted keys thins out what is loaded, and does nothing else.** Files that are loaded
one after another with a list of wanted keys leave what they leave without one, but that of the
sessions, in order, only the transactions with keys in the list are kept, and only the sessions that
have any.  The names and the global rules are the same. -/
theorem loadInTurn_allowing (settings : Settings) {keys : List Text} (hkeys : keys ≠ [])
    (h : run.Loading) (hsessions : run.sessions = []) (files : FileTree) (paths : List FilePath) :
    run.loadInTurn files (paths.map (settings.allowing keys, ·)) =
      let all := run.loadInTurn files (paths.map (settings.allowing [], ·))
      { all with
        sessions :=
          (all.sessions.map
            (Session.keep fun t => keys.contains (t.request.key settings.keyFormat))).filter
              fun ssn => !ssn.transactions.isEmpty } := by
  have hstart : run.thinned (Transaction.keyIn keys settings.keyFormat) = run := by
    obtain ⟨names, sessions, rules, size, buffer, frozen, locked⟩ := run
    obtain rfl : sessions = [] := hsessions
    rfl
  have hthinned := loadInTurn_thinned (Transaction.agree_allowing settings hkeys) h files paths
  rw [hstart] at hthinned
  exact hthinned

/-- A file with two sessions, the first one with two transactions. -/
def twoSessions : FileTree :=
  let transaction (url : String) : String :=
    "  - client-request: \x7bmethod: GET, url: " ++ url ++ "\x7d\n    proxy-response: \x7b\x7d\n"
  .directory .free [("two.yaml", .file .free (Utf8.bytes <|
    "sessions:\n- transactions:\n" ++ transaction "/a" ++ transaction "/b" ++
      "- transactions:\n" ++ transaction "/c"))]

/-- With the key of one transaction its session is left with it, and the other session is gone. -/
theorem loadInTurn_allowing_twoSessions :
    ["GET:/b"] ≠ [] ∧ empty.Loading ∧ empty.sessions = [] ∧
      (empty.loadInTurn twoSessions
        ([.ofText "two.yaml"].map (Settings.default.allowing ["GET:/b"], ·))).sessions.map
        (fun ssn => ssn.transactions.map Transaction.key) = ([["GET:/b"]] : List (List Text)) := by
  refine ⟨by decide, loading_empty, rfl, ?_⟩
  rw [(loadInTurn_allowing .default (by decide) loading_empty rfl twoSessions _)]
  decide +kernel

end RunState

end TrafficReplay
