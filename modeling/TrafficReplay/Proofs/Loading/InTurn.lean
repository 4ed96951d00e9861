import TrafficReplay.Proofs.Loading.Files

/-!
# Files loaded one after another

Files are loaded into one run, each by a handler of its own, and a fault ends the load of its file
only.  A file meets what was loaded before it in the global rules alone.

* `RunState.loadInTurn`: the run after some loads;
* `RunState.apart`: a load alone, on a run that holds nothing but the global rules from before it;
* `RunState.loadInTurn_blocks`: what the loads give together is what they give apart, in a row.
-/

namespace TrafficReplay
namespace RunState

/-- The settings of a handler and the file that it loads. -/
abbrev FileLoad := Settings × FilePath

variable (files : FileTree) {run : RunState}

/-- Load a file into a run: the report or the fault, and the run after it. -/
def load (files : FileTree) (run : RunState) (l : FileLoad) : Except Fault Report × RunState :=
  ((Handler.recording l.1).loader files l.2).runOn run

/-- The run after some files have been loaded one after another. -/
def loadInTurn (files : FileTree) (run : RunState) (loads : List FileLoad) : RunState :=
  loads.foldl (fun run l => (run.load files l).2) run

/-- A run into which nothing was loaded but some global rules. -/
def fresh (rules : RuleSet) : RunState := { empty with rules := ⟨rules, false⟩ }

theorem loading_fresh (rules : RuleSet) : (fresh rules).Loading := ⟨rfl, rfl, rfl, rfl⟩

/-- The load of a file alone, with the global rules as the loads before it left them. -/
def apart (files : FileTree) (run : RunState) (loads : List FileLoad) (i : Nat) (l : FileLoad) :
    Except Fault Report × RunState :=
  (fresh (run.loadInTurn files (loads.take i)).rules.rules).load files l

/-- What each load alone gives. -/
def blocks (files : FileTree) (run : RunState) (loads : List FileLoad) :
    List (Except Fault Report × RunState) :=
  loads.mapIdx (run.apart files loads)

theorem load_eq (h : run.Loading) (l : FileLoad) :
    run.load files l =
      ((FileReading.ofFile l.1 files run.rules.rules l.2).result,
        run.after (FileReading.ofFile l.1 files run.rules.rules l.2)) :=
  Handler.runOn_loader h files l.2

theorem Loading.load (h : run.Loading) (l : FileLoad) : (run.load files l).2.Loading := by
  rw [load_eq files h]
  exact h.after _

theorem Loading.loadInTurn (h : run.Loading) (loads : List FileLoad) :
    (run.loadInTurn files loads).Loading := by
  induction loads generalizing run with
  | nil => exact h
  | cons l loads ih => exact ih (h.load files l)

theorem loadInTurn_append (run : RunState) (ls ms : List FileLoad) :
    run.loadInTurn files (ls ++ ms) = (run.loadInTurn files ls).loadInTurn files ms :=
  List.foldl_append

theorem loadInTurn_take_succ (run : RunState) (loads : List FileLoad) (i : Nat) :
    run.loadInTurn files (loads.take (i + 1)) =
      (run.loadInTurn files (loads.take i)).loadInTurn files loads[i]?.toList := by
  rw [List.take_add_one, loadInTurn_append]

/-- A load gives a run what it gives a fresh one with the same global rules. -/
theorem load_eq_fresh (h : run.Loading) (l : FileLoad) :
    (run.load files l).1 = ((fresh run.rules.rules).load files l).1 ∧
      (run.load files l).2.rules = ((fresh run.rules.rules).load files l).2.rules ∧
      (run.load files l).2.sessions =
        run.sessions ++ ((fresh run.rules.rules).load files l).2.sessions ∧
      ∀ name, name ∈ (run.load files l).2.names.names ↔
        name ∈ run.names.names ∨ name ∈ ((fresh run.rules.rules).load files l).2.names.names := by
  have hfrozen : run.rules.frozen = false := h.rules
  rw [load_eq files h, load_eq files (loading_fresh _)]
  refine ⟨rfl, ?_, rfl, fun name => ?_⟩
  · simp [after, fresh, hfrozen]
  · simp only [after, gain, learn, fresh, NameTable.mem_addAll]
    simp [empty, NameTable.empty]

/-! ### Loads together and loads apart -/

theorem load_at (h : run.Loading) {loads : List FileLoad} {i : Nat} {l : FileLoad}
    (hl : loads[i]? = some l) :
    ((run.loadInTurn files (loads.take i)).load files l).1 = (run.apart files loads i l).1 ∧
      (run.loadInTurn files (loads.take (i + 1))).rules = (run.apart files loads i l).2.rules ∧
      (run.loadInTurn files (loads.take (i + 1))).sessions =
        (run.loadInTurn files (loads.take i)).sessions ++
          (run.apart files loads i l).2.sessions := by
  obtain ⟨hresult, hrules, hsessions, -⟩ :=
    load_eq_fresh files (h.loadInTurn files (loads.take i)) l
  rw [loadInTurn_take_succ, hl]
  exact ⟨hresult, hrules, hsessions⟩

theorem getElem?_blocks (run : RunState) (loads : List FileLoad) (i : Nat) :
    (run.blocks files loads)[i]? = loads[i]?.map (run.apart files loads i) :=
  List.getElem?_mapIdx

theorem length_blocks (run : RunState) (loads : List FileLoad) :
    (run.blocks files loads).length = loads.length :=
  List.length_mapIdx

/-- The sessions after the first loads are what these give apart, in a row. -/
theorem sessions_take (h : run.Loading) (loads : List FileLoad) (i : Nat) :
    (run.loadInTurn files (loads.take i)).sessions =
      run.sessions ++ ((run.blocks files loads).take i).flatMap (·.2.sessions) := by
  induction i with
  | zero => simp [loadInTurn]
  | succ i ih =>
    rw [@List.take_add_one _ (run.blocks files loads), getElem?_blocks, List.flatMap_append,
      ← List.append_assoc, ← ih]
    cases hl : loads[i]? with
    | none =>
      rw [loadInTurn_take_succ, hl]
      simp [loadInTurn]
    | some l =>
      rw [(load_at files h hl).2.2]
      simp

/-- The names after the first loads are those of before and those of the loads apart. -/
theorem mem_names_take (h : run.Loading) (loads : List FileLoad) (i : Nat) (name : Text) :
    name ∈ (run.loadInTurn files (loads.take i)).names.names ↔
      name ∈ run.names.names ∨
        ∃ b ∈ (run.blocks files loads).take i, name ∈ b.2.names.names := by
  induction i with
  | zero => simp [loadInTurn]
  | succ i ih =>
    rw [loadInTurn_take_succ, @List.take_add_one _ (run.blocks files loads), getElem?_blocks]
    cases hl : loads[i]? with
    | none => simpa [loadInTurn] using ih
    | some l =>
      obtain ⟨-, -, -, hnames⟩ := load_eq_fresh files (h.loadInTurn files (loads.take i)) l
      refine (hnames name).trans ?_
      rw [ih, or_assoc]
      simp [or_and_right, exists_or, apart]

theorem sessions_loadInTurn (h : run.Loading) (loads : List FileLoad) :
    (run.loadInTurn files loads).sessions =
      run.sessions ++ (run.blocks files loads).flatMap (·.2.sessions) := by
  have hsessions := sessions_take files h loads loads.length
  rwa [List.take_length, ← length_blocks files run, List.take_length] at hsessions

/-- The sessions from after the first loads are still in front after all loads. -/
theorem sessions_take_prefix (h : run.Loading) (loads : List FileLoad) (i : Nat) :
    (run.loadInTurn files (loads.take i)).sessions <+:
      (run.loadInTurn files loads).sessions := by
  have hsplit := loadInTurn_append files run (loads.take i) (loads.drop i)
  rw [List.take_append_drop] at hsplit
  rw [hsplit, sessions_loadInTurn files (h.loadInTurn files _)]
  exact List.prefix_append _ _

theorem mem_names_loadInTurn (h : run.Loading) (loads : List FileLoad) (name : Text) :
    name ∈ (run.loadInTurn files loads).names.names ↔
      name ∈ run.names.names ∨ ∃ b ∈ run.blocks files loads, name ∈ b.2.names.names := by
  have hnames := mem_names_take files h loads loads.length name
  rwa [List.take_length, ← length_blocks files run, List.take_length] at hnames

/-- **Loads give together what they give apart.** Each load has the result that it has alone, on a
run with nothing but the global rules from before it, and leaves the same global rules; it puts the
same sessions behind those that are there.  In the end the sessions are those of the loads apart in
a row, those from after any of the loads are still in front, and the names are those of all loads. -/
theorem loadInTurn_blocks (h : run.Loading) (loads : List FileLoad) :
    (∀ i l, loads[i]? = some l →
      ((run.loadInTurn files (loads.take i)).load files l).1 = (run.apart files loads i l).1 ∧
      (run.loadInTurn files (loads.take (i + 1))).rules = (run.apart files loads i l).2.rules ∧
      (run.loadInTurn files (loads.take (i + 1))).sessions =
        (run.loadInTurn files (loads.take i)).sessions ++
          (run.apart files loads i l).2.sessions) ∧
    (run.loadInTurn files loads).sessions =
      run.sessions ++ (run.blocks files loads).flatMap (·.2.sessions) ∧
    (∀ i, (run.loadInTurn files (loads.take i)).sessions <+:
      (run.loadInTurn files loads).sessions) ∧
    ∀ name, name ∈ (run.loadInTurn files loads).names.names ↔
      name ∈ run.names.names ∨ ∃ b ∈ run.blocks files loads, name ∈ b.2.names.names :=
  ⟨fun _ _ => load_at files h, sessions_loadInTurn files h loads,
    sessions_take_prefix files h loads, mem_names_loadInTurn files h loads⟩

/-- A file with one transaction, and a file with a rule for every response. -/
def twoFiles : FileTree :=
  .directory .free
    [("plain.yaml", .file .free (Text.Utf8.bytes <|
      "sessions:\n- transactions:\n  - client-request:\n      method: GET\n      url: /a\n" ++
        "    proxy-response:\n      status: 200\n")),
     ("rules.yaml", .file .free (Text.Utf8.bytes <|
      "meta:\n  global-field-rules:\n    fields:\n    - [server, ats, equal]\nsessions: []\n"))]

/-- Loads of files at some paths, with the settings without options. -/
def plainLoads (paths : List String) : List FileLoad :=
  paths.map fun p => (.default, .ofText p)

/-- A file that is missing does not keep the next one from being loaded. -/
theorem loadInTurn_blocks_twoFiles :
    empty.Loading ∧
      (empty.loadInTurn twoFiles (plainLoads ["missing.yaml", "plain.yaml"])).sessions.map
        (fun ssn => ssn.transactions.map Transaction.key) = ([["GET:/a"]] : List (List Text)) := by
  refine ⟨loading_empty, ?_⟩
  rw [(loadInTurn_blocks twoFiles loading_empty _).2.1]
  decide +kernel

end RunState
end TrafficReplay
