import TrafficReplay.Proofs.Loading.InTurn

/-!
# Files that are rejected as a whole

A file is rejected if it cannot be read, if its text is not one YAML document, if the document is
not a map, and if there is no sequence of sessions in it.  It then gives the run no session.  But
the sessions are looked for behind the block of global rules, so a file without them still gives the
run its global rules.

* `Rejection`, `FileTree.rejection`: why a file is rejected;
* `FileReading.rejected`, `FileReading.ofFile_of_rejection`: what a rejected file comes to;
* `RunState.load_rejected`: what a rejected file leaves behind.
-/

namespace TrafficReplay
open TrafficReplay.Yaml TrafficReplay.Text

/-! ### Reasons -/

/-- Why a file is rejected as a whole. -/
inductive Rejection
  | unreadable (f : FileFault)
  | undecodable (f : Utf8.Fault)
  | malformed (f : Yaml.Fault)
  /-- There is no document, or one that is not a map. -/
  | notMap
  | noSessions (root : Node)
  | sessionsNotSequence (root : Node)
  deriving Repr

namespace Rejection

/-- What is reported. -/
def message (path : String) : Rejection → Text
  | .unreadable f => "Failed to read \"" ++ path ++ "\": " ++ f.message path
  | .undecodable f => "Failed to read \"" ++ path ++ "\": " ++ f.message
  | .malformed f => "Failed to parse \"" ++ path ++ "\": " ++ f.message
  | .notMap => "Replay file \"" ++ path ++ "\" is empty or not a map."
  | .noSessions _ => "Replay file \"" ++ path ++ "\" has no \"sessions\" key."
  | .sessionsNotSequence _ => "\"sessions\" value in \"" ++ path ++ "\" is not a sequence."

/-- The document, if its global rules have been read before it is rejected. -/
def document : Rejection → Option Node
  | .noSessions root | .sessionsNotSequence root => some root
  | _ => none

/-- What was read of the block of global rules. -/
def block (path : String) (r : Rejection) : LoadedFields :=
  r.document.elim (.blank []) (FileReading.globalBlock path)

/-- The rules that were added to the global ones. -/
def rules (path : String) (r : Rejection) : RuleSet :=
  r.document.elim .empty (FileReading.addedRules path)

/-- Why a document is rejected, if it is. -/
def ofDocument : Option Node → Option Rejection
  | some (.mapping line entries) =>
    match (Node.mapping line entries).get? "sessions" with
    | none => some (.noSessions (.mapping line entries))
    | some (.sequence _ _) => none
    | some _ => some (.sessionsNotSequence (.mapping line entries))
  | _ => some .notMap

/-- Why a file is rejected, if it is, given the outcome of reading it. -/
def ofRead : Except FileFault (List UInt8) → Option Rejection
  | .error f => some (.unreadable f)
  | .ok bytes =>
    match compose (.ofFile (.ofBytes bytes)) with
    | .ok root => ofDocument root
    | .error (.undecodable f) => some (.undecodable f)
    | .error f => if f.isFormal then some (.malformed f) else none

end Rejection

/-- Why the file at a path is rejected, if it is. -/
def FileTree.rejection (files : FileTree) (p : FilePath) : Option Rejection :=
  if p.text.toList.contains '\x00' then none else Rejection.ofRead (files.read p)

namespace Rejection

/-- A document that is not rejected has a sequence of sessions. -/
theorem ofDocument_eq_none_iff {root : Option Node} :
    ofDocument root = none ↔
      ∃ line entries l ns, root = some (.mapping line entries) ∧
        (Node.mapping line entries).get? "sessions" = some (.sequence l ns) := by
  constructor
  · intro h
    rcases root with _ | ⟨_, _⟩ | ⟨_, _⟩ | ⟨line, entries⟩
    · cases h
    · cases h
    · cases h
    · rw [ofDocument] at h
      split at h
      · cases h
      · rename_i l ns hsessions
        exact ⟨line, entries, l, ns, rfl, hsessions⟩
      · cases h
  · rintro ⟨line, entries, l, ns, rfl, hsessions⟩
    rw [ofDocument, hsessions]

end Rejection

/-- A file that is not rejected has a sequence of sessions, or else its load stops at a fault before
there is a document. -/
theorem FileTree.rejection_eq_none_iff {files : FileTree} {p : FilePath} :
    files.rejection p = none ↔
      p.text.toList.contains '\x00' = true ∨
      ∃ bytes, files.read p = .ok bytes ∧
        ((∃ f, compose (.ofFile (.ofBytes bytes)) = .error f ∧ f.isFormal = false ∧
          ∀ f', f ≠ .undecodable f') ∨
        ∃ line entries l ns,
          compose (.ofFile (.ofBytes bytes)) = .ok (some (.mapping line entries)) ∧
            (Node.mapping line entries).get? "sessions" = some (.sequence l ns)) := by
  unfold rejection
  split
  · rename_i hnull
    exact iff_of_true rfl (.inl hnull)
  · rename_i hnull
    rw [or_iff_right hnull]
    cases files.read p with
    | error f => exact iff_of_false nofun fun ⟨_, h, _⟩ => nomatch h
    | ok bytes =>
      simp only [Except.ok.injEq, exists_eq_left', Rejection.ofRead]
      cases compose (.ofFile (.ofBytes bytes)) with
      | ok root => simp [Rejection.ofDocument_eq_none_iff]
      | error f => cases f <;> simp [Yaml.Fault.isFormal]

namespace FileReading

/-- A file that is rejected brings the rules of its document, if there is one, and no session; its
report ends with the reason. -/
def rejected (path : String) (rules : RuleSet) (r : Rejection) : FileReading where
  names := (r.block path).names
  rules := rules.merge (r.rules path)
  sessions := []
  result := .ok ((r.block path).report ++ [⟨.error, r.message path⟩])

variable {c : ReadingContext} {r : Rejection}

theorem ofDocument_of_rejection {root : Option Node} (h : Rejection.ofDocument root = some r) :
    ofDocument c root = rejected c.path c.rules r := by
  rcases root with _ | ⟨_, _⟩ | ⟨_, _⟩ | ⟨line, entries⟩
  · cases h
    rfl
  · cases h
    rfl
  · cases h
    rfl
  · revert h
    unfold Rejection.ofDocument ofDocument
    dsimp only
    rcases (Node.mapping line entries).get? "sessions" with _ | ⟨_, _⟩ | ⟨_, _⟩ | ⟨_, _⟩
    · rintro ⟨⟩
      rfl
    · rintro ⟨⟩
      rfl
    · rintro ⟨⟩
    · rintro ⟨⟩
      rfl

theorem ofRead_of_rejection {read : Except FileFault (List UInt8)}
    (h : Rejection.ofRead read = some r) :
    ofRead c read = rejected c.path c.rules r := by
  rcases read with f | bytes
  · cases h
    rfl
  · revert h
    unfold Rejection.ofRead ofRead
    dsimp only
    rcases compose (.ofFile (.ofBytes bytes)) with f | root
    · cases f with
      | undecodable f =>
        rintro ⟨⟩
        rfl
      | _ =>
        dsimp only
        split
        · rintro ⟨⟩
          rfl
        · rintro ⟨⟩
    · exact ofDocument_of_rejection

theorem ofFile_of_rejection {settings : Settings} {files : FileTree} {rules : RuleSet}
    {p : FilePath} (h : files.rejection p = some r) :
    ofFile settings files rules p = rejected p.text rules r := by
  rw [FileTree.rejection] at h
  rw [ofFile]
  split
  · rename_i hnull
    rw [if_pos hnull] at h
    cases h
  · rename_i hnull
    rw [if_neg hnull] at h
    exact ofRead_of_rejection h

end FileReading

/-! ### No name has two rules -/

namespace RuleSet

theorem nodup_ofList (rules : List FieldRule) : (ofList rules).keys.Nodup :=
  List.foldlRecOn (motive := fun rs : RuleSet => rs.keys.Nodup) rules add List.nodup_nil
    fun _ h r _ => Keyed.nodup_put h r.name r

theorem nodup_addEqualRules {rs : RuleSet} (h : rs.keys.Nodup) (fields : FieldList) :
    (addEqualRules rs fields).keys.Nodup := by
  refine List.foldlRecOn (motive := fun rs : RuleSet => rs.keys.Nodup) fields _ h
    fun rs hrs f _ => ?_
  split
  · exact hrs
  · exact Keyed.nodup_put hrs f.1 _

end RuleSet

theorem LoadedFields.nodup_ofNode (path : String) (n : Node) :
    (ofNode path n).rules.keys.Nodup := by
  unfold ofNode
  split
  · exact RuleSet.nodup_ofList _
  · exact List.nodup_nil

theorem LoadedFields.nodup_ofRules (path : String) (n : Node) :
    (ofRules path n).rules.keys.Nodup := by
  unfold ofRules
  split
  · exact List.nodup_nil
  · exact RuleSet.nodup_addEqualRules (nodup_ofNode path _) _

theorem FileReading.nodup_addedRules (path : String) (root : Node) :
    (addedRules path root).keys.Nodup := by
  unfold addedRules
  split
  · unfold globalBlock
    split
    · exact List.nodup_nil
    · exact LoadedFields.nodup_ofRules path _
  · exact List.nodup_nil

theorem Rejection.nodup_rules (path : String) (r : Rejection) : (r.rules path).keys.Nodup := by
  unfold rules
  cases r.document with
  | none => exact List.nodup_nil
  | some root => exact FileReading.nodup_addedRules path root

/-! ### What is left behind -/

namespace RunState

variable {files : FileTree} {run : RunState} {p : FilePath} {r : Rejection}

theorem after_rejected (run : RunState) (path : String) (r : Rejection) :
    run.after (.rejected path run.rules.rules r) =
      { run.learn (r.block path).names with
        rules := { run.rules with rules := run.rules.rules.merge (r.rules path) } } := by
  rw [after, FileReading.rejected, gain, List.append_nil]
  rfl

/-- **What a rejected file leaves behind.** The load of a rejected file reports why, and gives the
run no session; but it gives it the names and the rules of the block of global rules, if that comes
first, and nothing else.  So the run is as it was before if the file is rejected before there is a
document; and the global rules are as they were exactly if they had all rules of that block. -/
theorem load_rejected (h : run.Loading) (settings : Settings) (hr : files.rejection p = some r) :
    (run.load files (settings, p)).1 =
      .ok ((r.block p.text).report ++ [⟨.error, r.message p.text⟩]) ∧
    (run.load files (settings, p)).2 =
      { run.learn (r.block p.text).names with
        rules := { run.rules with rules := run.rules.rules.merge (r.rules p.text) } } ∧
    (run.load files (settings, p)).2.sessions = run.sessions ∧
    (r.document = none → (run.load files (settings, p)).2 = run) ∧
    ((run.load files (settings, p)).2.rules = run.rules ↔
      ∀ name ∈ (r.rules p.text).keys, run.rules.rules.get? name = (r.rules p.text).get? name) := by
  rw [load_eq files h, FileReading.ofFile_of_rejection hr, after_rejected]
  refine ⟨rfl, rfl, rfl, fun hnone => ?_, ?_⟩
  · rw [Rejection.block, Rejection.rules, hnone]
    rfl
  · rw [← Keyed.merge_eq_self_iff (r.nodup_rules p.text)]
    exact ⟨fun heq => congrArg FieldRules.rules heq, fun heq => by rw [heq]⟩

/-- A file with a rule for every response, and without sessions. -/
def onlyRules : FileTree :=
  .directory .free
    [("bad.yaml", .file .free (Text.Utf8.bytes
      "meta:\n  global-field-rules:\n    fields:\n    - [server, ats, equal]\n"))]

/-- The file is rejected, and the global rules are not as they were. -/
theorem load_rejected_onlyRules :
    empty.Loading ∧ ∃ r, onlyRules.rejection (.ofText "bad.yaml") = some r ∧
      (empty.load onlyRules (.default, .ofText "bad.yaml")).1 =
        .ok [⟨.error, "Replay file \"bad.yaml\" has no \"sessions\" key."⟩] ∧
      (empty.load onlyRules (.default, .ofText "bad.yaml")).2.sessions = empty.sessions ∧
      (empty.load onlyRules (.default, .ofText "bad.yaml")).2.rules ≠ empty.rules := by
  have hreason : (onlyRules.rejection (.ofText "bad.yaml")).map (fun r =>
      ((r.block (FilePath.ofText "bad.yaml").text).report ++
          [⟨.error, r.message (FilePath.ofText "bad.yaml").text⟩],
        (r.rules (FilePath.ofText "bad.yaml").text).entries)) =
      some (([⟨.error, "Replay file \"bad.yaml\" has no \"sessions\" key."⟩] : Report),
        ([("server", ⟨"server", "ats", .equal⟩)] : List (Text × FieldRule))) := by
    decide +kernel
  obtain ⟨r, hr, heq⟩ := Option.map_eq_some_iff.mp hreason
  obtain ⟨hreport, hentries⟩ := Prod.mk.inj heq
  obtain ⟨hresult, -, hsessions, -, hrules⟩ := load_rejected loading_empty .default hr
  refine ⟨loading_empty, r, hr, hresult.trans (congrArg Except.ok hreport), hsessions,
    fun hsame => ?_⟩
  have hserver := hrules.mp hsame "server"
  rw [Keyed.keys, Keyed.get?, Keyed.get?, hentries] at hserver
  cases hserver List.mem_cons_self

/-- A rejected file does not leave the global rules as they were. -/
theorem not_untouched_onlyRules :
    ¬ ∀ (files : FileTree) (run : RunState) (settings : Settings) (p : FilePath) (r : Rejection),
      run.Loading → files.rejection p = some r →
        (run.load files (settings, p)).2.rules = run.rules ∧
          (run.load files (settings, p)).2.sessions = run.sessions := by
  intro h
  have hsome : (onlyRules.rejection (.ofText "bad.yaml")).isSome = true := by decide +kernel
  obtain ⟨r, hr⟩ := Option.isSome_iff_exists.mp hsome
  obtain ⟨hsame, -⟩ := h onlyRules empty .default (.ofText "bad.yaml") r loading_empty hr
  have hkeys : (empty.load onlyRules (.default, .ofText "bad.yaml")).2.rules.rules.keys =
      (["server"] : List Text) := by
    decide +kernel
  rw [hsame] at hkeys
  cases hkeys

end RunState

end TrafficReplay
