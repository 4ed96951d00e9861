import TrafficReplay.Proofs.Loading.RuleBlocks
import TrafficReplay.Proofs.Replay.Verifying

/-!
# Rules of entries that are reported

An entry of a block of rules that has an unknown kind is reported.  But if no other entry for its
name has a known kind or stands before it, it counts as an entry without a kind, and asks for an
equal value.  A response has that rule whatever its section and the global rules ask for, and is
verified by it.

* `RuleSet.get?_ofBlock_filter_iff`: when the reported entries of a block change a rule;
* `Transaction.Ruled.get?_response`: the rules of a response, with the part of reported entries;
* `Transaction.FailsOn`, `mem_verify_iff`: what is reported of a received response;
* `reported_entry_counts_iff`: when a response can fail on the rule of a reported entry.
-/

namespace TrafficReplay
open TrafficReplay.Yaml TrafficReplay.Text
open Handler (Section)
open RunState (FileLoad)

/-! ### Blocks with and without their reported entries -/

namespace RuleSet

variable {es : List Entry} {name : Text} {r : FieldRule}

/-- A rule that is left behind comes from the first entry for the name, which has an unknown kind. -/
theorem leaked?_eq_some (h : leaked? es name = some r) :
    ∃ value line kind, Entry.first? es name = some (.unknownRule name value line kind) ∧
      r = ⟨name, value, .equal⟩ := by
  unfold leaked? at h
  split at h
  · rename_i x value line kind hruled hfirst
    obtain rfl : x = name := Option.some.inj (Entry.mem_of_first? hfirst).2
    cases h
    exact ⟨value, line, kind, hfirst, rfl⟩
  · cases h

/-- Without its reported entries, a block has the same rule for a name exactly if none of them
leaves one behind, or the accepted entries decide on the same. -/
theorem get?_ofBlock_filter_iff (es : List Entry) (name : Text) :
    (ofBlock es).get? name = (ofBlock (es.filter Entry.isAccepted)).get? name ↔
      ∀ r, leaked? es name = some r → decided? es name = some r := by
  have haccepted : ∀ e ∈ es.filter Entry.isAccepted, e.isAccepted = true :=
    fun e he => (List.mem_filter.mp he).2
  rw [get?_ofBlock, get?_ofBlock, leaked?_of_accepted haccepted, Option.none_or, decided?_filter]
  cases leaked? es name with
  | none => simp
  | some r => simp [eq_comm]

end RuleSet

/-! ### The rules of responses -/

namespace Transaction

/-- The entries of the block for both messages. -/
def entriesForAll (n : Node) : List Entry :=
  match (n.get? "all").bind (·.get? "headers") with
  | none => []
  | some headers => blockEntries headers

theorem rulesForAll_eq_ofBlock (path : String) (n : Node) :
    rulesForAll path n = .ofBlock (entriesForAll n) := by
  rw [rulesForAll_eq]
  unfold LoadedFields.ofAll entriesForAll
  cases n.get? "all" with
  | none => rfl
  | some all =>
    dsimp only [Option.bind_some]
    cases all.get? "headers" with
    | none => rfl
    | some headers => exact LoadedFields.rules_ofRules path headers

/-- The rule of a response for a name without the reported entries of the block for both messages:
one of the block, or else of the section, or else a global one. -/
def acceptedRule? (global : RuleSet) (n response : Node) (name : Text) : Option FieldRule :=
  (RuleSet.decided? (entriesForAll n) name).or
    ((RuleSet.last? (Section.rules response) name).or (global.get? name))

/-- Whether received fields do not satisfy the rule of a response for a name. -/
def FailsOn (t : Transaction) (headers : FieldList) (name : Text) (r : FieldRule) : Prop :=
  t.response.rules.get? name = some r ∧ r.check (foldedValue headers r.name) = false

variable {settings : Settings} {path : String} {global : RuleSet} {n request response : Node}
  {t : Transaction}

/-- A rule that a reported entry leaves behind counts before all others. -/
theorem Ruled.get?_response (h : t.Ruled settings path global n request response) (name : Text) :
    t.response.rules.get? name =
      (RuleSet.leaked? (entriesForAll n) name).or (acceptedRule? global n response name) := by
  rw [h.response.get?, rulesForAll_eq_ofBlock, RuleSet.get?_ofBlock, Option.or_assoc]
  rfl

theorem Ruled.nodup_response (h : t.Ruled settings path global n request response)
    (hglobal : global.keys.Nodup) : t.response.rules.keys.Nodup := by
  rw [h.response.keys]
  exact RuleSet.nodup_withNew (RuleSet.nodup_withNew hglobal _) _

/-- A response can fail for a name on a rule that no accepted entry asks for exactly if a reported
entry leaves one behind. -/
theorem Ruled.failsOn_iff (h : t.Ruled settings path global n request response) (name : Text) :
    (∀ headers r, t.FailsOn headers name r → acceptedRule? global n response name = some r) ↔
      ∀ r, RuleSet.leaked? (entriesForAll n) name = some r →
        acceptedRule? global n response name = some r := by
  constructor
  · intro haccepted r hleaked
    have hget : t.response.rules.get? name = some r := by
      rw [h.get?_response, hleaked, Option.some_or]
    obtain ⟨value, line, kind, -, rfl⟩ := RuleSet.leaked?_eq_some hleaked
    -- No field satisfies a rule for an equal value if none is received.
    exact haccepted [] _ ⟨hget, rfl⟩
  · rintro hleaked headers r ⟨hget, -⟩
    rw [h.get?_response] at hget
    rcases Option.or_eq_some_iff.mp hget with hr | ⟨-, hr⟩
    · exact hleaked r hr
    · exact hr

/-! ### Verifying -/

theorem mem_brokenRules_iff (h : t.response.rules.keys.Nodup) {headers : FieldList}
    {r : FieldRule} : r ∈ brokenRules t headers ↔ ∃ name, t.FailsOn headers name r := by
  simp only [brokenRules, List.mem_filter, Keyed.mem_values_iff h, FailsOn, Bool.not_eq_true',
    exists_and_right]

/-- What is reported of a response: a status that is not the recorded one, and the rules that the
received fields do not satisfy. -/
theorem mem_verify_iff (h : t.response.rules.keys.Nodup) {names : NameTable}
    (hknown : t.Known (· ∈ names.names)) {status : Int} {headers : FieldList} {note : Note} :
    note ∈ verify t status headers names ↔
      (t.strict || t.response.hasRules) = true ∧ note ∈ statusNotes t status ∨
        ∃ name r, t.FailsOn headers name r ∧
          note = ruleNote t r (foldedValue headers r.name) := by
  have hrules : (∃ name r, t.FailsOn headers name r ∧
        note = ruleNote t r (foldedValue headers r.name)) ↔
      note ∈ (brokenRules t headers).map fun r => ruleNote t r (foldedValue headers r.name) := by
    simp only [List.mem_map, mem_brokenRules_iff h]
    constructor
    · rintro ⟨name, r, hfails, rfl⟩
      exact ⟨r, ⟨name, hfails⟩, rfl⟩
    · rintro ⟨r, ⟨name, hfails⟩, rfl⟩
      exact ⟨name, r, hfails, rfl⟩
  rw [verify_of_known hknown, hrules]
  cases hchecked : t.strict || t.response.hasRules with
  | true => simp
  | false =>
    have hnone : t.response.rules.values = [] := by
      simpa [Response.hasRules, Keyed.values] using (Bool.or_eq_false_iff.mp hchecked).2
    simp [brokenRules, hnone]

/-- What a response is checked for, given the names that are known, the global rules, and the nodes
of the transaction and of the section of the response. -/
structure CheckedFor (known : List Text) (global : RuleSet) (n response : Node)
    (t : Transaction) : Prop where
  rule : ∀ name, t.response.rules.get? name =
    (RuleSet.leaked? (entriesForAll n) name).or (acceptedRule? global n response name)
  failsOn : ∀ name,
    (∀ headers r, t.FailsOn headers name r → acceptedRule? global n response name = some r) ↔
      ∀ r, RuleSet.leaked? (entriesForAll n) name = some r →
        acceptedRule? global n response name = some r
  reported : ∀ names : NameTable, (∀ name ∈ known, name ∈ names.names) →
    ∀ status headers note, note ∈ verify t status headers names ↔
      (t.strict || t.response.hasRules) = true ∧ note ∈ statusNotes t status ∨
        ∃ name r, t.FailsOn headers name r ∧ note = ruleNote t r (foldedValue headers r.name)

end Transaction

namespace RunState

/-- The transactions that some files bring are checked for what their nodes and the global rules
from after their file ask for. -/
theorem checkedFor_loadInTurn (files : FileTree) (loads : List FileLoad) {ssn : Session}
    (hssn : ssn ∈ (empty.loadInTurn files loads).sessions) {t : Transaction}
    (ht : t ∈ ssn.transactions) :
    ∃ i l, loads[i]? = some l ∧
      ∃ n ∈ documentTransactions (FileReading.document? files l.2), ∃ response,
        n.get? (Section.ofResponse l.1.mode).key = some response ∧
        t.CheckedFor (empty.loadInTurn files loads).names.names
          (empty.rulesAfter files loads (i + 1)) n response := by
  obtain ⟨new, hnew, hruled⟩ := ruled_loadInTurn files loading_empty loads
  have hmem : ssn ∈ new := by
    rw [hnew] at hssn
    exact hssn
  obtain ⟨i, l, hl, n, hn, request, response, h⟩ := hruled ssn hmem t ht
  have hinterned := interned_loadInTurn files loading_empty interned_empty loads
  have hnodup := h.nodup_response (nodup_rulesAfter files loads (i + 1))
  refine ⟨i, l, hl, n, hn, response, h.hasResponse, h.get?_response, h.failsOn_iff, ?_⟩
  intro names hnames status headers note
  exact Transaction.mem_verify_iff hnodup ((hinterned.sessions ssn hssn t ht).mono hnames)

end RunState

/-- **When a reported entry counts.** A block can be loaded with any name table that is not frozen.
Each entry that is not accepted is reported; but a name has a rule exactly if some entry for it is
well formed, of whatever kind, and a rule that a reported entry leaves behind counts first.  So the
block comes to the same without its reported entries exactly if they leave no rule behind that the
accepted ones do not decide on.  And a response that any files bring can fail on a rule that no
accepted entry asks for exactly if an entry of its block for both messages leaves one behind. -/
theorem reported_entry_counts_iff (names : NameTable) (path : String) (n : Node) (files : FileTree)
    (loads : List FileLoad) :
    (names.frozen = false → ∃ p, loadRules names path (some n) = .ok p) ∧
    (∀ names' rules report, loadRules names path (some n) = .ok (names', rules, report) →
      (∀ e ∈ blockEntries n, e.isAccepted = false →
        ∃ note ∈ report, e.note? path = some note) ∧
      ∀ name,
        (rules.has name = true ↔ ∃ e ∈ blockEntries n, e.name? = some name) ∧
        rules.get? name = (RuleSet.leaked? (blockEntries n) name).or
          (RuleSet.decided? (blockEntries n) name) ∧
        (rules.get? name =
            (RuleSet.ofBlock ((blockEntries n).filter Entry.isAccepted)).get? name ↔
          ∀ r, RuleSet.leaked? (blockEntries n) name = some r →
            RuleSet.decided? (blockEntries n) name = some r)) ∧
    ∀ ssn ∈ (RunState.empty.loadInTurn files loads).sessions, ∀ t ∈ ssn.transactions,
      ∃ i l, loads[i]? = some l ∧
        ∃ n ∈ documentTransactions (FileReading.document? files l.2), ∃ response,
          n.get? (Section.ofResponse l.1.mode).key = some response ∧
          t.CheckedFor (RunState.empty.loadInTurn files loads).names.names
            (RunState.empty.rulesAfter files loads (i + 1)) n response := by
  refine ⟨fun hnames => ⟨_, loadRules_eq hnames path n⟩, fun names' rules report hload => ?_,
    fun ssn hssn t ht => RunState.checkedFor_loadInTurn files loads hssn ht⟩
  obtain ⟨rfl, rfl⟩ := loadRules_eq_ok hload
  refine ⟨fun e he => LoadedFields.reported_ofRules he, fun name => ⟨?_, ?_, ?_⟩⟩
  · exact RuleSet.has_ofBlock_iff
  · exact RuleSet.get?_ofBlock _ name
  · exact RuleSet.get?_ofBlock_filter_iff _ name

/-- A file with a transaction whose only rule has an unknown kind. -/
def unknownKindFile : FileTree :=
  .directory .free
    [("a.yaml", .file .free (Utf8.bytes <|
      "sessions:\n- transactions:\n  - all:\n      headers:\n        fields:\n" ++
        "        - [server, ats, bogus]\n    client-request:\n      method: GET\n" ++
        "      url: /a\n    proxy-response:\n      status: 200\n"))]

/-- A run with that file. -/
def unknownKindRun : RunState :=
  RunState.empty.loadInTurn unknownKindFile (RunState.plainLoads ["a.yaml"])

/-- A block whose only rule has an unknown kind. -/
def unknownKindBlock : Node := RunState.fieldBlock [["server", "ats", "bogus"]]

/-- The rule is reported when the block is loaded, and yet the response fails on it. -/
theorem reported_entry_counts_iff_unknownKind :
    (∃ names rules report,
      loadRules .empty "a.yaml" (some unknownKindBlock) = .ok (names, rules, report) ∧
        report.length = 1 ∧ rules.has "server" = true) ∧
    ∃ ssn ∈ unknownKindRun.sessions, ∃ t ∈ ssn.transactions,
      ruleNote t ⟨"server", "ats", .equal⟩ (some ("x" : Text)) ∈
        verify t 200 [("Server", "x")] unknownKindRun.names := by
  obtain ⟨hexists, hrules, hruns⟩ :=
    reported_entry_counts_iff .empty "a.yaml" unknownKindBlock unknownKindFile
      (RunState.plainLoads ["a.yaml"])
  constructor
  · obtain ⟨⟨names, rules, report⟩, hload⟩ := hexists rfl
    refine ⟨names, rules, report, hload, ?_, ?_⟩
    · rw [(loadRules_eq_ok hload).2]
      decide +kernel
    · exact ((hrules names rules report hload).2 "server").1.mpr (by decide +kernel)
  · obtain ⟨ssn, hssn, t, ht, -⟩ :
        ∃ ssn ∈ unknownKindRun.sessions, ∃ t ∈ ssn.transactions, t.key = "GET:/a" := by
      decide +kernel
    have hleaks : ∀ l ∈ RunState.plainLoads ["a.yaml"],
        ∀ n ∈ documentTransactions (FileReading.document? unknownKindFile l.2),
          RuleSet.leaked? (Transaction.entriesForAll n) "server" =
            some ⟨"server", "ats", .equal⟩ := by
      decide +kernel
    obtain ⟨i, l, hl, n, hn, response, -, hchecked⟩ := hruns ssn hssn t ht
    have hget : t.response.rules.get? "server" = some ⟨"server", "ats", .equal⟩ := by
      rw [hchecked.rule, hleaks l (List.mem_of_getElem? hl) n hn, Option.some_or]
    have hvalue : foldedValue [("Server", "x")] "server" = some ("x" : Text) := by decide +kernel
    have hfails : t.FailsOn [("Server", "x")] "server" ⟨"server", "ats", .equal⟩ :=
      ⟨hget, by decide +kernel⟩
    refine ⟨ssn, hssn, t, ht, ?_⟩
    refine (hchecked.reported unknownKindRun.names (fun _ hname => hname) 200 _ _).mpr (.inr ?_)
    exact ⟨"server", _, hfails, by rw [hvalue]⟩

/-- Not every rule of a block comes from an entry that is accepted. -/
theorem not_skipped_unknownKind :
    ¬ ∀ (names : NameTable) (path : String) (n : Node) names' rules report,
      loadRules names path (some n) = .ok (names', rules, report) →
        ∀ name, rules.has name = true →
          ∃ e ∈ blockEntries n, e.isAccepted = true ∧ e.name? = some name := by
  intro h
  have hload := @loadRules_eq .empty rfl "" unknownKindBlock
  have hskipped := h .empty "" unknownKindBlock _ _ _ hload "server"
  exact absurd (hskipped (by decide +kernel)) (by decide +kernel)

end TrafficReplay
