import TrafficReplay.Proofs.Loading.GlobalRules
import TrafficReplay.Proofs.Loading.Origins
import TrafficReplay.Proofs.Loading.Rejection
import TrafficReplay.Proofs.Traffic.RuleSets

/-!
# Which rule a message has for a name

There are rules for every response of a run, rules for one message, and rules for both messages of a
transaction.  For each name the last of the three that has a rule decides.  The rules stay in the
order in which their names came, and adding some to a message changes no rules elsewhere.

* `RuleSet.Layered`: what three layers of rules come to;
* `Transaction.Ruled`: the rules of both messages, by names;
* `Handler.ruled_walkTransaction`, `RunState.ruled_loadInTurn`: the transactions that are loaded
  have these rules.
-/

namespace TrafficReplay
open TrafficReplay.Yaml TrafficReplay.Text
open Handler (Section)

/-! ### Rules in layers -/

namespace RuleSet

/-- What three layers of rules come to: for a name, a rule of the last layer counts first and one of
the base last; and each layer brings the names that the layers before it do not have. -/
structure Layered (base : RuleSet) (own : List FieldRule) (all rules : RuleSet) : Prop where
  get? : ∀ name, rules.get? name = (all.get? name).or ((last? own name).or (base.get? name))
  keys : rules.keys = withNew (withNew base.keys (own.map FieldRule.name)) all.keys

theorem layered (base : RuleSet) (own : List FieldRule) {all : RuleSet} (hall : all.keys.Nodup) :
    Layered base own all ((base.merge (ofList own)).merge all) := by
  have hmerge : base.merge (ofList own) = own.foldl add base :=
    @merge_foldl_add .empty List.nodup_nil base own
  obtain ⟨hget, hkeys⟩ := foldl_add own base
  rw [hmerge]
  refine ⟨fun name => ?_, ?_⟩
  · rw [get?_merge hall, hget]
  · rw [keys_merge, hkeys]

end RuleSet

/-! ### The rules of messages -/

/-- The entries of the field list of a message that are rules of a known kind. -/
def Handler.Section.rules (message : Node) : List FieldRule :=
  match (message.get? "headers").bind (·.get? "fields") with
  | some (.sequence _ items) => (items.map Entry.ofNode).filterMap Entry.rule?
  | _ => []

theorem LoadedFields.rules_ofHeaders (path : String) (n : Node) :
    (ofHeaders path n).rules = RuleSet.ofList (Section.rules n) := by
  unfold ofHeaders Section.rules
  cases n.get? "headers" with
  | none => rfl
  | some h =>
    dsimp only [Option.bind_some]
    rcases h.get? "fields" with _ | ⟨_, _⟩ | ⟨_, _⟩ | ⟨_, _⟩ <;> rfl

namespace Request

theorem rules_contentReading {path : String} {n : Node} {r : Request} {p : Request × Report}
    (hp : (contentReading path n r).result = .ok p) : p.1.rules = r.rules := by
  unfold contentReading contentBlockReading at hp
  split at hp
  · split at hp
    · obtain ⟨bytes, -, hbytes⟩ := Reading.result_bind_eq_ok.mp hp
      cases hbytes
      rfl
    · obtain ⟨k, -, hk⟩ := Reading.result_bind_eq_ok.mp hp
      split at hk <;> cases hk <;> rfl
    · cases hp
      rfl
  · split at hp
    · cases hp
      rfl
    · obtain ⟨k, -, hk⟩ := Reading.result_bind_eq_ok.mp hp
      split at hk <;> cases hk <;> rfl

/-- The rules of a section are merged into those of the request. -/
theorem rules_reading {path : String} {n : Node} {r : Request} {p : Request × Report}
    (hp : (reading path n r).result = .ok p) :
    p.1.rules = r.rules.merge (RuleSet.ofList (Section.rules n)) := by
  unfold reading at hp
  dsimp only at hp
  rw [Reading.learn_bind] at hp
  obtain ⟨q, hq, hpure⟩ := Reading.result_bind_eq_ok.mp hp
  cases hpure
  obtain ⟨_, _, _, hline⟩ := r.loadLine_eq path n
  rw [rules_contentReading hq, ← LoadedFields.rules_ofHeaders path, hline]
  rfl

end Request

/-- The rules of a section are merged into those of the response. -/
theorem Response.rules_reading {path : String} {n : Node} {r : Response} {p : Response × Report}
    (hp : (reading path n r).result = .ok p) :
    p.1.rules = r.rules.merge (RuleSet.ofList (Section.rules n)) := by
  unfold reading at hp
  obtain ⟨q, hq, hrest⟩ := Reading.result_bind_eq_ok.mp hp
  dsimp only at hrest
  rw [Reading.learn_bind] at hrest
  cases hrest
  have hrules := rules_statusReading hq
  rw [extend, rules_withReason, hrules, LoadedFields.rules_ofHeaders]

namespace Transaction

/-- The rules for both messages: those of the block, none if there is no block. -/
def rulesForAll (path : String) (n : Node) : RuleSet :=
  match (n.get? "all").bind (·.get? "headers") with
  | none => .empty
  | some headers =>
    match loadRules .empty path (some headers) with
    | .ok (_, rules, _) => rules
    | .error _ => .empty

theorem rulesForAll_eq (path : String) (n : Node) :
    rulesForAll path n = (LoadedFields.ofAll path n).rules := by
  unfold rulesForAll LoadedFields.ofAll
  cases n.get? "all" with
  | none => rfl
  | some all =>
    dsimp only [Option.bind_some]
    cases all.get? "headers" with
    | none => rfl
    | some headers =>
      dsimp only
      rw [@loadRules_eq .empty rfl]

theorem nodup_rulesForAll (path : String) (n : Node) : (rulesForAll path n).keys.Nodup := by
  rw [rulesForAll_eq]
  unfold LoadedFields.ofAll
  split
  · exact List.nodup_nil
  · split
    · exact List.nodup_nil
    · exact LoadedFields.nodup_ofRules path _

/-- The rules that the messages of a transaction have, given the global rules and the nodes of the
transaction and of its two sections. -/
structure Ruled (settings : Settings) (path : String) (global : RuleSet)
    (n request response : Node) (t : Transaction) : Prop where
  hasRequest : n.get? (Section.ofRequest settings.mode).key = some request
  hasResponse : n.get? (Section.ofResponse settings.mode).key = some response
  response : RuleSet.Layered global (Section.rules response) (rulesForAll path n) t.response.rules
  request : RuleSet.Layered .empty (Section.rules request) (rulesForAll path n) t.request.rules

theorem Stems.ruled {c : ReadingContext} {n request response : Node} {t : Transaction}
    (h : Stems c n request response t) : t.Ruled c.settings c.path c.rules n request response := by
  obtain ⟨hrequest, hresponse, r, s, a, b, hr, hs, rfl⟩ := h
  have hall := nodup_rulesForAll c.path n
  refine ⟨hrequest, hresponse, ?_, ?_⟩
  · have hrules := Response.rules_reading hs
    rw [keyed, withRules, hrules, ← rulesForAll_eq]
    exact RuleSet.layered _ _ hall
  · have hrules := Request.rules_reading hr
    rw [keyed, withRules, hrules, ← rulesForAll_eq]
    exact RuleSet.layered _ _ hall

end Transaction

/-! ### Loading -/

/-- The walk through a node changes no rules of the run and of the sessions in it, and what it adds
to the open session has the rules that the run and the node ask for. -/
theorem Handler.ruled_walkTransaction {s : LoadState} (hs : s.run.Loading)
    (ht : s.transaction = none) {ssn : Session} (hssn : s.session = some ssn) (settings : Settings)
    (n : Node) {result : Except Fault Report} {s' : LoadState}
    (hrun : ((recording settings).walkTransaction n).runOn s = (result, s')) :
    s'.run.rules = s.run.rules ∧ s'.run.sessions = s.run.sessions ∧
      ∀ report, result = .ok report → ∃ t : Option Transaction,
        s'.session = some (ssn.attach t) ∧ ∀ t' ∈ t, ∃ request response,
          t'.Ruled settings s.path s.run.rules.rules n request response := by
  obtain ⟨ssn', hwalk, hattach⟩ :=
    @follows_walkTransaction s settings hs.names ht hs.unlocked n ssn []
  have hbuilding : s.building [] ssn = s := by
    rw [LoadState.building, ← hssn]
    rfl
  rw [hbuilding, hrun] at hwalk
  obtain ⟨rfl, rfl⟩ := Prod.mk.inj hwalk
  refine ⟨rfl, rfl, fun report hreport => ?_⟩
  cases hread : (Transaction.reading (s.context settings) n).result with
  | error e =>
    rw [Reading.bind_of_error hread] at hreport
    cases hreport
  | ok p =>
    obtain ⟨t, a⟩ := p
    refine ⟨t, ?_, fun t' ht' => ?_⟩
    · rw [← hattach _ (Reading.result_bind_eq_ok.mpr ⟨_, hread, rfl⟩)]
      rfl
    · obtain rfl := Option.mem_def.mp ht'
      obtain ⟨request, response, hstems⟩ := Transaction.stems_of_reading hread
      exact ⟨request, response, hstems.ruled⟩

namespace RunState

variable (files : FileTree) {run : RunState}

/-- The load of a file adds sessions, whose transactions have the rules that the run, after the
file's own global rules, and the nodes of the file ask for. -/
theorem ruled_load (h : run.Loading) (l : FileLoad) :
    ∃ new, (run.load files l).2.sessions = run.sessions ++ new ∧
      ∀ ssn ∈ new, ∀ t ∈ ssn.transactions,
        ∃ n ∈ documentTransactions (FileReading.document? files l.2), ∃ request response,
          t.Ruled l.1 l.2.text (run.load files l).2.rules.rules n request response := by
  rw [load_eq files h]
  refine ⟨_, rfl, fun ssn hssn t ht => ?_⟩
  obtain ⟨n, hn, request, response, hstems⟩ := FileReading.exists_stems_ofFile hssn ht
  exact ⟨n, hn, request, response, hstems.ruled⟩

theorem ruled_loadInTurn (h : run.Loading) (loads : List FileLoad) :
    ∃ new, (run.loadInTurn files loads).sessions = run.sessions ++ new ∧
      ∀ ssn ∈ new, ∀ t ∈ ssn.transactions, ∃ i l, loads[i]? = some l ∧
        ∃ n ∈ documentTransactions (FileReading.document? files l.2), ∃ request response,
          t.Ruled l.1 l.2.text (run.rulesAfter files loads (i + 1)) n request response := by
  refine ⟨_, sessions_loadInTurn files h loads, fun ssn hssn t ht => ?_⟩
  obtain ⟨b, hb, hssn⟩ := List.mem_flatMap.mp hssn
  obtain ⟨i, hi⟩ := List.mem_iff_getElem?.mp hb
  rw [getElem?_blocks] at hi
  obtain ⟨l, hl, rfl⟩ := Option.map_eq_some_iff.mp hi
  obtain ⟨new, hnew, hruled⟩ := ruled_load files (loading_fresh (run.rulesAfter files loads i)) l
  have hmem : ssn ∈ new := by
    have hsessions : (run.apart files loads i l).2.sessions = [] ++ new := hnew
    rwa [hsessions] at hssn
  refine ⟨i, l, hl, ?_⟩
  rw [rulesAfter, (load_at files h hl).2.1]
  exact hruled ssn hmem t ht

/-- **Which rule a message has for a name.** The walk through the node of a transaction changes
neither the global rules nor the sessions of the run.  The transaction that it adds to the open
session, if any, has for each name the rule for both messages, or else the last one of its section,
or else, in the response, the global one; and the names of the three come in this order.  So it is
with all transactions that some files bring, each with the global rules from after its own
file's. -/
theorem loaded_rules_layered :
    (∀ (settings : Settings) (s : LoadState) (ssn : Session) (n : Node), s.run.Loading →
      s.transaction = none → s.session = some ssn → ∀ result s',
      ((Handler.recording settings).walkTransaction n).runOn s = (result, s') →
        s'.run.rules = s.run.rules ∧ s'.run.sessions = s.run.sessions ∧
          ∀ report, result = .ok report → ∃ t : Option Transaction,
            s'.session = some (ssn.attach t) ∧ ∀ t' ∈ t, ∃ request response,
              t'.Ruled settings s.path s.run.rules.rules n request response) ∧
    ∀ (files : FileTree) (run : RunState) (loads : List FileLoad), run.Loading →
      ∃ new, (run.loadInTurn files loads).sessions = run.sessions ++ new ∧
        ∀ ssn ∈ new, ∀ t ∈ ssn.transactions, ∃ i l, loads[i]? = some l ∧
          ∃ n ∈ documentTransactions (FileReading.document? files l.2), ∃ request response,
            t.Ruled l.1 l.2.text (run.rulesAfter files loads (i + 1)) n request response :=
  ⟨fun settings _ _ n hs ht hssn _ _ => Handler.ruled_walkTransaction hs ht hssn settings n,
    fun files _ loads h => ruled_loadInTurn files h loads⟩

/-- Some fields, as a block of headers or of rules. -/
def fieldBlock (fields : List (List Text)) : Node :=
  .mapping 1
    [(.scalar 1 "fields", .sequence 1 (fields.map fun f => .sequence 1 (f.map (.scalar 1))))]

/-- A transaction with rules for both messages and for each of them. -/
def layeredTransaction : Node :=
  .mapping 1
    [(.scalar 1 "all", .mapping 1
      [(.scalar 1 "headers", fieldBlock [["via", "q"], ["age", "0", "absent"]])]),
     (.scalar 1 "client-request", .mapping 1
      [(.scalar 1 "headers", fieldBlock [["via", "z", "contains"]])]),
     (.scalar 1 "proxy-response", .mapping 1
      [(.scalar 1 "headers", fieldBlock
        [["etag", "e", "prefix"], ["server", "a", "contains"], ["etag", "f", "suffix"]])])]

/-- A load with an open session and two global rules. -/
def layeredStart : LoadState :=
  { LoadState.start (fresh (.ofList [⟨"server", "ats", .equal⟩, ⟨"via", "", .present⟩]))
      "a.yaml" with
    session := some (.blank "a.yaml" 1) }

/-- The rules of the messages of a transaction, as they are told in a message. -/
def ruleTexts (t : Transaction) : List Text × List Text :=
  (t.request.rules.values.map FieldRule.describe, t.response.rules.values.map FieldRule.describe)

/-- Each of the three layers decides for some names; and a response in a file that is loaded behind
one with a global rule has that rule. -/
theorem loaded_rules_layered_threeLayers :
    (∃ (t : Transaction) (request response : Node),
      t.Ruled .default "a.yaml" layeredStart.run.rules.rules layeredTransaction request response ∧
      ruleTexts t = ((["\"via\" equal \"q\"", "\"age\" absent"],
        ["\"server\" contains \"a\"", "\"via\" equal \"q\"", "\"etag\" suffix \"f\"",
          "\"age\" absent"]) : List Text × List Text)) ∧
    ∃ ssn ∈ (empty.loadInTurn twoFiles (plainLoads ["rules.yaml", "plain.yaml"])).sessions,
      ssn.transactions.map ruleTexts =
        ([([], ["\"server\" equal \"ats\""])] : List (List Text × List Text)) ∧
      ∀ t ∈ ssn.transactions, ∃ i l, (plainLoads ["rules.yaml", "plain.yaml"])[i]? = some l ∧
        ∃ n request response, t.Ruled l.1 l.2.text
          (empty.rulesAfter twoFiles (plainLoads ["rules.yaml", "plain.yaml"]) (i + 1))
          n request response := by
  constructor
  · have hok : (((Handler.recording .default).walkTransaction layeredTransaction).runOn
        layeredStart).1.toBool = true := by
      decide +kernel
    have hrules : (((Handler.recording .default).walkTransaction layeredTransaction).runOn
        layeredStart).2.session.map (fun ssn => ssn.transactions.map ruleTexts) =
        some ([(["\"via\" equal \"q\"", "\"age\" absent"],
          ["\"server\" contains \"a\"", "\"via\" equal \"q\"", "\"etag\" suffix \"f\"",
            "\"age\" absent"])] : List (List Text × List Text)) := by decide +kernel
    rcases hrun : ((Handler.recording .default).walkTransaction layeredTransaction).runOn
      layeredStart with ⟨_ | report, s⟩
    · rw [hrun] at hok
      cases hok
    rw [hrun] at hrules
    obtain ⟨t, hsession, hruled⟩ := (loaded_rules_layered.1 .default layeredStart (.blank "a.yaml" 1)
      layeredTransaction ⟨rfl, rfl, rfl, rfl⟩ rfl rfl _ _ hrun).2.2 _ rfl
    dsimp only at hrules
    rw [hsession] at hrules
    cases t with
    | none => cases hrules
    | some t =>
      obtain ⟨request, response, ht⟩ := hruled t rfl
      exact ⟨t, request, response, ht, List.singleton_inj.mp (Option.some.inj hrules)⟩
  · obtain ⟨new, hnew, hruled⟩ := loaded_rules_layered.2 twoFiles empty
      (plainLoads ["rules.yaml", "plain.yaml"]) loading_empty
    have hsessions :
        (empty.loadInTurn twoFiles (plainLoads ["rules.yaml", "plain.yaml"])).sessions.map
          (fun ssn => ssn.transactions.map ruleTexts) =
        ([[([], ["\"server\" equal \"ats\""])]] : List (List (List Text × List Text))) := by
      decide +kernel
    rw [hnew] at hsessions ⊢
    obtain ⟨ssn, hssn, htexts⟩ := List.mem_map.mp (hsessions ▸ List.mem_cons_self)
    refine ⟨ssn, hssn, htexts, fun t ht => ?_⟩
    obtain ⟨i, l, hl, n, -, request, response, h⟩ := hruled ssn hssn t ht
    exact ⟨i, l, hl, n, request, response, h⟩

end RunState

end TrafficReplay
