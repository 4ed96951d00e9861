import TrafficReplay.Proofs.Loading.InTurn
import TrafficReplay.Proofs.Loading.Related

/-!
# Where the global rules go

The rules of a response begin with the global ones as they are when the response is read.  Reading a
file with more global rules changes nothing else: every response has the rules that it has without
them, merged into them (`FileReading.ofFile_under`).

* `Transaction.under`, `Transaction.CoveredBy`: more global rules; a rule for each name of a set;
* `RunState.coveredBy_loadInTurn_iff`: when all responses have a rule for each global one.
-/

namespace TrafficReplay
open TrafficReplay.Yaml TrafficReplay.Text

open Reading (Related)

/-! ### Responses -/

namespace Response

/-- A response as if some rules had been there before its own. -/
def under (global : RuleSet) (r : Response) : Response :=
  { r with rules := global.merge r.rules }

variable {global : RuleSet}

theorem related_statusReading (path : String) (n : Node) (r : Response) :
    Related (fun p q => p.1.rules = r.rules ∧ q = (p.1.under global, p.2))
      (statusReading path n r) (statusReading path n (r.under global)) := by
  unfold statusReading
  rcases n.get? "status" with _ | m
  · exact .pure ⟨rfl, rfl⟩
  · refine (Related.refl (Reading.size? m.text) fun _ _ => rfl).bind ?_
    rintro k _ rfl
    rcases k with _ | k
    · exact .pure ⟨rfl, rfl⟩
    · dsimp only
      split
      · exact .pure ⟨rfl, rfl⟩
      · exact .pure ⟨rfl, rfl⟩

theorem withReason_under (n : Node) (r : Response) :
    (r.under global).withReason n = (r.withReason n).under global := by
  unfold withReason
  split <;> rfl

theorem extend_under {r : Response} (h : r.rules.keys.Nodup) (l : LoadedFields) :
    (r.under global).extend l = (r.extend l).under global := by
  simp [extend, under, Keyed.merge_assoc h]

/-- More rules at the start of a response come before those that it has without them. -/
theorem related_reading (path : String) (n : Node) {r : Response} (h : r.rules.keys.Nodup) :
    Related (fun p q => p.1.rules.keys.Nodup ∧ (∀ name ∈ r.rules.keys, name ∈ p.1.rules.keys) ∧
        q = (p.1.under global, p.2))
      (reading path n r) (reading path n (r.under global)) := by
  unfold reading
  refine (related_statusReading path n { r with line := n.line }).bind ?_
  rintro ⟨r', a⟩ _ ⟨hrules, rfl⟩
  have hnodup : (r'.withReason n).rules.keys.Nodup := by
    rw [rules_withReason, hrules]
    exact h
  refine .learnBind (.pure ⟨Keyed.nodup_merge hnodup _, fun name hname => ?_, ?_⟩)
  · refine Keyed.mem_keys_merge.mpr (.inl ?_)
    rw [rules_withReason, hrules]
    exact hname
  · dsimp only
    rw [withReason_under, extend_under hnodup]

end Response

/-! ### Transactions -/

/-- The same context with more global rules. -/
def ReadingContext.under (c : ReadingContext) (global : RuleSet) : ReadingContext :=
  { c with rules := global.merge c.rules }

namespace Transaction
open Handler (Section)

/-- A transaction as if some rules had been there before the response's own. -/
def under (global : RuleSet) (t : Transaction) : Transaction :=
  { t with response := t.response.under global }

/-- Whether the response has a rule for every name that a rule set has one for. -/
def CoveredBy (t : Transaction) (rules : RuleSet) : Prop :=
  ∀ name ∈ rules.keys, name ∈ t.response.rules.keys

instance (t : Transaction) (rules : RuleSet) : Decidable (t.CoveredBy rules) :=
  inferInstanceAs (Decidable (∀ name ∈ rules.keys, name ∈ t.response.rules.keys))

/-- Transactions that may differ in the rules of their responses only. Once the response has been
read, the rules of the first one begin with the global rules, and the second one has more before
them. -/
structure Matches (c : ReadingContext) (global : RuleSet) (answered : Bool)
    (t t' : Transaction) : Prop where
  alike : ∃ rules, t' = { t with response := { t.response with rules } }
  nodup : answered = true → t.response.rules.keys.Nodup
  covered : answered = true → t.CoveredBy c.rules
  under : answered = true → t' = t.under global

/-- Whether the response of a transaction is in a section. -/
def answers (c : ReadingContext) (n : Node) (s : Section) : Bool :=
  s.role c.settings.mode = .response && n.has s.key

variable {c : ReadingContext} {global : RuleSet} {answered : Bool} {t t' : Transaction}

theorem Matches.forget (h : Matches c global answered t t') : Matches c global false t t' :=
  ⟨h.alike, nofun, nofun, nofun⟩

theorem related_mapReading (hc : c.rules.keys.Nodup) (h : Matches c global answered t t')
    (s : Section) (n : Node) :
    Related (fun p q => q.2 = p.2 ∧
        Matches c global (answered || s.role c.settings.mode = .response) p.1 q.1)
      (mapReading c s n t) (mapReading (c.under global) s n t') := by
  obtain ⟨⟨rules, rfl⟩, hnodup, hcovered, hunder⟩ := h
  have hmode : (c.under global).settings.mode = c.settings.mode := rfl
  unfold mapReading
  rw [hmode]
  cases s.role c.settings.mode with
  | request =>
    refine (Related.refl (t.request.reading c.path n) fun _ _ => rfl).bind ?_
    rintro ⟨request, a⟩ _ rfl
    simp only [reduceCtorEq, decide_false, Bool.or_false]
    exact .pure ⟨rfl, ⟨rules, rfl⟩, hnodup, hcovered,
      fun ha => congrArg (fun t : Transaction => { t with request }) (hunder ha)⟩
  | response =>
    -- The rules start again from the global ones, whatever they were before.
    refine
      (@Response.related_reading global c.path n { t.response with rules := c.rules } hc).bind ?_
    rintro ⟨response, a⟩ _ ⟨hnodup', hcovered', rfl⟩
    exact .pure ⟨rfl, ⟨_, rfl⟩, fun _ => hnodup', fun _ => hcovered', fun _ => rfl⟩
  | unused =>
    simp only [reduceCtorEq, decide_false, Bool.or_false]
    exact .pure ⟨rfl, ⟨rules, rfl⟩, hnodup, hcovered, hunder⟩

theorem related_sectionReading (hc : c.rules.keys.Nodup) (h : Matches c global answered t t')
    (n : Node) (s : Section) :
    Related (fun p q => q.2 = p.2 ∧
        Matches c global (!p.2.2 && (answered || answers c n s)) p.1 q.1)
      (sectionReading c n t s) (sectionReading (c.under global) n t' s) := by
  unfold sectionReading answers Node.has
  cases hm : n.get? s.key with
  | none => simpa using Related.pure ⟨rfl, h⟩
  | some m =>
    dsimp only
    split
    · refine (related_mapReading hc h s m).bind ?_
      rintro ⟨t₁, a⟩ ⟨t₂, _⟩ ⟨rfl, hmatch⟩
      exact .pure ⟨rfl, by simpa using hmatch⟩
    · exact .pure ⟨rfl, h.forget⟩

theorem related_sectionsReading (hc : c.rules.keys.Nodup) (h : Matches c global answered t t')
    (n : Node) (ss : List Section) :
    Related (fun p q => q.2 = p.2 ∧
        Matches c global (!p.2.2 && (answered || ss.any (answers c n))) p.1 q.1)
      (sectionsReading c n t ss) (sectionsReading (c.under global) n t' ss) := by
  induction ss generalizing answered t t' with
  | nil => exact .pure ⟨rfl, by simpa using h⟩
  | cons s ss ih =>
    refine (related_sectionReading hc h n s).bind ?_
    rintro ⟨t₁, a, bad⟩ ⟨t₂, _⟩ ⟨rfl, hfirst⟩
    refine (ih hfirst).bind ?_
    rintro ⟨t₃, b, bad'⟩ ⟨t₄, _⟩ ⟨rfl, hrest⟩
    refine .pure ⟨rfl, ?_⟩
    -- A malformed section drops the transaction, so no more has to be known of it.
    cases bad with
    | true => exact hrest.forget
    | false => simpa [Bool.or_assoc] using hrest

theorem withRules_under (h : t.response.rules.keys.Nodup) (rules : RuleSet) :
    (t.under global).withRules rules = (t.withRules rules).under global := by
  simp [withRules, under, Response.under, Keyed.merge_assoc h]

theorem closed_under (t : Transaction) :
    closed (c.under global) (t.under global) =
      ((closed c t).1.map (under global), (closed c t).2) := by
  have hwanted : ((t.under global).keyed c.settings).wanted c.settings =
      (t.keyed c.settings).wanted c.settings := rfl
  unfold closed
  simp only [ReadingContext.under, hwanted]
  split <;> rfl

theorem CoveredBy.closed {rules : RuleSet} (h : t.CoveredBy rules) :
    ∀ t' ∈ (closed c t).1, t'.CoveredBy rules := by
  unfold Transaction.closed
  split
  · rintro _ ⟨⟩
    exact h
  · exact fun _ ht => nomatch ht

theorem CoveredBy.withRules {rules : RuleSet} (h : t.CoveredBy rules) (more : RuleSet) :
    (t.withRules more).CoveredBy rules :=
  fun name hname => Keyed.mem_keys_merge.mpr (.inl (h name hname))

theorem related_contentsReading (hc : c.rules.keys.Nodup) (n : Node)
    (hanswered : Section.all.any (answers c n) = true) :
    Related (fun p q => q = (p.1.map (under global), p.2) ∧ ∀ t ∈ p.1, t.CoveredBy c.rules)
      (contentsReading c n) (contentsReading (c.under global) n) := by
  have hblank : Matches c global false (.blank c.settings.strict) (.blank c.settings.strict) :=
    ⟨⟨_, rfl⟩, nofun, nofun, nofun⟩
  refine (related_sectionsReading hc hblank n Section.all).bind ?_
  rintro ⟨t, a, malformed⟩ ⟨t', _⟩ ⟨rfl, hmatch⟩
  refine .learnBind ?_
  cases malformed with
  | true => exact .pure ⟨rfl, fun _ ht => nomatch ht⟩
  | false =>
    simp only [hanswered, Bool.not_false, Bool.false_or, Bool.and_true] at hmatch
    obtain rfl := hmatch.under rfl
    simp only [Bool.false_eq_true, if_false]
    refine .pure ⟨?_, ((hmatch.covered rfl).withRules _).closed⟩
    have hpath : (c.under global).path = c.path := rfl
    rw [withRules_under (hmatch.nodup rfl), closed_under, hpath]

/-- A transaction that can be opened has a section with its response. -/
theorem any_answers (n : Node)
    (h : (Handler.missingSections c.settings.mode c.path n).ok = true) :
    Section.all.any (answers c n) = true := by
  -- The section is among the required ones; if it were missing there would be an error.
  have hhas (key name : Text)
      (hkey : (key, name) ∈ Handler.requiredSections c.settings.mode) : n.has key = true := by
    cases hn : n.has key with
    | true => rfl
    | false =>
      have hnote := List.all_eq_true.mp h _
        (List.mem_filterMap.mpr ⟨(key, name), hkey, if_neg (by simp [hn])⟩)
      simp at hnote
  cases hmode : c.settings.mode with
  | client =>
    have hresponse := hhas "proxy-response" "proxy response"
      (by simp [hmode, Handler.requiredSections])
    simp [Section.all, answers, Section.role, Section.key, hmode, hresponse]
  | noProxy =>
    have hresponse := hhas "server-response" "server response"
      (by simp [hmode, Handler.requiredSections])
    simp [Section.all, answers, Section.role, Section.key, hmode, hresponse]

/-- More global rules come before the rules of the response, whatever a node comes to; and a
response has a rule for each global one. -/
theorem related_reading (hc : c.rules.keys.Nodup) (n : Node) :
    Related (fun p q => q = (p.1.map (under global), p.2) ∧ ∀ t ∈ p.1, t.CoveredBy c.rules)
      (reading c n) (reading (c.under global) n) := by
  unfold reading
  dsimp only
  split
  · exact .pure ⟨rfl, fun _ ht => nomatch ht⟩
  · by_cases hopen : (Handler.missingSections c.settings.mode c.path n).ok = true
    · simp only [ReadingContext.under, hopen, if_true]
      refine (related_contentsReading hc n (any_answers n hopen)).bind ?_
      rintro ⟨t, a⟩ _ ⟨rfl, hcovered⟩
      exact .pure ⟨rfl, hcovered⟩
    · simp only [ReadingContext.under, hopen, Bool.false_eq_true, if_false]
      exact .pure ⟨rfl, fun _ ht => nomatch ht⟩

theorem related_readings (hc : c.rules.keys.Nodup) (ns : List Node) :
    Related (fun p q => q = (p.1.map (under global), p.2) ∧ ∀ t ∈ p.1, t.CoveredBy c.rules)
      (readings c ns) (readings (c.under global) ns) := by
  induction ns with
  | nil => exact .pure ⟨rfl, fun _ ht => nomatch ht⟩
  | cons n ns ih =>
    refine (related_reading hc n).bind ?_
    rintro ⟨t, a⟩ _ ⟨rfl, hfirst⟩
    refine ih.bind ?_
    rintro ⟨ts, b⟩ _ ⟨rfl, hrest⟩
    refine .pure ⟨by cases t <;> rfl, fun t' ht' => ?_⟩
    rcases List.mem_append.mp ht' with ht' | ht'
    · exact hfirst t' (Option.mem_toList.mp ht')
    · exact hrest t' ht'

end Transaction

/-! ### Sessions -/

namespace Session

/-- A session as if some rules had been there before those of its responses. -/
def under (global : RuleSet) (ssn : Session) : Session :=
  { ssn with transactions := ssn.transactions.map (Transaction.under global) }

/-- Whether all responses of a session have a rule for every name that a rule set has one for. -/
def CoveredBy (ssn : Session) (rules : RuleSet) : Prop :=
  ∀ t ∈ ssn.transactions, t.CoveredBy rules

instance (ssn : Session) (rules : RuleSet) : Decidable (ssn.CoveredBy rules) :=
  inferInstanceAs (Decidable (∀ t ∈ ssn.transactions, t.CoveredBy rules))

variable {c : ReadingContext} {global : RuleSet}

theorem under_of_nil {ssn : Session} (h : ssn.transactions = []) : ssn.under global = ssn := by
  obtain ⟨_, _, _, _, _, _, _, _⟩ := ssn
  cases h
  rfl

theorem coveredBy_of_nil {ssn : Session} (h : ssn.transactions = []) (rules : RuleSet) :
    ssn.CoveredBy rules := by
  simp [CoveredBy, h]

theorem related_transactionsReading (hc : c.rules.keys.Nodup) (n : Node) {ssn : Session}
    (hssn : ssn.transactions = []) :
    Related (fun p q => q = (p.1.under global, p.2) ∧ p.1.CoveredBy c.rules)
      (transactionsReading c n ssn) (transactionsReading (c.under global) n ssn) := by
  have hsame := @under_of_nil global ssn hssn
  have hcovered := coveredBy_of_nil hssn c.rules
  unfold transactionsReading
  rcases n.get? "transactions" with _ | ⟨_, _⟩ | ⟨_, ns⟩ | ⟨_, _⟩
  · exact .pure ⟨by rw [hsame]; rfl, hcovered⟩
  · exact .pure ⟨by rw [hsame]; rfl, hcovered⟩
  · refine (Transaction.related_readings hc ns).bind ?_
    rintro ⟨ts, a⟩ _ ⟨rfl, hcovered⟩
    refine .pure ⟨?_, ?_⟩
    · simp [under, hssn]
    · simpa [CoveredBy, hssn] using hcovered
  · exact .pure ⟨by rw [hsame]; rfl, hcovered⟩

theorem registered_under (ssn : Session) :
    (ssn.under global).registered = ssn.registered.map (under global) := by
  simp only [registered, under, List.isEmpty_map]
  split <;> rfl

theorem closeNote_under (ssn : Session) : (ssn.under global).closeNote = ssn.closeNote := by
  have hlocation : (ssn.under global).location = ssn.location := rfl
  have hempty : (ssn.under global).transactions.isEmpty = ssn.transactions.isEmpty :=
    List.isEmpty_map ..
  have hlength : (ssn.under global).transactions.length = ssn.transactions.length :=
    List.length_map ..
  rw [closeNote, closeNote, hlocation, hempty, hlength]

theorem related_contentsReading (hc : c.rules.keys.Nodup) (n : Node) :
    Related (fun p q => q = (p.1.under global, p.2) ∧ p.1.CoveredBy c.rules)
      (contentsReading c n) (contentsReading (c.under global) n) := by
  have hopen : Related (fun p q => q = p ∧ p.1.transactions = [])
      (openReading c.path n) (openReading c.path n) :=
    .refl _ fun _ hp => ⟨rfl, transactions_openReading hp⟩
  refine hopen.bind ?_
  rintro ⟨ssn, a⟩ _ ⟨rfl, hssn⟩
  dsimp only
  split
  · refine (related_transactionsReading hc n hssn).bind ?_
    rintro ⟨ssn', b⟩ _ ⟨rfl, hcovered⟩
    exact .pure ⟨rfl, hcovered⟩
  · exact .pure ⟨by rw [under_of_nil hssn], coveredBy_of_nil hssn _⟩

/-- More global rules come before those of the responses of a session, whatever a node comes to;
and the responses have a rule for each global one. -/
theorem related_reading (hc : c.rules.keys.Nodup) (n : Node) :
    Related (fun p q => q = (p.1.map (under global), p.2) ∧ ∀ ssn ∈ p.1, ssn.CoveredBy c.rules)
      (reading c n) (reading (c.under global) n) := by
  unfold reading
  split
  · exact .pure ⟨rfl, fun _ ht => nomatch ht⟩
  · refine (related_contentsReading hc n).bind ?_
    rintro ⟨ssn, a⟩ _ ⟨rfl, hcovered⟩
    refine .pure ⟨?_, ?_⟩
    · rw [registered_under, closeNote_under]
    · unfold registered
      split
      · exact fun _ hssn => nomatch hssn
      · rintro _ ⟨⟩
        exact hcovered

end Session

/-! ### Files -/

namespace FileReading

/-- A file as if some rules had been there before the global ones. -/
def under (global : RuleSet) (r : FileReading) : FileReading :=
  { r with rules := global.merge r.rules, sessions := r.sessions.map (Session.under global) }

/-- Whether the sessions of a file have a rule for each global one that is there after it. -/
def Covered (r : FileReading) : Prop := ∀ ssn ∈ r.sessions, ssn.CoveredBy r.rules

variable {c : ReadingContext} {global : RuleSet}

theorem covered_of_nil {r : FileReading} (h : r.sessions = []) : r.Covered :=
  fun _ hssn => absurd (h ▸ hssn) List.not_mem_nil

theorem rules_ofSessions (c : ReadingContext) (ns : List Node) :
    (ofSessions c ns).rules = c.rules := by
  cases ns with
  | nil => rfl
  | cons n ns =>
    rw [ofSessions]
    split <;> rfl

theorem ofSessions_under (hc : c.rules.keys.Nodup) (ns : List Node) :
    ofSessions (c.under global) ns = (ofSessions c ns).under global ∧
      (ofSessions c ns).Covered := by
  induction ns with
  | nil => exact ⟨rfl, covered_of_nil rfl⟩
  | cons n ns ih =>
    obtain ⟨hunder, hcovered⟩ := ih
    have hread := @Session.related_reading c global hc n
    unfold ofSessions
    generalize Session.reading c n = x at hread ⊢
    generalize Session.reading (c.under global) n = y at hread ⊢
    cases hread with
    | error => exact ⟨rfl, covered_of_nil rfl⟩
    | @ok names p q h =>
      obtain ⟨ssn, a⟩ := p
      obtain ⟨rfl, hfirst⟩ := h
      refine ⟨?_, fun ssn' hssn' => ?_⟩
      · dsimp only
        rw [hunder]
        cases ssn <;> rfl
      · rcases List.mem_append.mp hssn' with hssn' | hssn'
        · exact hfirst ssn' (Option.mem_toList.mp hssn')
        · have hrest := hcovered ssn' hssn'
          rwa [rules_ofSessions] at hrest

/-- More global rules come before those of a document, and before the rules of its responses. -/
theorem ofDocument_under (hc : c.rules.keys.Nodup) (root : Option Node) :
    ofDocument (c.under global) root = (ofDocument c root).under global ∧
      (ofDocument c root).Covered := by
  rcases root with _ | ⟨_, _⟩ | ⟨_, _⟩ | ⟨line, entries⟩
  · exact ⟨rfl, covered_of_nil rfl⟩
  · exact ⟨rfl, covered_of_nil rfl⟩
  · exact ⟨rfl, covered_of_nil rfl⟩
  -- The rules of the document come behind both.
  have hrules : (c.under global).rules.merge (addedRules c.path (.mapping line entries)) =
      global.merge (c.rules.merge (addedRules c.path (.mapping line entries))) :=
    (Keyed.merge_assoc hc _ _).symm
  have hnodup := Keyed.nodup_merge hc (addedRules c.path (.mapping line entries))
  unfold ofDocument
  dsimp only
  rcases (Node.mapping line entries).get? "sessions" with _ | ⟨_, _⟩ | ⟨_, ns⟩ | ⟨_, _⟩
  · exact ⟨by simp only [under, ← hrules]; rfl, covered_of_nil rfl⟩
  · exact ⟨by simp only [under, ← hrules]; rfl, covered_of_nil rfl⟩
  · obtain ⟨hunder, hcovered⟩ := @ofSessions_under
      { c with rules := c.rules.merge (addedRules c.path (.mapping line entries)) } global hnodup ns
    refine ⟨?_, fun ssn hssn => ?_⟩
    · have hpath : (c.under global).path = c.path := rfl
      have hsettings : (c.under global).settings = c.settings := rfl
      simp only [ReadingContext.under] at hunder
      rw [hpath, hsettings, hrules]
      dsimp only
      rw [hunder]
      rfl
    · have hssn' := hcovered ssn hssn
      rwa [rules_ofSessions] at hssn'
  · exact ⟨by simp only [under, ← hrules]; rfl, covered_of_nil rfl⟩

theorem ofRead_under (hc : c.rules.keys.Nodup) (read : Except FileFault (List UInt8)) :
    ofRead (c.under global) read = (ofRead c read).under global ∧ (ofRead c read).Covered := by
  unfold ofRead
  rcases read with f | bytes
  · exact ⟨rfl, covered_of_nil rfl⟩
  · dsimp only
    rcases compose (.ofFile (.ofBytes bytes)) with f | root
    · cases f with
      | undecodable f => exact ⟨rfl, covered_of_nil rfl⟩
      | _ => exact ⟨rfl, covered_of_nil rfl⟩
    · exact ofDocument_under hc root

/-- **More global rules only come first.** A file that is loaded with some global rules brings what
it brings without any, with these rules before its own global ones and before the rules of all its
responses; and its responses have a rule for each global one that is there after it. -/
theorem ofFile_under (settings : Settings) (files : FileTree) (global : RuleSet) (p : FilePath) :
    ofFile settings files global p = (ofFile settings files .empty p).under global ∧
      (ofFile settings files .empty p).Covered := by
  unfold ofFile
  split
  · exact ⟨rfl, covered_of_nil rfl⟩
  · exact ofRead_under (c := ⟨settings, p.text, .empty⟩) List.nodup_nil (files.read p)

end FileReading

/-! ### Files in turn -/

namespace RunState

variable (files : FileTree) {run : RunState}

/-- The global rules after the first loads. -/
def rulesAfter (files : FileTree) (run : RunState) (loads : List FileLoad) (i : Nat) : RuleSet :=
  (run.loadInTurn files (loads.take i)).rules.rules

/-- What a file holds by itself: what it gives a run into which nothing was loaded. -/
def own (files : FileTree) (l : FileLoad) : RunState := (empty.load files l).2

/-- A file gives what it holds by itself, with the global rules from before it added. -/
theorem load_fresh (rules : RuleSet) (l : FileLoad) :
    ((fresh rules).load files l).2.sessions =
        (own files l).sessions.map (Session.under rules) ∧
      ((fresh rules).load files l).2.rules.rules = rules.merge (own files l).rules.rules := by
  rw [own, load_eq files loading_empty, load_eq files (loading_fresh _)]
  have hunder := (FileReading.ofFile_under l.1 files rules l.2).1
  simp only [after, gain, learn, fresh, empty, FieldRules.empty, List.nil_append, hunder]
  exact ⟨rfl, rfl⟩

/-- The responses of a file have a rule for each global rule of the file. -/
theorem coveredBy_own (l : FileLoad) :
    ∀ ssn ∈ (own files l).sessions, ssn.CoveredBy (own files l).rules.rules := by
  rw [own, load_eq files loading_empty]
  exact (FileReading.ofFile_under l.1 files .empty l.2).2

/-- The global rules after one load more. -/
theorem rulesAfter_succ (h : run.Loading) {loads : List FileLoad} {i : Nat} {l : FileLoad}
    (hl : loads[i]? = some l) :
    run.rulesAfter files loads (i + 1) =
      (run.rulesAfter files loads i).merge (own files l).rules.rules := by
  rw [rulesAfter, (load_at files h hl).2.1]
  exact (load_fresh files _ l).2

theorem nodup_rulesAfter (loads : List FileLoad) (i : Nat) :
    (empty.rulesAfter files loads i).keys.Nodup := by
  induction i with
  | zero => exact List.nodup_nil
  | succ i ih =>
    cases hl : loads[i]? with
    | none =>
      have hlength : loads.length ≤ i := List.getElem?_eq_none_iff.mp hl
      have htake : loads.take (i + 1) = loads.take i := by
        rw [List.take_of_length_le hlength, List.take_of_length_le (by omega)]
      rwa [rulesAfter, htake]
    | some l =>
      rw [rulesAfter_succ files loading_empty hl]
      exact Keyed.nodup_merge ih _

theorem sessions_apart (run : RunState) (loads : List FileLoad) (i : Nat) (l : FileLoad) :
    (run.apart files loads i l).2.sessions =
      (own files l).sessions.map (Session.under (run.rulesAfter files loads i)) :=
  (load_fresh files _ l).1

theorem mem_sessions_loadInTurn (h : run.Loading) (loads : List FileLoad) (ssn : Session) :
    ssn ∈ (run.loadInTurn files loads).sessions ↔
      ssn ∈ run.sessions ∨ ∃ i l, loads[i]? = some l ∧ ∃ ssn' ∈ (own files l).sessions,
        ssn'.under (run.rulesAfter files loads i) = ssn := by
  rw [sessions_loadInTurn files h, List.mem_append, List.mem_flatMap]
  refine or_congr Iff.rfl ⟨?_, ?_⟩
  · rintro ⟨b, hb, hssn⟩
    obtain ⟨i, hi⟩ := List.mem_iff_getElem?.mp hb
    rw [getElem?_blocks] at hi
    obtain ⟨l, hl, rfl⟩ := Option.map_eq_some_iff.mp hi
    rw [sessions_apart] at hssn
    exact ⟨i, l, hl, List.mem_map.mp hssn⟩
  · rintro ⟨i, l, hl, hssn⟩
    refine ⟨run.apart files loads i l, ?_, ?_⟩
    · refine List.mem_iff_getElem?.mpr ⟨i, ?_⟩
      rw [getElem?_blocks, hl]
      rfl
    · rw [sessions_apart]
      exact List.mem_map.mpr hssn

end RunState

theorem Transaction.coveredBy_under {t : Transaction} {global rules : RuleSet} :
    (t.under global).CoveredBy rules ↔
      ∀ name ∈ rules.keys, name ∈ global.keys ∨ name ∈ t.response.rules.keys :=
  forall₂_congr fun _ _ => Keyed.mem_keys_merge

theorem Session.coveredBy_under {ssn : Session} {global rules : RuleSet} :
    (ssn.under global).CoveredBy rules ↔ ∀ t ∈ ssn.transactions,
      ∀ name ∈ rules.keys, name ∈ global.keys ∨ name ∈ t.response.rules.keys := by
  simp only [Session.CoveredBy, Session.under, List.forall_mem_map, Transaction.coveredBy_under]

/-- The rule for a name does not depend on the global rules exactly if the response has one itself,
or the global rules agree. -/
theorem Transaction.get?_under_eq_iff {t : Transaction} {global global' : RuleSet} {name : Text} :
    (t.under global).response.rules.get? name = (t.under global').response.rules.get? name ↔
      name ∈ t.response.rules.keys ∨ global.get? name = global'.get? name := by
  by_cases hname : name ∈ t.response.rules.keys
  · exact iff_of_true (Keyed.get?_merge_of_mem hname _ _) (.inl hname)
  · simp only [hname, false_or]
    rw [← Keyed.get?_merge_of_not_mem hname global, ← Keyed.get?_merge_of_not_mem hname global']
    rfl

namespace RunState

variable (files : FileTree) {run : RunState}

/-- The responses of a file have a rule for each global rule that is there when it is loaded. -/
theorem coveredBy_apart (h : run.Loading) {loads : List FileLoad} {i : Nat} {l : FileLoad}
    (hl : loads[i]? = some l) :
    ∀ ssn ∈ (run.apart files loads i l).2.sessions,
      ssn.CoveredBy (run.rulesAfter files loads (i + 1)) := by
  rw [sessions_apart, rulesAfter_succ files h hl, List.forall_mem_map]
  intro ssn hssn
  refine Session.coveredBy_under.mpr fun t ht name hname => ?_
  exact (Keyed.mem_keys_merge.mp hname).imp_right (coveredBy_own files l ssn hssn t ht name)

/-- All responses have a rule for each global one exactly if each of the global ones was there when
the file of a response was loaded, or the file gives the response a rule for that name. -/
theorem coveredBy_loadInTurn_iff (h : run.Loading) (hnone : run.sessions = [])
    (loads : List FileLoad) (rules : RuleSet) :
    (∀ ssn ∈ (run.loadInTurn files loads).sessions, ssn.CoveredBy rules) ↔
      ∀ i l, loads[i]? = some l → ∀ ssn ∈ (own files l).sessions, ∀ t ∈ ssn.transactions,
        ∀ name ∈ rules.keys,
          name ∈ (run.rulesAfter files loads i).keys ∨ name ∈ t.response.rules.keys := by
  simp only [mem_sessions_loadInTurn files h, hnone, List.not_mem_nil, false_or]
  constructor
  · intro hcovered i l hl ssn hssn
    exact Session.coveredBy_under.mp (hcovered _ ⟨i, l, hl, ssn, hssn, rfl⟩)
  · rintro hcovered _ ⟨i, l, hl, ssn, hssn, rfl⟩
    exact Session.coveredBy_under.mpr (hcovered i l hl ssn hssn)

theorem sessions_loadInTurn_own (h : run.Loading) (hnone : run.sessions = [])
    (loads : List FileLoad) :
    (run.loadInTurn files loads).sessions =
      (loads.mapIdx fun i l =>
        (own files l).sessions.map (Session.under (run.rulesAfter files loads i))).flatten := by
  have hblocks : loads.mapIdx (fun i l =>
        (own files l).sessions.map (Session.under (run.rulesAfter files loads i))) =
      (run.blocks files loads).map (·.2.sessions) := by
    refine List.ext_getElem? fun i => ?_
    rw [List.getElem?_mapIdx, List.getElem?_map, getElem?_blocks, Option.map_map]
    cases loads[i]? with
    | none => rfl
    | some l => exact congrArg some (sessions_apart files run loads i l).symm
  rw [sessions_loadInTurn files h, hnone, List.nil_append, hblocks, List.flatMap_def]

/-- **Which global rules reach a response.** The sessions of a run are those that the files hold by
themselves, where each response has the global rules added that were there before its file, and so
has a rule for each one that is there after its file.  It has a rule for each one that is there in
the end exactly if those that came later are not new to it; and in two orders of the files it has
the same rule for a name exactly if its file gives it one, or the global rules from before the file
agree on the name. -/
theorem global_rules_reach (h : run.Loading) (hnone : run.sessions = []) (loads : List FileLoad) :
    (run.loadInTurn files loads).sessions =
      (loads.mapIdx fun i l =>
        (own files l).sessions.map (Session.under (run.rulesAfter files loads i))).flatten ∧
    (∀ i l, loads[i]? = some l → ∀ ssn ∈ (run.apart files loads i l).2.sessions,
      ssn.CoveredBy (run.rulesAfter files loads (i + 1))) ∧
    ((∀ ssn ∈ (run.loadInTurn files loads).sessions,
        ssn.CoveredBy (run.loadInTurn files loads).rules.rules) ↔
      ∀ i l, loads[i]? = some l → ∀ ssn ∈ (own files l).sessions, ∀ t ∈ ssn.transactions,
        ∀ name ∈ (run.loadInTurn files loads).rules.rules.keys,
          name ∈ (run.rulesAfter files loads i).keys ∨ name ∈ t.response.rules.keys) ∧
    ∀ loads' i j l, loads[i]? = some l → loads'[j]? = some l →
      ∀ ssn ∈ (own files l).sessions, ∀ t ∈ ssn.transactions, ∀ name,
        (t.under (run.rulesAfter files loads i)).response.rules.get? name =
            (t.under (run.rulesAfter files loads' j)).response.rules.get? name ↔
          name ∈ t.response.rules.keys ∨
            (run.rulesAfter files loads i).get? name = (run.rulesAfter files loads' j).get? name :=
  ⟨sessions_loadInTurn_own files h hnone loads, fun _ _ => coveredBy_apart files h,
    coveredBy_loadInTurn_iff files h hnone loads _,
    fun _ _ _ _ _ _ _ _ _ _ _ => Transaction.get?_under_eq_iff⟩

/-- A response in a file that is loaded after the global rules has them. -/
theorem global_rules_reach_twoFiles :
    empty.Loading ∧ empty.sessions = [] ∧
      (empty.loadInTurn twoFiles (plainLoads ["rules.yaml", "plain.yaml"])).sessions.map
        (fun ssn => ssn.transactions.map fun t => t.response.rules.keys) =
          ([[["server"]]] : List (List (List Text))) := by
  refine ⟨loading_empty, rfl, ?_⟩
  rw [(global_rules_reach twoFiles loading_empty rfl _).1]
  decide +kernel

/-- A response in a file that is loaded before the global rules does not have them. -/
theorem not_coveredBy_twoFiles :
    ¬ ∀ ssn ∈ (empty.loadInTurn twoFiles (plainLoads ["plain.yaml", "rules.yaml"])).sessions,
      ssn.CoveredBy
        (empty.loadInTurn twoFiles (plainLoads ["plain.yaml", "rules.yaml"])).rules.rules := by
  decide +kernel

end RunState

end TrafficReplay
