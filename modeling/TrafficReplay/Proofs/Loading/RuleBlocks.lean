import TrafficReplay.Proofs.Loading.Precedence

/-!
# Which entry of a block of rules decides

A block of rules is read in two goes: first the rules of the entries with a known kind, each in the
place of an earlier one for its name, and then an equal value for every entry whose name has no rule
yet.  So the last entry for a name decides only if it has a kind, or agrees with the one that does.
And an entry with an unknown kind, which is reported, counts as one without a kind.

* `RuleSet.get?_ofBlock`: the rule for a name, with the part of reported entries in it;
* `RuleSet.decided?_eq_iff`: when the last entry for a name decides;
* `loadRules_eq_ok`, `last_entry_decides_iff`: the rules that are loaded from a block.
-/

namespace TrafficReplay
open TrafficReplay.Yaml TrafficReplay.Text

/-! ### Entries -/

namespace Entry

/-- The name of the field of an entry. -/
def name? (e : Entry) : Option Text := e.field?.map Prod.fst

/-- The rule of an entry without a kind, which asks for an equal value. -/
def plain? : Entry → Option FieldRule
  | .plain name value => some ⟨name, value, .equal⟩
  | _ => none

/-- What an entry asks for if it is accepted. -/
def asked? (e : Entry) : Option FieldRule := e.plain?.or e.rule?

/-- Whether an entry is accepted; the others are reported. -/
def isAccepted (e : Entry) : Bool := e.asked?.isSome

/-- The first entry for a name. -/
def first? (es : List Entry) (name : Text) : Option Entry := es.find? fun e => e.name? = some name

/-- The last entry for a name. -/
def last? (es : List Entry) (name : Text) : Option Entry := first? es.reverse name

theorem note?_eq_none_iff {e : Entry} (path : String) :
    e.note? path = none ↔ e.isAccepted = true := by
  cases e <;> simp [note?, isAccepted, asked?, plain?, rule?]

theorem mem_of_first? {es : List Entry} {name : Text} {e : Entry} (h : first? es name = some e) :
    e ∈ es ∧ e.name? = some name :=
  ⟨List.mem_of_find?_eq_some h, by simpa using List.find?_some h⟩

theorem mem_of_last? {es : List Entry} {name : Text} {e : Entry} (h : last? es name = some e) :
    e ∈ es ∧ e.name? = some name :=
  (mem_of_first? h).imp_left List.mem_reverse.mp

theorem isSome_first?_iff {es : List Entry} {name : Text} :
    (first? es name).isSome = true ↔ ∃ e ∈ es, e.name? = some name := by
  simp [first?]

theorem last?_eq_none_iff {es : List Entry} {name : Text} :
    last? es name = none ↔ first? es name = none := by
  simp [last?, first?]

/-- That a way to get rules from entries leaves them their names. -/
def KeepsNames (f : Entry → Option FieldRule) : Prop := ∀ e r, f e = some r → e.name? = some r.name

theorem keepsNames_plain? : KeepsNames plain? := by
  intro e r h
  cases e <;> cases h
  rfl

theorem keepsNames_rule? : KeepsNames rule? := by
  intro e r h
  cases e <;> cases h
  rfl

theorem keepsNames_asked? : KeepsNames asked? := by
  intro e r h
  rcases Option.or_eq_some_iff.mp h with h | ⟨-, h⟩
  · exact keepsNames_plain? e r h
  · exact keepsNames_rule? e r h

variable {f : Entry → Option FieldRule} {es : List Entry} {name : Text} {r : FieldRule}

/-- If there is no entry for a name, there is no rule for it. -/
theorem find?_of_first?_eq_none (hf : KeepsNames f) (h : first? es name = none) :
    (es.filterMap f).find? (fun r => r.name = name) = none := by
  refine List.find?_eq_none.mpr fun r hmem hname => ?_
  obtain ⟨e, he, hr⟩ := List.mem_filterMap.mp hmem
  have hname' : e.name? = some name := (hf e r hr).trans (congrArg some (by simpa using hname))
  exact absurd hname' (by simpa using List.find?_eq_none.mp h e he)

/-- If the first entry for a name gives a rule, that is the first rule for the name. -/
theorem find?_of_first? (hf : KeepsNames f) {e : Entry} (h : first? es name = some e)
    (hr : f e = some r) : (es.filterMap f).find? (fun r => r.name = name) = some r := by
  obtain ⟨hname, before, after, rfl, hbefore⟩ := List.find?_eq_some_iff_append.mp h
  have hr' : r.name = name := by
    have hname' : e.name? = some name := by simpa using hname
    exact Option.some.inj ((hf e r hr).symm.trans hname')
  -- The entries before the first one for the name give no rule for it.
  have hnone : (before.filterMap f).find? (fun r => r.name = name) = none :=
    find?_of_first?_eq_none hf (List.find?_eq_none.mpr (by simpa using hbefore))
  rw [List.filterMap_append, List.find?_append, hnone, Option.none_or,
    List.filterMap_cons_some hr, List.find?_cons_of_pos (by simpa using hr')]

end Entry

namespace RuleSet
open Entry (keepsNames_plain? keepsNames_rule? keepsNames_asked?)

/-! ### The rules of a block -/

/-- The rules of a block with some entries. -/
def ofBlock (es : List Entry) : RuleSet :=
  addEqualRules (ofList (es.filterMap Entry.rule?)) (es.filterMap Entry.field?)

/-- The rule for a name that the accepted entries of a block come to: the last one of a known kind,
or else the one of the first entry without a kind. -/
def decided? (es : List Entry) (name : Text) : Option FieldRule :=
  (last? (es.filterMap Entry.rule?) name).or
    ((es.filterMap Entry.plain?).find? fun r => r.name = name)

/-- The rule for a name that a reported entry leaves behind: no entry for the name has a known kind,
and the first one has an unknown one. -/
def leaked? (es : List Entry) (name : Text) : Option FieldRule :=
  match last? (es.filterMap Entry.rule?) name, Entry.first? es name with
  | none, some (.unknownRule name value _ _) => some ⟨name, value, .equal⟩
  | _, _ => none

variable {es : List Entry} {name : Text} {r : FieldRule}

/-- A field asks for an equal value if there is no rule for its name yet. -/
theorem get?_addEqualRules (rs : RuleSet) (fields : FieldList) (name : Text) :
    (addEqualRules rs fields).get? name =
      (rs.get? name).or ((fields.find? fun f => f.1 = name).map fun f => ⟨f.1, f.2, .equal⟩) := by
  induction fields generalizing rs with
  | nil => simp [addEqualRules]
  | cons f fields ih =>
    have hstep : addEqualRules rs (f :: fields) =
        addEqualRules (if rs.has f.1 then rs else rs.add ⟨f.1, f.2, .equal⟩) fields := rfl
    rw [hstep, ih]
    by_cases hhas : rs.has f.1 = true
    · rw [if_pos hhas]
      by_cases hname : f.1 = name
      · subst hname
        rw [Option.or_of_isSome hhas, Option.or_of_isSome hhas]
      · simp [hname]
    · rw [if_neg hhas, add, Keyed.get?_put]
      by_cases hname : f.1 = name
      · subst hname
        have hnone : rs.get? f.1 = none := by simpa [Keyed.has] using hhas
        simp [hnone]
      · simp [hname]

theorem find?_field? (es : List Entry) (name : Text) :
    (es.filterMap Entry.field?).find? (fun f => f.1 = name) =
      (Entry.first? es name).bind Entry.field? := by
  rw [List.find?_filterMap, Entry.first?]
  congr 2
  funext e
  cases e <;> simp [Entry.field?, Entry.name?]

theorem last?_filterMap (f : Entry → Option FieldRule) (es : List Entry) (name : Text) :
    last? (es.filterMap f) name = (es.reverse.filterMap f).find? fun r => r.name = name := by
  rw [last?, List.filterMap_reverse]

theorem last?_of_last? {f : Entry → Option FieldRule} (hf : Entry.KeepsNames f) {e : Entry}
    (h : Entry.last? es name = some e) (hr : f e = some r) :
    last? (es.filterMap f) name = some r := by
  rw [last?_filterMap]
  exact Entry.find?_of_first? hf h hr

theorem last?_of_first?_eq_none {f : Entry → Option FieldRule} (hf : Entry.KeepsNames f)
    (h : Entry.first? es name = none) : last? (es.filterMap f) name = none := by
  rw [last?_filterMap]
  exact Entry.find?_of_first?_eq_none hf (Entry.last?_eq_none_iff.mpr h)

/-- If no entry for a name has a known kind, entries with one are for other names. -/
theorem rule_ne_of_last?_eq_none (h : last? (es.filterMap Entry.rule?) name = none)
    (hr : .ruled r ∈ es) : r.name ≠ name := by
  rw [last?_filterMap, List.find?_eq_none] at h
  simpa using h r (List.mem_filterMap.mpr ⟨.ruled r, List.mem_reverse.mpr hr, rfl⟩)

/-- If no entry for a name has a known kind, the first one has none or an unknown one. -/
theorem first?_cases (h : last? (es.filterMap Entry.rule?) name = none) {e : Entry}
    (hfirst : Entry.first? es name = some e) :
    (∃ value, e = .plain name value) ∨
      ∃ value line kind, e = .unknownRule name value line kind := by
  obtain ⟨he, hname⟩ := Entry.mem_of_first? hfirst
  cases e with
  | malformed line => cases hname
  | plain x value =>
    obtain rfl : x = name := Option.some.inj hname
    exact .inl ⟨value, rfl⟩
  | ruled r => exact absurd (Option.some.inj hname) (rule_ne_of_last?_eq_none h he)
  | unknownRule x value line kind =>
    obtain rfl : x = name := Option.some.inj hname
    exact .inr ⟨value, line, kind, rfl⟩

/-- The rule for a name is the one that a reported entry leaves behind, if any, and else the one
that the accepted entries decide on. -/
theorem get?_ofBlock (es : List Entry) (name : Text) :
    (ofBlock es).get? name = (leaked? es name).or (decided? es name) := by
  rw [ofBlock, get?_addEqualRules, get?_ofList, find?_field?, leaked?, decided?]
  cases hruled : last? (es.filterMap Entry.rule?) name with
  | some r => simp
  | none =>
    simp only [Option.none_or]
    cases hfirst : Entry.first? es name with
    | none => simp [Entry.find?_of_first?_eq_none keepsNames_plain? hfirst]
    | some e =>
      rcases first?_cases hruled hfirst with ⟨value, rfl⟩ | ⟨value, line, kind, rfl⟩
      · rw [Entry.find?_of_first? keepsNames_plain? hfirst rfl]
        rfl
      · rfl

/-- A name gets a rule if some entry for it is well formed, whatever its kind. -/
theorem has_ofBlock_iff : (ofBlock es).has name = true ↔ ∃ e ∈ es, e.name? = some name := by
  rw [Keyed.has, ofBlock, get?_addEqualRules, get?_ofList, find?_field?, ← Entry.isSome_first?_iff]
  cases hfirst : Entry.first? es name with
  | none => simp [last?_of_first?_eq_none keepsNames_rule? hfirst]
  | some e =>
    -- The name is that of a field, and a field gets a rule in the second go at the latest.
    obtain ⟨-, hname⟩ := Entry.mem_of_first? hfirst
    obtain ⟨f, hf, -⟩ := Option.map_eq_some_iff.mp hname
    simp [hf]

/-! ### Blocks without reported entries -/

theorem leaked?_of_accepted (h : ∀ e ∈ es, e.isAccepted = true) (name : Text) :
    leaked? es name = none := by
  unfold leaked?
  split
  · rename_i hfirst
    exact nomatch h _ (Entry.mem_of_first? hfirst).1
  · rfl

/-- Reported entries have no part in what the accepted ones decide on. -/
theorem decided?_filter (es : List Entry) (name : Text) :
    decided? (es.filter Entry.isAccepted) name = decided? es name := by
  have hfilter {f : Entry → Option FieldRule} (hf : ∀ e, e.isAccepted = false → f e = none) :
      (es.filter Entry.isAccepted).filterMap f = es.filterMap f := by
    rw [List.filterMap_filter]
    congr 1
    funext e
    by_cases haccepted : e.isAccepted = true
    · rw [if_pos haccepted]
    · rw [if_neg haccepted, hf e (Bool.eq_false_iff.mpr haccepted)]
  have hnone (e : Entry) (he : e.isAccepted = false) : e.plain? = none ∧ e.rule? = none := by
    simpa [Entry.isAccepted, Entry.asked?] using he
  rw [decided?, decided?, hfilter fun e he => (hnone e he).2, hfilter fun e he => (hnone e he).1]

/-- If no entry for a name has a kind and all are accepted, the first one has no kind. -/
theorem first?_of_accepted (h : ∀ e ∈ es, e.isAccepted = true)
    (hruled : last? (es.filterMap Entry.rule?) name = none) {e : Entry}
    (hfirst : Entry.first? es name = some e) : ∃ value, e = .plain name value := by
  rcases first?_cases hruled hfirst with hplain | ⟨value, line, kind, rfl⟩
  · exact hplain
  · exact nomatch h _ (Entry.mem_of_first? hfirst).1

/-- The rule that accepted entries decide on: the last one with a kind, or else what the first one
asks for. -/
theorem decided?_of_accepted (h : ∀ e ∈ es, e.isAccepted = true) (name : Text) :
    decided? es name =
      (last? (es.filterMap Entry.rule?) name).or ((Entry.first? es name).bind Entry.asked?) := by
  unfold decided?
  cases hruled : last? (es.filterMap Entry.rule?) name with
  | some r => rfl
  | none =>
    cases hfirst : Entry.first? es name with
    | none => simp [Entry.find?_of_first?_eq_none keepsNames_plain? hfirst]
    | some e =>
      obtain ⟨value, rfl⟩ := first?_of_accepted h hruled hfirst
      rw [Entry.find?_of_first? keepsNames_plain? hfirst rfl]
      rfl

/-- Where what all accepted entries ask for is taken in order, the last one for a name decides. -/
theorem last?_asked? (h : ∀ e ∈ es, e.isAccepted = true) (name : Text) :
    last? (es.filterMap Entry.asked?) name = (Entry.last? es name).bind Entry.asked? := by
  cases hlast : Entry.last? es name with
  | none => exact last?_of_first?_eq_none keepsNames_asked? (Entry.last?_eq_none_iff.mp hlast)
  | some e =>
    obtain ⟨r, hr⟩ := Option.isSome_iff_exists.mp (h e (Entry.mem_of_last? hlast).1)
    rw [last?_of_last? keepsNames_asked? hlast hr, Option.bind_some, hr]

/-- Whether the last entry for a name has no kind and another one decides: the last with a kind, or
else the first, with another value. -/
def Overruled (es : List Entry) (name : Text) : Prop :=
  ∃ value, Entry.last? es name = some (.plain name value) ∧
    match last? (es.filterMap Entry.rule?) name with
    | some r => r ≠ ⟨name, value, .equal⟩
    | none => Entry.first? es name ≠ some (.plain name value)

/-- The last entry for a name decides unless it is overruled. -/
theorem decided?_eq_iff (h : ∀ e ∈ es, e.isAccepted = true) (name : Text) :
    decided? es name = (Entry.last? es name).bind Entry.asked? ↔ ¬ Overruled es name := by
  rw [decided?_of_accepted h]
  cases hlast : Entry.last? es name with
  | none =>
    have hfirst := Entry.last?_eq_none_iff.mp hlast
    simp [Overruled, hlast, hfirst, last?_of_first?_eq_none keepsNames_rule? hfirst]
  | some e =>
    obtain ⟨he, hname⟩ := Entry.mem_of_last? hlast
    cases e with
    | malformed line => cases hname
    | plain x value =>
      obtain rfl : x = name := Option.some.inj hname
      cases hruled : last? (es.filterMap Entry.rule?) x with
      | some r => simp [Overruled, hlast, hruled, Entry.asked?, Entry.plain?]
      | none =>
        obtain ⟨e, hfirst⟩ := Option.isSome_iff_exists.mp
          (Entry.isSome_first?_iff.mpr ⟨_, he, hname⟩)
        obtain ⟨value', rfl⟩ := first?_of_accepted h hruled hfirst
        simp [Overruled, hlast, hruled, hfirst, Entry.asked?, Entry.plain?]
    | ruled r =>
      -- The last entry is then the last one with a kind.
      have hruled := last?_of_last? keepsNames_rule? hlast rfl
      simp [Overruled, hlast, hruled, Entry.asked?, Entry.plain?, Entry.rule?]
    | unknownRule x value line kind => exact nomatch h _ he

end RuleSet

/-! ### Loading -/

/-- The entries of a block of rules, none if it has no list of them. -/
def blockEntries (n : Node) : List Entry :=
  match n.get? "fields" with
  | some (.sequence _ items) => items.map Entry.ofNode
  | _ => []

theorem LoadedFields.rules_ofRules (path : String) (n : Node) :
    (ofRules path n).rules = .ofBlock (blockEntries n) := by
  unfold ofRules blockEntries
  rcases n.get? "fields" with _ | ⟨_, _⟩ | ⟨_, _⟩ | ⟨_, _⟩ <;> rfl

/-- Each entry that is not accepted is reported. -/
theorem LoadedFields.reported_ofRules {path : String} {n : Node} {e : Entry}
    (he : e ∈ blockEntries n) (h : e.isAccepted = false) :
    ∃ note ∈ (ofRules path n).report, e.note? path = some note := by
  have hnote : e.note? path ≠ none := by
    rw [ne_eq, Entry.note?_eq_none_iff, h]
    exact Bool.false_ne_true
  obtain ⟨note, hnote⟩ := Option.ne_none_iff_exists'.mp hnote
  refine ⟨note, ?_, hnote⟩
  unfold blockEntries at he
  split at he
  · rename_i line items hfields
    unfold ofRules
    rw [hfields]
    exact List.mem_filterMap.mpr ⟨e, he, hnote⟩
  · cases he

/-- What a field list holds does not depend on the name table. -/
theorem loadFields_eq_ok {names names' : NameTable} {path : String} {n : Node} {l : LoadedFields}
    (h : loadFields names path n = .ok (names', l)) : l = .ofNode path n := by
  unfold loadFields at h
  unfold LoadedFields.ofNode
  split at h
  · rename_i hsequence
    rw [if_pos hsequence]
    dsimp only at h
    cases hnames : names.localizeAll
        ((LoadedFields.ofEntries path (n.items.map Entry.ofNode)).fields.map Prod.fst) with
    | error e =>
      rw [hnames] at h
      cases h
    | ok names₁ =>
      rw [hnames] at h
      cases h
      rfl
  · rename_i hsequence
    rw [if_neg hsequence]
    cases h
    rfl

/-- So it is with the rules of a block and what is reported of it. -/
theorem loadRules_eq_ok {names names' : NameTable} {path : String} {n : Node} {rules : RuleSet}
    {report : Report} (h : loadRules names path (some n) = .ok (names', rules, report)) :
    rules = .ofBlock (blockEntries n) ∧ report = (LoadedFields.ofRules path n).report := by
  rw [← LoadedFields.rules_ofRules path]
  unfold loadRules at h
  unfold LoadedFields.ofRules
  rw [Option.bind_some] at h
  cases hlist : n.get? "fields" with
  | none =>
    rw [hlist] at h
    cases h
    exact ⟨rfl, rfl⟩
  | some list =>
    rw [hlist] at h
    dsimp only at h ⊢
    cases hfields : loadFields names path list with
    | error e =>
      rw [hfields] at h
      cases h
    | ok p =>
      obtain ⟨names₁, l⟩ := p
      obtain rfl := loadFields_eq_ok hfields
      rw [hfields] at h
      cases h
      exact ⟨rfl, rfl⟩

/-- **Which entry decides.** A block can be loaded with any name table that is not frozen.  Take
any block whose entries are all accepted, and any name.  The rule for the name is the last one with
a kind, or else what the first entry asks for; if all that the entries ask for were taken in order,
it would be what the last entry asks for.  The two are the same exactly if the last entry is not
overruled. -/
theorem last_entry_decides_iff {n : Node} (h : ∀ e ∈ blockEntries n, e.isAccepted = true)
    (names : NameTable) (path : String) :
    (names.frozen = false → ∃ p, loadRules names path (some n) = .ok p) ∧
    ∀ names' rules report, loadRules names path (some n) = .ok (names', rules, report) →
      ∀ name,
        rules.get? name =
          (RuleSet.last? ((blockEntries n).filterMap Entry.rule?) name).or
            ((Entry.first? (blockEntries n) name).bind Entry.asked?) ∧
        (RuleSet.ofList ((blockEntries n).filterMap Entry.asked?)).get? name =
          (Entry.last? (blockEntries n) name).bind Entry.asked? ∧
        (rules.get? name =
            (RuleSet.ofList ((blockEntries n).filterMap Entry.asked?)).get? name ↔
          ¬ RuleSet.Overruled (blockEntries n) name) := by
  refine ⟨fun hnames => ⟨_, loadRules_eq hnames path n⟩, fun names' rules report hload name => ?_⟩
  obtain ⟨rfl, -⟩ := loadRules_eq_ok hload
  have hlast : (RuleSet.ofList ((blockEntries n).filterMap Entry.asked?)).get? name =
      (Entry.last? (blockEntries n) name).bind Entry.asked? := by
    rw [RuleSet.get?_ofList, RuleSet.last?_asked? h]
  have hget : (RuleSet.ofBlock (blockEntries n)).get? name =
      RuleSet.decided? (blockEntries n) name := by
    rw [RuleSet.get?_ofBlock, RuleSet.leaked?_of_accepted h, Option.none_or]
  refine ⟨?_, hlast, ?_⟩
  · rw [hget, RuleSet.decided?_of_accepted h]
  · rw [hlast, hget]
    exact RuleSet.decided?_eq_iff h name

/-- A block with three names, each of them twice. -/
def repeatedFields : Node :=
  RunState.fieldBlock [["server", "a"], ["age", "0", "absent"], ["via", "p"], ["Server", "b"],
    ["AGE", "1"], ["via", "q", "prefix"]]

/-- A last entry with a kind decides; one without loses to an earlier kind, and to the first
entry. -/
theorem last_entry_decides_iff_repeated :
    ∃ names rules report,
      loadRules .empty "a.yaml" (some repeatedFields) = .ok (names, rules, report) ∧
      rules.values = [⟨"age", "0", .absent⟩, ⟨"via", "q", .startsWith⟩, ⟨"server", "a", .equal⟩] ∧
      ¬ RuleSet.Overruled (blockEntries repeatedFields) "via" ∧
      RuleSet.Overruled (blockEntries repeatedFields) "age" ∧
      RuleSet.Overruled (blockEntries repeatedFields) "server" := by
  have haccepted : ∀ e ∈ blockEntries repeatedFields, e.isAccepted = true := by decide +kernel
  obtain ⟨hexists, hrules⟩ := last_entry_decides_iff haccepted .empty "a.yaml"
  obtain ⟨⟨names, rules, report⟩, hload⟩ := hexists rfl
  have hvalues : rules = .ofBlock (blockEntries repeatedFields) := (loadRules_eq_ok hload).1
  have hdecides name := (hrules names rules report hload name).2.2
  rw [hvalues] at hdecides
  refine ⟨names, rules, report, hload, ?_, ?_, ?_, ?_⟩
  · rw [hvalues]
    decide +kernel
  · exact (hdecides "via").mp (by decide +kernel)
  · exact Classical.not_not.mp fun h => absurd ((hdecides "age").mpr h) (by decide +kernel)
  · exact Classical.not_not.mp fun h => absurd ((hdecides "server").mpr h) (by decide +kernel)

/-- Not every block has the rules that its entries ask for in their order: of two entries without a
kind the first one decides. -/
theorem not_last_decides_twoPlain :
    ¬ ∀ (names : NameTable) (path : String) (n : Node) names' rules report,
      (∀ e ∈ blockEntries n, e.isAccepted = true) →
      loadRules names path (some n) = .ok (names', rules, report) → ∀ name,
        rules.get? name = (RuleSet.ofList ((blockEntries n).filterMap Entry.asked?)).get? name := by
  intro h
  let block := RunState.fieldBlock [["server", "a"], ["server", "b"]]
  have hsame := h .empty "" block _ _ _ (by decide +kernel) (loadRules_eq rfl "" block) "server"
  exact absurd hsame (by decide +kernel)

end TrafficReplay
