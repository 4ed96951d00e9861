import TrafficReplay.Proofs.Loading.InTurn

/-!
# The names of rules are in the name table

A rule is read from a field list together with its name, so whatever rules a response gets, from the
global ones, from its own fields or from those for all messages, their names are among the names that
were read.

* `RuleSet.Known`: rules whose names are known;
* `Reading.Knowing`: a reading whose result has a property once its names are known, with one lemma
  for each way of putting readings together;
* `RunState.Interned`, `RunState.interned_loadInTurn`: what loads keep of a run.
-/

namespace TrafficReplay
open TrafficReplay.Yaml TrafficReplay.Text

/-! ### Rules -/

namespace RuleSet

/-- Whether the names of all rules are known. -/
def Known (known : Text → Prop) (rs : RuleSet) : Prop := ∀ r ∈ rs.values, known r.name

variable {known : Text → Prop} {rs : RuleSet}

theorem known_empty : Known known .empty := nofun

theorem Known.mono {known' : Text → Prop} (h : rs.Known known)
    (hmono : ∀ name, known name → known' name) : rs.Known known' :=
  fun r hr => hmono r.name (h r hr)

theorem Known.add (h : rs.Known known) {r : FieldRule} (hr : known r.name) :
    (rs.add r).Known known := by
  intro r' hr'
  rcases Keyed.mem_values_put hr' with rfl | hr'
  · exact hr
  · exact h r' hr'

theorem Known.merge (h : rs.Known known) {other : RuleSet} (hother : other.Known known) :
    Known known (rs.merge other) :=
  fun r hr => (Keyed.mem_values_merge hr).elim (h r) (hother r)

theorem known_ofList {rules : List FieldRule} (h : ∀ r ∈ rules, known r.name) :
    (ofList rules).Known known := by
  have hfrom (rs : RuleSet) (hrs : rs.Known known) : (rules.foldl add rs).Known known := by
    induction rules generalizing rs with
    | nil => exact hrs
    | cons r rules ih =>
      obtain ⟨hr, hrules⟩ := List.forall_mem_cons.mp h
      exact ih hrules _ (hrs.add hr)
  exact hfrom .empty known_empty

theorem known_addEqualRules (h : rs.Known known) {fields : FieldList}
    (hfields : ∀ f ∈ fields, known f.1) : (addEqualRules rs fields).Known known := by
  induction fields generalizing rs with
  | nil => exact h
  | cons f fields ih =>
    obtain ⟨hf, hrest⟩ := List.forall_mem_cons.mp hfields
    have hfirst : Known known (if rs.has f.1 then rs else rs.add ⟨f.1, f.2, .equal⟩) := by
      split
      · exact h
      · exact h.add hf
    exact ih hfirst hrest

end RuleSet

/-! ### Field lists -/

namespace LoadedFields

/-- The names of the rules of a field list are among the names of its fields. -/
def RulesNamed (l : LoadedFields) : Prop := l.rules.Known (· ∈ l.names)

theorem rulesNamed_blank (report : Report) : (blank report).RulesNamed := RuleSet.known_empty

theorem rulesNamed_ofEntries (path : String) (es : List Entry) :
    (ofEntries path es).RulesNamed := by
  refine RuleSet.known_ofList fun r hr => ?_
  obtain ⟨e, he, hrule⟩ := List.mem_filterMap.mp hr
  cases e with
  | ruled r' =>
    cases hrule
    exact List.mem_map.mpr ⟨(r.name, r.value), List.mem_filterMap.mpr ⟨_, he, rfl⟩, rfl⟩
  | _ => cases hrule

theorem rulesNamed_ofNode (path : String) (n : Node) : (ofNode path n).RulesNamed := by
  unfold ofNode
  split
  · exact rulesNamed_ofEntries path _
  · exact rulesNamed_blank _

theorem rulesNamed_ofHeaders (path : String) (n : Node) : (ofHeaders path n).RulesNamed := by
  unfold ofHeaders
  split
  · exact rulesNamed_blank _
  · split
    · exact rulesNamed_blank _
    · exact rulesNamed_ofNode path _

theorem rulesNamed_ofRules (path : String) (n : Node) : (ofRules path n).RulesNamed := by
  unfold ofRules
  split
  · exact rulesNamed_blank _
  · exact RuleSet.known_addEqualRules (rulesNamed_ofNode path _)
      fun _ hf => List.mem_map.mpr ⟨_, hf, rfl⟩

theorem rulesNamed_ofAll (path : String) (n : Node) : (ofAll path n).RulesNamed := by
  unfold ofAll
  split
  · exact rulesNamed_blank _
  · split
    · exact rulesNamed_blank _
    · exact rulesNamed_ofRules path _

theorem RulesNamed.known {l : LoadedFields} (h : l.RulesNamed) {known : Text → Prop}
    (hnames : ∀ name ∈ l.names, known name) : l.rules.Known known :=
  h.mono hnames

end LoadedFields

/-! ### Readings -/

namespace Reading

variable {α β : Type}

/-- That the result of a reading has a property if all names that the reading brings are known. -/
def Knowing (known : Text → Prop) (P : α → Prop) (x : Reading α) : Prop :=
  (∀ name ∈ x.names, known name) → ∀ a, x.result = .ok a → P a

namespace Knowing

variable {known : Text → Prop} {P : α → Prop} {Q : β → Prop}

theorem pure {a : α} (h : P a) : Knowing known P (pure a) := by
  rintro - _ ⟨⟩
  exact h

/-- A reading whose result has a property whatever is known. -/
theorem ofResult {x : Reading α} (h : ∀ a, x.result = .ok a → P a) : Knowing known P x :=
  fun _ => h

theorem bind {x : Reading α} {f : α → Reading β} (hx : Knowing known P x)
    (hf : ∀ a, P a → Knowing known Q (f a)) : Knowing known Q (x >>= f) := by
  intro hnames b hb
  obtain ⟨a, ha, hrest⟩ := result_bind_eq_ok.mp hb
  rw [bind_of_ok ha] at hnames
  obtain ⟨hfirst, hlast⟩ := List.forall_mem_append.mp hnames
  exact hf a (hx hfirst a ha) hlast b hrest

theorem learnBind {names : List Text} {x : Reading β}
    (hx : (∀ name ∈ names, known name) → Knowing known Q x) :
    Knowing known Q (do learn names; x) := by
  intro hnames
  rw [learn_bind] at hnames ⊢
  obtain ⟨hfirst, hlast⟩ := List.forall_mem_append.mp hnames
  exact hx hfirst hlast

end Knowing

end Reading

open Reading (Knowing)

variable {known : Text → Prop}

/-- The rules of a response are known if its own are, and those that it started with. -/
theorem Response.knowing_reading (path : String) (n : Node) {r : Response}
    (h : r.rules.Known known) :
    Knowing known (fun p => p.1.rules.Known known) (reading path n r) := by
  unfold reading
  refine Knowing.bind (P := fun p => p.1.rules = r.rules)
    (.ofResult fun _ => rules_statusReading) fun p hp => ?_
  refine .learnBind fun hnames => .pure ?_
  have hstart : (p.1.withReason n).rules.Known known := by
    rw [rules_withReason, hp]
    exact h
  exact hstart.merge ((LoadedFields.rulesNamed_ofHeaders path n).known hnames)

/-! ### Transactions -/

namespace Transaction
open Handler (Section)

/-- Whether the names of the rules of the response are known. -/
def Known (known : Text → Prop) (t : Transaction) : Prop := t.response.rules.Known known

variable {c : ReadingContext} {t : Transaction}

theorem known_blank (strict : Bool) : (blank strict).Known known := RuleSet.known_empty

theorem knowing_mapReading (hc : c.rules.Known known) (ht : t.Known known) (s : Section)
    (n : Node) : Knowing known (fun p => p.1.Known known) (mapReading c s n t) := by
  unfold mapReading
  split
  · exact Knowing.bind (P := fun _ => True) (.ofResult fun _ _ => trivial) fun _ _ => .pure ht
  · -- The response starts from the global rules, whatever its rules were before.
    exact (Response.knowing_reading c.path n hc).bind fun _ hp => .pure hp
  · exact .pure ht

theorem knowing_sectionReading (hc : c.rules.Known known) (ht : t.Known known) (n : Node)
    (s : Section) : Knowing known (fun p => p.1.Known known) (sectionReading c n t s) := by
  unfold sectionReading
  split
  · exact .pure ht
  · split
    · exact (knowing_mapReading hc ht s _).bind fun _ hp => .pure hp
    · exact .pure ht

theorem knowing_sectionsReading (hc : c.rules.Known known) (ht : t.Known known) (n : Node)
    (ss : List Section) :
    Knowing known (fun p => p.1.Known known) (sectionsReading c n t ss) := by
  induction ss generalizing t with
  | nil => exact .pure ht
  | cons s ss ih =>
    refine (knowing_sectionReading hc ht n s).bind fun p hp => ?_
    exact (ih hp).bind fun q hq => .pure hq

theorem Known.closed (ht : t.Known known) : ∀ t' ∈ (closed c t).1, t'.Known known := by
  unfold Transaction.closed
  split
  · rintro _ ⟨⟩
    exact ht
  · exact fun _ ht => nomatch ht

theorem knowing_contentsReading (hc : c.rules.Known known) (n : Node) :
    Knowing known (fun p => ∀ t ∈ p.1, t.Known known) (contentsReading c n) := by
  refine (knowing_sectionsReading hc (known_blank _) n Section.all).bind ?_
  rintro ⟨t, a, malformed⟩ ht
  refine .learnBind fun hnames => ?_
  cases malformed with
  | true => exact .pure fun _ ht => nomatch ht
  | false =>
    have hall := (LoadedFields.rulesNamed_ofAll c.path n).known hnames
    have hboth : (t.withRules (LoadedFields.ofAll c.path n).rules).Known known :=
      RuleSet.Known.merge ht hall
    exact .pure hboth.closed

/-- Whatever the global rules are when a transaction is read: if their names are known, and the
names that it brings, those of all its response's rules are. -/
theorem knowing_reading (hc : c.rules.Known known) (n : Node) :
    Knowing known (fun p => ∀ t ∈ p.1, t.Known known) (reading c n) := by
  unfold reading
  dsimp only
  split
  · exact .pure fun _ ht => nomatch ht
  · split
    · exact (knowing_contentsReading hc n).bind fun p hp => .pure hp
    · exact .pure fun _ ht => nomatch ht

theorem knowing_readings (hc : c.rules.Known known) (ns : List Node) :
    Knowing known (fun p => ∀ t ∈ p.1, t.Known known) (readings c ns) := by
  induction ns with
  | nil => exact .pure fun _ ht => nomatch ht
  | cons n ns ih =>
    refine (knowing_reading hc n).bind fun p hp => ih.bind fun q hq => .pure fun t ht => ?_
    rcases List.mem_append.mp ht with ht | ht
    · exact hp t (Option.mem_toList.mp ht)
    · exact hq t ht

end Transaction

/-! ### Sessions -/

namespace Session

/-- Whether the names of the rules of all responses are known. -/
def Known (known : Text → Prop) (ssn : Session) : Prop :=
  ∀ t ∈ ssn.transactions, t.Known known

variable {c : ReadingContext} {ssn : Session}

theorem known_of_nil (h : ssn.transactions = []) : ssn.Known known := by
  simp [Known, h]

theorem knowing_transactionsReading (hc : c.rules.Known known) (n : Node)
    (hssn : ssn.Known known) :
    Knowing known (fun p => p.1.Known known) (transactionsReading c n ssn) := by
  unfold transactionsReading
  split
  · exact .pure hssn
  · refine (Transaction.knowing_readings hc _).bind fun p hp => .pure ?_
    exact List.forall_mem_append.mpr ⟨hssn, hp⟩
  · exact .pure hssn

theorem knowing_contentsReading (hc : c.rules.Known known) (n : Node) :
    Knowing known (fun p => p.1.Known known) (contentsReading c n) := by
  refine Knowing.bind (P := fun p => p.1.Known known)
    (.ofResult fun _ hp => known_of_nil (transactions_openReading hp)) ?_
  rintro ⟨ssn, a⟩ hssn
  dsimp only
  split
  · exact (knowing_transactionsReading hc n hssn).bind fun q hq => .pure hq
  · exact .pure hssn

theorem knowing_reading (hc : c.rules.Known known) (n : Node) :
    Knowing known (fun p => ∀ ssn ∈ p.1, ssn.Known known) (reading c n) := by
  unfold reading
  split
  · exact .pure fun _ hssn => nomatch hssn
  · refine (knowing_contentsReading hc n).bind fun p hp => .pure ?_
    unfold registered
    split
    · exact fun _ hssn => nomatch hssn
    · rintro _ ⟨⟩
      exact hp

end Session

/-! ### Files -/

namespace FileReading

/-- Whether the names of the global rules after a file and of the rules of its responses are known. -/
structure Known (known : Text → Prop) (r : FileReading) : Prop where
  rules : r.rules.Known known
  sessions : ∀ ssn ∈ r.sessions, ssn.Known known

variable {c : ReadingContext}

theorem known_of_nil {r : FileReading} (hrules : r.rules.Known known) (h : r.sessions = []) :
    r.Known known :=
  ⟨hrules, fun _ hssn => absurd (h ▸ hssn) List.not_mem_nil⟩

theorem known_ofSessions (hc : c.rules.Known known) (ns : List Node)
    (hnames : ∀ name ∈ (ofSessions c ns).names, known name) : (ofSessions c ns).Known known := by
  induction ns with
  | nil => exact known_of_nil hc rfl
  | cons n ns ih =>
    unfold ofSessions at hnames ⊢
    cases hr : (Session.reading c n).result with
    | error e =>
      simp only [hr]
      exact known_of_nil hc rfl
    | ok p =>
      simp only [hr] at hnames ⊢
      obtain ⟨hfirst, hrest⟩ := List.forall_mem_append.mp hnames
      refine ⟨hc, fun ssn hssn => ?_⟩
      rcases List.mem_append.mp hssn with hssn | hssn
      · exact Session.knowing_reading hc n hfirst p hr ssn (Option.mem_toList.mp hssn)
      · exact (ih hrest).sessions ssn hssn

theorem rulesNamed_globalBlock (path : String) (root : Node) :
    (globalBlock path root).RulesNamed := by
  unfold globalBlock
  split
  · exact LoadedFields.rulesNamed_blank _
  · exact LoadedFields.rulesNamed_ofRules path _

theorem known_addedRules {path : String} {root : Node}
    (hnames : ∀ name ∈ (globalBlock path root).names, known name) :
    (addedRules path root).Known known := by
  unfold addedRules
  split
  · exact (rulesNamed_globalBlock path root).known hnames
  · exact RuleSet.known_empty

theorem known_ofDocument (hc : c.rules.Known known) (root : Option Node)
    (hnames : ∀ name ∈ (ofDocument c root).names, known name) :
    (ofDocument c root).Known known := by
  rcases root with _ | ⟨_, _⟩ | ⟨_, _⟩ | ⟨line, entries⟩
  · exact known_of_nil hc rfl
  · exact known_of_nil hc rfl
  · exact known_of_nil hc rfl
  have hrules (hblock : ∀ name ∈ (globalBlock c.path (.mapping line entries)).names, known name) :
      RuleSet.Known known (c.rules.merge (addedRules c.path (.mapping line entries))) :=
    hc.merge (known_addedRules hblock)
  unfold ofDocument at hnames ⊢
  dsimp only at hnames ⊢
  generalize (Node.mapping line entries).get? "sessions" = sessions at hnames ⊢
  rcases sessions with _ | ⟨_, _⟩ | ⟨_, ns⟩ | ⟨_, _⟩
  · exact known_of_nil (hrules hnames) rfl
  · exact known_of_nil (hrules hnames) rfl
  · obtain ⟨hblock, hrest⟩ := List.forall_mem_append.mp hnames
    exact ⟨hrules hblock, (known_ofSessions (hrules hblock) ns hrest).sessions⟩
  · exact known_of_nil (hrules hnames) rfl

theorem known_ofRead (hc : c.rules.Known known) (read : Except FileFault (List UInt8))
    (hnames : ∀ name ∈ (ofRead c read).names, known name) : (ofRead c read).Known known := by
  unfold ofRead at hnames ⊢
  rcases read with f | bytes
  · exact known_of_nil hc rfl
  · dsimp only at hnames ⊢
    generalize compose (.ofFile (.ofBytes bytes)) = composed at hnames ⊢
    rcases composed with f | root
    · cases f with
      | undecodable f => exact known_of_nil hc rfl
      | _ => exact known_of_nil hc rfl
    · exact known_ofDocument hc root hnames

/-- If the names of the global rules before a file are known, and the names that the file brings,
those of all rules after it are. -/
theorem known_ofFile (settings : Settings) (files : FileTree) {rules : RuleSet}
    (hrules : rules.Known known) (p : FilePath)
    (hnames : ∀ name ∈ (ofFile settings files rules p).names, known name) :
    (ofFile settings files rules p).Known known := by
  unfold ofFile at hnames ⊢
  by_cases hnull : p.text.toList.contains '\x00' = true
  · simp only [hnull, if_true]
    exact known_of_nil hrules rfl
  · simp only [hnull, Bool.false_eq_true, if_false] at hnames ⊢
    exact known_ofRead hrules _ hnames

end FileReading

/-! ### Runs -/

namespace RunState

/-- That the name table of a run has the names of all its rules: of the global ones, and of those of
the responses in its sessions. -/
structure Interned (run : RunState) : Prop where
  rules : run.rules.rules.Known (· ∈ run.names.names)
  sessions : ∀ ssn ∈ run.sessions, ssn.Known (· ∈ run.names.names)

theorem interned_empty : empty.Interned := ⟨RuleSet.known_empty, nofun⟩

variable {run : RunState} (files : FileTree)

/-- One file more keeps the names of all rules in the table. -/
theorem Interned.load (hrun : run.Loading) (h : run.Interned) (l : FileLoad) :
    (run.load files l).2.Interned := by
  have hold (name : Text) (hname : name ∈ run.names.names) :
      name ∈ (run.load files l).2.names.names := by
    rw [load_eq files hrun]
    exact NameTable.mem_addAll.mpr (.inl hname)
  have hnew : (FileReading.ofFile l.1 files run.rules.rules l.2).Known
      (· ∈ (run.load files l).2.names.names) := by
    refine FileReading.known_ofFile l.1 files (h.rules.mono hold) l.2 fun name hname => ?_
    rw [load_eq files hrun]
    exact NameTable.mem_addAll.mpr (.inr hname)
  have hsessions : (run.load files l).2.sessions =
      run.sessions ++ (FileReading.ofFile l.1 files run.rules.rules l.2).sessions := by
    rw [load_eq files hrun]
    rfl
  refine ⟨?_, fun ssn hssn => ?_⟩
  · rw [show (run.load files l).2.rules.rules =
      (FileReading.ofFile l.1 files run.rules.rules l.2).rules by rw [load_eq files hrun]; rfl]
    exact hnew.rules
  · rw [hsessions] at hssn
    rcases List.mem_append.mp hssn with hssn | hssn
    · exact fun t ht => (h.sessions ssn hssn t ht).mono hold
    · exact hnew.sessions ssn hssn

/-- Any files, loaded one after another, keep the names of all rules in the table. -/
theorem interned_loadInTurn (hrun : run.Loading) (h : run.Interned) (loads : List FileLoad) :
    (run.loadInTurn files loads).Interned := by
  induction loads generalizing run with
  | nil => exact h
  | cons l loads ih => exact ih (hrun.load files l) (h.load files hrun l)

end RunState

end TrafficReplay
