import TrafficReplay.Proofs.Loading.Follows
import TrafficReplay.Proofs.Traffic.RuleSets

/-!
# What a field list comes to

Every entry of a field list that is well formed gives a field, and a rule if its third scalar names
a known kind; all other entries and kinds are reported.  Entries that are not well formed are of no
account to fields, rules and names.

* `Node.field?`, `Node.rule?`, `Node.complaint?`: what an entry gives, by its shape;
* `LoadedFields.ListedBy`: fields, rules and notes by the entries of a list;
* `loadFields_listed`: what is loaded from a list, and what does not matter to it.
-/

namespace TrafficReplay
open TrafficReplay.Yaml TrafficReplay.Text

namespace Yaml.Node

/-! ### Entries by their shapes -/

/-- The field of an entry: two or three scalars, of which the first one is the name. -/
def field? : Node → Option (Text × Text)
  | .sequence _ [.scalar _ name, .scalar _ value] => some (lowerText name, value)
  | .sequence _ [.scalar _ name, .scalar _ value, .scalar _ _] => some (lowerText name, value)
  | _ => none

/-- What kind of rule an entry asks for: the third of three scalars. -/
def asked? : Node → Option Text
  | .sequence _ [.scalar _ _, .scalar _ _, .scalar _ kind] => some kind
  | _ => none

/-- Whether an entry is well formed. -/
def isField (n : Node) : Bool := n.field?.isSome

/-- The rule of an entry, if it asks for one of a known kind. -/
def rule? (n : Node) : Option FieldRule := do
  let (name, value) ← n.field?
  let kind ← RuleKind.ofName? (lowerText (← n.asked?))
  return ⟨name, value, kind⟩

/-- The kind that an entry asks for, if it is not known. -/
def unknown? (n : Node) : Option Text :=
  n.asked?.filter fun kind => (RuleKind.ofName? (lowerText kind)).isNone

/-- What is reported of an entry: that it is not well formed, or that its kind is not known. -/
def complaint? (path : String) (n : Node) : Option Note :=
  match n.field? with
  | none =>
    some ⟨.error, "Field at " ++ place path n.line ++ " is not a sequence of 2 or 3 scalars."⟩
  | some (name, _) => n.unknown?.map fun kind =>
    ⟨.error, "Field \"" ++ name ++ "\" at " ++ place path n.line ++ " has an unknown rule \"" ++
      kind ++ "\"."⟩

theorem scalar?_eq_some_iff {n : Node} {s : Text} :
    n.scalar? = some s ↔ ∃ line, n = .scalar line s := by
  cases n <;> simp [scalar?]

/-- Nodes that have texts are scalars with these texts. -/
theorem forall₂_of_mapM_scalar? {ns : List Node} {texts : List Text}
    (h : ns.mapM scalar? = some texts) :
    List.Forall₂ (fun n s => ∃ line, n = .scalar line s) ns texts := by
  induction ns generalizing texts with
  | nil =>
    cases h
    exact .nil
  | cons n ns ih =>
    rw [List.mapM_cons] at h
    obtain ⟨s, hs, hrest⟩ := Option.bind_eq_some_iff.mp h
    obtain ⟨ss, hss, hpure⟩ := Option.bind_eq_some_iff.mp hrest
    cases hpure
    exact .cons (scalar?_eq_some_iff.mp hs) (ih hss)

/-- An entry has two scalars, or three, or is not well formed. -/
theorem shape_cases (n : Node) :
    (∃ line a b name value, n = .sequence line [.scalar a name, .scalar b value]) ∨
    (∃ line a b c name value kind,
      n = .sequence line [.scalar a name, .scalar b value, .scalar c kind]) ∨
    n.field? = none ∧ Entry.ofNode n = .malformed n.line := by
  unfold field?
  split
  · rename_i line a name b value
    exact .inl ⟨line, a, b, name, value, rfl⟩
  · rename_i line a name b value c kind
    exact .inr (.inl ⟨line, a, b, c, name, value, kind, rfl⟩)
  · rename_i hpair htriple
    refine .inr (.inr ⟨rfl, ?_⟩)
    cases n with
    | scalar line s => rfl
    | mapping line es => rfl
    | sequence line ns =>
      -- Two or three texts would be those of scalars, and the entry of the one shape or the other.
      unfold Entry.ofNode
      split
      · rename_i htexts
        rcases forall₂_of_mapM_scalar? htexts with _ | ⟨⟨_, rfl⟩, _ | ⟨⟨_, rfl⟩, _ | _⟩⟩
        exact absurd rfl (hpair _ _ _ _ _)
      · rename_i htexts
        rcases forall₂_of_mapM_scalar? htexts with
          _ | ⟨⟨_, rfl⟩, _ | ⟨⟨_, rfl⟩, _ | ⟨⟨_, rfl⟩, _ | _⟩⟩⟩
        exact absurd rfl (htriple _ _ _ _ _ _ _)
      · rfl

theorem ofNode_triple (line a b c : Nat) (name value kind : Text) :
    Entry.ofNode (.sequence line [.scalar a name, .scalar b value, .scalar c kind]) =
      match RuleKind.ofName? (lowerText kind) with
      | some k => .ruled ⟨lowerText name, value, k⟩
      | none => .unknownRule (lowerText name) value line kind := rfl

theorem field?_ofNode (n : Node) : (Entry.ofNode n).field? = n.field? := by
  rcases n.shape_cases with ⟨line, a, b, name, value, rfl⟩ |
    ⟨line, a, b, c, name, value, kind, rfl⟩ | ⟨hfield, hentry⟩
  · rfl
  · rw [ofNode_triple]
    cases RuleKind.ofName? (lowerText kind) <;> rfl
  · rw [hentry, hfield]
    rfl

theorem rule?_ofNode (n : Node) : (Entry.ofNode n).rule? = n.rule? := by
  rcases n.shape_cases with ⟨line, a, b, name, value, rfl⟩ |
    ⟨line, a, b, c, name, value, kind, rfl⟩ | ⟨hfield, hentry⟩
  · rfl
  · rw [ofNode_triple, rule?, asked?, field?]
    dsimp only [bind, Option.bind]
    cases RuleKind.ofName? (lowerText kind) <;> rfl
  · rw [hentry, rule?, hfield]
    rfl

theorem note?_ofNode (path : String) (n : Node) :
    (Entry.ofNode n).note? path = n.complaint? path := by
  rcases n.shape_cases with ⟨line, a, b, name, value, rfl⟩ |
    ⟨line, a, b, c, name, value, kind, rfl⟩ | ⟨hfield, hentry⟩
  · rfl
  · rw [ofNode_triple, complaint?, unknown?, asked?, field?]
    dsimp only
    cases hkind : RuleKind.ofName? (lowerText kind) <;>
      simp [Entry.note?, Node.line, Option.filter, hkind]
  · rw [hentry, complaint?, hfield]
    rfl

/-! ### Entries that are not well formed -/

theorem asked?_of_field? {n : Node} (h : n.field? = none) : n.asked? = none := by
  unfold asked?
  split
  · cases h
  · rfl

theorem rule?_of_field? {n : Node} (h : n.field? = none) : n.rule? = none := by
  rw [rule?, h]
  rfl

/-- Where entries that are not well formed give nothing, they can be left out. -/
theorem filterMap_filter_isField {α : Type} {f : Node → Option α}
    (hf : ∀ n : Node, n.field? = none → f n = none) (ns : List Node) :
    (ns.filter isField).filterMap f = ns.filterMap f := by
  rw [List.filterMap_filter]
  congr 1
  funext n
  cases hfield : n.field? with
  | none => rw [isField, hfield, hf n hfield]; rfl
  | some field => rw [isField, hfield]; rfl

/-- There is a note for each entry that is not well formed, and one for each unknown kind. -/
theorem length_complaints (path : String) (ns : List Node) :
    (ns.filterMap (complaint? path)).length =
      ns.countP (fun n => !n.isField) + ns.countP fun n => n.unknown?.isSome := by
  induction ns with
  | nil => rfl
  | cons n ns ih =>
    rw [List.filterMap_cons, List.countP_cons, List.countP_cons, isField]
    cases hfield : n.field? with
    | none =>
      have hunknown : n.unknown? = none := by
        rw [unknown?, asked?_of_field? hfield]
        rfl
      simp [complaint?, hfield, hunknown, ih]
      omega
    | some field =>
      cases hunknown : n.unknown? with
      | none => simp [complaint?, hfield, hunknown, ih]
      | some kind =>
        simp [complaint?, hfield, hunknown, ih]
        omega

theorem severity_complaint? {path : String} {n : Node} {note : Note}
    (h : n.complaint? path = some note) : note.severity = .error := by
  unfold complaint? at h
  split at h
  · cases h
    rfl
  · obtain ⟨kind, -, rfl⟩ := Option.map_eq_some_iff.mp h
    rfl

end Yaml.Node

/-! ### Loading -/

namespace LoadedFields

/-- What is loaded from the entries of a list: the fields of the well-formed ones, as often as they
are there; for each name the last rule of a known kind, in the order in which the names of such
rules came first; and an error for each entry that is not well formed and for each unknown kind. -/
structure ListedBy (path : String) (entries : List Node) (l : LoadedFields) : Prop where
  fields : l.fields = entries.filterMap Node.field?
  rule : ∀ name, l.rules.get? name = RuleSet.last? (entries.filterMap Node.rule?) name
  order : l.rules.keys = ((entries.filterMap Node.rule?).map FieldRule.name).eraseDups
  report : l.report = entries.filterMap (Node.complaint? path)
  errors : ∀ note ∈ l.report, note.severity = .error
  count : l.report.length =
    entries.countP (fun n => !n.isField) + entries.countP fun n => n.unknown?.isSome

variable (path : String) (line : Nat) (entries : List Node)

theorem ofNode_sequence :
    ofNode path (.sequence line entries) =
      ⟨entries.filterMap Node.field?, .ofList (entries.filterMap Node.rule?),
        entries.filterMap (Node.complaint? path)⟩ := by
  have hentries {α : Type} {f : Entry → Option α} {g : Node → Option α}
      (hfg : ∀ n, f (Entry.ofNode n) = g n) :
      (entries.map Entry.ofNode).filterMap f = entries.filterMap g := by
    rw [List.filterMap_map]
    exact congrArg (List.filterMap · entries) (funext hfg)
  show ofEntries path (entries.map Entry.ofNode) = _
  rw [ofEntries, hentries Node.field?_ofNode, hentries Node.rule?_ofNode,
    hentries (Node.note?_ofNode path)]

theorem listedBy_ofNode : (ofNode path (.sequence line entries)).ListedBy path entries := by
  rw [ofNode_sequence]
  refine ⟨rfl, RuleSet.get?_ofList _, RuleSet.keys_ofList _, rfl, fun note hnote => ?_,
    Node.length_complaints path entries⟩
  obtain ⟨n, -, hn⟩ := List.mem_filterMap.mp hnote
  exact Node.severity_complaint? hn

end LoadedFields

/-- A table gains the names that it does not have, each once. -/
theorem NameTable.names_addAll (t : NameTable) (names : List Text) :
    (t.addAll names).names = RuleSet.withNew t.names names := by
  induction names generalizing t with
  | nil => simp [RuleSet.withNew]
  | cons name names ih =>
    rw [RuleSet.withNew_cons, show t.addAll (name :: names) = (t.add name).addAll names from rfl,
      ih]
    unfold add has
    by_cases hname : name ∈ t.names <;> simp [hname]

/-- **What a field list comes to.** In a table that is not frozen, every list of fields is loaded:
its fields, rules and notes are those of its entries, and the table gains the names of the fields
and no others.  Any list with the same well-formed entries gives the same fields, rules and
names. -/
theorem loadFields_listed {names : NameTable} (h : names.frozen = false) (path : String)
    (line : Nat) (entries : List Node) :
    ∃ names' l, loadFields names path (.sequence line entries) = .ok (names', l) ∧
      l.ListedBy path entries ∧
      names'.names = RuleSet.withNew names.names (l.fields.map Prod.fst) ∧
      names'.frozen = false ∧
      ∀ path' line' entries', entries'.filter Node.isField = entries.filter Node.isField →
        ∃ report, loadFields names path' (.sequence line' entries') =
          .ok (names', { l with report }) := by
  refine ⟨_, _, loadFields_eq h path _, LoadedFields.listedBy_ofNode path line entries,
    names.names_addAll _, (names.frozen_addAll _).trans h, fun path' line' entries' hsame => ?_⟩
  have hkeep {α : Type} {f : Node → Option α} (hf : ∀ n : Node, n.field? = none → f n = none) :
      entries'.filterMap f = entries.filterMap f := by
    rw [← Node.filterMap_filter_isField hf, hsame, Node.filterMap_filter_isField hf]
  refine ⟨entries'.filterMap (Node.complaint? path'), ?_⟩
  rw [loadFields_eq h, LoadedFields.ofNode_sequence, LoadedFields.ofNode_sequence,
    hkeep fun _ hn => hn, hkeep fun _ => Node.rule?_of_field?]
  rfl

/-- Entries of all shapes: scalars of two or three, others, and a kind that is not known. -/
def mixedEntries : List Node :=
  [.sequence 2 [.scalar 2 "Via", .scalar 2 "a", .scalar 2 "Contains"],
   .sequence 3 [.scalar 3 "bare"],
   .sequence 4 [.scalar 4 "Host", .scalar 4 "x"],
   .mapping 5 [(.scalar 5 "age", .scalar 5 "0")],
   .sequence 6 [.scalar 6 "AGE", .scalar 6 "0", .scalar 6 "absent"],
   .sequence 7 [.scalar 7 "VIA", .scalar 7 "b", .scalar 7 "prefix"],
   .sequence 8 [.scalar 8 "X-Id", .scalar 8 "y", .scalar 8 "bogus"],
   .sequence 9 [.scalar 9 "via", .sequence 9 []],
   .sequence 10 [.scalar 10 "via", .scalar 10 "c"]]

/-- Three entries are not well formed and one has an unknown kind; without the three, the same is
loaded. -/
theorem loadFields_listed_mixed :
    ∃ names' l, loadFields ⟨["host"], false⟩ "a.yaml" (.sequence 2 mixedEntries) = .ok (names', l) ∧
      l.fields = ([("via", "a"), ("host", "x"), ("age", "0"), ("via", "b"), ("x-id", "y"),
        ("via", "c")] : FieldList) ∧
      l.rules.get? "via" = some ⟨"via", "b", .startsWith⟩ ∧
      l.rules.keys = (["via", "age"] : List Text) ∧
      l.report.length = 4 ∧ names'.names = (["host", "via", "age", "x-id"] : List Text) ∧
      ∃ report, loadFields ⟨["host"], false⟩ "a.yaml"
        (.sequence 2 (mixedEntries.filter Node.isField)) = .ok (names', { l with report }) := by
  have hopen : (⟨["host"], false⟩ : NameTable).frozen = false := rfl
  obtain ⟨names', l, hload, hlisted, hnames, -, hsame⟩ :=
    loadFields_listed hopen "a.yaml" 2 mixedEntries
  have hfields : l.fields = ([("via", "a"), ("host", "x"), ("age", "0"), ("via", "b"),
      ("x-id", "y"), ("via", "c")] : FieldList) := by
    rw [hlisted.fields]
    decide +kernel
  refine ⟨names', l, hload, hfields, ?_, ?_, ?_, ?_, hsame "a.yaml" 2 _ ?_⟩
  · rw [hlisted.rule]
    decide +kernel
  · rw [hlisted.order]
    decide +kernel
  · rw [hlisted.count]
    decide +kernel
  · rw [hnames, hfields]
    decide
  · rw [List.filter_filter]
    simp

end TrafficReplay
