import TrafficReplay.Report
import TrafficReplay.Traffic.NameTable
import TrafficReplay.Traffic.Rule
import TrafficReplay.Yaml.Node

/-!
# Field lists

A field list is a sequence whose entries are `[name, value]` or `[name, value, kind of rule]`. An
entry of another form is reported and skipped; an entry with an unknown kind counts as a field
without a rule and is reported too.

* `Entry.ofNode`: the reading of one entry;
* `loadFields`: fields, rules and notes of a list, its names put into the name table;
* `loadRules`: the rules of a block, where an entry without a kind asks for an equal value.
-/

namespace TrafficReplay
open TrafficReplay.Yaml TrafficReplay.Text

/-- A line of a file, as it is told in a message. -/
def place (path : String) (line : Int) : String := "\"" ++ path ++ "\":" ++ toString line

/-- Fields in order. -/
abbrev FieldList := List (Text × Text)

/-- An entry of a field list. -/
inductive Entry
  | malformed (line : Nat)
  | plain (name value : Text)
  | ruled (rule : FieldRule)
  | unknownRule (name value : Text) (line : Nat) (kind : Text)
  deriving DecidableEq, Repr

namespace Entry

/-- Read an entry. Names are taken in lower case, kinds in any case. -/
def ofNode (n : Node) : Entry :=
  match n.items.mapM Node.scalar? with
  | some [name, value] => .plain (lowerText name) value
  | some [name, value, kind] =>
    match RuleKind.ofName? (lowerText kind) with
    | some k => .ruled ⟨lowerText name, value, k⟩
    | none => .unknownRule (lowerText name) value n.line kind
  | _ => .malformed n.line

/-- The field of an entry. -/
def field? : Entry → Option (Text × Text)
  | .malformed _ => none
  | .plain name value => some (name, value)
  | .ruled r => some (r.name, r.value)
  | .unknownRule name value _ _ => some (name, value)

/-- The rule of an entry. -/
def rule? : Entry → Option FieldRule
  | .ruled r => some r
  | _ => none

/-- What is reported of an entry. -/
def note? (path : String) : Entry → Option Note
  | .malformed line =>
    some ⟨.error, "Field at " ++ place path line ++ " is not a sequence of 2 or 3 scalars."⟩
  | .unknownRule name _ line kind =>
    some ⟨.error, "Field \"" ++ name ++ "\" at " ++ place path line ++ " has an unknown rule \"" ++
      kind ++ "\"."⟩
  | _ => none

end Entry

/-- What is loaded from a field list. -/
structure LoadedFields where
  fields : FieldList
  rules : RuleSet
  report : Report
  deriving Repr

/-- What some entries hold. -/
def LoadedFields.ofEntries (path : String) (es : List Entry) : LoadedFields where
  fields := es.filterMap Entry.field?
  rules := .ofList (es.filterMap Entry.rule?)
  report := es.filterMap (Entry.note? path)

/-- Load a field list. -/
def loadFields (names : NameTable) (path : String) (n : Node) :
    Except Fault (NameTable × LoadedFields) :=
  if n.isSequence then do
    let loaded := LoadedFields.ofEntries path (n.items.map Entry.ofNode)
    return (← names.localizeAll (loaded.fields.map Prod.fst), loaded)
  else
    .ok (names, ⟨[], .empty,
      [⟨.error, "Field list at " ++ place path n.line ++ " is not a sequence."⟩]⟩)

/-- Ask for an equal value of every field that has no rule. -/
def addEqualRules (rules : RuleSet) (fields : FieldList) : RuleSet :=
  fields.foldl (fun rs f => if rs.has f.1 then rs else rs.add ⟨f.1, f.2, .equal⟩) rules

/-- Load the rules of a block with a field list. -/
def loadRules (names : NameTable) (path : String) (n : Option Node) :
    Except Fault (NameTable × RuleSet × Report) :=
  match n.bind (·.get? "fields") with
  | none =>
    let line := (n.map Node.line).getD 0
    .ok (names, .empty,
      [⟨.warn, "Rule block at " ++ place path line ++ " has no \"fields\" key."⟩])
  | some list => do
    let (names, loaded) ← loadFields names path list
    return (names, addEqualRules loaded.rules loaded.fields, loaded.report)

end TrafficReplay
