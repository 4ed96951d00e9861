import TrafficReplay.Fault
import TrafficReplay.Keyed
import TrafficReplay.Text.Search

/-!
# Field rules

A field rule says what a received header field has to be like. Rules come in sets, one for each
name at most; a later rule replaces an earlier one for its name and takes its place.

* `FieldRule`, `FieldRule.check`: a rule and when a received value satisfies it;
* `RuleSet`: rules in the order in which their names came, with `add` and `Keyed.merge`;
* `FieldRules`: a rule set that can be frozen.
-/

namespace TrafficReplay
open TrafficReplay.Text

/-- What a rule asks of a field. -/
inductive RuleKind
  | equal
  | present
  | absent
  | contains
  | startsWith
  | endsWith
  /-- A kind that is not known; no value satisfies it. -/
  | unknown (name : Text)
  deriving DecidableEq, Repr

namespace RuleKind

/-- What a kind is called in a file. -/
def name : RuleKind → Text
  | .equal => "equal"
  | .present => "present"
  | .absent => "absent"
  | .contains => "contains"
  | .startsWith => "prefix"
  | .endsWith => "suffix"
  | .unknown name => name

/-- The kinds that a file may use. -/
def known : List RuleKind := [equal, present, absent, contains, startsWith, endsWith]

/-- The known kind of a name. -/
def ofName? (s : Text) : Option RuleKind := known.find? fun k => k.name = s

/-- The kind of a name. -/
def ofName (s : Text) : RuleKind := (ofName? s).getD (.unknown s)

end RuleKind

/-- A rule for the field of a name. -/
structure FieldRule where
  name : Text
  value : Text
  kind : RuleKind
  deriving DecidableEq, Repr

namespace FieldRule

/-- Whether a received value, `none` for a missing field, satisfies a rule. -/
def check (r : FieldRule) : Option Text → Bool
  | none => r.kind = .absent
  | some actual =>
    match r.kind with
    | .equal => actual = r.value
    | .present => true
    | .absent => false
    | .contains => occursIn r.value.toList actual.toList
    | .startsWith => r.value.toList.isPrefixOf actual.toList
    | .endsWith => endsIn r.value.toList actual.toList
    | .unknown _ => false

/-- A rule as it is told in a message. -/
def describe (r : FieldRule) : Text :=
  let head := "\"" ++ r.name ++ "\" " ++ r.kind.name
  match r.kind with
  | .present | .absent => head
  | _ => head ++ " \"" ++ r.value ++ "\""

end FieldRule

/-- Rules under their names. -/
abbrev RuleSet := Keyed FieldRule

/-- Add a rule; it replaces the one for its name. -/
def RuleSet.add (s : RuleSet) (r : FieldRule) : RuleSet := s.put r.name r

/-- The set that holds some rules, added one after another. -/
def RuleSet.ofList (rs : List FieldRule) : RuleSet := rs.foldl RuleSet.add .empty

/-- A rule set and whether it may still be changed. -/
structure FieldRules where
  rules : RuleSet
  frozen : Bool
  deriving Repr

namespace FieldRules

/-- No rules. -/
def empty : FieldRules := ⟨.empty, false⟩

/-- Change the rules unless they are frozen. -/
def change (s : FieldRules) (f : RuleSet → RuleSet) : Except Fault FieldRules :=
  if s.frozen then .error .rulesFrozen else .ok { s with rules := f s.rules }

/-- Add a rule. -/
def add (s : FieldRules) (r : FieldRule) : Except Fault FieldRules := s.change (·.add r)

/-- Merge the rules of another set, which may be frozen. -/
def merge (s : FieldRules) (rules : RuleSet) : Except Fault FieldRules := s.change (·.merge rules)

/-- A set with the same rules that may be changed. -/
def copy (s : FieldRules) : FieldRules := { s with frozen := false }

/-- Let the rules not be changed. -/
def freeze (s : FieldRules) : FieldRules := { s with frozen := true }

end FieldRules

end TrafficReplay
