import Mathlib.Data.List.Basic
import TrafficReplay.Proofs.Loading.Interning
import TrafficReplay.Replay.Verification

/-!
# Verifying a response without the name table

A received field is looked up in the name table before it is joined to others of its name, and is
dropped if its name is not there.  The name table has the names of all rules of loaded responses, so
a rule is checked on all received fields with its name in whatever case.

* `foldedValue`: the value of a field in a header list, by its lower-case name alone;
* `get?_receivedFields`: what is found under the names in the table;
* `verify_eq_folded`: what is reported of a response to a loaded transaction.
-/

namespace TrafficReplay
open TrafficReplay.Text

/-! ### Folded values -/

/-- The values of the received fields with a name, in whatever case, in the order in which they
came. -/
def valuesOf (headers : FieldList) (name : Text) : List Text :=
  (headers.filter fun f => lowerText f.1 = name).map Prod.snd

/-- The values of the received fields with a name in a row, `none` if there are no such fields. -/
def foldedValue (headers : FieldList) (name : Text) : Option Text :=
  match valuesOf headers name with
  | [] => none
  | values => some (join ", " values)

/-- Values joined one after another behind what is there. -/
def joinAll (before : Option Text) (values : List Text) : Option Text :=
  values.foldl (fun before value => some (joinValue value before)) before

theorem joinAll_some (value : Text) (values : List Text) :
    joinAll (some value) values = some (join (", " : Text) (value :: values)) := by
  induction values generalizing value with
  | nil => rfl
  | cons next values ih =>
    have hstep : joinAll (some value) (next :: values) =
        joinAll (some (value ++ ", " ++ next)) values := rfl
    rw [hstep, ih, join_append_cons]
    rfl

theorem joinAll_none (values : List Text) :
    joinAll none values =
      match values with
      | [] => none
      | values => some (join ", " values) := by
  cases values with
  | nil => rfl
  | cons value values => exact joinAll_some value values

/-- If each field is joined to what is under a name, or leaves it, then all those that are joined are
there in a row. -/
theorem get?_foldl_joined {step : Keyed Text → Text × Text → Keyed Text}
    {joins : Text × Text → Bool} {name : Text}
    (hstep : ∀ m f, (step m f).get? name =
      if joins f then some (joinValue f.2 (m.get? name)) else m.get? name)
    (fields : FieldList) (m : Keyed Text) :
    (fields.foldl step m).get? name =
      joinAll (m.get? name) ((fields.filter joins).map Prod.snd) := by
  induction fields generalizing m with
  | nil => rfl
  | cons f fields ih =>
    rw [List.foldl_cons, ih, hstep]
    by_cases hf : joins f = true
    · simp [joinAll, hf]
    · simp [hf]

/-! ### Values found through the name table -/

variable {names : NameTable} {name : Text}

/-- One received field more. -/
def receiveField (names : NameTable) (m : Keyed Text) (f : Text × Text) : Keyed Text :=
  match names.lookup? (lowerText f.1) with
  | none => m
  | some name => m.alter name (joinValue f.2)

theorem get?_receiveField (h : names.has name = true) (m : Keyed Text) (f : Text × Text) :
    (receiveField names m f).get? name =
      if lowerText f.1 = name then some (joinValue f.2 (m.get? name)) else m.get? name := by
  unfold receiveField NameTable.lookup?
  by_cases hname : lowerText f.1 = name
  · simp only [hname, h, if_true]
    rw [Keyed.alter, Keyed.get?_put, if_pos rfl]
  · rw [if_neg hname]
    split
    · rfl
    · rename_i hlookup
      obtain ⟨-, rfl⟩ := Option.ite_some_none_eq_some.mp hlookup
      rw [Keyed.alter, Keyed.get?_put, if_neg hname]

/-- Under a name in the table, there are the values of all received fields with this name. -/
theorem get?_receivedFields (h : names.has name = true) (headers : FieldList) :
    (receivedFields names headers).get? name = foldedValue headers name := by
  have hfold : (headers.foldl (receiveField names) .empty).get? name =
      joinAll none (valuesOf headers name) :=
    get?_foldl_joined (by simpa using get?_receiveField h) headers .empty
  rw [joinAll_none] at hfold
  exact hfold

/-! ### Reports -/

/-- What is reported of a status that is not the expected one. -/
def statusNote (t : Transaction) (expected status : Int) : Note :=
  ⟨.error, "Status mismatch for " ++ t.request.target ++ ": expected " ++ toString expected ++
    ", received " ++ toString status ++ "."⟩

/-- What is reported of a rule that a value does not satisfy. -/
def ruleNote (t : Transaction) (r : FieldRule) (actual : Option Text) : Note :=
  ⟨.error, "Field rule " ++ r.describe ++ " failed for " ++ t.request.target ++ " (received " ++
    receivedText actual ++ ")."⟩

theorem ruleNote?_receivedFields (h : names.has name = true) (t : Transaction) {r : FieldRule}
    (hr : r.name = name) (headers : FieldList) :
    ruleNote? t (receivedFields names headers) r =
      if r.check (foldedValue headers r.name) then none
      else some (ruleNote t r (foldedValue headers r.name)) := by
  unfold ruleNote?
  rw [hr, get?_receivedFields h]
  rfl

/-- The rules that the received fields do not satisfy, in their order. -/
def brokenRules (t : Transaction) (headers : FieldList) : List FieldRule :=
  t.response.rules.values.filter fun r => !r.check (foldedValue headers r.name)

theorem filterMap_ruleNote? {t : Transaction} (h : t.Known (· ∈ names.names))
    (headers : FieldList) :
    t.response.rules.values.filterMap (ruleNote? t (receivedFields names headers)) =
      (brokenRules t headers).map fun r => ruleNote t r (foldedValue headers r.name) := by
  unfold brokenRules
  rw [← List.filterMap_eq_map, List.filterMap_filter]
  refine List.filterMap_congr fun r hr => ?_
  have hhas : names.has r.name = true := List.contains_iff_mem.mpr (h r hr)
  rw [ruleNote?_receivedFields hhas t rfl]
  cases r.check (foldedValue headers r.name) <;> rfl

theorem verify_of_known {t : Transaction} (h : t.Known (· ∈ names.names)) (status : Int)
    (headers : FieldList) :
    verify t status headers names =
      if t.strict || t.response.hasRules then
        statusNotes t status ++
          (brokenRules t headers).map fun r => ruleNote t r (foldedValue headers r.name)
      else [] := by
  unfold verify
  rw [filterMap_ruleNote? h]

/-- **Responses are verified by names in lower case.** Take any transaction that any files have put
into a run, any name table that has at least the names that the run has, frozen or not, and any
status and fields received.  Nothing is reported if the transaction is not strict and its response
has no rules.  Otherwise there is an error for a status other than the recorded one, and then one
for each rule, in their order, that is not satisfied by the values of all received fields whose
names are its name in lower case.  All these fields are found in the table. -/
theorem verify_eq_folded (files : FileTree) (loads : List RunState.FileLoad) {ssn : Session}
    (hssn : ssn ∈ (RunState.empty.loadInTurn files loads).sessions) {t : Transaction}
    (ht : t ∈ ssn.transactions) {later : NameTable}
    (hlater : ∀ name ∈ (RunState.empty.loadInTurn files loads).names.names, name ∈ later.names)
    (status : Int) (headers : FieldList) :
    (t.strict = false → t.response.rules.values = [] → verify t status headers later = []) ∧
    (t.strict = true ∨ t.response.rules.values ≠ [] →
      verify t status headers later =
        (match t.response.status with
          | some expected => if status = expected then [] else [statusNote t expected status]
          | none => []) ++
        (brokenRules t headers).map fun r => ruleNote t r (foldedValue headers r.name)) ∧
    ∀ r ∈ t.response.rules.values, ∀ f ∈ headers, lowerText f.1 = r.name →
      later.lookup? (lowerText f.1) = some r.name := by
  have hrun :=
    RunState.interned_loadInTurn files RunState.loading_empty RunState.interned_empty loads
  have hknown : t.Known (· ∈ later.names) := (hrun.sessions ssn hssn t ht).mono hlater
  have hrules : t.response.hasRules = true ↔ t.response.rules.values ≠ [] := by
    simp [Response.hasRules, Keyed.values]
  rw [verify_of_known hknown]
  refine ⟨fun hstrict hnone => ?_, fun hchecked => ?_, fun r hr f _ hf => ?_⟩
  · rw [if_neg]
    simp [hstrict, Response.hasRules, List.map_eq_nil_iff.mp hnone]
  · rw [if_pos]
    · congr 1
      unfold statusNotes statusNote
      cases t.response.status <;> rfl
    · rw [Bool.or_eq_true, hrules]
      exact hchecked
  · rw [hf, NameTable.lookup?, if_pos]
    exact List.contains_iff_mem.mpr (hknown r hr)

/-- A run with a file that has a rule for every response, and then one with a transaction. -/
def ruledRun : RunState :=
  RunState.empty.loadInTurn RunState.twoFiles (RunState.plainLoads ["rules.yaml", "plain.yaml"])

/-- A field that comes twice, in two cases, is joined before the global rule is checked on it. -/
theorem verify_eq_folded_twice :
    ∃ ssn ∈ ruledRun.sessions, ∃ t ∈ ssn.transactions,
      verify t 200 [("Server", "a"), ("Via", "p"), ("SERVER", "b")]
          { ruledRun.names with frozen := true } =
        [⟨.error,
          "Field rule \"server\" equal \"ats\" failed for \"GET /a\" (received 'a, b')."⟩] := by
  let headers : FieldList := [("Server", "a"), ("Via", "p"), ("SERVER", "b")]
  have hbroken : ∃ ssn ∈ ruledRun.sessions, ∃ t ∈ ssn.transactions,
      t.response.status = some 200 ∧ t.response.rules.values ≠ [] ∧
        (brokenRules t headers).map (fun r => ruleNote t r (foldedValue headers r.name)) =
          [⟨.error,
            "Field rule \"server\" equal \"ats\" failed for \"GET /a\" (received 'a, b')."⟩] := by
    decide +kernel
  obtain ⟨ssn, hssn, t, ht, hstatus, hrules, hnotes⟩ := hbroken
  have hverify : verify t 200 headers { ruledRun.names with frozen := true } = _ :=
    (verify_eq_folded RunState.twoFiles _ hssn ht (fun _ hname => hname) 200 headers).2.1
      (.inr hrules)
  refine ⟨ssn, hssn, t, ht, hverify.trans ?_⟩
  rw [hstatus, hnotes]
  rfl

end TrafficReplay
