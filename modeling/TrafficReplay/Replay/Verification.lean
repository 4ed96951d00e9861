import TrafficReplay.Report
import TrafficReplay.Text.Quoted
import TrafficReplay.Traffic.NameTable
import TrafficReplay.Traffic.Session

/-!
# Verifying responses

A received response is checked against the recorded one if the transaction is strict or the
recorded response has rules. Received fields are found by their lower-case names in the name table,
and the values of one name are joined.

* `receivedFields`: the received fields under their names;
* `verify`: an error for each expectation that is not met.
-/

namespace TrafficReplay
open TrafficReplay.Text

/-- A value put behind another one of the same field. -/
def joinValue (value : Text) : Option Text → Text
  | none => value
  | some before => before ++ ", " ++ value

/-- The received fields whose names are in the table, the values of each joined. -/
def receivedFields (names : NameTable) (headers : FieldList) : Keyed Text :=
  headers.foldl
    (fun m f =>
      match names.lookup? (lowerText f.1) with
      | none => m
      | some name => m.alter name (joinValue f.2))
    .empty

/-- A received value as it is told in a message. -/
def receivedText : Option Text → String
  | none => "None"
  | some v => quoted v

/-- Method and target of a request as they are told in a message. -/
def Request.target (r : Request) : Text := "\"" ++ r.method ++ " " ++ r.url ++ "\""

/-- The error of a status that is not the expected one. -/
def statusNotes (t : Transaction) (status : Int) : Report :=
  match t.response.status with
  | none => []
  | some expected =>
    if status = expected then []
    else
      [⟨.error, "Status mismatch for " ++ t.request.target ++ ": expected " ++ toString expected ++
        ", received " ++ toString status ++ "."⟩]

/-- The error of a rule that a received value does not satisfy. -/
def ruleNote? (t : Transaction) (received : Keyed Text) (r : FieldRule) : Option Note :=
  let actual := received.get? r.name
  if r.check actual then none
  else
    some ⟨.error, "Field rule " ++ r.describe ++ " failed for " ++ t.request.target ++
      " (received " ++ receivedText actual ++ ")."⟩

/-- Check a received response against what a transaction expects. -/
def verify (t : Transaction) (status : Int) (headers : FieldList) (names : NameTable) : Report :=
  if t.strict || t.response.hasRules then
    statusNotes t status ++
      t.response.rules.values.filterMap (ruleNote? t (receivedFields names headers))
  else []

end TrafficReplay
