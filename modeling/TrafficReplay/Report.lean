import TrafficReplay.Text.Basic
import TrafficReplay.Text.Template

/-!
# Reports

Operations report what they find as notes, from details of interest for diagnosis to errors. A
report is the list of an operation's notes; reports of steps are put in a row.

* `Severity`, `Note`, `Report`;
* `Report.ok`: whether there is no error;
* `LogRecord`: a note as it is logged under a channel.
-/

namespace TrafficReplay

/-- How serious a note is. -/
inductive Severity
  | diag
  | info
  | warn
  | error
  deriving DecidableEq, Repr

namespace Severity

/-- The place of a severity in their order, the mildest first. -/
def rank : Severity → Nat
  | .diag => 1
  | .info => 2
  | .warn => 3
  | .error => 4

/-- The name of a severity in a note. -/
def name : Severity → String
  | .diag => "DIAG"
  | .info => "INFO"
  | .warn => "WARN"
  | .error => "ERROR"

/-- The name of a severity in a log. -/
def logName : Severity → String
  | .diag => "DEBUG"
  | .info => "INFO"
  | .warn => "WARNING"
  | .error => "ERROR"

/-- The severity with a name. -/
def ofName? (s : String) : Option Severity :=
  [diag, info, warn, error].find? fun v => v.name = s

/-- The more serious of two. -/
def max (a b : Severity) : Severity := if a.rank < b.rank then b else a

end Severity

/-- One finding of an operation. -/
structure Note where
  severity : Severity
  text : Text
  deriving DecidableEq, Repr

/-- A note with its severity in front. -/
def Note.line (n : Note) : Text := "[" ++ n.severity.name ++ "] " ++ n.text

/-- The notes of an operation, in order. -/
abbrev Report := List Note

namespace Report

/-- Whether a report has no error. -/
def ok (r : Report) : Bool := r.all fun n => n.severity != .error

/-- The greatest severity of a report; an empty one has the least. -/
def severity (r : Report) : Severity := r.foldl (fun s n => s.max n.severity) .diag

/-- The number of notes of a severity. -/
def count (s : Severity) (r : Report) : Nat := r.countP fun n => n.severity = s

/-- Add a note. A template without arguments is taken as it stands. -/
def add (r : Report) (s : Severity) (template : String) (args : List Text.Template.Argument) :
    Except Text.Template.Fault Report := do
  let text ← if args.isEmpty then pure template else Text.Template.fill template args
  return r ++ [⟨s, text⟩]

@[simp] theorem ok_nil : ok [] = true := rfl

@[simp] theorem ok_append (r s : Report) : ok (r ++ s) = (ok r && ok s) := by
  simp [ok]

end Report

/-! ### Logs -/

/-- A line of a log: the channel it is logged under, its severity, and its text. -/
structure LogRecord where
  channel : String
  severity : Severity
  text : Text
  deriving DecidableEq, Repr

/-- A line of a log as it is printed. -/
def LogRecord.line (r : LogRecord) : Text :=
  "[" ++ r.severity.logName ++ "] " ++ r.channel ++ ": " ++ r.text

/-- The notes of a report as lines of a log. -/
def Report.logged (channel : String) (r : Report) : List LogRecord :=
  r.map fun n => ⟨channel, n.severity, n.text⟩

/-! ### Named reports -/

/-- Reports under names. -/
abbrev Reports := List (String × Report)

namespace Reports

/-- The report under a name; empty if there is none. -/
def get (rs : Reports) (name : String) : Report := (rs.lookup name).getD []

/-- Put a report under a name. -/
def set (rs : Reports) (name : String) (r : Report) : Reports :=
  (name, r) :: rs.filter fun p => p.1 != name

/-- Add the notes of one report to another one. Adding a report to itself does nothing. -/
def note (rs : Reports) (target : String) (source : Option String) : Reports :=
  match source with
  | none => rs
  | some source =>
    if source = target then rs else rs.set target (rs.get target ++ rs.get source)

end Reports

end TrafficReplay
