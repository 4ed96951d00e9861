import TrafficReplay.Text.Quoted
import TrafficReplay.Yaml.Fault

/-!
# Faults

What stops an operation on the run state or the loading of a file. A fault is no note: an operation
that stops at one has no report.

* `FileFault`, `PathFault`: why the system does not give what is asked for at a path;
* `Fault`: what stops an operation.
-/

namespace TrafficReplay

/-! ### Faults of the system -/

/-- Why the system does not give what is asked for. -/
inductive FileFault
  | missing
  | isDirectory
  | notDirectory
  | denied
  | nameTooLong
  /-- Another error with its number and what it says. -/
  | other (number : Nat) (text : String)
  deriving DecidableEq, Repr

namespace FileFault

/-- The number of an error. -/
def number : FileFault → Nat
  | .missing => 2
  | .isDirectory => 21
  | .notDirectory => 20
  | .denied => 13
  | .nameTooLong => 36
  | .other number _ => number

/-- What an error says. -/
def text : FileFault → String
  | .missing => "No such file or directory"
  | .isDirectory => "Is a directory"
  | .notDirectory => "Not a directory"
  | .denied => "Permission denied"
  | .nameTooLong => "File name too long"
  | .other _ text => text

/-- The wording of an error about a path. -/
def message (f : FileFault) (path : String) : String :=
  "[Errno " ++ toString f.number ++ "] " ++ f.text ++ ": " ++ Text.quoted path

/-- The numbers of the errors that say that there is nothing at a path: no entry, no directory on
the way, no descriptor, and links in a circle. -/
def absences : List Nat := [2, 20, 9, 40]

/-- Whether an error says that there is nothing at a path. -/
def isAbsence (f : FileFault) : Bool := f.number ∈ absences

end FileFault

/-- A fault of the system at a path. -/
structure PathFault where
  fault : FileFault
  path : String
  deriving DecidableEq, Repr

/-- The wording of a fault at a path. -/
def PathFault.message (f : PathFault) : String := f.fault.message f.path

/-! ### Faults of operations -/

/-- A part of the run state that is written while loading only. -/
inductive Part
  | sessions
  | rules
  | body
  deriving DecidableEq, Repr

/-- What a part is called in a message. -/
def Part.name : Part → String
  | .sessions => "the session registry"
  | .rules => "the global field rules"
  | .body => "the body buffer"

/-- What stops an operation. -/
inductive Fault
  /-- A new name after the name table was frozen. -/
  | newName (name : Text)
  | namesFrozen
  | rulesFrozen
  /-- A write to a part of the frozen run state. -/
  | partFrozen (part : Part)
  | runFrozen
  /-- A body whose size is beyond every memory. -/
  | bodyTooLarge
  | numberTooLong (digits : Nat)
  /-- A transaction is opened inside another one. -/
  | transactionOpen
  /-- A transaction is closed that was not opened. -/
  | noTransaction
  /-- A message comes outside a transaction, or a transaction outside a session. -/
  | detached
  /-- The load lock is taken while it is held. -/
  | lockHeld
  /-- The file is no text, or a number in it is too large. -/
  | unreadable (fault : Yaml.Fault)
  /-- The content of a request has a surrogate. -/
  | unencodable (fault : Text.Utf8.EncodeFault)
  /-- A path with a null character. -/
  | nullInPath
  /-- The system does not tell what there is at a path. -/
  | unknowable (fault : PathFault)
  | other (message : String)
  deriving DecidableEq, Repr

/-- The wording of a fault. -/
def Fault.message : Fault → Text
  | .newName name => "Attempt to localize \"" ++ name ++ "\" after the name table was frozen"
  | .namesFrozen => "Name table is already frozen"
  | .rulesFrozen => "Attempt to modify frozen field rules"
  | .partFrozen part => "Attempt to modify " ++ part.name ++ " after the run state was frozen"
  | .runFrozen => "Run state is already frozen"
  | .bodyTooLarge => "cannot fit 'int' into an index-sized integer"
  | .numberTooLong digits => Text.numberTooLongMessage digits
  | .transactionOpen => "txn_open called while a transaction is still open"
  | .noTransaction => "Transaction closed without a matching successful open"
  | .detached => "no transaction or no session is open"
  | .lockHeld => "the load lock is held"
  | .unreadable f => f.message
  | .unencodable f => f.message
  | .nullInPath => "embedded null byte"
  | .unknowable f => f.message
  | .other message => message

end TrafficReplay
