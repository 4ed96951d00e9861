import TrafficReplay.Traffic.Session

/-!
# The state of a run

Names, global rules and sessions are collected while files are loaded; then the state is frozen and
sessions are replayed. A write to a frozen state is a fault. The load lock is held while a
transaction is loaded.

* `RunState`, `RunState.freeze`;
* `RunState.addSession`, `RunState.mergeRules`, `RunState.setMaxContentLength`: writes;
* `RunState.Operation`, `RunState.perform`: the operations as data, and their effect.
-/

namespace TrafficReplay

/-- What all parts of a run share. -/
structure RunState where
  names : NameTable
  sessions : List Session
  /-- The rules that every response starts with. -/
  rules : FieldRules
  /-- The size of the largest request body. -/
  maxContentLength : Int
  /-- The buffer that request bodies are cut from. -/
  buffer : Body
  frozen : Bool
  /-- Whether the load lock is held. -/
  locked : Bool
  deriving Repr

/-- Steps on the state of a run. -/
abbrev OnRun := Step RunState Fault

namespace RunState

/-- The state before anything is loaded. -/
def empty : RunState where
  names := .empty
  sessions := []
  rules := .empty
  maxContentLength := 0
  buffer := []
  frozen := false
  locked := false

/-- Stop at a fault if the state is frozen. -/
def checkWritable (part : Part) : OnRun Unit := do
  if (← get).frozen then throw (.partFrozen part)

/-- Have a name in the name table. -/
def localize (name : Text) : OnRun Text := do
  let s ← get
  let names ← s.names.localize name
  set { s with names }
  return name

/-- Add a session if it has transactions; the answer is whether it was added. -/
def addSession (ssn : Session) : OnRun Bool := do
  checkWritable .sessions
  if ssn.transactions.isEmpty then return false
  modify fun s => { s with sessions := s.sessions ++ [ssn] }
  return true

/-- Add a global rule. -/
def addRule (r : FieldRule) : OnRun Unit := do
  let s ← get
  let rules ← s.rules.add r
  set { s with rules }

/-- Merge rules into the global ones. -/
def mergeRules (rules : RuleSet) : OnRun Unit := do
  checkWritable .rules
  let s ← get
  let rules ← s.rules.merge rules
  set { s with rules }

/-- Set the size of the largest body and make the buffer. The size stays set if no buffer of that
size can be made. -/
def setMaxContentLength (length : Int) : OnRun Unit := do
  checkWritable .body
  modify fun s => { s with maxContentLength := length }
  let buffer ← Body.filled length
  modify fun s => { s with buffer }

/-- A request body of a size. -/
def body (size : Int) : OnRun Body := do Body.cutFrom (← get).buffer size

/-- Let no more names be added. -/
def freezeNames : OnRun Unit := do
  let s ← get
  let names ← s.names.freeze
  set { s with names }

/-- Go over from loading to replaying. -/
def freeze : OnRun Unit := do
  if (← get).frozen then throw .runFrozen
  freezeNames
  modify fun s => { s with rules := s.rules.freeze, frozen := true }

/-- Run a step while the load lock is held. -/
def withLock {α : Type} (x : OnRun α) : OnRun α :=
  Step.ofRun fun s =>
    if s.locked then (.error .lockHeld, s)
    else
      let (r, s) := x.runOn { s with locked := true }
      (r, { s with locked := false })

end RunState

/-! ### Preparing a batch -/

/-- The totals of the sessions of a run. Times are in microseconds. -/
structure BatchInfo where
  sessionCount : Nat
  transactionCount : Nat
  /-- The time from the first start to the last one. -/
  span : Int
  /-- The recorded start of the first session. -/
  offset : Int
  maxContentLength : Int
  deriving DecidableEq, Repr

namespace RunState

/-- Sessions in the order of their starts; those with one start stay in their order. -/
def byStart (ss : List Session) : List Session := ss.mergeSort fun a b => a.start ≤ b.start

/-- Sessions that start earlier by an offset. -/
def shifted (offset : Int) (ss : List Session) : List Session :=
  ss.map fun s => { s with start := s.start - offset }

/-- The number of transactions of some sessions. -/
def transactionCount (ss : List Session) : Nat :=
  ss.foldr (fun s n => s.transactions.length + n) 0

/-- The size of the largest request body of some sessions, zero at least. -/
def largestBody (ss : List Session) : Int :=
  ss.foldl (fun m s => s.transactions.foldl (fun m t => max m t.request.contentSize) m) 0

/-- Sort the sessions by their starts, let the first one start at zero, and set the size of the
largest body. -/
def prepare : OnRun BatchInfo := do
  let sorted := byStart (← get).sessions
  let offset := (sorted.head?.map Session.start).getD 0
  let sessions := shifted offset sorted
  modify fun s => { s with sessions }
  let info : BatchInfo :=
    { sessionCount := sessions.length
      transactionCount := transactionCount sessions
      span := (sessions.getLast?.map Session.start).getD 0
      offset
      maxContentLength := largestBody sessions }
  setMaxContentLength info.maxContentLength
  return info

/-! ### Operations as data -/

/-- An operation on the state of a run. -/
inductive Operation
  | localize (name : Text)
  | localizeLower (name : Text)
  | lookup (name : Text)
  | contains (name : Text)
  | freezeNames
  | addSession (ssn : Session)
  | mergeRules (rules : RuleSet)
  | addRule (rule : FieldRule)
  | setMaxContentLength (length : Int)
  | body (size : Int)
  | freeze
  | prepare

/-- What an operation answers. -/
inductive Answer
  | done
  | name (name : Option Text)
  | truth (b : Bool)
  | bytes (b : Body)
  | batch (info : BatchInfo)

/-- The effect of an operation. -/
def perform : Operation → OnRun Answer
  | .localize name => return .name (some (← localize name))
  | .localizeLower name => return .name (some (← localize (Text.lowerText name)))
  | .lookup name => return .name ((← get).names.lookup? name)
  | .contains name => return .truth ((← get).names.has name)
  | .freezeNames => do
    freezeNames
    return .done
  | .addSession ssn => return .truth (← addSession ssn)
  | .mergeRules rules => do
    mergeRules rules
    return .done
  | .addRule rule => do
    addRule rule
    return .done
  | .setMaxContentLength length => do
    setMaxContentLength length
    return .done
  | .body size => return .bytes (← body size)
  | .freeze => do
    freeze
    return .done
  | .prepare => return .batch (← prepare)

end RunState

end TrafficReplay
