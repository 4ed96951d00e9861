import TrafficReplay.CommandLine.Fault
import TrafficReplay.Text.Digit

/-!
# Grammars of command lines

A command line is a list of arguments, of which some are options. An option is written with one of
its names; a long name may be cut short as long as it stays unique, an argument may follow after an
equals sign, and a short name may have its argument or further short names joined to it. After
`--` nothing is an option. The other arguments are operands, which are taken all together: the
first row of them that is met.

* `Switch`, `Grammar`: options and operands with what they do to a value of type `σ`;
* `Grammar.markAll`: which arguments are options;
* `Grammar.read`: the value that a command line makes, and the arguments left over.
-/

namespace TrafficReplay.CommandLine
open TrafficReplay.Text

/-- How many arguments an option takes. -/
inductive Arity
  | flag
  | single
  /-- One and all that follow it up to the next option. -/
  | several
  deriving DecidableEq, Repr

/-- An option. -/
structure Switch (σ : Type) where
  names : List String
  arity : Arity
  /-- What the option does with its arguments. -/
  act : List String → σ → Except Stop σ

/-- An option as it is told in a message. -/
def Switch.title {σ : Type} (w : Switch σ) : String := join "/" w.names

/-- Which arguments the operands are. -/
inductive OperandForm
  /-- A command and everything behind it, options included. -/
  | command
  /-- All arguments up to the next option. -/
  | row
  deriving DecidableEq, Repr

/-- The options and operands of a program. -/
structure Grammar (σ : Type) where
  program : String
  switches : List (Switch σ)
  form : OperandForm
  /-- What the operands do. -/
  act : List String → σ → Except Stop σ

/-- What is written together with the name of an option. -/
inductive Joined
  | nothing
  /-- A text behind an equals sign. -/
  | equals (text : List Char)
  /-- A text behind a short name. -/
  | direct (text : List Char)
  deriving DecidableEq, Repr

/-- What an argument is. -/
inductive Mark (σ : Type)
  | operand
  /-- The mark behind which nothing is an option. -/
  | dashes
  /-- An option, and what is written together with its name. -/
  | option (switch : Switch σ) (joined : Joined)
  /-- An option that the grammar does not have. -/
  | unknown

namespace Mark

variable {σ : Type}

/-- Whether an argument is an option. -/
def isOption : Mark σ → Bool
  | .option _ _ | .unknown => true
  | .operand | .dashes => false

/-- Whether an argument is an operand. -/
def isOperand : Mark σ → Bool
  | .operand => true
  | _ => false

end Mark

/-- An argument with its mark. -/
abbrev Marked (σ : Type) := String × Mark σ

namespace Grammar

variable {σ : Type} (g : Grammar σ)

/-! ### Marking -/

/-- The options under each of their names. -/
def named : List (String × Switch σ) :=
  g.switches.flatMap fun w => w.names.map fun n => (n, w)

/-- Cut an argument at its first equals sign. -/
def cutName (s : List Char) : List Char × Joined :=
  match cutAt? ['='] s with
  | some (name, text) => (name, .equals text)
  | none => (s, .nothing)

/-- The options that a text with two dashes in front abbreviates. -/
def longMatches (s : List Char) : List (String × Mark σ) :=
  let (front, joined) := cutName s
  g.named.filterMap fun (n, w) =>
    if front.isPrefixOf n.toList then some (n, .option w joined) else none

/-- The options whose short name stands in front of a text. -/
def shortMatches (s : List Char) : List (String × Mark σ) :=
  g.named.filterMap fun (n, w) =>
    if n.toList = s.take 2 then some (n, .option w (.direct (s.drop 2))) else none

/-- The options that a text may stand for. -/
def candidates (s : List Char) : List (String × Mark σ) :=
  match s with
  | '-' :: '-' :: _ => g.longMatches s
  | _ => g.shortMatches s

/-- Whether a text is digits with at most one point, which does not end them. -/
def isPlainNumber (s : List Char) : Bool :=
  match cutAt? ['.'] s with
  | none => isDecimal digitValue? s
  | some (whole, places) =>
    (whole.isEmpty || isDecimal digitValue? whole) && isDecimal digitValue? places

/-- Whether a text is a negative number; a line end behind it does not count. -/
def isNegativeNumber : List Char → Bool
  | '-' :: s => isPlainNumber s || (s.getLast? = some '\n' && isPlainNumber s.dropLast)
  | _ => false

/-- The mark of a text that stands for no option. -/
def markUnmatched (s : List Char) : Mark σ :=
  if isNegativeNumber s || s.contains ' ' then .operand else .unknown

/-- The option whose whole name stands in front of the first equals sign, if there is one. -/
def wholeMatch? (s : List Char) : Option (Mark σ) :=
  let (name, joined) := cutName s
  (g.named.lookup (String.ofList name)).map fun w => .option w joined

/-- The mark of an argument with a dash and more. -/
def markDashed (text : String) : Except ArgumentFault (Mark σ) :=
  let s := text.toList
  match g.wholeMatch? s, g.candidates s with
  | some m, _ => .ok m
  | none, [] => .ok (markUnmatched s)
  | none, [m] => .ok m.2
  | none, ms => .error (.ambiguous text (ms.map Prod.fst))

/-- The mark of an argument. -/
def mark (text : String) : Except ArgumentFault (Mark σ) :=
  match text.toList with
  | '-' :: _ :: _ => g.markDashed text
  | _ => .ok .operand

/-- Arguments with their marks. -/
def markAll : List String → Except ArgumentFault (List (Marked σ))
  | [] => .ok []
  | s :: ss =>
    if s = "--" then .ok ((s, .dashes) :: ss.map fun s => (s, .operand))
    else do
      let m ← g.mark s
      return (s, m) :: (← markAll ss)

/-! ### Options -/

/-- An option with its arguments. -/
structure Use (σ : Type) where
  switch : Switch σ
  arguments : List String

/-- The use of an option without a joined argument, given the operands that follow it. -/
def useAlone (w : Switch σ) (following : List String) : Except ArgumentFault (Use σ) :=
  match w.arity, following with
  | .flag, _ => .ok ⟨w, []⟩
  | .single, [] => .error (.missingArgument w.title)
  | .single, s :: _ => .ok ⟨w, [s]⟩
  | .several, [] => .error (.missingArguments w.title)
  | .several, s :: ss => .ok ⟨w, s :: ss⟩

/-- What an argument that is an option amounts to. -/
structure Reading (σ : Type) where
  uses : List (Use σ)
  /-- How many of the following operands are taken. -/
  count : Nat
  /-- What is left over of the argument. -/
  leftover : Option String

/-- The reading of a single use. -/
def Reading.ofUse (u : Use σ) (count : Nat) : Reading σ := ⟨[u], count, none⟩

/-- The reading of an option without a text joined to it. -/
def readAlone (following : List String) (w : Switch σ) : Except ArgumentFault (Reading σ) := do
  let u ← useAlone w following
  return .ofUse u u.arguments.length

/-- The reading of an option with a text behind an equals sign. -/
def readEquals (w : Switch σ) (text : List Char) : Except ArgumentFault (Reading σ) :=
  if w.arity = .flag then .error (.ignoredArgument w.title (String.ofList text))
  else .ok (.ofUse ⟨w, [String.ofList text]⟩ 0)

/-- The reading of an option with a text behind its short name. The text behind a flag goes on with
a short name; one that is not known is left over with a dash in front. -/
def readDirect (following : List String) (w : Switch σ) :
    List Char → Except ArgumentFault (Reading σ)
  | [] => readAlone following w
  | c :: cs =>
    if w.arity ≠ .flag then .ok (.ofUse ⟨w, [String.ofList (c :: cs)]⟩ 0)
    else if c = '-' then .error (.ignoredArgument w.title (String.ofList (c :: cs)))
    else
      match g.named.lookup (String.ofList ['-', c]) with
      | none => .ok ⟨[⟨w, []⟩], 0, some (String.ofList ('-' :: c :: cs))⟩
      | some v => do
        let r ← if cs.head? = some '=' then readEquals v cs.tail else readDirect following v cs
        return { r with uses := ⟨w, []⟩ :: r.uses }

/-- The reading of an option as it is written. -/
def readJoined (following : List String) (w : Switch σ) :
    Joined → Except ArgumentFault (Reading σ)
  | .nothing => readAlone following w
  | .equals text => readEquals w text
  | .direct text => g.readDirect following w text

/-! ### Reading -/

/-- What was read so far. -/
structure Progress (σ : Type) where
  value : σ
  /-- Whether the operands were taken. -/
  taken : Bool
  /-- The arguments that are left over. -/
  extras : List String

/-- How many of some arguments the operands are; `none` if they are not there. -/
def operandCount (ms : List (Marked σ)) : Option Nat :=
  match g.form with
  | .row => some (ms.takeWhile fun m => !m.2.isOption).length
  | .command => if ms.any fun m => m.2.isOperand then some ms.length else none

/-- The operands among some arguments. In a row, the first `--` does not count. -/
def operandTexts (ms : List (Marked σ)) : List String :=
  let texts := ms.map Prod.fst
  match g.form with
  | .row => texts.erase "--"
  | .command => texts

/-- Take the operands in front of some arguments, if they are not taken yet. The answer has the
number of arguments taken. -/
def takeOperands (p : Progress σ) (ms : List (Marked σ)) : Except Stop (Progress σ × Nat) :=
  match if p.taken then none else g.operandCount ms with
  | none => .ok (p, 0)
  | some n => do
    let value ← g.act (g.operandTexts (ms.take n)) p.value
    return ({ p with value, taken := true }, n)

/-- Leave arguments over. -/
def Progress.leave (p : Progress σ) (ms : List (Marked σ)) : Progress σ :=
  { p with extras := p.extras ++ ms.map Prod.fst }

/-- Let options do what they do, in order. -/
def actAll (us : List (Use σ)) (value : σ) : Except Stop σ :=
  us.foldlM (fun v u => u.switch.act u.arguments v) value

/-- Read an option. The answer has the number of arguments behind it that it takes. -/
def readOption (p : Progress σ) (m : Marked σ) (rest : List (Marked σ)) :
    Except Stop (Progress σ × Nat) :=
  match m.2 with
  | .option w joined => do
    let following := (rest.takeWhile fun m => m.2.isOperand).map Prod.fst
    let r ← refusing g.program (g.readJoined following w joined)
    let value ← actAll r.uses p.value
    return ({ p with value, extras := p.extras ++ r.leftover.toList }, r.count)
  | _ => .ok (p.leave [m], 0)

/-- Read marked arguments. -/
def readMarked (p : Progress σ) : List (Marked σ) → Except Stop (Progress σ)
  | [] => do return (← g.takeOperands p []).1
  | m :: rest =>
    if m.2.isOption then do
      let (p, n) ← g.readOption p m rest
      readMarked p (rest.drop n)
    else if p.taken && (rest.any fun m => m.2.isOption) then
      readMarked (p.leave [m]) rest
    else do
      let (p, n) ← g.takeOperands p (m :: rest)
      if n = 0 then return p.leave (m :: rest) else readMarked p (rest.drop (n - 1))
termination_by ms => ms.length
decreasing_by all_goals (simp only [List.length_cons, List.length_drop]; omega)

/-- Read arguments, from a value to start with. -/
def read (start : σ) (arguments : List String) : Except Stop (σ × List String) := do
  let ms ← refusing g.program (g.markAll arguments)
  let p ← g.readMarked ⟨start, false, []⟩ ms
  return (p.value, p.extras)

end Grammar

end TrafficReplay.CommandLine
