import TrafficReplay.Text.Quoted
import TrafficReplay.Text.Search

/-!
# Faults of a command line

Why the arguments of a command are refused.
-/

namespace TrafficReplay.CommandLine
open TrafficReplay.Text

/-- Why arguments are refused. An option is told by its names with slashes between them. -/
inductive ArgumentFault
  /-- A text that abbreviates several options. -/
  | ambiguous (text : String) (options : List String)
  | missingArgument (option : String)
  | missingArguments (option : String)
  /-- An argument for an option that takes none. -/
  | ignoredArgument (option argument : String)
  | invalidChoice (option value : String) (choices : List String)
  | invalidValue (option kind value : String)
  | negative (option : String) (value : Int)
  | notPositive (option : String) (value : Int)
  | unrecognized (arguments : List String)
  deriving DecidableEq, Repr

/-- A message about an option. -/
def aboutOption (option message : String) : String := "argument " ++ option ++ ": " ++ message

/-- The wording of a fault. -/
def ArgumentFault.message : ArgumentFault → String
  | .ambiguous text options =>
    "ambiguous option: " ++ text ++ " could match " ++ join ", " options
  | .missingArgument o => aboutOption o "expected one argument"
  | .missingArguments o => aboutOption o "expected at least one argument"
  | .ignoredArgument o a => aboutOption o ("ignored explicit argument " ++ quoted a)
  | .invalidChoice o v choices =>
    aboutOption o ("invalid choice: " ++ quoted v ++ " (choose from " ++
      join ", " (choices.map fun c : String => quoted c) ++ ")")
  | .invalidValue o kind v => aboutOption o ("invalid " ++ kind ++ " value: " ++ quoted v)
  | .negative o n => aboutOption o ("must not be negative, got " ++ toString n)
  | .notPositive o n => aboutOption o ("must be at least 1, got " ++ toString n)
  | .unrecognized as => "unrecognized arguments: " ++ join " " as

/-- What ends the reading of a command line before its end. -/
inductive Stop
  /-- The help of a program is asked for. -/
  | help (program : String)
  | version
  /-- A program refuses its arguments. -/
  | refused (program : String) (fault : ArgumentFault)
  deriving DecidableEq, Repr

/-- A result that a program may refuse. -/
def refusing {α : Type} (program : String) (x : Except ArgumentFault α) : Except Stop α :=
  x.mapError (Stop.refused program)

end TrafficReplay.CommandLine
