import TrafficReplay.Program

/-!
# The command line program

The program is run on the files below the current directory. There is no network: every call is
answered at once by an empty response of status 200, so that a run shows what would be replayed.
-/

namespace TrafficReplay.Main
open TrafficReplay

/-- Whether the bytes of a file are wanted. -/
def isWanted (arguments : List String) (name : String) : Bool :=
  FileTree.isReplayName name ||
    arguments.any fun a => (FilePath.ofText a).parts.getLast? = some name

/-- The fault of the system that an error stands for. -/
def faultOf : IO.Error → FileFault
  | .noFileOrDirectory .. => .missing
  | .permissionDenied .. => .denied
  | e => .other 5 (toString e)

/-- The bytes of a file, or what keeps it from being read. -/
def readFile (path : String) : IO FileTree := do
  try return .file .free (← IO.FS.readBinFile path).toList
  catch e => return .file { reading := some (faultOf e) } []

/-- The files below a directory. -/
partial def readDirectory (arguments : List String) (directory : String) : IO FileTree := do
  try
    let here ← IO.FS.realPath directory
    let mut entries := []
    for entry in ← here.readDir do
      let path := directory ++ "/" ++ entry.fileName
      if ← entry.path.isDir then
        entries := (entry.fileName, ← readDirectory arguments path) :: entries
      else if isWanted arguments entry.fileName then
        entries := (entry.fileName, ← readFile path) :: entries
      else
        entries := (entry.fileName, .file .free []) :: entries
    return .directory .free entries
  catch e => return .directory { reading := some (faultOf e) } []

/-- The answer to every call. -/
def emptyAnswer : Answer := ⟨0, .ok ⟨200, []⟩⟩

/-- The world of a run that starts now. -/
def currentWorld (arguments : List String) : IO World := do
  return {
    files := ← readDirectory arguments "."
    lookup := .identity
    peer := fun _ _ => (emptyAnswer, ())
    clock := ⟨(← IO.monoNanosNow) / 1000, 0, 0⟩
    readings := [] }

/-- Print what was performed, and save what is to be saved. -/
def display (p : Performance) : IO Unit := do
  IO.print p.stdout
  for r in p.log do IO.eprintln (Text.escaped r.line)
  IO.eprint p.stderr
  match p.saved with
  | some (path, totals) => IO.FS.writeFile path.text totals.render
  | none => pure ()

end TrafficReplay.Main

/-- Run the program; its exit status is 1 if it is broken off. -/
def main (arguments : List String) : IO UInt32 := do
  let world ← TrafficReplay.Main.currentWorld arguments
  let (status, performance) := TrafficReplay.Program.run world arguments
  TrafficReplay.Main.display performance
  match status with
  | .ok n => return n.toUInt32
  | .error _ => return 1
