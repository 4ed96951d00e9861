import TrafficReplay.Loading.FileTree
import TrafficReplay.Loading.ReplayFile
import TrafficReplay.Yaml.Document

/-!
# Loading files and directories

* `Handler.loadFile`: read one file and walk it;
* `loadPath`: load a file or all replay files under a directory, one after another; a file that
  cannot be loaded is reported and does not keep the others from being loaded, but a directory that
  cannot be listed does.
-/

namespace TrafficReplay
open TrafficReplay.Yaml TrafficReplay.Text

namespace Handler

/-- Walk the document in a file, given the outcome of reading the file. -/
def walkRead (h : Handler) (path : String) (read : Except FileFault (List UInt8)) :
    Load Report := do
  match read with
  | .error f =>
    return [⟨.error, "Failed to read \"" ++ path ++ "\": " ++ f.message path⟩]
  | .ok bytes =>
    match compose (.ofFile (.ofBytes bytes)) with
    | .ok root => h.walkDocument path root
    | .error (.undecodable f) =>
      return [⟨.error, "Failed to read \"" ++ path ++ "\": " ++ f.message⟩]
    | .error f =>
      if f.isFormal then
        return [⟨.error, "Failed to parse \"" ++ path ++ "\": " ++ f.message⟩]
      else throw (.unreadable f)

/-- Load the file at a path. -/
def loadFile (h : Handler) (files : FileTree) (p : FilePath) : Load Report := do
  if p.text.toList.contains '\x00' then throw .nullInPath
  h.walkRead p.text (files.read p)

end Handler

/-- Loads the file at a path into a run. -/
abbrev FileLoader := FilePath → OnRun Report

/-- The loader that starts a handler for every file. -/
def Handler.loader (h : Handler) (files : FileTree) : FileLoader := fun p =>
  Step.ofRun fun run =>
    let (r, s) := (h.loadFile files p).runOn (.start run "")
    (r, s.run)

/-- What a directory load gives: its report, and what was logged on the way. -/
structure Loaded where
  report : Report
  log : List LogRecord
  deriving Repr

/-- The channel under which the reports of files are logged. -/
def loadChannel : String := "proxyreplay.loader.files"

/-- Load one file of several: its report, and what is logged. A fault becomes an error of the
file. -/
def loadOne (loader : FileLoader) (p : FilePath) (run : RunState) :
    (Report × List LogRecord) × RunState :=
  match (loader p).runOn run with
  | (.ok report, run) => ((report, report.logged loadChannel), run)
  | (.error f, run) =>
    let report : Report :=
      [⟨.error, "Failed to load \"" ++ p.text ++ "\": " ++ f.message⟩]
    ((report, ⟨loadChannel, .error, "Unexpected failure loading " ++ p.text⟩ ::
      report.logged loadChannel), run)

/-- Load files one after another: what is logged, and how many of them have errors. -/
def loadEach (loader : FileLoader) : List FilePath → RunState → (List LogRecord × Nat) × RunState
  | [], run => (([], 0), run)
  | p :: ps, run =>
    let ((report, log), run) := loadOne loader p run
    let ((log', failed), run) := loadEach loader ps run
    ((log ++ log', failed + (if report.ok then 0 else 1)), run)

/-- The files that a path stands for: the file there, or the replay files in the directory there.
Without any, the answer is the note that says so. It is a fault if the system does not tell what
there is. -/
def filesAt (files : FileTree) (p : FilePath) : Except Fault (Except Note (List FilePath)) :=
  match files.find p with
  | .error f =>
    if f.isAbsence then
      .ok (.error
        ⟨.error, "Replay path \"" ++ p.text ++ "\" is not a readable file or directory."⟩)
    else .error (.unknowable ⟨f, p.text⟩)
  | .ok (.file ..) => .ok (.ok [p])
  | .ok t =>
    match t.replayFilesAt p with
    | .error f =>
      .ok (.error ⟨.error, "Unable to read directory \"" ++ p.text ++ "\": " ++ f.message⟩)
    | .ok [] => .ok (.error ⟨.error, "No replay files found in \"" ++ p.text ++ "\"."⟩)
    | .ok ps => .ok (.ok ps)

/-- Load the files that a path stands for. -/
def loadFound (loader : FileLoader) (p : FilePath) (found : Except Note (List FilePath))
    (run : RunState) : Loaded × RunState :=
  match found with
  | .error n => (⟨[n], []⟩, run)
  | .ok ps =>
    let ((log, failed), run) := loadEach loader ps run
    (⟨[⟨.info, "Loaded " ++ toString ps.length ++ " replay files from \"" ++ p.text ++ "\" (" ++
      toString failed ++ " with errors)."⟩], log⟩, run)

/-- Load a file or all replay files under a directory. -/
def loadPath (loader : FileLoader) (files : FileTree) (p : FilePath) (run : RunState) :
    Except Fault (Loaded × RunState) :=
  (filesAt files p).map fun found => loadFound loader p found run

end TrafficReplay
