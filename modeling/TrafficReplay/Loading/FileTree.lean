import TrafficReplay.Fault
import TrafficReplay.Text.Search
import TrafficReplay.Text.Lower

/-!
# Files

A tree of directories and files, and the paths that lead through it. The system may keep a file from
being read or written, and a directory from being listed or passed through; and no path may have
more than a number of bytes, nor a name that is looked up.

* `FilePath`: a path, its text without empty parts and single dots;
* `FileTree.find`: what a path leads to;
* `FileTree.replayFiles`: the replay files under a directory, its own ones before those of its
  subdirectories, each in the order of their names;
* `FileTree.unlisted`: what keeps the replay files under a directory from being found.
-/

namespace TrafficReplay
open TrafficReplay.Text

/-! ### Paths -/

/-- A path. A path that is not absolute starts at the current directory. -/
structure FilePath where
  absolute : Bool
  parts : List String
  deriving DecidableEq, Repr

namespace FilePath

/-- Read a path. -/
def ofText (s : String) : FilePath where
  absolute := s.toList.head? = some '/'
  parts := ((pieces '/' s.toList).map String.ofList).filter fun p => p != "" && p != "."

/-- The text of a path. -/
def text (p : FilePath) : String :=
  let s := join "/" p.parts
  if p.absolute then "/" ++ s else if p.parts.isEmpty then "." else s

/-- The path of an entry of a directory. -/
def child (p : FilePath) (name : String) : FilePath := { p with parts := p.parts ++ [name] }

/-- The text of a path that is reached on the way down from a path. -/
def textFrom (start p : FilePath) : String :=
  if start = ⟨false, []⟩ ∧ p ≠ start then "./" ++ p.text else p.text

/-- The number of bytes that the system takes as the text of a path. -/
def longestText : Nat := 4095

/-- The number of bytes that the system takes as a name. -/
def longestName : Nat := 255

/-- What keeps the system from following a path with a text. -/
def lengthFault (text : String) : Option FileFault :=
  if longestText < text.utf8ByteSize then some .nameTooLong else none

end FilePath

/-! ### Trees -/

/-- What keeps a file or a directory from being used. -/
structure Access where
  /-- What keeps a file from being read, and a directory from being listed. -/
  reading : Option FileFault := none
  /-- What keeps a file from being written, and a directory from getting new entries. -/
  writing : Option FileFault := none
  /-- What keeps paths from leading through a directory. -/
  passing : Option FileFault := none
  deriving DecidableEq, Repr, Inhabited

/-- Everything is allowed. -/
def Access.free : Access := {}

/-- Only what is allowed goes on. -/
def Access.allow : Option FileFault → Except FileFault Unit
  | none => .ok ()
  | some f => .error f

/-- A file with its bytes, or a directory with its entries. -/
inductive FileTree
  | file (access : Access) (bytes : List UInt8)
  | directory (access : Access) (entries : List (String × FileTree))
  deriving Repr, Inhabited

namespace FileTree

/-- The entries of a directory; a file has none. -/
def entries : FileTree → List (String × FileTree)
  | .file .. => []
  | .directory _ es => es

/-- Whether this is a directory. -/
def isDirectory : FileTree → Bool
  | .file .. => false
  | .directory .. => true

/-- Follow the parts of a path from a directory, given the directories above it, the nearest
first. -/
def follow (above : List FileTree) (here : FileTree) : List String → Except FileFault FileTree
  | [] => .ok here
  | part :: parts =>
    match here with
    | .file .. => .error .notDirectory
    | .directory access es =>
      match access.passing with
      | some f => .error f
      | none =>
        if part = ".." then
          match above with
          | [] => .error .missing
          | up :: above => follow above up parts
        else
          match es.lookup part with
          | none =>
            .error (if FilePath.longestName < part.utf8ByteSize then .nameTooLong else .missing)
          | some t => follow (here :: above) t parts

/-- What the parts of a path lead to from the current directory. -/
def followPath (root : FileTree) (p : FilePath) : Except FileFault FileTree :=
  if p.absolute then .error .missing else root.follow [] p.parts

/-- What a path leads to from the current directory. -/
def find (root : FileTree) (p : FilePath) : Except FileFault FileTree := do
  Access.allow (FilePath.lengthFault p.text)
  root.followPath p

/-- The bytes of the file at a path. -/
def read (root : FileTree) (p : FilePath) : Except FileFault (List UInt8) := do
  match ← root.find p with
  | .file access bytes =>
    Access.allow access.reading
    return bytes
  | .directory access _ =>
    Access.allow access.reading
    throw .isDirectory

/-- Whether a file can be written at a path, given as text: its directory has to be there, no
directory may be in its place, and the text may not end as that of a directory does. -/
def canWrite (root : FileTree) (path : String) : Except FileFault Unit := do
  Access.allow (FilePath.lengthFault path)
  let p := FilePath.ofText path
  let ending := (pieces '/' path.toList).getLast?.getD []
  match ← root.followPath { p with parts := p.parts.dropLast } with
  | .file .. => throw .notDirectory
  | .directory access _ =>
    Access.allow access.passing
    if ending.isEmpty then throw .isDirectory
    match root.followPath p with
    | .ok (.directory ..) => throw .isDirectory
    | .ok (.file access _) =>
      if ending = ['.'] then throw .notDirectory
      Access.allow access.writing
    | .error .missing =>
      if ending = ['.'] then throw .missing
      Access.allow access.writing
    | .error f => throw f

/-- Put something under a name, in the place of what is there. -/
def putEntry (name : String) (t : FileTree) : List (String × FileTree) → List (String × FileTree)
  | [] => [(name, t)]
  | e :: es => if e.1 = name then (name, t) :: es else e :: putEntry name t es

/-- Put something at a path, making the directories on the way. -/
def put (t : FileTree) : List String → FileTree → FileTree
  | [], _ => t
  | part :: parts, here =>
    let below := (here.entries.lookup part).getD (.directory .free [])
    .directory .free (putEntry part (put t parts below) here.entries)

/-- Make a directory at a path unless there is one. -/
def makeDirectory (root : FileTree) (p : FilePath) : FileTree :=
  match root.followPath p with
  | .ok _ => root
  | .error _ => put (.directory .free []) p.parts root

/-- The tree of some files and directories. -/
def build (files : List (String × List UInt8)) (directories : List String) : FileTree :=
  let root := directories.foldl (fun t d => t.makeDirectory (.ofText d)) (.directory .free [])
  files.foldl (fun t f => put (.file .free f.2) (FilePath.ofText f.1).parts t) root

/-! ### Replay files -/

/-- How the names of replay files end, in any case. -/
def extensions : List Text := [".yaml", ".yml", ".json"]

/-- Whether a file of this name is a replay file. -/
def isReplayName (name : String) : Bool :=
  extensions.any fun e => endsIn e.toList (lowerText name).toList

/-- Entries in the order of their names. -/
def byName {α : Type} (es : List (String × α)) : List (String × α) :=
  es.mergeSort fun a b => a.1 ≤ b.1

mutual

/-- The paths of the replay files in a directory, given the directory's path. -/
def replayFiles (p : FilePath) : FileTree → List FilePath
  | .file .. => []
  | .directory _ es =>
    (byName ((es.map fun e => (e.1, e.2.isDirectory)).filter fun e => !e.2 && isReplayName e.1)).map
        (fun e => p.child e.1) ++
      (byName (filesBelow p es)).flatMap Prod.snd

/-- The replay files in each subdirectory, under its name. -/
def filesBelow (p : FilePath) : List (String × FileTree) → List (String × List FilePath)
  | [] => []
  | e :: es => filesBelowEntry p e ++ filesBelow p es

/-- The replay files in an entry if it is a subdirectory, under its name. -/
def filesBelowEntry (p : FilePath) : String × FileTree → List (String × List FilePath)
  | (name, t) => if t.isDirectory then [(name, replayFiles (p.child name) t)] else []

end

mutual

/-- What keeps a directory, or one below it, from being listed: the first such fault, a directory
before its subdirectories, these in the order of their names. The walk goes down from `start`, and
`barrier` is what keeps paths from leading to this directory. -/
def unlisted (start : FilePath) (barrier : Option FileFault) (p : FilePath) :
    FileTree → Option PathFault
  | .file .. => none
  | .directory access es =>
    match (FilePath.lengthFault (start.textFrom p) <|> barrier <|> access.reading) with
    | some f => some ⟨f, start.textFrom p⟩
    | none => (byName (unlistedBelow start access.passing p es)).findSome? Prod.snd

/-- What keeps the entries of a directory from being listed, each under its name. -/
def unlistedBelow (start : FilePath) (barrier : Option FileFault) (p : FilePath) :
    List (String × FileTree) → List (String × Option PathFault)
  | [] => []
  | e :: es => unlistedEntry start barrier p e :: unlistedBelow start barrier p es

/-- What keeps an entry from being listed if it is a subdirectory, under its name. -/
def unlistedEntry (start : FilePath) (barrier : Option FileFault) (p : FilePath) :
    String × FileTree → String × Option PathFault
  | (name, t) => (name, unlisted start barrier (p.child name) t)

end

/-- The paths of the replay files under a path that leads to a directory, if all directories there
can be listed. -/
def replayFilesAt (t : FileTree) (p : FilePath) : Except PathFault (List FilePath) :=
  match t.unlisted p none p with
  | some f => .error f
  | none => .ok (t.replayFiles p)

/-- The paths of the replay files under a path. -/
def findReplayFiles (root : FileTree) (p : FilePath) : Except PathFault (List FilePath) :=
  match root.find p with
  | .error f => .error ⟨f, p.text⟩
  | .ok (.file ..) => .error ⟨.notDirectory, p.text⟩
  | .ok t => t.replayFilesAt p

end FileTree

end TrafficReplay
