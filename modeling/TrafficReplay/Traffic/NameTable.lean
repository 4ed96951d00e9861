import TrafficReplay.Fault
import TrafficReplay.Text.Lower

/-!
# The name table

Field names and server names are collected while files are loaded. After that the table is frozen:
it can be asked for a name, and names that are there can be asked for again, but none can be added.
-/

namespace TrafficReplay

/-- The names seen, each once, and whether more may be added. -/
structure NameTable where
  names : List Text
  frozen : Bool
  deriving Repr

namespace NameTable

/-- No names. -/
def empty : NameTable := ⟨[], false⟩

/-- Whether a name is there. -/
def has (t : NameTable) (name : Text) : Bool := t.names.contains name

/-- A name if it is there; nothing is added. -/
def lookup? (t : NameTable) (name : Text) : Option Text :=
  if t.has name then some name else none

/-- Have a name in the table, adding it if the table is not frozen. -/
def localize (t : NameTable) (name : Text) : Except Fault NameTable :=
  if t.has name then .ok t
  else if t.frozen then .error (.newName name)
  else .ok { t with names := t.names ++ [name] }

/-- Have some names in the table. -/
def localizeAll (t : NameTable) (names : List Text) : Except Fault NameTable :=
  names.foldlM localize t

/-- Let no more names be added. -/
def freeze (t : NameTable) : Except Fault NameTable :=
  if t.frozen then .error .namesFrozen else .ok { t with frozen := true }

end NameTable

end TrafficReplay
