import TrafficReplay.Fault
import TrafficReplay.Text.Utf8

/-!
# Request bodies

A body is a list of bytes. Bodies whose content is not recorded are filled with one byte; they are
cut from a buffer that is shared by all requests, and only a longer one is made afresh.
-/

namespace TrafficReplay

/-- The bytes of a body. -/
abbrev Body := List UInt8

namespace Body

/-- The byte that bodies are filled with. -/
def filler : UInt8 := 0x78

/-- The size from which on no body can be made. -/
def sizeLimit : Int := 0x8000000000000000

/-- A filled body; empty for a negative size. -/
def filled (size : Int) : Except Fault Body :=
  if sizeLimit ≤ size ∨ size < -sizeLimit then .error .bodyTooLarge
  else .ok (List.replicate size.toNat filler)

/-- The front of a body up to a place, which is counted from the end if it is negative. -/
def upTo (b : Body) (size : Int) : Body :=
  if 0 ≤ size then b.take size.toNat else b.take (b.length + size).toNat

/-- A filled body, cut from a buffer if that is long enough. -/
def cutFrom (buffer : Body) (size : Int) : Except Fault Body :=
  if size ≤ buffer.length then .ok (buffer.upTo size) else filled size

end Body

end TrafficReplay
