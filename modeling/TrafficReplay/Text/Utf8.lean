import TrafficReplay.Text.Quoted

/-!
# UTF-8

Strict decoding of UTF-8 with an account of the first fault. Decoding may stop in front of a
character whose bytes are not all there yet, so that a text can be decoded piece by piece. Encoding
stops at the first surrogate.

* `front`: what stands at the front of some bytes;
* `decode`: the characters up to the first fault or to the first incomplete character;
* `encode`: the bytes of a text.

Main statement: the texts without surrogates are those that have bytes (`encode_isOk_iff`).
-/

namespace TrafficReplay.Text.Utf8

/-- Why bytes are not UTF-8. -/
inductive FaultKind
  | startByte
  | continuationByte
  | endOfData
  deriving DecidableEq, Repr

/-- Bytes that are not UTF-8: where the first of them stands, the byte itself, and how many. -/
structure Fault where
  kind : FaultKind
  position : Nat
  byte : UInt8
  length : Nat
  deriving DecidableEq, Repr

/-- The wording of a kind of fault. -/
def FaultKind.message : FaultKind → String
  | .startByte => "invalid start byte"
  | .continuationByte => "invalid continuation byte"
  | .endOfData => "unexpected end of data"

/-- The wording of a fault. -/
def Fault.message (f : Fault) : String :=
  let place :=
    if f.length = 1 then
      "byte 0x" ++ String.ofList (hexDigits 2 f.byte.toNat) ++ " in position " ++
        toString f.position
    else "bytes in position " ++ toString f.position ++ "-" ++ toString (f.position + f.length - 1)
  "'utf-8' codec can't decode " ++ place ++ ": " ++ f.kind.message

/-- What stands at the front of some bytes: a character and its length in bytes, a fault and its
length, or the beginning of a character that is cut off. -/
inductive Front
  | char (c : Char) (length : Nat)
  | fault (kind : FaultKind) (length : Nat)
  | cutOff
  deriving DecidableEq, Repr

/-- Whether a byte continues a character. -/
def isTail (b : UInt8) : Bool := 0x80 ≤ b && b ≤ 0xbf

/-- The bytes that may follow a given first byte. -/
def secondRange (a : UInt8) : UInt8 × UInt8 :=
  if a = 0xe0 then (0xa0, 0xbf)
  else if a = 0xed then (0x80, 0x9f)
  else if a = 0xf0 then (0x90, 0xbf)
  else if a = 0xf4 then (0x80, 0x8f)
  else (0x80, 0xbf)

/-- Whether `b` may follow the first byte `a`. -/
def isSecond (a b : UInt8) : Bool := (secondRange a).1 ≤ b && b ≤ (secondRange a).2

/-- The last six bits of a byte. -/
def low6 (b : UInt8) : Nat := b.toNat % 64

/-- What stands at the front of `a :: bytes`. -/
def front (a : UInt8) (bytes : List UInt8) : Front :=
  if a < 0x80 then .char (Char.ofNat a.toNat) 1
  else if a < 0xc2 ∨ 0xf4 < a then .fault .startByte 1
  else
    match bytes with
    | [] => .cutOff
    | b :: bytes =>
      if !isSecond a b then .fault .continuationByte 1
      else if a < 0xe0 then .char (Char.ofNat (a.toNat % 32 * 64 + low6 b)) 2
      else
        match bytes with
        | [] => .cutOff
        | c :: bytes =>
          if !isTail c then .fault .continuationByte 2
          else if a < 0xf0 then
            .char (Char.ofNat ((a.toNat % 16 * 64 + low6 b) * 64 + low6 c)) 3
          else
            match bytes with
            | [] => .cutOff
            | d :: _ =>
              if !isTail d then .fault .continuationByte 3
              else
                .char
                  (Char.ofNat (((a.toNat % 8 * 64 + low6 b) * 64 + low6 c) * 64 + low6 d)) 4

/-- The result of decoding: the characters in order, the bytes that are left, and the fault that
stopped the decoding, its position counted from the first byte. -/
structure Decoded where
  chars : List Char
  left : List UInt8
  fault : Option Fault
  deriving Repr

/-- Decode from a position on, as far as whole characters go. -/
def decodeFrom : Nat → Nat → List UInt8 → List Char → Decoded
  | 0, _, bytes, acc => ⟨acc.reverse, bytes, none⟩
  | _ + 1, _, [], acc => ⟨acc.reverse, [], none⟩
  | fuel + 1, position, a :: bytes, acc =>
    match front a bytes with
    | .char c n => decodeFrom fuel (position + n) (bytes.drop (n - 1)) (c :: acc)
    | .fault kind n => ⟨acc.reverse, a :: bytes, some ⟨kind, position, a, n⟩⟩
    | .cutOff => ⟨acc.reverse, a :: bytes, none⟩

/-- Decode as far as whole characters go; bytes of a cut off character are left. -/
def decodePart (bytes : List UInt8) : Decoded := decodeFrom bytes.length 0 bytes []

/-- Decode to the end; a cut off character is a fault. -/
def decode (bytes : List UInt8) : Decoded :=
  let r := decodePart bytes
  match r.fault, r.left with
  | none, a :: left =>
    { r with fault := some ⟨.endOfData, bytes.length - (left.length + 1), a, left.length + 1⟩ }
  | _, _ => r

/-! ### Encoding -/

/-- Why a text has no bytes: the first row of surrogates in it, and where that stands. -/
structure EncodeFault where
  position : Nat
  row : List CodePoint
  deriving DecidableEq, Repr

/-- The place of a fault as it is told in a message. -/
def EncodeFault.place (f : EncodeFault) : String :=
  match f.row with
  | [c] =>
    "character '" ++ String.ofList (codeEscape c.toNat) ++ "' in position " ++ toString f.position
  | row =>
    "characters in position " ++ toString f.position ++ "-" ++
      toString (f.position + row.length - 1)

/-- The wording of a fault. -/
def EncodeFault.message (f : EncodeFault) : String :=
  "'utf-8' codec can't encode " ++ f.place ++ ": surrogates not allowed"

/-- The bytes of a string. -/
def bytes (s : String) : List UInt8 := s.toUTF8.toList

/-- The bytes of a text, or why it has none. -/
def encode (t : Text) : Except EncodeFault (List UInt8) :=
  match t.toList.findIdx? CodePoint.isSurrogate with
  | none => .ok (bytes (String.ofList (t.toList.filterMap CodePoint.char?)))
  | some i => .error ⟨i, (t.toList.drop i).takeWhile CodePoint.isSurrogate⟩

/-- A text has bytes exactly if it has no surrogate. -/
theorem encode_isOk_iff {t : Text} :
    (encode t).isOk = true ↔ ∀ c ∈ t.toList, c.isSurrogate = false := by
  rw [encode, ← List.findIdx?_eq_none_iff]
  cases t.toList.findIdx? CodePoint.isSurrogate <;> simp [Except.isOk, Except.toBool]

end TrafficReplay.Text.Utf8
