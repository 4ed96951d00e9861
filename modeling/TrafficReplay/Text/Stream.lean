import TrafficReplay.Text.Utf8

/-!
# Text read from a file

A file is decoded in chunks of bytes and its text is handed on in blocks of characters, so that a
fault far into the file is met only by a reader that gets there. Line ends of every kind, `\r\n`,
`\r` and `\n`, are read as `\n`.

* `FileText`: the characters that can be had, and the fault that follows them;
* `FileText.ofBytes`: the text of a file.
-/

namespace TrafficReplay.Text

/-- The text of a file: the characters before the block that cannot be decoded, and its fault. -/
structure FileText where
  chars : List Char
  fault : Option Utf8.Fault

namespace FileText

/-- The number of bytes that are decoded at once. -/
def chunkSize : Nat := 8192

/-- The number of characters in a block. -/
def blockSize : Nat := 4096

/-- Read every line end as `\n`. -/
def unifyLineEnds : List Char → List Char
  | '\r' :: '\n' :: s => '\n' :: unifyLineEnds s
  | '\r' :: s => '\n' :: unifyLineEnds s
  | c :: s => c :: unifyLineEnds s
  | [] => []

/-- Decode chunk after chunk, putting the bytes left over in front of the next chunk. -/
def decodeChunks : Nat → List UInt8 → List UInt8 → List Char → List Char × Option Utf8.Fault
  | 0, _, _, acc => (acc, none)
  | fuel + 1, left, bytes, acc =>
    if bytes.isEmpty then
      let r := Utf8.decode left
      (acc ++ r.chars, r.fault)
    else
      let r := Utf8.decodePart (left ++ bytes.take chunkSize)
      match r.fault with
      | some f => (acc, some f)
      | none => decodeChunks fuel r.left (bytes.drop chunkSize) (acc ++ r.chars)

/-- Whole blocks of a text that breaks off; a line end in the last place may be half of one. -/
def wholeBlocks (s : List Char) : List Char :=
  let known := unifyLineEnds (if s.getLast? = some '\r' then s.dropLast else s)
  known.take (known.length / blockSize * blockSize)

/-- The text of a file with the given bytes. -/
def ofBytes (bytes : List UInt8) : FileText :=
  match decodeChunks (bytes.length + 1) [] bytes [] with
  | (s, none) => ⟨unifyLineEnds s, none⟩
  | (s, some f) => ⟨wholeBlocks s, some f⟩

end FileText

end TrafficReplay.Text
