/-!
# Texts

A text is a row of code points. Most are characters; an escape may also bring in a surrogate, which
is no character, so that not every text can be written as a string or encoded.

* `CodePoint`: a character or a surrogate;
* `Text`: code points in a row; a string stands for the text of its characters.

Main statement: two strings stand for one text only if they are the same (`Text.ofString_inj`).
-/

namespace TrafficReplay

/-! ### Code points -/

/-- A code point: a character, or one of the surrogates, which are counted from zero. -/
inductive CodePoint
  | char (c : Char)
  | surrogate (n : Fin 0x800)
  deriving DecidableEq, Repr

namespace CodePoint

instance : Coe Char CodePoint := ⟨char⟩

/-- The first surrogate. -/
def firstSurrogate : Nat := 0xd800

/-- The code point of a number; one that is too large has none and gives the null character. -/
def ofNat (n : Nat) : CodePoint :=
  if firstSurrogate ≤ n ∧ n < firstSurrogate + 0x800 then
    surrogate (Fin.ofNat 0x800 (n - firstSurrogate))
  else char (Char.ofNat n)

/-- The number of a code point. -/
def toNat : CodePoint → Nat
  | char c => c.toNat
  | surrogate n => firstSurrogate + n

/-- The character of a code point; a surrogate has none. -/
def char? : CodePoint → Option Char
  | char c => some c
  | surrogate _ => none

/-- Whether a code point is a surrogate. -/
def isSurrogate : CodePoint → Bool
  | char _ => false
  | surrogate _ => true

@[simp] theorem char?_char (c : Char) : (char c).char? = some c := rfl

@[simp] theorem isSurrogate_char (c : Char) : (char c).isSurrogate = false := rfl

end CodePoint

/-! ### Texts -/

/-- Code points in a row. -/
structure Text where
  protected ofList ::
  /-- The code points in order. -/
  protected toList : List CodePoint
  deriving DecidableEq, Repr

namespace Text

/-- The text of some characters. -/
protected def ofChars (s : List Char) : Text := .ofList (s.map .char)

/-- The text of a string. -/
protected def ofString (s : String) : Text := .ofChars s.toList

instance : Coe String Text := ⟨Text.ofString⟩

instance : Inhabited Text := ⟨""⟩

/-- One text behind another one. -/
protected def append (s t : Text) : Text := .ofList (s.toList ++ t.toList)

instance : Append Text := ⟨Text.append⟩

/-- Whether a text has no code points. -/
protected def isEmpty (t : Text) : Bool := t.toList.isEmpty

@[simp] theorem toList_ofString (s : String) : (Text.ofString s).toList = s.toList.map .char := rfl

@[simp] theorem toList_append (s t : Text) : (s ++ t).toList = s.toList ++ t.toList := rfl

protected theorem ext {s t : Text} (h : s.toList = t.toList) : s = t := congrArg Text.ofList h

instance : Std.Associative (α := Text) (· ++ ·) :=
  ⟨fun s t u => congrArg Text.ofList (List.append_assoc s.toList t.toList u.toList)⟩

/-- Two strings that stand for one text are the same. -/
@[simp] theorem ofString_inj {s t : String} : Text.ofString s = Text.ofString t ↔ s = t := by
  constructor
  · intro h
    have hpoints : s.toList.map CodePoint.char = t.toList.map .char := congrArg Text.toList h
    exact String.toList_inj.mp ((List.map_inj_right fun _ _ => CodePoint.char.inj).mp hpoints)
  · rintro rfl
    rfl

end Text

end TrafficReplay
