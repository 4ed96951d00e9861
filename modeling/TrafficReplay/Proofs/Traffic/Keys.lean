import Mathlib.Data.List.Forall2
import TrafficReplay.Traffic.Message

/-!
# Keys of transactions

A key is made in one pass over its format.  Names in braces never overlap, so that a format is in
one way a row of such names and of characters that are kept (`KeyFormat.Cut`); each piece gives its
part of the key, and what a request puts in is not looked at again.

* `KeyFormat.Occurs.apart`: names in braces are the same or apart;
* `KeyFormat.exists_cut`, `KeyFormat.Cut.append`: every format can be cut, and two formats in a row
  as each of them if no name lies across;
* `Request.key_of_cut`: the key of a format that is cut;
* `Request.key_replaces`: what a key is made of.
-/

namespace TrafficReplay
open TrafficReplay.Text

namespace KeyFormat

/-! ### Names in braces -/

/-- Whether a text can stand in braces as a name. -/
def IsName (s : List CodePoint) : Prop := s ≠ [] ∧ .char '{' ∉ s ∧ .char '}' ∉ s

/-- A name with its braces. -/
def braced (s : List CodePoint) : List CodePoint := .char '{' :: (s ++ [.char '}'])

/-- Whether a name in braces stands in a format behind the text `front`. -/
def Occurs (format front s : List CodePoint) : Prop := IsName s ∧ front ++ braced s <+: format

theorem braced_append (s rest : List CodePoint) :
    braced s ++ rest = .char '{' :: (s ++ .char '}' :: rest) := by
  simp [braced]

theorem takeWhile_name {s : List CodePoint} (hs : IsName s) (rest : List CodePoint) :
    (s ++ .char '}' :: rest).takeWhile (fun c => c != .char '{' && c != .char '}') = s := by
  rw [List.takeWhile_append_of_pos]
  · simp
  · intro c hc
    have hopening : c ≠ .char '{' := fun h => hs.2.1 (h ▸ hc)
    have hclosing : c ≠ .char '}' := fun h => hs.2.2 (h ▸ hc)
    simp [hopening, hclosing]

/-- A name in braces at the front of a text is one in one way. -/
theorem braced_append_inj {s t a b : List CodePoint} (hs : IsName s) (ht : IsName t)
    (h : braced s ++ a = braced t ++ b) : s = t ∧ a = b := by
  rw [braced_append, braced_append, List.cons.injEq] at h
  have hst : s = t := by rw [← takeWhile_name hs a, h.2, takeWhile_name ht b]
  subst hst
  simpa using h.2

/-- In a name with its braces, a brace opens at the front only. -/
theorem eq_nil_of_braced_eq {s d e : List CodePoint} (hs : IsName s)
    (h : braced s = d ++ .char '{' :: e) : d = [] := by
  cases d with
  | nil => rfl
  | cons c d =>
    rw [braced, List.cons_append, List.cons.injEq] at h
    have hopening : .char '{' ∈ s ++ [.char '}'] := by simp [h.2]
    exact absurd hopening (by simp [hs.2.1])

/-- The scan for a name in braces finds the one at the front of a text. -/
theorem bracedName?_eq_some_iff {f s rest : List CodePoint} :
    Request.bracedName? f = some (s, rest) ↔ IsName s ∧ f = braced s ++ rest := by
  constructor
  · intro h
    unfold Request.bracedName? at h
    split at h
    · rename_i f
      have hall : ∀ c ∈ f.takeWhile (fun c => c != .char '{' && c != .char '}'),
          c ≠ .char '{' ∧ c ≠ .char '}' := by
        intro c hc
        simpa using List.all_eq_true.mp List.all_takeWhile c hc
      have hwhole :=
        List.takeWhile_append_dropWhile (p := fun c => c != .char '{' && c != .char '}') (l := f)
      generalize f.takeWhile (fun c => c != .char '{' && c != .char '}') = name at h hall hwhole
      generalize f.dropWhile (fun c => c != .char '{' && c != .char '}') = behind at hwhole
      subst hwhole
      simp only [List.drop_left] at h
      split at h
      · split at h
        · cases h
        · rename_i hname
          cases h
          refine ⟨⟨mt List.isEmpty_iff.mpr hname, ?_, ?_⟩, (braced_append s rest).symm⟩
          · exact fun hopening => (hall _ hopening).1 rfl
          · exact fun hclosing => (hall _ hclosing).2 rfl
      · cases h
    · cases h
  · rintro ⟨hs, rfl⟩
    simp only [braced_append, Request.bracedName?, takeWhile_name hs, List.drop_left,
      List.isEmpty_iff, hs.1, if_false]

theorem Occurs.apart_of_prefix {format a s b t : List CodePoint} (h : Occurs format a s)
    (h' : Occurs format b t) (hab : a <+: b) : (a = b ∧ s = t) ∨ a ++ braced s <+: b := by
  obtain ⟨d, rfl⟩ := hab
  obtain ⟨hs, x, hx⟩ := h
  obtain ⟨ht, y, hy⟩ := h'
  have heq : braced s ++ x = d ++ (braced t ++ y) := by
    rw [← List.append_cancel_left_eq a]
    simpa using hx.trans hy.symm
  rcases List.append_eq_append_iff.mp heq with ⟨e, rfl, -⟩ | ⟨e, he, hrest⟩
  · exact .inr (by simp)
  · cases e with
    | nil => exact .inr (by simp [he])
    | cons c e =>
      -- The second name opens its braces in the first one, so it is that one.
      rw [braced_append, List.cons_append, List.cons.injEq] at hrest
      obtain rfl := hrest.1
      obtain rfl := eq_nil_of_braced_eq hs he
      exact .inl ⟨by simp, (braced_append_inj hs ht heq).1⟩

/-- Two names in braces are the same or do not overlap. -/
theorem Occurs.apart {format a s b t : List CodePoint} (h : Occurs format a s)
    (h' : Occurs format b t) :
    (a = b ∧ s = t) ∨ a ++ braced s <+: b ∨ b ++ braced t <+: a := by
  have hfront {a s : List CodePoint} (h : Occurs format a s) : a <+: format :=
    (List.prefix_append a _).trans h.2
  rcases List.prefix_or_prefix_of_prefix (hfront h) (hfront h') with hab | hba
  · exact (h.apart_of_prefix h' hab).imp_right .inl
  · rcases h'.apart_of_prefix h hba with ⟨rfl, rfl⟩ | hbefore
    · exact .inl ⟨rfl, rfl⟩
    · exact .inr (.inr hbefore)

/-! ### Formats in pieces -/

/-- A piece of a format. -/
inductive Piece
  | kept (c : CodePoint)
  | name (s : List CodePoint)

/-- What a piece looks like in the format. -/
def Piece.text : Piece → List CodePoint
  | .kept c => [c]
  | .name s => braced s

theorem Piece.text_ne_nil (p : Piece) : p.text ≠ [] := by
  cases p <;> exact List.cons_ne_nil _ _

/-- The pieces of a format: every name in braces is one of them, and all else is kept. -/
structure Cut (format : List CodePoint) (pieces : List Piece) : Prop where
  text : format = pieces.flatMap Piece.text
  isName : ∀ s, .name s ∈ pieces → IsName s
  every : ∀ front s, Occurs format front s →
    ∃ before after, pieces = before ++ .name s :: after ∧ before.flatMap Piece.text = front

variable {format f g : List CodePoint} {p : Piece} {pieces ps qs : List Piece}

theorem not_occurs_nil {front s : List CodePoint} : ¬ Occurs [] front s := by
  rintro ⟨-, h⟩
  simp [braced] at h

theorem Cut.nil : Cut [] [] where
  text := rfl
  isName := nofun
  every _ _ h := absurd h not_occurs_nil

/-- The pieces behind the first one. -/
theorem Cut.tail (h : Cut (p.text ++ f) (p :: ps)) : Cut f ps where
  text := List.append_cancel_left h.text
  isName s hs := h.isName s (List.mem_cons_of_mem p hs)
  every front s := by
    rintro ⟨hs, hwhole⟩
    have hoccurs : Occurs (p.text ++ f) (p.text ++ front) s :=
      ⟨hs, by rw [List.append_assoc]; exact (List.prefix_append_right_inj _).mpr hwhole⟩
    obtain ⟨before, after, heq, hfront⟩ := h.every _ s hoccurs
    cases before with
    | nil => exact absurd (List.append_eq_nil_iff.mp hfront.symm).1 p.text_ne_nil
    | cons q before =>
      obtain ⟨rfl, rfl⟩ := List.cons.inj heq
      exact ⟨before, after, rfl, List.append_cancel_left hfront⟩

/-- Where a character is kept, no name in braces begins. -/
theorem Cut.not_occurs_kept {c : CodePoint} (h : Cut format (.kept c :: ps)) (s : List CodePoint) :
    ¬ Occurs format [] s := by
  intro hs
  obtain ⟨before, after, heq, hfront⟩ := h.every [] s hs
  cases before with
  | nil => cases heq
  | cons p before => exact p.text_ne_nil (List.append_eq_nil_iff.mp hfront).1

/-- A name in braces in front of a format that is cut. -/
theorem Cut.name {s : List CodePoint} (hs : IsName s) (h : Cut f ps) :
    Cut (braced s ++ f) (.name s :: ps) where
  text := congrArg _ h.text
  isName t ht := by
    rcases List.mem_cons.mp ht with heq | hmem
    · cases heq
      exact hs
    · exact h.isName t hmem
  every front t ht := by
    have hfirst : Occurs (braced s ++ f) [] s := ⟨hs, List.prefix_append _ _⟩
    rcases hfirst.apart ht with ⟨rfl, rfl⟩ | ⟨rest, rfl⟩ | hbefore
    · exact ⟨[], ps, rfl, rfl⟩
    · obtain ⟨before, after, rfl, hrest⟩ := h.every rest t
        ⟨ht.1, (List.prefix_append_right_inj (braced s)).mp (by simpa using ht.2)⟩
      exact ⟨.name s :: before, after, rfl, congrArg _ hrest⟩
    · simp [braced] at hbefore

/-- A character in front of a format that is cut, where no name in braces begins. -/
theorem Cut.kept {c : CodePoint} (hnone : ∀ s, ¬ Occurs (c :: f) [] s) (h : Cut f ps) :
    Cut (c :: f) (.kept c :: ps) where
  text := congrArg _ h.text
  isName s hs := h.isName s (by simpa using hs)
  every front s hs := by
    cases front with
    | nil => exact absurd hs (hnone s)
    | cons d front =>
      obtain ⟨rfl, hrest⟩ := List.cons_prefix_cons.mp hs.2
      obtain ⟨before, after, rfl, hfront⟩ := h.every front s ⟨hs.1, hrest⟩
      exact ⟨.kept d :: before, after, rfl, congrArg _ hfront⟩

/-- Every format has pieces. -/
theorem exists_cut (format : List CodePoint) : ∃ pieces, Cut format pieces := by
  induction hlength : format.length using Nat.strongRecOn generalizing format with
  | ind n ih =>
    subst hlength
    cases format with
    | nil => exact ⟨[], .nil⟩
    | cons c f =>
      by_cases hname : ∃ s, Occurs (c :: f) [] s
      · obtain ⟨s, hs, rest, hrest⟩ := hname
        have hshort : rest.length < (c :: f).length := by
          rw [← hrest]
          simp only [braced, List.nil_append, List.cons_append, List.length_cons,
            List.length_append]
          omega
        obtain ⟨ps, hps⟩ := ih _ hshort rest rfl
        exact ⟨.name s :: ps, hrest ▸ hps.name hs⟩
      · obtain ⟨ps, hps⟩ := ih f.length (Nat.lt_succ_self _) f rfl
        exact ⟨.kept c :: ps, hps.kept (not_exists.mp hname)⟩

/-- Whether a name in braces lies across the border of two texts. -/
def Spans (f g : List CodePoint) : Prop :=
  ∃ s a b, IsName s ∧ braced s = a ++ b ∧ a ≠ [] ∧ b ≠ [] ∧ a <:+ f ∧ b <+: g

/-- No name lies across a border behind which a brace opens. -/
theorem not_spans_of_opening (f g : List CodePoint) : ¬ Spans f (.char '{' :: g) := by
  rintro ⟨s, a, b, hs, hab, ha, hb, -, hbg⟩
  cases b with
  | nil => exact hb rfl
  | cons c b =>
    obtain ⟨rfl, -⟩ := List.cons_prefix_cons.mp hbg
    exact ha (eq_nil_of_braced_eq hs hab)

/-- If no name lies across, each one in two texts in a row stands in one of them. -/
theorem Occurs.of_append {front s : List CodePoint} (h : Occurs (f ++ g) front s)
    (hspan : ¬ Spans f g) : Occurs f front s ∨ ∃ rest, front = f ++ rest ∧ Occurs g rest s := by
  obtain ⟨hs, hwhole⟩ := h
  rcases List.prefix_or_prefix_of_prefix hwhole (List.prefix_append f g) with h | ⟨b, hb⟩
  · exact .inl ⟨hs, h⟩
  · have hbg : b <+: g := by rwa [← hb, List.prefix_append_right_inj] at hwhole
    rcases List.append_eq_append_iff.mp hb with ⟨rest, hrest, rfl⟩ | ⟨a, ha, hab⟩
    · exact .inr ⟨rest, hrest, hs, hbg⟩
    · -- The name begins before the border and ends behind it, unless one of its parts is empty.
      by_cases hbnil : b = []
      · exact .inl ⟨hs, by simp [ha, hab, hbnil]⟩
      · by_cases hanil : a = []
        · exact .inr ⟨[], by simp [ha, hanil], hs, by simpa [hab, hanil] using hbg⟩
        · exact absurd ⟨s, a, b, hs, hab, hanil, hbnil, ⟨front, ha.symm⟩, hbg⟩ hspan

/-- Two formats in a row have the pieces of both, if no name lies across. -/
theorem Cut.append (hf : Cut f ps) (hg : Cut g qs) (hspan : ¬ Spans f g) :
    Cut (f ++ g) (ps ++ qs) where
  text := by rw [List.flatMap_append, ← hf.text, ← hg.text]
  isName s hs := (List.mem_append.mp hs).elim (hf.isName s) (hg.isName s)
  every front s h := by
    rcases h.of_append hspan with hleft | ⟨rest, rfl, hright⟩
    · obtain ⟨before, after, rfl, hfront⟩ := hf.every front s hleft
      exact ⟨before, after ++ qs, by simp, hfront⟩
    · obtain ⟨before, after, rfl, hrest⟩ := hg.every rest s hright
      exact ⟨ps ++ before, after, by simp, by rw [List.flatMap_append, ← hf.text, hrest]⟩

end KeyFormat

namespace Request
open KeyFormat

/-! ### The key of a request -/

/-- What a piece of a format stands for in the key of a request. -/
inductive Yields (r : Request) : Piece → List CodePoint → Prop
  | kept (c : CodePoint) : Yields r (.kept c) [c]
  | method : Yields r (.name ("method" : Text).toList) r.method.toList
  | url : Yields r (.name ("url" : Text).toList) r.url.toList
  | version : Yields r (.name ("version" : Text).toList) r.version.toList
  /-- The first value of a field, found under its name in lower case. -/
  | field {name : List CodePoint} {value : Text} {before after : FieldList}
      (hfields : r.fields = before ++ (Text.ofList (lower name), value) :: after)
      (hfirst : ∀ f ∈ before, f.1 ≠ Text.ofList (lower name)) :
      Yields r (.name (("field." : Text).toList ++ name)) value.toList
  | noField {name : List CodePoint} (hnone : ∀ f ∈ r.fields, f.1 ≠ Text.ofList (lower name)) :
      Yields r (.name (("field." : Text).toList ++ name)) []
  | other {s : List CodePoint} (hfield : ¬ ("field." : Text).toList <+: s)
      (hmethod : s ≠ ("method" : Text).toList)
      (hurl : s ≠ ("url" : Text).toList) (hversion : s ≠ ("version" : Text).toList) :
      Yields r (.name s) (braced s)

/-- The part of a key that comes from a piece of the format. -/
def value (r : Request) : Piece → List CodePoint
  | .kept c => [c]
  | .name s => (r.placeholder? s).getD (braced s)

variable {r : Request}

theorem yields_field (name : List CodePoint) :
    r.Yields (.name (("field." : Text).toList ++ name))
      ((r.fields.first? (Text.ofList (lower name))).getD "").toList := by
  cases hfirst : r.fields.first? (Text.ofList (lower name)) with
  | none =>
    refine .noField fun f hf => ?_
    exact (bne_iff_ne.mp (List.lookup_eq_none_iff.mp hfirst f hf)).symm
  | some value =>
    obtain ⟨before, after, hfields, hbefore⟩ := List.lookup_eq_some_iff.mp hfirst
    exact .field hfields fun f hf => (bne_iff_ne.mp (hbefore f hf)).symm

theorem yields_value (p : Piece) : r.Yields p (r.value p) := by
  cases p with
  | kept c => exact .kept c
  | name s =>
    by_cases hfield : ("field." : Text).toList <+: s
    · obtain ⟨name, rfl⟩ := hfield
      rw [value, placeholder?, if_pos (List.isPrefixOf_iff_prefix.mpr (List.prefix_append _ _))]
      exact yields_field name
    · rw [value, placeholder?, if_neg (mt List.isPrefixOf_iff_prefix.mp hfield)]
      have hname {t : Text} : Text.ofList s = t ↔ s = t.toList :=
        ⟨congrArg Text.toList, congrArg Text.ofList⟩
      dsimp only
      split_ifs with hmethod hurl hversion
      · exact hname.mp hmethod ▸ .method
      · exact hname.mp hurl ▸ .url
      · exact hname.mp hversion ▸ .version
      · exact .other hfield (mt hname.mpr hmethod) (mt hname.mpr hurl) (mt hname.mpr hversion)

/-- One pass over a format gives what its pieces stand for. -/
theorem expand_of_cut {format : List CodePoint} {pieces : List Piece} (h : Cut format pieces)
    {fuel : Nat} (hfuel : format.length ≤ fuel) :
    r.expand fuel format = pieces.flatMap r.value := by
  induction pieces generalizing format fuel with
  | nil =>
    rw [h.text]
    cases fuel <;> rfl
  | cons p ps ih =>
    obtain ⟨f, rfl⟩ : ∃ f, format = p.text ++ f := ⟨_, h.text⟩
    have hpositive : 0 < p.text.length := List.length_pos_of_ne_nil p.text_ne_nil
    rw [List.length_append] at hfuel
    obtain ⟨fuel, rfl⟩ : ∃ n, fuel = n + 1 := ⟨fuel - 1, by omega⟩
    have hrest : r.expand fuel f = ps.flatMap r.value := ih h.tail (by omega)
    rw [List.flatMap_cons, ← hrest]
    cases p with
    | kept c =>
      have hnone : bracedName? (c :: f) = none := by
        refine Option.eq_none_iff_forall_ne_some.mpr fun ⟨s, rest⟩ hsome => ?_
        obtain ⟨hs, heq⟩ := bracedName?_eq_some_iff.mp hsome
        exact h.not_occurs_kept s ⟨hs, rest, heq.symm⟩
      simp only [Piece.text, List.singleton_append, expand, hnone, value]
    | name s =>
      have hs : IsName s := h.isName s List.mem_cons_self
      have hsome : bracedName? (braced s ++ f) = some (s, f) :=
        bracedName?_eq_some_iff.mpr ⟨hs, rfl⟩
      rw [braced_append] at hsome
      simp only [Piece.text, braced_append, expand, hsome, value]
      rfl

theorem key_of_cut {format : Text} {pieces : List Piece} (h : Cut format.toList pieces) :
    (r.key format).toList = pieces.flatMap r.value := by
  rw [key, expand_of_cut h (Nat.le_refl _)]

/-- A key is its format with every name in braces replaced by what it stands for, and all else kept.
So the keys of two formats make up that of both in a row, unless a name lies across. -/
theorem key_replaces (r : Request) (format : Text) :
    (∀ a s b t, Occurs format.toList a s → Occurs format.toList b t →
      (a = b ∧ s = t) ∨ a ++ braced s <+: b ∨ b ++ braced t <+: a) ∧
    (∃ pieces, Cut format.toList pieces) ∧
    (∀ pieces, Cut format.toList pieces →
      ∃ outs, List.Forall₂ r.Yields pieces outs ∧ (r.key format).toList = outs.flatten) ∧
    ∀ more : Text, ¬ Spans format.toList more.toList →
      r.key (format ++ more) = r.key format ++ r.key more := by
  refine ⟨fun a s b t h h' => h.apart h', exists_cut _, fun pieces hcut => ?_, fun more hspan => ?_⟩
  · refine ⟨pieces.map r.value, ?_, key_of_cut hcut⟩
    exact List.forall₂_map_right_iff.mpr (List.forall₂_same.mpr fun p _ => yields_value p)
  · obtain ⟨ps, hps⟩ := exists_cut format.toList
    obtain ⟨qs, hqs⟩ := exists_cut more.toList
    have hboth : Cut (format ++ more).toList (ps ++ qs) := by
      rw [Text.toList_append]
      exact hps.append hqs hspan
    refine Text.ext ?_
    rw [Text.toList_append, key_of_cut hboth, key_of_cut hps, key_of_cut hqs, List.flatMap_append]

/-- A request whose parts look like placeholders, of which one would put in another. -/
def bracedRequest : Request where
  __ := blank
  method := "\x7burl\x7d"
  url := "/a"
  fields := [("x-id", "\x7bmethod\x7d"), ("x-id", "2")]

/-- The format `{{method}}{field.X-Id}`. -/
def nestedFormat : Text := "\x7b\x7bmethod\x7d\x7d\x7bfield.X-Id\x7d"

/-- The format `{nope}{}{field.via}|{`. -/
def strayFormat : Text := "\x7bnope\x7d\x7b\x7d\x7bfield.via\x7d|\x7b"

/-- Neither stray braces nor what the request puts in are replaced: the key begins with
`{{url}}{method}` and ends in `{nope}{}|{`. -/
theorem key_replaces_braced :
    bracedRequest.key (nestedFormat ++ strayFormat) =
      "\x7b\x7burl\x7d\x7d\x7bmethod\x7d" ++ "\x7bnope\x7d\x7b\x7d|\x7b" := by
  have hspan : ¬ Spans nestedFormat.toList strayFormat.toList := not_spans_of_opening _ _
  rw [(key_replaces bracedRequest nestedFormat).2.2.2 strayFormat hspan]
  decide +kernel

end Request

end TrafficReplay
