/-!
# Parts of a text

Finding one text in another and cutting a text at a separator.

Main statements: a cut can be made if the separator occurs (`cutAt?_eq_none_iff`), leaves nothing
out, and is made where the separator occurs first (`cutAt?_eq_some_iff`).
-/

namespace TrafficReplay.Text

variable {α : Type} [DecidableEq α]

/-- Cut at the first occurrence of a separator: what stands before it and what stands after it. -/
def cutAt? (sep : List α) : List α → Option (List α × List α)
  | [] => if sep.isEmpty then some ([], []) else none
  | c :: s =>
    if sep.isPrefixOf (c :: s) then some ([], (c :: s).drop sep.length)
    else (cutAt? sep s).map fun r => (c :: r.1, r.2)

/-- Whether a text occurs in another one. -/
def occursIn (part whole : List α) : Bool := (cutAt? part whole).isSome

/-- Cut at the last occurrence of a character. -/
def cutAtLast? (sep : α) : List α → Option (List α × List α)
  | [] => none
  | c :: s =>
    match cutAtLast? sep s with
    | some (a, b) => some (c :: a, b)
    | none => if c = sep then some ([], s) else none

/-- The pieces of a text between the occurrences of a character; there is always one. -/
def pieces (sep : α) : List α → List (List α)
  | [] => [[]]
  | c :: s =>
    if c = sep then [] :: pieces sep s
    else
      match pieces sep s with
      | [] => [[c]]
      | p :: ps => (c :: p) :: ps

/-- Texts or strings put in a row with a separator between neighbours. -/
def join {β : Type} [Append β] [Inhabited β] (sep : β) : List β → β
  | [] => default
  | [s] => s
  | s :: t :: r => s ++ sep ++ join sep (t :: r)

/-- Whether a text ends in another one. -/
def endsIn (part whole : List α) : Bool := part.reverse.isPrefixOf whole.reverse

theorem endsIn_iff {part whole : List α} : endsIn part whole = true ↔ part <:+ whole := by
  rw [endsIn, List.isPrefixOf_iff_prefix, List.reverse_prefix]

/-- A cut leaves nothing out. -/
theorem eq_append_of_cutAt? {sep s a b : List α} (h : cutAt? sep s = some (a, b)) :
    s = a ++ sep ++ b := by
  induction s generalizing a with
  | nil =>
    unfold cutAt? at h
    split at h
    · rename_i hsep
      cases h
      simpa using hsep
    · cases h
  | cons c s ih =>
    unfold cutAt? at h
    split at h
    · rename_i hsep
      cases h
      exact (List.prefix_iff_eq_append.mp (List.isPrefixOf_iff_prefix.mp hsep)).symm
    · obtain ⟨⟨a', b'⟩, hcut, heq⟩ := Option.map_eq_some_iff.mp h
      cases heq
      rw [ih hcut]
      rfl

/-- A text can be cut exactly where the separator occurs. -/
theorem cutAt?_eq_none_iff {sep s : List α} : cutAt? sep s = none ↔ ¬ sep <:+: s := by
  induction s with
  | nil => simp [cutAt?]
  | cons c s ih =>
    rw [List.infix_cons_iff, not_or, ← ih, cutAt?, ← List.isPrefixOf_iff_prefix]
    split <;> rename_i hsep <;> simp [hsep]

theorem cutAt?_append {c : α} {sep a : List α} (hc : c ∉ sep) (ha : ¬ c :: sep <:+: a)
    (b : List α) : cutAt? (c :: sep) (a ++ (c :: sep ++ b)) = some (a, b) := by
  induction a with
  | nil => simp [cutAt?]
  | cons d a ih =>
    rw [List.infix_cons_iff, not_or] at ha
    have hnot : ¬ c :: sep <+: d :: (a ++ (c :: sep ++ b)) := by
      intro hprefix
      have happend := List.prefix_append (d :: a) (c :: sep ++ b)
      rcases List.prefix_or_prefix_of_prefix hprefix happend with h | ⟨r, hr⟩
      · exact ha.1 h
      · obtain ⟨rfl, rfl⟩ := List.cons.inj hr
        cases r with
        | nil => exact ha.1 (by simp)
        | cons x r =>
          -- The separator would begin before its last occurrence: its first character comes again.
          have hx : x :: r <+: d :: (a ++ x :: r) ++ b := by simpa using hprefix
          obtain ⟨rfl, -⟩ := List.cons_prefix_cons.mp hx
          exact hc (by simp)
    rw [List.cons_append, cutAt?, if_neg (mt List.isPrefixOf_iff_prefix.mp hnot), ih ha.2]
    rfl

theorem not_infix_of_cutAt? {sep s a b : List α} (hsep : sep ≠ [])
    (h : cutAt? sep s = some (a, b)) : ¬ sep <:+: a := by
  induction s generalizing a with
  | nil =>
    unfold cutAt? at h
    split at h
    · cases h
      simpa using hsep
    · cases h
  | cons c s ih =>
    have hwhole := eq_append_of_cutAt? h
    unfold cutAt? at h
    split at h
    · cases h
      simpa using hsep
    · rename_i hnot
      obtain ⟨⟨a', b'⟩, hcut, heq⟩ := Option.map_eq_some_iff.mp h
      cases heq
      rw [List.infix_cons_iff, not_or]
      refine ⟨fun hprefix => hnot (List.isPrefixOf_iff_prefix.mpr ?_), ih hcut⟩
      rw [hwhole, List.append_assoc]
      exact hprefix.trans (List.prefix_append _ _)

/-- A cut is made where the separator occurs first.  If its first character does not come in it
again, what stands before it is a text in which it does not occur. -/
theorem cutAt?_eq_some_iff {c : α} {sep s a b : List α} (hc : c ∉ sep) :
    cutAt? (c :: sep) s = some (a, b) ↔ s = a ++ (c :: sep ++ b) ∧ ¬ c :: sep <:+: a := by
  constructor
  · intro h
    have hs := eq_append_of_cutAt? h
    rw [List.append_assoc] at hs
    exact ⟨hs, not_infix_of_cutAt? (List.cons_ne_nil c sep) h⟩
  · rintro ⟨rfl, ha⟩
    exact cutAt?_append hc ha b

theorem cutAtLast?_eq_none_iff {c : α} {s : List α} : cutAtLast? c s = none ↔ c ∉ s := by
  induction s with
  | nil => simp [cutAtLast?]
  | cons d s ih =>
    rw [List.mem_cons, not_or, ← ih, cutAtLast?]
    cases cutAtLast? c s with
    | some p => simp
    | none => simp [eq_comm]

theorem cutAtLast?_append_cons {c : α} {b : List α} (hb : c ∉ b) (a : List α) :
    cutAtLast? c (a ++ c :: b) = some (a, b) := by
  induction a with
  | nil => simp [cutAtLast?, cutAtLast?_eq_none_iff.mpr hb]
  | cons d a ih => simp [cutAtLast?, ih]

/-- A cut at a character is made where that occurs last. -/
theorem cutAtLast?_eq_some_iff {c : α} {s a b : List α} :
    cutAtLast? c s = some (a, b) ↔ s = a ++ c :: b ∧ c ∉ b := by
  constructor
  · intro h
    induction s generalizing a with
    | nil => cases h
    | cons d s ih =>
      rw [cutAtLast?] at h
      cases hcut : cutAtLast? c s with
      | some p =>
        rw [hcut] at h
        cases h
        obtain ⟨rfl, hb⟩ := ih hcut
        exact ⟨rfl, hb⟩
      | none =>
        simp only [hcut, Option.ite_none_right_eq_some, Option.some.injEq, Prod.mk.injEq] at h
        obtain ⟨rfl, rfl, rfl⟩ := h
        exact ⟨rfl, cutAtLast?_eq_none_iff.mp hcut⟩
  · rintro ⟨rfl, hb⟩
    exact cutAtLast?_append_cons hb a

theorem pieces_eq_singleton {sep : α} {s : List α} (h : sep ∉ s) : pieces sep s = [s] := by
  induction s with
  | nil => rfl
  | cons c s ih =>
    rw [List.mem_cons, not_or] at h
    rw [pieces, if_neg (Ne.symm h.1), ih h.2]

/-- What stands in front of the first separator is a piece. -/
theorem pieces_append_cons {sep : α} {s : List α} (h : sep ∉ s) (rest : List α) :
    pieces sep (s ++ sep :: rest) = s :: pieces sep rest := by
  induction s with
  | nil => simp [pieces]
  | cons c s ih =>
    rw [List.mem_cons, not_or] at h
    rw [List.cons_append, pieces, if_neg (Ne.symm h.1), ih h.2]

/-- Texts without the separator that are put in a row are the pieces of the whole. -/
theorem pieces_join {sep : Char} {ss : List String} (hss : ss ≠ [])
    (h : ∀ s ∈ ss, sep ∉ s.toList) :
    pieces sep (join (String.singleton sep) ss).toList = ss.map String.toList := by
  induction ss with
  | nil => exact absurd rfl hss
  | cons s ss ih =>
    obtain ⟨hs, hrest⟩ := List.forall_mem_cons.mp h
    cases ss with
    | nil => exact pieces_eq_singleton hs
    | cons t ss =>
      rw [List.map_cons, ← ih (List.cons_ne_nil t ss) hrest, ← pieces_append_cons hs]
      simp [join]

/-- What is put in front of the first text is put in front of all. -/
theorem join_append_cons {β : Type} [Append β] [Inhabited β] [Std.Associative (α := β) (· ++ ·)]
    (sep a b : β) (ss : List β) : join sep ((a ++ b) :: ss) = a ++ join sep (b :: ss) := by
  cases ss with
  | nil => rfl
  | cons s ss =>
    have hassoc (x y z : β) : x ++ y ++ z = x ++ (y ++ z) := Std.Associative.assoc x y z
    simp only [join, hassoc]

end TrafficReplay.Text
