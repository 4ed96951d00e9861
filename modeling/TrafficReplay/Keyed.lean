import TrafficReplay.Text.Basic

/-!
# Maps in order of insertion

A `Keyed α` is a list of entries, each with a text as its key. Putting a value under a key that is
there replaces the value in its place; a new key goes to the end.

Main statements: what a look-up finds after `put` (`get?_put`), that no key is there twice
(`nodup_put`), that merging is associative (`merge_assoc`), and when it changes nothing
(`merge_eq_self_iff`).
-/

namespace TrafficReplay

/-- Entries under keys, in the order in which the keys came. -/
structure Keyed (α : Type) where
  entries : List (Text × α)
  deriving Repr, DecidableEq

namespace Keyed

variable {α : Type}

/-- No entries. -/
def empty : Keyed α := ⟨[]⟩

/-- The keys in order. -/
def keys (m : Keyed α) : List Text := m.entries.map Prod.fst

/-- The values in the order of their keys. -/
def values (m : Keyed α) : List α := m.entries.map Prod.snd

/-- The number of entries. -/
def size (m : Keyed α) : Nat := m.entries.length

/-- The value of the first entry under a key. -/
def find? (key : Text) : List (Text × α) → Option α
  | [] => none
  | (k, v) :: es => if k = key then some v else find? key es

/-- The value under a key. -/
def get? (m : Keyed α) (key : Text) : Option α := find? key m.entries

/-- Whether there is an entry under a key. -/
def has (m : Keyed α) (key : Text) : Bool := (m.get? key).isSome

/-- Entries after putting a value under a key. -/
def putEntries (key : Text) (value : α) : List (Text × α) → List (Text × α)
  | [] => [(key, value)]
  | (k, v) :: es => if k = key then (k, value) :: es else (k, v) :: putEntries key value es

/-- Put a value under a key. -/
def put (m : Keyed α) (key : Text) (value : α) : Keyed α := ⟨putEntries key value m.entries⟩

/-- Put all entries of another map, in their order. -/
def merge (m other : Keyed α) : Keyed α :=
  other.entries.foldl (fun m e => m.put e.1 e.2) m

/-- Change the value under a key, or put one there. -/
def alter (m : Keyed α) (key : Text) (f : Option α → α) : Keyed α := m.put key (f (m.get? key))

@[simp] theorem get?_empty (key : Text) : (empty : Keyed α).get? key = none := rfl

@[simp] theorem merge_empty (m : Keyed α) : m.merge empty = m := rfl

theorem find?_putEntries (key key' : Text) (value : α) (es : List (Text × α)) :
    find? key' (putEntries key value es) = if key = key' then some value else find? key' es := by
  induction es with
  | nil => simp [putEntries, find?]
  | cons e es ih =>
    obtain ⟨k, v⟩ := e
    by_cases hk : k = key
    · subst hk
      by_cases h : k = key' <;> simp [putEntries, find?, h]
    · by_cases h : k = key'
      · subst h
        simp [putEntries, find?, hk, Ne.symm hk]
      · simp [putEntries, find?, hk, h, ih]

/-- A look-up after `put` finds the value put there, and all others as before. -/
theorem get?_put (m : Keyed α) (key key' : Text) (value : α) :
    (m.put key value).get? key' = if key = key' then some value else m.get? key' :=
  find?_putEntries key key' value m.entries

theorem keys_putEntries (key : Text) (value : α) (es : List (Text × α)) :
    (putEntries key value es).map Prod.fst =
      if key ∈ es.map Prod.fst then es.map Prod.fst else es.map Prod.fst ++ [key] := by
  induction es with
  | nil => rfl
  | cons e es ih =>
    obtain ⟨k, v⟩ := e
    by_cases hk : k = key
    · subst hk
      simp [putEntries]
    · simp only [putEntries, hk, if_false, List.map_cons, ih, List.mem_cons, Ne.symm hk, false_or]
      split <;> simp

theorem putEntries_of_not_mem {key : Text} {es : List (Text × α)}
    (h : key ∉ es.map Prod.fst) (value : α) : putEntries key value es = es ++ [(key, value)] := by
  induction es with
  | nil => rfl
  | cons e es ih =>
    obtain ⟨k, v⟩ := e
    simp only [List.map_cons, List.mem_cons, not_or] at h
    simp [putEntries, Ne.symm h.1, ih h.2]

theorem isSome_find?_iff {key : Text} {es : List (Text × α)} :
    (find? key es).isSome = true ↔ key ∈ es.map Prod.fst := by
  induction es with
  | nil => simp [find?]
  | cons e es ih =>
    obtain ⟨k, v⟩ := e
    by_cases hk : k = key
    · simp [find?, hk]
    · simpa [find?, hk, Ne.symm hk] using ih

/-- There is a value under the keys and under no other text. -/
theorem isSome_get?_iff {m : Keyed α} {key : Text} :
    (m.get? key).isSome = true ↔ key ∈ m.keys :=
  isSome_find?_iff

/-- The keys after `put`: the place of a key that is there stays, a new one goes to the end. -/
theorem keys_put (m : Keyed α) (key : Text) (value : α) :
    (m.put key value).keys = if key ∈ m.keys then m.keys else m.keys ++ [key] :=
  keys_putEntries key value m.entries

/-- No key is there twice after `put` if none was before. -/
theorem nodup_put {m : Keyed α} (h : m.keys.Nodup) (key : Text) (value : α) :
    (m.put key value).keys.Nodup := by
  rw [keys_put]
  split
  · exact h
  · rename_i hk
    rw [List.nodup_append]
    exact ⟨h, by simp, fun a ha b hb => by simp_all; rintro rfl; exact hk ha⟩

theorem mem_keys_put {m : Keyed α} {key x : Text} {value : α} :
    x ∈ (m.put key value).keys ↔ x ∈ m.keys ∨ x = key := by
  rw [keys_put]
  split
  · rename_i hk
    exact ⟨Or.inl, fun h => h.elim id fun e => e ▸ hk⟩
  · simp

/-- A later value for a key takes the place of an earlier one. -/
theorem put_put (m : Keyed α) (key : Text) (a b : α) :
    (m.put key a).put key b = m.put key b := by
  obtain ⟨es⟩ := m
  induction es with
  | nil => simp [put, putEntries]
  | cons e es ih =>
    obtain ⟨k, v⟩ := e
    by_cases hk : k = key
    · simp [put, putEntries, hk]
    · simpa [put, putEntries, hk] using ih

/-- A value for a key that is there can be put before a value for another key. -/
theorem put_comm {m : Keyed α} {key key' : Text} (h : key ∈ m.keys) (hne : key ≠ key') (a b : α) :
    (m.put key' b).put key a = (m.put key a).put key' b := by
  obtain ⟨es⟩ := m
  induction es with
  | nil => simp [keys] at h
  | cons e es ih =>
    obtain ⟨k, v⟩ := e
    by_cases hk : k = key
    · subst hk
      simp [put, putEntries, hne]
    · have hes : key ∈ es.map Prod.fst := by simpa [keys, Ne.symm hk] using h
      by_cases hk' : k = key'
      · subst hk'
        simp [put, putEntries, hk]
      · simpa [put, putEntries, hk, hk'] using ih hes

theorem mem_values_putEntries {key : Text} {value x : α} {es : List (Text × α)}
    (h : x ∈ (putEntries key value es).map Prod.snd) : x = value ∨ x ∈ es.map Prod.snd := by
  induction es with
  | nil => exact .inl (List.mem_singleton.mp h)
  | cons e es ih =>
    obtain ⟨k, v⟩ := e
    unfold putEntries at h
    split at h
    · exact (List.mem_cons.mp h).imp_right (List.mem_cons_of_mem v)
    · rcases List.mem_cons.mp h with rfl | h
      · exact .inr List.mem_cons_self
      · exact (ih h).imp_right (List.mem_cons_of_mem v)

/-- The values after `put` are the value put there and old ones. -/
theorem mem_values_put {m : Keyed α} {key : Text} {value x : α}
    (h : x ∈ (m.put key value).values) : x = value ∨ x ∈ m.values :=
  mem_values_putEntries h

theorem find?_eq_some_iff {key : Text} {x : α} {es : List (Text × α)}
    (h : (es.map Prod.fst).Nodup) : find? key es = some x ↔ (key, x) ∈ es := by
  induction es with
  | nil => simp [find?]
  | cons e es ih =>
    obtain ⟨k, v⟩ := e
    obtain ⟨hk, hes⟩ := List.nodup_cons.mp h
    by_cases hkey : k = key
    · subst hkey
      have hnot : (k, x) ∉ es := fun hmem => hk (List.mem_map.mpr ⟨_, hmem, rfl⟩)
      simp [find?, hnot, eq_comm]
    · simp [find?, hkey, Ne.symm hkey, ih hes]

/-- The values are what there is under the keys. -/
theorem mem_values_iff {m : Keyed α} (h : m.keys.Nodup) {x : α} :
    x ∈ m.values ↔ ∃ key, m.get? key = some x := by
  simp only [values, get?, find?_eq_some_iff h, List.mem_map, Prod.exists, exists_eq_right]

/-! ### Merging -/

theorem mem_keys_merge {m other : Keyed α} {x : Text} :
    x ∈ (m.merge other).keys ↔ x ∈ m.keys ∨ x ∈ other.keys := by
  obtain ⟨es⟩ := other
  induction es generalizing m with
  | nil => simp [merge, keys]
  | cons e es ih =>
    refine (@ih (m.put e.1 e.2)).trans ?_
    rw [mem_keys_put, or_assoc]
    simp [keys]

theorem nodup_merge {m : Keyed α} (h : m.keys.Nodup) (other : Keyed α) :
    (m.merge other).keys.Nodup := by
  obtain ⟨es⟩ := other
  induction es generalizing m with
  | nil => exact h
  | cons e es ih => exact ih (nodup_put h e.1 e.2)

/-- The values after a merge are values of the two maps. -/
theorem mem_values_merge {m other : Keyed α} {x : α} (h : x ∈ (m.merge other).values) :
    x ∈ m.values ∨ x ∈ other.values := by
  obtain ⟨es⟩ := other
  induction es generalizing m with
  | nil => exact .inl h
  | cons e es ih =>
    rcases ih h with h | h
    · rcases mem_values_put h with rfl | h
      · exact .inr List.mem_cons_self
      · exact .inl h
    · exact .inr (List.mem_cons_of_mem e.2 h)

/-- Entries under other keys go to the end. -/
theorem entries_merge_of_nodup {m : Keyed α} {es : List (Text × α)}
    (h : (m.keys ++ es.map Prod.fst).Nodup) : (m.merge ⟨es⟩).entries = m.entries ++ es := by
  induction es generalizing m with
  | nil => simp [merge]
  | cons e es ih =>
    have hnew : e.1 ∉ m.keys := fun he =>
      (List.nodup_append.mp h).2.2 e.1 he e.1 List.mem_cons_self rfl
    have hput : m.put e.1 e.2 = ⟨m.entries ++ [e]⟩ :=
      congrArg Keyed.mk (putEntries_of_not_mem hnew e.2)
    have hrest : ((m.put e.1 e.2).keys ++ es.map Prod.fst).Nodup := by
      rw [hput]
      simpa [keys] using h
    refine (ih hrest).trans ?_
    rw [hput]
    exact List.append_assoc _ _ _

/-- Merged into the empty map, a map stays as it is. -/
theorem empty_merge {m : Keyed α} (h : m.keys.Nodup) : empty.merge m = m := by
  have hentries : ((empty : Keyed α).merge m).entries = m.entries :=
    entries_merge_of_nodup (m := empty) h
  exact congrArg Keyed.mk hentries
/-- A value for a key that is there can be put after a merge in which the key does not occur. -/
theorem put_merge {m : Keyed α} {key : Text} {es : List (Text × α)} (h : key ∈ m.keys)
    (hes : key ∉ es.map Prod.fst) (a : α) :
    (m.merge ⟨es⟩).put key a = (m.put key a).merge ⟨es⟩ := by
  induction es generalizing m with
  | nil => rfl
  | cons e es ih =>
    simp only [List.map_cons, List.mem_cons, not_or] at hes
    have hput := put_comm h hes.1 a e.2
    exact (ih (mem_keys_put.mpr (.inl h)) hes.2).trans (congrArg (merge · ⟨es⟩) hput)

theorem merge_put {other : Keyed α} (h : other.keys.Nodup) (m : Keyed α) (key : Text) (a : α) :
    m.merge (other.put key a) = (m.merge other).put key a := by
  obtain ⟨es⟩ := other
  induction es generalizing m with
  | nil => rfl
  | cons e es ih =>
    obtain ⟨k, v⟩ := e
    obtain ⟨hk, hes⟩ := List.nodup_cons.mp h
    by_cases hkey : k = key
    · subst hkey
      have hmem : k ∈ (m.put k v).keys := mem_keys_put.mpr (.inr rfl)
      calc m.merge (put ⟨(k, v) :: es⟩ k a) = (m.put k a).merge ⟨es⟩ := by
            simp [put, putEntries, merge]
        _ = ((m.put k v).put k a).merge ⟨es⟩ := by rw [put_put]
        _ = ((m.put k v).merge ⟨es⟩).put k a := (put_merge hmem hk a).symm
    · have hrest := ih (m.put k v) hes
      simpa [put, putEntries, hkey, merge] using hrest

/-- Merging in two goes is merging once what the two come to. -/
theorem merge_assoc {other : Keyed α} (h : other.keys.Nodup) (m last : Keyed α) :
    m.merge (other.merge last) = (m.merge other).merge last := by
  obtain ⟨es⟩ := last
  induction es generalizing other with
  | nil => rfl
  | cons e es ih =>
    refine (ih (nodup_put h e.1 e.2)).trans ?_
    rw [merge_put h]
    rfl

/-- Under other keys, there is what was there before. -/
theorem get?_merge_of_not_mem {other : Keyed α} {key : Text} (h : key ∉ other.keys)
    (m : Keyed α) : (m.merge other).get? key = m.get? key := by
  obtain ⟨es⟩ := other
  induction es generalizing m with
  | nil => rfl
  | cons e es ih =>
    simp only [keys, List.map_cons, List.mem_cons, not_or] at h
    refine (ih (m.put e.1 e.2) h.2).trans ?_
    rw [get?_put, if_neg (Ne.symm h.1)]

/-- Under a key of the map that is merged, it does not matter what was there before. -/
theorem get?_merge_of_mem {other : Keyed α} {key : Text} (h : key ∈ other.keys)
    (m m' : Keyed α) : (m.merge other).get? key = (m'.merge other).get? key := by
  obtain ⟨es⟩ := other
  induction es generalizing m m' with
  | nil => simp [keys] at h
  | cons e es ih =>
    by_cases hes : key ∈ es.map Prod.fst
    · exact ih (m.put e.1 e.2) (m'.put e.1 e.2) hes
    · have hkey : e.1 = key := by
        simp only [keys, List.map_cons, List.mem_cons] at h
        exact (h.resolve_right hes).symm
      have hafter (m : Keyed α) : (m.merge ⟨e :: es⟩).get? key = some e.2 :=
        (get?_merge_of_not_mem hes (m.put e.1 e.2)).trans (by rw [get?_put, if_pos hkey])
      rw [hafter, hafter]

/-- To put a value where it is already changes nothing. -/
theorem put_eq_self {m : Keyed α} {key : Text} {a : α} (h : m.get? key = some a) :
    m.put key a = m := by
  obtain ⟨es⟩ := m
  induction es with
  | nil => cases h
  | cons e es ih =>
    obtain ⟨k, v⟩ := e
    by_cases hk : k = key
    · have hv : v = a := by simpa [get?, find?, hk] using h
      simp [put, putEntries, hk, hv]
    · have hes : (⟨es⟩ : Keyed α).get? key = some a := by simpa [get?, find?, hk] using h
      simpa [put, putEntries, hk] using ih hes

theorem merge_eq_self {m other : Keyed α} (h : other.keys.Nodup)
    (hsame : ∀ key ∈ other.keys, m.get? key = other.get? key) : m.merge other = m := by
  obtain ⟨es⟩ := other
  induction es with
  | nil => rfl
  | cons e es ih =>
    obtain ⟨k, v⟩ := e
    obtain ⟨hk, hes⟩ := List.nodup_cons.mp h
    have hput : m.put k v = m := by
      refine put_eq_self ((hsame k List.mem_cons_self).trans ?_)
      simp [get?, find?]
    rw [merge, List.foldl_cons, hput]
    refine ih hes fun key hkey => ?_
    have hne : k ≠ key := fun heq => hk (heq ▸ hkey)
    simpa [get?, find?, hne] using hsame key (List.mem_cons_of_mem k hkey)

/-- A merge changes nothing exactly if all entries of the other map are there. -/
theorem merge_eq_self_iff {m other : Keyed α} (h : other.keys.Nodup) :
    m.merge other = m ↔ ∀ key ∈ other.keys, m.get? key = other.get? key := by
  refine ⟨fun heq key hkey => ?_, merge_eq_self h⟩
  calc m.get? key = (m.merge other).get? key := by rw [heq]
    _ = (other.merge other).get? key := get?_merge_of_mem hkey m other
    _ = other.get? key := by rw [merge_eq_self h fun _ _ => rfl]

end Keyed

end TrafficReplay
