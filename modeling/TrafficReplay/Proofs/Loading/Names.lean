import TrafficReplay.Traffic.NameTable

/-!
# Names gained by a table

While a name table is not frozen, having names in it cannot fail: `localize` is `add`, which puts a
name at the end unless it is there. A table that has gained names holds the old ones and the new
ones (`mem_addAll`), and what is gained in two goes is gained in a row (`addAll_append`).
-/

namespace TrafficReplay.NameTable

/-- A table with one name more, unless the name is there. -/
def add (t : NameTable) (name : Text) : NameTable :=
  if t.has name then t else { t with names := t.names ++ [name] }

/-- A table with some names more. -/
def addAll (t : NameTable) (names : List Text) : NameTable := names.foldl add t

variable {t : NameTable}

@[simp] theorem addAll_nil (t : NameTable) : t.addAll [] = t := rfl

@[simp] theorem addAll_singleton (t : NameTable) (name : Text) : t.addAll [name] = t.add name :=
  rfl

@[simp] theorem addAll_append (t : NameTable) (ns ms : List Text) :
    t.addAll (ns ++ ms) = (t.addAll ns).addAll ms := by
  simp [addAll, List.foldl_append]

@[simp] theorem frozen_add (t : NameTable) (name : Text) : (t.add name).frozen = t.frozen := by
  unfold add
  split <;> rfl

@[simp] theorem frozen_addAll (t : NameTable) (names : List Text) :
    (t.addAll names).frozen = t.frozen := by
  induction names generalizing t with
  | nil => rfl
  | cons name names ih => exact (ih (t.add name)).trans (frozen_add t name)

theorem mem_add {name x : Text} : x ∈ (t.add name).names ↔ x ∈ t.names ∨ x = name := by
  unfold add
  split
  · rename_i h
    have hname : name ∈ t.names := by simpa [has] using h
    exact ⟨Or.inl, fun hx => hx.elim id fun e => e ▸ hname⟩
  · simp

/-- The names of a table that has gained some. -/
theorem mem_addAll {names : List Text} {x : Text} :
    x ∈ (t.addAll names).names ↔ x ∈ t.names ∨ x ∈ names := by
  induction names generalizing t with
  | nil => simp
  | cons name names ih =>
    rw [show t.addAll (name :: names) = (t.add name).addAll names from rfl, ih, mem_add,
      List.mem_cons, or_assoc]

theorem localize_eq (h : t.frozen = false) (name : Text) :
    t.localize name = .ok (t.add name) := by
  unfold localize add
  split
  · rfl
  · rw [h]; rfl

theorem localizeAll_eq (h : t.frozen = false) (names : List Text) :
    t.localizeAll names = .ok (t.addAll names) := by
  induction names generalizing t with
  | nil => rfl
  | cons name names ih =>
    have hrest := ih (t := t.add name) (by rw [frozen_add, h])
    rw [localizeAll, List.foldlM_cons, localize_eq h]
    exact hrest

end TrafficReplay.NameTable
