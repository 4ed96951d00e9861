import Mathlib.Data.List.Forall2
import TrafficReplay.Yaml.Node

/-!
# Two views of a mapping

A key of a mapping can be looked up in the node, where the first entry for it counts, and in the
plain value, where the last one does.  The two agree on which keys there are, and on what is under
them unless a key is repeated with another value; so it is at every depth.

* `Value.Same`: equal plain values, in whatever order the keys of a map are;
* `Node.under`, `Node.Overtaken`: the values of the entries for a key, and where the views part;
* `Node.child?`, `Node.at?` and their like: steps and paths in the two views;
* `Node.views_agree_iff`: when the views agree.
-/

namespace TrafficReplay.Yaml

namespace Value

/-- That two plain values are equal; the keys of a map have no order. -/
inductive Same : Value → Value → Prop
  | text (s : Text) : Same (.text s) (.text s)
  | list {vs ws : List Value} (h : List.Forall₂ Same vs ws) : Same (.list vs) (.list ws)
  | map {m m' : Keyed Value} (h : ∀ key, Option.Rel Same (m.get? key) (m'.get? key)) :
      Same (.map m) (.map m')

mutual

theorem Same.refl : ∀ v : Value, v.Same v
  | .text s => .text s
  | .list vs => .list (Same.refl_list vs)
  | .map ⟨es⟩ => .map fun key => Same.refl_find? key es

theorem Same.refl_list : ∀ vs : List Value, List.Forall₂ Same vs vs
  | [] => .nil
  | v :: vs => .cons (Same.refl v) (Same.refl_list vs)

theorem Same.refl_find? (key : Text) : ∀ es : List (Text × Value),
    Option.Rel Same (Keyed.find? key es) (Keyed.find? key es)
  | [] => .none
  | (k, v) :: es => by
    unfold Keyed.find?
    split
    · exact .some (Same.refl v)
    · exact Same.refl_find? key es

end

theorem Same.text_inj {s t : Text} (h : Same (.text s) (.text t)) : s = t := by
  cases h
  rfl

/-- Two entries in the other order. -/
theorem Same.swap {k k' : Text} (h : k ≠ k') (v w : Value) :
    Same (.map ⟨[(k, v), (k', w)]⟩) (.map ⟨[(k', w), (k, v)]⟩) := by
  refine .map fun key => ?_
  by_cases hk : k = key
  · subst hk
    simp [Keyed.get?, Keyed.find?, h.symm, Same.refl]
  · by_cases hk' : k' = key
    · subst hk'
      simp [Keyed.get?, Keyed.find?, h, Same.refl]
    · simp [Keyed.get?, Keyed.find?, hk, hk']

end Value

namespace Node

/-! ### Entries for a key -/

/-- The values of the entries for a key, in their order. -/
def under (key : Text) (es : List (Node × Node)) : List Node :=
  es.filterMap fun e => if e.1.scalar? = some key then some e.2 else none

/-- The plain value of a node, if it has one. -/
def plain? (n : Node) : Option Value := n.toValue.toOption

variable {n m : Node} {v : Value} {es : List (Node × Node)} {map map' : Keyed Value} {key : Text}

theorem plain?_of_toValue (h : n.toValue = .ok v) : n.plain? = some v := by
  rw [plain?, h]
  rfl

theorem under_cons (key : Text) (e : Node × Node) (es : List (Node × Node)) :
    under key (e :: es) =
      if e.1.scalar? = some key then e.2 :: under key es else under key es := by
  unfold under
  rw [List.filterMap_cons]
  split <;> simp_all

/-- A look-up in the node finds the first of them. -/
theorem lookup_eq_head? (key : Text) (es : List (Node × Node)) :
    lookup key es = (under key es).head? := by
  induction es with
  | nil => rfl
  | cons e es ih =>
    rw [under_cons, lookup]
    split
    · rfl
    · exact ih

theorem bind_eq_ok {α β : Type} {x : Except KeyFault α} {f : α → Except KeyFault β} {b : β} :
    x >>= f = .ok b ↔ ∃ a, x = .ok a ∧ f a = .ok b := by
  cases x <;> simp [bind, Except.bind]

theorem toValue_sequence {line : Nat} {ns : List Node} (h : (sequence line ns).toValue = .ok v) :
    ∃ vs, toValues ns = .ok vs ∧ v = .list vs := by
  rw [toValue] at h
  obtain ⟨vs, hvs, hpure⟩ := bind_eq_ok.mp h
  cases hpure
  exact ⟨vs, hvs, rfl⟩

theorem toValue_mapping {line : Nat} (h : (mapping line es).toValue = .ok v) :
    ∃ map, toMap .empty es = .ok map ∧ v = .map map := by
  rw [toValue] at h
  obtain ⟨map, hmap, hpure⟩ := bind_eq_ok.mp h
  cases hpure
  exact ⟨map, hmap, rfl⟩

/-- Only scalars can be keys of a plain value. -/
theorem scalar?_of_toValue {s : Text} (h : n.toValue = .ok (.text s)) : n.scalar? = some s := by
  cases n with
  | scalar line t =>
    rw [toValue] at h
    cases h
    rfl
  | sequence line ns => exact nomatch (toValue_sequence h).choose_spec.2
  | mapping line es => exact nomatch (toValue_mapping h).choose_spec.2

theorem toValue_of_scalar? {s : Text} (h : n.scalar? = some s) : n.toValue = .ok (.text s) := by
  cases n with
  | scalar line t =>
    cases h
    rw [toValue]
  | sequence line ns => cases h
  | mapping line es => cases h

theorem putEntry_eq_ok {e : Node × Node} (h : putEntry map e = .ok map') :
    ∃ key value, e.1.scalar? = some key ∧ e.2.toValue = .ok value ∧ map' = map.put key value := by
  obtain ⟨k, v⟩ := e
  rw [putEntry] at h
  obtain ⟨key, hk, hrest⟩ := bind_eq_ok.mp h
  obtain ⟨value, hvalue, hput⟩ := bind_eq_ok.mp hrest
  cases key with
  | text s =>
    cases hput
    exact ⟨s, value, scalar?_of_toValue hk, hvalue, rfl⟩
  | list vs => cases hput
  | map m => cases hput

theorem toMap_cons_eq_ok {e : Node × Node} (h : toMap map (e :: es) = .ok map') :
    ∃ key value, e.1.scalar? = some key ∧ e.2.toValue = .ok value ∧
      toMap (map.put key value) es = .ok map' := by
  rw [toMap] at h
  obtain ⟨m, hput, hrest⟩ := bind_eq_ok.mp h
  obtain ⟨key, value, hkey, hvalue, rfl⟩ := putEntry_eq_ok hput
  exact ⟨key, value, hkey, hvalue, hrest⟩

/-- All nodes in the entries of a mapping have plain values if the mapping has one. -/
theorem toValue_of_mem_entries (h : toMap map es = .ok map') {e : Node × Node} (he : e ∈ es) :
    (∃ key, e.1.scalar? = some key) ∧ ∃ value, e.2.toValue = .ok value := by
  induction es generalizing map with
  | nil => cases he
  | cons e' es ih =>
    obtain ⟨key, value, hkey, hvalue, hrest⟩ := toMap_cons_eq_ok h
    rcases List.mem_cons.mp he with rfl | he
    · exact ⟨⟨key, hkey⟩, value, hvalue⟩
    · exact ih hrest he

theorem toValue_of_mem_under (h : toMap map es = .ok map') {c : Node} (hc : c ∈ under key es) :
    ∃ value, c.toValue = .ok value := by
  obtain ⟨e, he, hif⟩ := List.mem_filterMap.mp hc
  split at hif
  · cases hif
    exact (toValue_of_mem_entries h he).2
  · cases hif

/-- In the plain value there is the last of them. -/
theorem get?_toMap (h : toMap map es = .ok map') (key : Text) :
    map'.get? key = ((under key es).getLast?.bind plain?).or (map.get? key) := by
  -- For any map that the entries are put into: the last of them goes before what is there.
  induction es generalizing map with
  | nil =>
    rw [toMap] at h
    cases h
    simp [under]
  | cons e es ih =>
    obtain ⟨k, value, hk, hvalue, hrest⟩ := toMap_cons_eq_ok h
    rw [ih hrest, Keyed.get?_put]
    by_cases hkey : k = key
    · subst hkey
      rw [under_cons, if_pos hk, List.getLast?_cons, if_pos rfl]
      cases hlast : (under k es).getLast? with
      | none => simp [plain?_of_toValue hvalue]
      | some last =>
        obtain ⟨w, hw⟩ := toValue_of_mem_under hrest (List.mem_of_getLast? hlast)
        simp [plain?_of_toValue hw]
    · have hother : ¬ e.1.scalar? = some key := fun h => hkey (Option.some.inj (hk.symm.trans h))
      rw [under_cons, if_neg hother, if_neg hkey]

/-- Where a look-up in the node finds an entry, there is a last one, and its plain value is what is
under the key. -/
theorem exists_last (h : toMap map es = .ok map') {c : Node} (hc : lookup key es = some c) :
    ∃ last w, (under key es).getLast? = some last ∧ last.toValue = .ok w ∧
      map'.get? key = some w := by
  have hne : under key es ≠ [] := by
    intro hnil
    simp [lookup_eq_head?, hnil] at hc
  obtain ⟨w, hw⟩ := toValue_of_mem_under h (List.getLast_mem hne)
  refine ⟨(under key es).getLast hne, w, List.getLast?_eq_some_getLast hne, hw, ?_⟩
  rw [get?_toMap h, List.getLast?_eq_some_getLast hne, Option.bind_some, plain?_of_toValue hw,
    Option.some_or]

/-- The keys of the plain value are those of the entries. -/
theorem mem_keys_toMap_iff (h : toMap .empty es = .ok map) :
    key ∈ map.keys ↔ (lookup key es).isSome = true := by
  rw [← Keyed.isSome_get?_iff]
  cases hc : lookup key es with
  | some c =>
    obtain ⟨last, w, -, -, hget⟩ := exists_last h hc
    simp [hget]
  | none =>
    have hnil : under key es = [] := List.head?_eq_none_iff.mp (lookup_eq_head? key es ▸ hc)
    simp [get?_toMap h, hnil, Keyed.get?_empty]

/-- Whether there are two entries for a key, or more. -/
def Repeats (n : Node) (key : Text) : Prop := 2 ≤ (under key n.entries).length

/-- Whether the last entry for a key has another plain value than the first one. -/
def Overtaken (n : Node) (key : Text) : Prop :=
  ∃ first last v w, (under key n.entries).head? = some first ∧
    (under key n.entries).getLast? = some last ∧ first.toValue = .ok v ∧ last.toValue = .ok w ∧
    ¬ v.Same w

theorem getLast?_eq_head? (h : ¬ n.Repeats key) :
    (under key n.entries).getLast? = (under key n.entries).head? := by
  unfold Repeats at h
  match hunder : under key n.entries with
  | [] => rfl
  | [c] => rfl
  | c :: d :: cs => simp [hunder] at h

/-- What the two views of a mapping have under a key. -/
theorem views_of_mapping (hn : n.isMapping = true) (h : n.toValue = .ok v) :
    ∃ map, v = .map map ∧ ∀ key, (n.has key = true ↔ key ∈ map.keys) ∧
      ∀ c, n.get? key = some c → ∃ first last, c.toValue = .ok first ∧ map.get? key = some last ∧
        (first.Same last ↔ ¬ n.Overtaken key) ∧ (¬ n.Repeats key → first = last) := by
  cases n with
  | scalar line s => cases hn
  | sequence line ns => cases hn
  | mapping line es =>
    obtain ⟨map, hmap, rfl⟩ := toValue_mapping h
    refine ⟨map, rfl, fun key => ⟨(mem_keys_toMap_iff hmap).symm, fun c hc => ?_⟩⟩
    have hfirst : (under key es).head? = some c := (lookup_eq_head? key es).symm.trans hc
    obtain ⟨d, last, hlast, hd, hget⟩ := exists_last hmap hc
    obtain ⟨first, hc⟩ := toValue_of_mem_under hmap (List.mem_of_head? hfirst)
    refine ⟨first, last, hc, hget, ⟨?_, fun hnot => ?_⟩, fun honce => ?_⟩
    · rintro hsame ⟨c', d', v, w, hc', hd', hv, hw, hnot⟩
      obtain rfl := Option.some.inj (hfirst.symm.trans hc')
      obtain rfl := Option.some.inj (hlast.symm.trans hd')
      obtain rfl := Except.ok.inj (hc.symm.trans hv)
      obtain rfl := Except.ok.inj (hd.symm.trans hw)
      exact hnot hsame
    · by_contra hdiffer
      exact hnot ⟨c, d, first, last, hfirst, hlast, hc, hd, hdiffer⟩
    · have hcd : d = c := Option.some.inj ((hlast.symm.trans (getLast?_eq_head? honce)).trans hfirst)
      subst hcd
      exact Except.ok.inj (hc.symm.trans hd)

/-! ### Every depth -/

/-- The nodes right below a node. -/
def children : Node → List Node
  | .scalar .. => []
  | .sequence _ ns => ns
  | .mapping _ es => es.flatMap fun e => [e.1, e.2]

/-- That a node is another one or stands below it, at any depth. -/
inductive Within (m : Node) : Node → Prop
  | here : Within m m
  | down {c n : Node} (h : Within m c) (hc : c ∈ n.children) : Within m n

/-- The plain values of some nodes, one for one. -/
theorem forall₂_toValues {ns : List Node} {vs : List Value} (h : toValues ns = .ok vs) :
    List.Forall₂ (fun n v => n.toValue = .ok v) ns vs := by
  induction ns generalizing vs with
  | nil =>
    rw [toValues] at h
    cases h
    exact .nil
  | cons n ns ih =>
    rw [toValues] at h
    obtain ⟨v, hn, hrest⟩ := bind_eq_ok.mp h
    obtain ⟨ws, hns, hpure⟩ := bind_eq_ok.mp hrest
    cases hpure
    exact .cons hn (ih hns)

theorem toValue_of_mem {ns : List Node} {vs : List Value} (h : toValues ns = .ok vs) :
    ∀ n ∈ ns, ∃ v, n.toValue = .ok v :=
  ((List.forall₂_and_left ns vs).mp ((forall₂_toValues h).imp fun _ v hv => ⟨⟨v, hv⟩, hv⟩)).1

theorem getElem?_toValues {ns : List Node} {vs : List Value}
    (h : List.Forall₂ (fun n v => n.toValue = .ok v) ns vs) (i : Nat) :
    vs[i]? = ns[i]?.bind plain? := by
  induction h generalizing i with
  | nil => rfl
  | cons hv _ ih =>
    cases i with
    | zero => exact (plain?_of_toValue hv).symm
    | succ i => simpa using ih i

theorem toValue_of_mem_children (h : n.toValue = .ok v) {c : Node} (hc : c ∈ n.children) :
    ∃ w, c.toValue = .ok w := by
  cases n with
  | scalar line s => cases hc
  | sequence line ns =>
    obtain ⟨vs, hvs, -⟩ := toValue_sequence h
    exact toValue_of_mem hvs c hc
  | mapping line es =>
    obtain ⟨map, hmap, -⟩ := toValue_mapping h
    obtain ⟨e, he, hce⟩ := List.mem_flatMap.mp hc
    obtain ⟨⟨key, hkey⟩, hvalue⟩ := toValue_of_mem_entries hmap he
    rcases List.mem_pair.mp hce with rfl | rfl
    · exact ⟨_, toValue_of_scalar? hkey⟩
    · exact hvalue

/-- Every node of a tree that has a plain value has one. -/
theorem Within.toValue {m : Node} (hm : m.Within n) (h : n.toValue = .ok v) :
    ∃ w, m.toValue = .ok w := by
  induction hm generalizing v with
  | here => exact ⟨v, h⟩
  | down _ hc ih =>
    obtain ⟨w, hw⟩ := toValue_of_mem_children h hc
    exact ih hw

/-! ### Paths -/

end Node

/-- A step of a path: to what is under a key, or to an item. -/
inductive PathStep
  | key (key : Text)
  | index (i : Nat)
  deriving DecidableEq, Repr

/-- A step down a plain value. -/
def Value.child? : Value → PathStep → Option Value
  | .map m, .key key => m.get? key
  | .list vs, .index i => vs[i]?
  | _, _ => none

/-- What is at a path in a plain value. -/
def Value.at? (v : Value) (path : List PathStep) : Option Value := path.foldlM Value.child? v

namespace Node

variable {n : Node} {v : Value}

/-- A step down a node, to the first of the entries for a key. -/
def child? (n : Node) : PathStep → Option Node
  | .key key => n.get? key
  | .index i => n.items[i]?

/-- A step down a node, to the last of the entries for a key. -/
def lastChild? (n : Node) : PathStep → Option Node
  | .key key => (under key n.entries).getLast?
  | .index i => n.items[i]?

/-- The node at a path. -/
def at? (n : Node) (path : List PathStep) : Option Node := path.foldlM child? n

/-- The node at a path along the last entries for its keys. -/
def lastAt? (n : Node) (path : List PathStep) : Option Node := path.foldlM lastChild? n

/-- A step down the plain value is one to the last of the entries for a key. -/
theorem child?_toValue (h : n.toValue = .ok v) (s : PathStep) :
    v.child? s = (n.lastChild? s).bind plain? := by
  cases n with
  | scalar line t =>
    rw [toValue] at h
    cases h
    cases s <;> rfl
  | sequence line ns =>
    obtain ⟨vs, hvs, rfl⟩ := toValue_sequence h
    cases s with
    | key key => rfl
    | index i => exact getElem?_toValues (forall₂_toValues hvs) i
  | mapping line es =>
    obtain ⟨map, hmap, rfl⟩ := toValue_mapping h
    cases s with
    | key key => exact (get?_toMap hmap key).trans (Option.or_none)
    | index i => rfl

/-- Where no key is repeated, the first entry for a key is the last one. -/
theorem child?_eq_lastChild? (h : ∀ key, ¬ n.Repeats key) (s : PathStep) :
    n.child? s = n.lastChild? s := by
  cases s with
  | key key => exact (lookup_eq_head? key n.entries).trans (getLast?_eq_head? (h key)).symm
  | index i => rfl

theorem mem_children_of_mem_under {c : Node} (hc : c ∈ under key n.entries) : c ∈ n.children := by
  cases n with
  | scalar line t => cases hc
  | sequence line ns => cases hc
  | mapping line es =>
    obtain ⟨e, he, hif⟩ := List.mem_filterMap.mp hc
    refine List.mem_flatMap.mpr ⟨e, he, ?_⟩
    split at hif
    · cases hif
      exact List.mem_pair.mpr (.inr rfl)
    · cases hif

theorem mem_children_of_mem_items {c : Node} (hc : c ∈ n.items) : c ∈ n.children := by
  cases n with
  | scalar line t => cases hc
  | sequence line ns => exact hc
  | mapping line es => cases hc

theorem mem_children_of_child? {s : PathStep} {c : Node} (h : n.child? s = some c) :
    c ∈ n.children := by
  cases s with
  | key key =>
    have hhead : (under key n.entries).head? = some c := (lookup_eq_head? key n.entries).symm.trans h
    exact mem_children_of_mem_under (List.mem_of_head? hhead)
  | index i => exact mem_children_of_mem_items (List.mem_of_getElem? h)

theorem mem_children_of_lastChild? {s : PathStep} {c : Node} (h : n.lastChild? s = some c) :
    c ∈ n.children := by
  cases s with
  | key key => exact mem_children_of_mem_under (List.mem_of_getLast? h)
  | index i => exact mem_children_of_mem_items (List.mem_of_getElem? h)

/-- A path in the plain value is one along the last entries. -/
theorem at?_toValue (h : n.toValue = .ok v) (path : List PathStep) :
    v.at? path = (n.lastAt? path).bind plain? := by
  induction path generalizing n v with
  | nil => exact (plain?_of_toValue h).symm
  | cons s path ih =>
    unfold Value.at? lastAt?
    rw [List.foldlM_cons, List.foldlM_cons, child?_toValue h s]
    cases hc : n.lastChild? s with
    | none => rfl
    | some c =>
      obtain ⟨w, hw⟩ := toValue_of_mem_children h (mem_children_of_lastChild? hc)
      rw [Option.bind_some, plain?_of_toValue hw]
      exact ih hw

theorem at?_eq_lastAt? (h : ∀ m key, Within m n → ¬ Repeats m key) (path : List PathStep) :
    n.at? path = n.lastAt? path := by
  induction path generalizing n with
  | nil => rfl
  | cons s path ih =>
    unfold at? lastAt?
    rw [List.foldlM_cons, List.foldlM_cons, ← child?_eq_lastChild? fun key => h n key .here]
    cases hc : n.child? s with
    | none => rfl
    | some c =>
      exact ih fun m key hm => h m key (hm.down (mem_children_of_child? hc))

/-- **When the two views of a mapping agree.** In a tree that has a plain value, every mapping at
any depth has one.  The keys are the same in both views.  Under a key, the node has the first entry
for it and the plain value the last one: they are equal unless the last entry has another plain
value, and the same for certain unless the key is repeated.  Along a path, the plain value follows
the last entries; where no key is repeated anywhere, so does the node. -/
theorem views_agree_iff (h : n.toValue = .ok v) :
    (∀ m : Node, m.Within n → m.isMapping = true → ∃ map, m.toValue = .ok (.map map) ∧ ∀ key,
      (m.has key = true ↔ key ∈ map.keys) ∧
      ∀ c, m.get? key = some c → ∃ first last, c.toValue = .ok first ∧ map.get? key = some last ∧
        (first.Same last ↔ ¬ m.Overtaken key) ∧ (¬ m.Repeats key → first = last)) ∧
    (∀ path, v.at? path = (n.lastAt? path).bind plain?) ∧
    ((∀ m key, Within m n → ¬ m.Repeats key) →
      ∀ path, v.at? path = (n.at? path).bind plain?) := by
  refine ⟨fun m hm hmapping => ?_, at?_toValue h, fun honce path => ?_⟩
  · obtain ⟨w, hw⟩ := hm.toValue h
    obtain ⟨map, rfl, hviews⟩ := views_of_mapping hmapping hw
    exact ⟨map, hw, hviews⟩
  · rw [at?_eq_lastAt? honce, at?_toValue h]

/-- A mapping with a repeated key, the last entry for it with another value. -/
def changed : Node :=
  .mapping 2 [(.scalar 2 "k", .scalar 2 "1"), (.scalar 3 "k", .scalar 3 "2")]

/-- One with a repeated key, the last entry for it with the same value in another order; the first
mapping stands in a list in it. -/
def reordered : Node :=
  .mapping 1 [
    (.scalar 1 "a", .sequence 2 [changed]),
    (.scalar 4 "b", .mapping 4 [(.scalar 4 "x", .scalar 4 "1"), (.scalar 5 "y", .scalar 5 "2")]),
    (.scalar 6 "b", .mapping 6 [(.scalar 6 "y", .scalar 6 "2"), (.scalar 7 "x", .scalar 7 "1")])]

/-- The plain value of the second. -/
def reorderedValue : Value :=
  .map ⟨[("a", .list [.map ⟨[("k", .text "2")]⟩]),
    ("b", .map ⟨[("y", .text "2"), ("x", .text "1")]⟩)]⟩

theorem toValue_reordered : reordered.toValue = .ok reorderedValue := by
  rfl

theorem overtaken_changed : changed.Overtaken "k" :=
  ⟨.scalar 2 "1", .scalar 3 "2", .text "1", .text "2", rfl, rfl, rfl, rfl,
    fun h => absurd h.text_inj (by decide)⟩

/-- In the list, the views part; under the key with the values in another order, they agree. -/
theorem views_agree_iff_reordered :
    reordered.toValue = .ok reorderedValue ∧ changed.Within reordered ∧
    (∃ map first last, changed.toValue = .ok (.map map) ∧
      (changed.get? "k").bind plain? = some first ∧ map.get? "k" = some last ∧
      ¬ first.Same last) ∧
    (∃ map first last, reorderedValue = .map map ∧
      (reordered.get? "b").bind plain? = some first ∧ map.get? "b" = some last ∧
      first.Same last ∧ reordered.Repeats "b" ∧ ¬ reordered.Overtaken "b") ∧
    reorderedValue.at? [.key "a", .index 0, .key "k"] = some (.text "2") ∧
    (reordered.at? [.key "a", .index 0, .key "k"]).bind plain? = some (.text "1") := by
  have hwithin : changed.Within reordered :=
    .down (c := .sequence 2 [changed]) (.down .here (.head [])) (.tail _ (.head _))
  have hsame : Value.Same (.map ⟨[("x", .text "1"), ("y", .text "2")]⟩)
      (.map ⟨[("y", .text "2"), ("x", .text "1")]⟩) := .swap (by decide) _ _
  obtain ⟨hviews, hpath, -⟩ := views_agree_iff toValue_reordered
  obtain ⟨map, hmap, hkeys⟩ := hviews changed hwithin rfl
  obtain ⟨first, last, hfirst, hlast, hpart, -⟩ := (hkeys "k").2 _ rfl
  obtain ⟨whole, hwhole, hunder⟩ := hviews reordered .here rfl
  obtain ⟨before, after, hbefore, hafter, hagree, -⟩ := (hunder "b").2 _ rfl
  cases hwhole
  cases hbefore
  cases hafter
  exact ⟨toValue_reordered, hwithin, ⟨map, first, last, hmap, plain?_of_toValue hfirst, hlast,
    fun hsame => hpart.mp hsame overtaken_changed⟩, ⟨_, _, _, rfl, rfl, rfl, hsame, Nat.le_refl 2,
    hagree.mp hsame⟩, (hpath _).trans rfl, rfl⟩

/-- It is not so that the views agree where a key is repeated. -/
theorem not_agree_changed :
    ¬ ∀ (n : Node) (v : Value), n.toValue = .ok v → ∀ m : Node, m.Within n → m.isMapping = true →
      ∃ map, m.toValue = .ok (.map map) ∧ ∀ key, (m.has key = true ↔ key ∈ map.keys) ∧
        ∀ c, m.get? key = some c →
          ∃ first last, c.toValue = .ok first ∧ map.get? key = some last ∧ first.Same last := by
  intro hagree
  obtain ⟨map, hmap, hkeys⟩ := hagree changed _ rfl changed .here rfl
  obtain ⟨first, last, hfirst, hlast, hsame⟩ := (hkeys "k").2 _ rfl
  cases hmap
  cases hfirst
  cases hlast
  exact absurd hsame.text_inj (by decide)

end Node

end TrafficReplay.Yaml
