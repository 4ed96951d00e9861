import Mathlib.Data.List.Basic
import TrafficReplay.Proofs.Loading.SideBySide

/-!
# What is in unused sections

A transaction has a request and a response on either side of the proxy, and a mode uses two of these
four sections.  Of the other two it matters only whether they are maps; what is in them is not read.

* `Handler.Section.wellFormed`: a section that is a map or is not there;
* `Transaction.UnusedAlike`: nodes of transactions that differ in unused sections only;
* `RunState.loadDocument_unusedAlike`: documents with such transactions load alike.
-/

namespace TrafficReplay
open TrafficReplay.Yaml

open Handler (Section)

/-! ### Sections -/

namespace Handler.Section

/-- Whether a section is a map or is not there. -/
def wellFormed (n : Node) (s : Section) : Bool := (n.get? s.key).all Node.isMapping

theorem key_injective : Function.Injective key := by
  intro s s' h
  cases s <;> cases s' <;> first | rfl | exact absurd h (by decide)

theorem key_ne_all (s : Section) : s.key ≠ "all" := by
  cases s <;> decide

/-- The sections that a transaction needs are those that the mode uses. -/
theorem exists_of_required {mode : RunMode} {p : Text × Text}
    (hp : p ∈ Handler.requiredSections mode) :
    ∃ s : Section, s.role mode ≠ .unused ∧ s.key = p.1 := by
  cases mode with
  | client =>
    rcases List.mem_pair.mp hp with rfl | rfl
    · exact ⟨.clientRequest, by decide, rfl⟩
    · exact ⟨.proxyResponse, by decide, rfl⟩
  | noProxy =>
    rcases List.mem_pair.mp hp with rfl | rfl
    · exact ⟨.proxyRequest, by decide, rfl⟩
    · exact ⟨.serverResponse, by decide, rfl⟩

end Handler.Section

namespace Transaction

variable {c : ReadingContext} {s : Section}

/-- An unused section that is well-formed changes nothing. -/
theorem sectionReading_of_wellFormed (hs : s.role c.settings.mode = .unused) {n : Node}
    (hn : s.wellFormed n = true) (t : Transaction) :
    sectionReading c n t s = pure (t, [], false) := by
  unfold Section.wellFormed at hn
  unfold sectionReading
  cases hm : n.get? s.key with
  | none => rfl
  | some m =>
    rw [hm] at hn
    have hmap : m.isMapping = true := hn
    simp [mapReading, hs, hmap]

/-- An unused section changes nothing of a transaction, but it counts if it is malformed. -/
theorem sectionReading_unused (hs : s.role c.settings.mode = .unused) (n : Node) :
    ∃ a, ∀ t, sectionReading c n t s = pure (t, a, !s.wellFormed n) := by
  cases hn : s.wellFormed n with
  | true => exact ⟨[], sectionReading_of_wellFormed hs hn⟩
  | false =>
    unfold Section.wellFormed at hn
    unfold sectionReading
    cases hm : n.get? s.key with
    | none => rw [hm] at hn; cases hn
    | some m =>
      rw [hm] at hn
      have hmap : m.isMapping = false := hn
      simp only [hmap, Bool.false_eq_true, if_false]
      exact ⟨_, fun _ => rfl⟩

end Transaction

/-! ### What is in unused sections -/

/-- Whether a node is the key of a section that a mode does not use. -/
def Handler.Section.isUnusedKey (mode : RunMode) (key : Node) : Bool :=
  all.any fun s => s.role mode = .unused && key.scalar? = some s.key

theorem Yaml.Node.lookup_filter {p : Node → Bool} {k : Text}
    (hp : ∀ key : Node, key.scalar? = some k → p key = true) (es : List (Node × Node)) :
    lookup k (es.filter fun e => p e.1) = lookup k es := by
  induction es with
  | nil => rfl
  | cons e es ih =>
    by_cases hfound : e.1.scalar? = some k
    · simp [hp e.1 hfound, lookup, hfound]
    · cases hkept : p e.1 <;> simp [hkept, lookup, hfound, ih]

namespace Transaction

/-- Nodes of transactions that differ only in unused sections, inside of them or by not having them.
The sections that differ are maps.  A section is the first value of its key: entries with the same
key behind it belong to no section, and can differ as well. -/
inductive UnusedAlike (mode : RunMode) : Node → Node → Prop
  | refl (n : Node) : UnusedAlike mode n n
  | mapping (line : Nat) {es es' : List (Node × Node)}
    (hrest : (es.filter fun e => !Section.isUnusedKey mode e.1) =
      es'.filter fun e => !Section.isUnusedKey mode e.1)
    (hunused : ∀ s : Section, s.role mode = .unused →
      (Node.mapping line es).get? s.key = (Node.mapping line es').get? s.key ∨
        s.wellFormed (.mapping line es) = true ∧ s.wellFormed (.mapping line es') = true) :
    UnusedAlike mode (.mapping line es) (.mapping line es')

namespace UnusedAlike

variable {mode : RunMode} {n n' : Node}

theorem line_eq (h : UnusedAlike mode n n') : n.line = n'.line := by
  cases h <;> rfl

theorem isMapping_eq (h : UnusedAlike mode n n') : n.isMapping = n'.isMapping := by
  cases h <;> rfl

/-- There is the same under every key that is not the one of an unused section. -/
theorem get?_eq (h : UnusedAlike mode n n') {k : Text}
    (hk : ∀ s : Section, s.role mode = .unused → s.key ≠ k) : n.get? k = n'.get? k := by
  have hkept (key : Node) (hkey : key.scalar? = some k) :
      (!Section.isUnusedKey mode key) = true := by
    rw [Section.isUnusedKey, Bool.not_eq_true', List.any_eq_false]
    intro s _ hs
    obtain ⟨hrole, hfound⟩ : s.role mode = .unused ∧ key.scalar? = some s.key := by simpa using hs
    exact hk s hrole (Option.some.inj (hfound.symm.trans hkey))
  cases h with
  | refl => rfl
  | mapping line hrest _ =>
    calc Node.lookup k _ = Node.lookup k _ := (Node.lookup_filter hkept _).symm
      _ = Node.lookup k _ := congrArg _ hrest
      _ = Node.lookup k _ := Node.lookup_filter hkept _

theorem get?_of_used (h : UnusedAlike mode n n') {s : Section} (hs : s.role mode ≠ .unused) :
    n.get? s.key = n'.get? s.key :=
  h.get?_eq fun _ hs' hkey => hs (Section.key_injective hkey ▸ hs')

theorem sectionReading_eq {c : ReadingContext} (h : UnusedAlike c.settings.mode n n')
    (t : Transaction) (s : Section) : sectionReading c n t s = sectionReading c n' t s := by
  have hsame (hget : n.get? s.key = n'.get? s.key) :
      sectionReading c n t s = sectionReading c n' t s := by
    rw [sectionReading, sectionReading, hget]
  by_cases hs : s.role c.settings.mode = .unused
  · cases h with
    | refl => rfl
    | mapping line _ hunused =>
      rcases hunused s hs with hget | ⟨hn, hn'⟩
      · exact hsame hget
      · rw [sectionReading_of_wellFormed hs hn, sectionReading_of_wellFormed hs hn']
  · exact hsame (h.get?_of_used hs)

theorem sectionsReading_eq {c : ReadingContext} (h : UnusedAlike c.settings.mode n n')
    (t : Transaction) (ss : List Section) :
    sectionsReading c n t ss = sectionsReading c n' t ss := by
  induction ss generalizing t with
  | nil => rfl
  | cons s ss ih => simp only [sectionsReading, h.sectionReading_eq, ih]

theorem missingSections_eq (h : UnusedAlike mode n n') (path : String) :
    Handler.missingSections mode path n = Handler.missingSections mode path n' := by
  unfold Handler.missingSections
  refine List.filterMap_congr fun p hp => ?_
  obtain ⟨s, hs, hkey⟩ := Section.exists_of_required hp
  have hhas : n.has p.1 = n'.has p.1 := by
    rw [← hkey, Node.has, Node.has, h.get?_of_used hs]
  simp only [hhas, h.line_eq]

/-- Nodes that differ only in unused sections come to the same transaction. -/
theorem reading_eq {c : ReadingContext} (h : UnusedAlike c.settings.mode n n') :
    reading c n = reading c n' := by
  have hall : n.get? "all" = n'.get? "all" := h.get?_eq fun s _ => s.key_ne_all
  unfold reading contentsReading LoadedFields.ofAll
  simp only [h.isMapping_eq, h.line_eq, h.missingSections_eq, h.sectionsReading_eq, hall]

end UnusedAlike

theorem agree_unusedAlike (settings : Settings) :
    Agree settings settings (UnusedAlike settings.mode) (fun _ => true) True where
  related path rules n n' hn := by
    rw [UnusedAlike.reading_eq (c := ⟨settings, path, rules⟩) hn]
    exact .refl _ fun p _ => ⟨(keep_all p.1).symm, fun _ => rfl⟩
  all _ _ := rfl

end Transaction

/-- **What is in unused sections is not read.** Documents that differ only in sections of transactions
that the mode does not use, inside of them or by not having them, load alike if the sections that
differ are maps: with the same report or fault, and with the same run after it. -/
theorem RunState.loadDocument_unusedAlike {run : RunState} (h : run.Loading) (settings : Settings)
    (path : String) {root root' : Option Node}
    (hroot : Node.DocumentsAlike (Transaction.UnusedAlike settings.mode) root root') :
    run.loadDocument settings path root = run.loadDocument settings path root' := by
  have hagree := FileReading.agree_ofDocument (Transaction.agree_unusedAlike settings) path
    run.rules.rules hroot
  rw [loadDocument_eq h, loadDocument_eq h, hagree.eq trivial fun _ => rfl]

/-- A document with one transaction. -/
def Yaml.Node.oneTransaction (entries : List (Node × Node)) : Node :=
  .mapping 1 [(.scalar 1 "sessions", .sequence 2 [
    .mapping 2 [(.scalar 2 "transactions", .sequence 3 [.mapping 3 entries])]])]

/-- A request and a response, under some keys. -/
def Yaml.Node.twoSections (request response : String) : List (Node × Node) :=
  [(.scalar 3 request,
      .mapping 4 [(.scalar 4 "method", .scalar 4 "GET"), (.scalar 5 "url", .scalar 5 "/a")]),
    (.scalar 6 response, .mapping 7 [(.scalar 7 "status", .scalar 7 "200")])]

theorem Yaml.Node.documentsAlike_oneTransaction {R : Node → Node → Prop}
    {es es' : List (Node × Node)} (h : R (.mapping 3 es) (.mapping 3 es')) :
    DocumentsAlike R (some (oneTransaction es)) (some (oneTransaction es')) := by
  have hunder {key : Text} {line line' : Nat} {R : Node → Node → Prop} {n n' : Node} (h : R n n') :
      AlikeUnder key R (.mapping line [(.scalar line key, .sequence line' [n])])
        (.mapping line [(.scalar line key, .sequence line' [n'])]) := by
    refine .mapping line (.cons ⟨rfl, ?_⟩ .nil)
    simpa [scalar?] using .sequence line' (.cons h .nil)
  exact .some (hunder (hunder h))

/-- A transaction with a request of the proxy, whatever is in it, is loaded for the client as it is
without. -/
theorem RunState.loadDocument_unusedAlike_oneTransaction :
    let sections := Node.twoSections "client-request" "proxy-response"
    let unused := (Node.scalar 8 "proxy-request", Node.mapping 9 [(.scalar 9 "url", .sequence 9 [])])
    empty.Loading ∧
      Node.DocumentsAlike (Transaction.UnusedAlike .client)
        (some (.oneTransaction (unused :: sections))) (some (.oneTransaction sections)) ∧
      (empty.loadDocument .default "a.yaml"
        (some (.oneTransaction (unused :: sections)))).2.sessions.map
          (fun ssn => ssn.transactions.map Transaction.key) =
            ([["GET:/a"]] : List (List Text)) := by
  intro sections unused
  have hnodes : Transaction.UnusedAlike .client (.mapping 3 (unused :: sections))
      (.mapping 3 sections) :=
    .mapping 3 rfl fun s _ => .inr (by cases s <;> exact ⟨rfl, rfl⟩)
  have hdocuments := Node.documentsAlike_oneTransaction hnodes
  refine ⟨loading_empty, hdocuments, ?_⟩
  rw [loadDocument_unusedAlike loading_empty .default "a.yaml" hdocuments]
  decide +kernel

end TrafficReplay
