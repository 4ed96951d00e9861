import TrafficReplay.Proofs.Loading.Reading

/-!
# Steps that follow a reading

A step works on states `state names part`: the names gained so far, and the part that is being
built (a message, a transaction, a session).  It follows a reading of that part if it ends with the
reading's result, gains the reading's names, and leaves the part that the reading gives.  At a fault
the part is left half built, and nothing is said of it.

* `Step.Follows`, with one lemma for each way of putting steps together (`pure`, `bind`,
  `bindSame`, `getBind`);
* `Request.follows_load`, `Response.follows_load`: filling a message in follows its reading.
-/

namespace TrafficReplay
open TrafficReplay.Yaml TrafficReplay.Text

namespace Step

variable {σ κ α β : Type}

/-- A step does to the part `k` what a reading says, after any names. -/
def Follows (state : List Text → κ → σ) (x : Step σ Fault α) (k : κ)
    (r : Reading (κ × α)) : Prop :=
  ∀ ns, ∃ k', x.runOn (state ns k) = (r.result.map Prod.snd, state (ns ++ r.names) k') ∧
    ∀ b, r.result = .ok b → b.1 = k'

namespace Follows

variable {state : List Text → κ → σ} {k : κ}

/-- A step that gains no names and has a result. -/
theorem ofRun {x : Step σ Fault α} {k' : κ} {a : α}
    (hx : ∀ ns, x.runOn (state ns k) = (.ok a, state ns k')) :
    Follows state x k (pure (k', a)) := by
  intro ns
  refine ⟨k', by simp [hx ns, Except.map], ?_⟩
  rintro b hb
  cases hb
  rfl

theorem pure (a : α) : Follows state (pure a) k (pure (k, a)) := ofRun fun _ => rfl

/-- A step that stops at a fault. -/
theorem throw (e : Fault) : Follows state (throw e : Step σ Fault α) k ⟨[], .error e⟩ := by
  intro ns
  refine ⟨k, by simp [Except.map], ?_⟩
  rintro b hb
  cases hb

/-- A step that follows the reading of a part of a part, and then one that follows what comes after
it. -/
theorem bindPart {κ' : Type} {state' : List Text → κ' → σ} {x : Step σ Fault α}
    {f : α → Step σ Fault β} {r : Reading (κ × α)} {g : κ × α → Reading (κ' × β)} (e : κ → κ')
    (he : ∀ ns k, state' ns (e k) = state ns k) (hx : Follows state x k r)
    (hf : ∀ k' a, r.result = .ok (k', a) → Follows state' (f a) (e k') (g (k', a))) :
    Follows state' (x >>= f) (e k) (r >>= g) := by
  intro ns
  obtain ⟨k₁, hrun, hk⟩ := hx ns
  rw [he]
  cases hr : r.result with
  | error e₁ =>
    -- Nothing is said of the part at a fault, so it may stay as the first step left it.
    rw [hr] at hrun
    rw [runOn_bind_of_error hrun, Reading.bind_of_error hr, ← he]
    exact ⟨e k₁, rfl, fun b hb => nomatch hb⟩
  | ok b =>
    obtain ⟨k', a⟩ := b
    obtain rfl : k' = k₁ := hk _ hr
    rw [hr] at hrun
    obtain ⟨k₂, hrun₂, hk₂⟩ := hf k' a hr (ns ++ r.names)
    rw [he] at hrun₂
    rw [runOn_bind_of_ok hrun, Reading.bind_of_ok hr, hrun₂, List.append_assoc]
    exact ⟨k₂, rfl, hk₂⟩

/-- A step that follows a reading, and then one that follows what comes after it. -/
theorem bind {x : Step σ Fault α} {f : α → Step σ Fault β} {r : Reading (κ × α)}
    {g : κ × α → Reading (κ × β)} (hx : Follows state x k r)
    (hf : ∀ k' a, r.result = .ok (k', a) → Follows state (f a) k' (g (k', a))) :
    Follows state (x >>= f) k (r >>= g) :=
  hx.bindPart id (fun _ _ => rfl) hf

/-- A step that leaves the part alone, and then one that follows what comes after it. -/
theorem bindSame {x : Step σ Fault α} {f : α → Step σ Fault β} {r : Reading α}
    {g : α → Reading (κ × β)}
    (hx : ∀ ns, x.runOn (state ns k) = (r.result, state (ns ++ r.names) k))
    (hf : ∀ a, r.result = .ok a → Follows state (f a) k (g a)) :
    Follows state (x >>= f) k (r >>= g) := by
  intro ns
  have hrun := hx ns
  cases hr : r.result with
  | error e =>
    rw [hr] at hrun
    rw [runOn_bind_of_error hrun, Reading.bind_of_error hr]
    exact ⟨k, rfl, fun b hb => nomatch hb⟩
  | ok a =>
    rw [hr] at hrun
    obtain ⟨k₂, hrun₂, hk₂⟩ := hf a hr (ns ++ r.names)
    rw [runOn_bind_of_ok hrun, Reading.bind_of_ok hr, hrun₂, List.append_assoc]
    exact ⟨k₂, rfl, hk₂⟩

/-- A step that gains some names and has a result, and then one that follows a reading. -/
theorem learnBind {x : Step σ Fault α} {f : α → Step σ Fault β} {names : List Text} {k' : κ}
    {a : α} {r : Reading (κ × β)}
    (hx : ∀ ns, x.runOn (state ns k) = (.ok a, state (ns ++ names) k'))
    (hf : Follows state (f a) k' r) :
    Follows state (x >>= f) k (do Reading.learn names; r) := by
  intro ns
  obtain ⟨k₂, hrun, hk⟩ := hf (ns ++ names)
  rw [runOn_bind_of_ok (hx ns), hrun, Reading.learn_bind, List.append_assoc]
  exact ⟨k₂, rfl, hk⟩

/-- A step that gains no names and has a result, and then one that follows a reading. -/
theorem runBind {x : Step σ Fault α} {f : α → Step σ Fault β} {k' : κ} {a : α}
    {r : Reading (κ × β)} (hx : ∀ ns, x.runOn (state ns k) = (.ok a, state ns k'))
    (hf : Follows state (f a) k' r) : Follows state (x >>= f) k r := by
  intro ns
  rw [runOn_bind_of_ok (hx ns)]
  exact hf ns

/-- A step that looks at the state first. -/
theorem getBind {f : σ → Step σ Fault α} {r : Reading (κ × α)}
    (hf : ∀ ns, Follows state (f (state ns k)) k r) : Follows state (get >>= f) k r := by
  intro ns
  rw [runOn_bind_of_ok (runOn_get _)]
  exact hf ns ns

/-- A step on a part of a part: `y` does to `e k` what `x` does to `k`. -/
theorem onPart {τ κ' : Type} {state' : List Text → κ' → τ} {x : Step σ Fault α}
    {y : Step τ Fault α} {k' : κ'} {r : Reading (κ × α)} (e : κ → κ')
    (hx : Follows state x k r)
    (hy : ∀ ns ms a k₁, x.runOn (state ns k) = (a, state ms k₁) →
      y.runOn (state' ns k') = (a, state' ms (e k₁))) :
    Follows state' y k' (do let (k, a) ← r; return (e k, a)) := by
  intro ns
  obtain ⟨k₁, hrun, hk⟩ := hx ns
  rw [hy _ _ _ _ hrun]
  cases hr : r.result with
  | error f =>
    rw [Reading.bind_of_error hr]
    exact ⟨e k₁, rfl, fun b hb => nomatch hb⟩
  | ok b =>
    rw [Reading.bind_of_ok hr]
    refine ⟨e k₁, by simp [Except.map], ?_⟩
    rintro b' hb'
    cases hb'
    exact congrArg e (hk _ hr)

end Follows

end Step

open Step (Follows)

/-! ### Messages -/

/-- A message in the making, beside a table with some names more. -/
def Draft.after {μ : Type} (names : NameTable) (ns : List Text) (m : μ) : Draft μ :=
  ⟨names.addAll ns, m⟩

/-- In a table that is not frozen, the loading of fields cannot fail. -/
theorem loadFields_eq {names : NameTable} (h : names.frozen = false) (path : String) (n : Node) :
    loadFields names path n =
      .ok (names.addAll (LoadedFields.ofNode path n).names, LoadedFields.ofNode path n) := by
  unfold loadFields LoadedFields.ofNode
  split
  · simp only [NameTable.localizeAll_eq h]
    rfl
  · rfl

/-- In a table that is not frozen, the loading of rules cannot fail. -/
theorem loadRules_eq {names : NameTable} (h : names.frozen = false) (path : String) (n : Node) :
    loadRules names path (some n) =
      .ok (names.addAll (LoadedFields.ofRules path n).names, (LoadedFields.ofRules path n).rules,
        (LoadedFields.ofRules path n).report) := by
  unfold loadRules LoadedFields.ofRules
  cases hf : n.get? "fields" with
  | none => simp [hf, LoadedFields.blank, LoadedFields.names]
  | some list =>
    simp only [Option.bind_some, hf, loadFields_eq h]
    rfl

namespace Fill

variable {μ : Type} {names : NameTable}

theorem runOn_size? (s : Text) (d : Draft μ) :
    (size? s).runOn d = ((Reading.size? s).result, d) := by
  unfold size? Reading.size?
  rcases readSize? s with ⟨_ | digits⟩ | n <;> rfl

theorem runOn_bytes (t : Text) (d : Draft μ) :
    (bytes t).runOn d = ((Reading.bytes t).result, d) := by
  unfold bytes Reading.bytes
  cases Utf8.encode t <;> rfl

theorem runOn_change (f : μ → μ) (m : μ) (ns : List Text) :
    (change f).runOn (Draft.after names ns m) = (.ok (), Draft.after names ns (f m)) := rfl

/-- A message with the fields and rules under `headers`, where `extend` adds nothing if there are
none. -/
theorem runOn_headers (h : names.frozen = false) (path : String) (n : Node)
    {extend : FieldList → RuleSet → μ → μ} {m : μ} (hm : extend [] .empty m = m)
    (ns : List Text) :
    (headers path n extend).runOn (Draft.after names ns m) =
      (.ok (LoadedFields.ofHeaders path n).report,
        Draft.after names (ns ++ (LoadedFields.ofHeaders path n).names)
          (extend (LoadedFields.ofHeaders path n).fields
            (LoadedFields.ofHeaders path n).rules m)) := by
  unfold headers LoadedFields.ofHeaders
  cases hh : n.get? "headers" with
  | none => simp [LoadedFields.blank, LoadedFields.names, hm]
  | some hs =>
    cases hf : hs.get? "fields" with
    | none => simp [LoadedFields.blank, LoadedFields.names, hm, hf]
    | some list =>
      have hfrozen : (names.addAll ns).frozen = false := by rw [NameTable.frozen_addAll, h]
      simp only [hf, Draft.after, Step.update, Step.runOn_ofRun, loadFields_eq hfrozen,
        NameTable.addAll_append]
      rfl

end Fill

namespace Request

variable {names : NameTable}

theorem follows_loadContentBlock (path : String) (content : Node) (r : Request) :
    Follows (Draft.after names) (loadContentBlock path content) r
      (contentBlockReading path content r) := by
  unfold loadContentBlock contentBlockReading
  rcases (content.get? "data").bind Node.scalar? with _ | data
  · rcases content.get? "size" with _ | size
    · exact Follows.pure _
    · refine Follows.bindSame (fun ns => ?_) fun k _ => ?_
      · rw [Fill.runOn_size?, Reading.names_size?, List.append_nil]
      · rcases k with _ | k
        · exact Follows.pure _
        · exact Follows.ofRun fun _ => rfl
  · refine Follows.bindSame (fun ns => ?_) fun bytes _ => ?_
    · rw [Fill.runOn_bytes, Reading.names_bytes, List.append_nil]
    · exact Follows.ofRun fun _ => rfl

theorem follows_loadContent (path : String) (n : Node) (r : Request) :
    Follows (Draft.after names) (loadContent path n) r (contentReading path n r) := by
  unfold loadContent contentReading
  rcases n.get? "content" with _ | content
  · refine Follows.getBind fun _ => ?_
    simp only [Draft.after]
    rcases r.fields.first? "content-length" with _ | text
    · exact Follows.pure _
    · refine Follows.bindSame (fun ns => ?_) fun k _ => ?_
      · rw [Fill.runOn_size?, Reading.names_size?, List.append_nil]
      · rcases k with _ | k
        · exact Follows.pure _
        · exact Follows.ofRun fun _ => rfl
  · exact follows_loadContentBlock path content r

/-- Filling a request in from a map follows its reading. -/
theorem follows_load (h : names.frozen = false) (path : String) {n : Node}
    (hn : n.isMapping = true) (r : Request) :
    Follows (Draft.after names) (load path n) r (reading path n r) := by
  unfold load reading
  rw [hn]
  refine Follows.getBind fun _ => ?_
  rcases hline : r.loadLine path n with ⟨r', a⟩
  simp only [Draft.after, hline]
  refine Follows.runBind (Fill.runOn_change _ r) ?_
  refine Follows.learnBind (fun ns => Fill.runOn_headers h path n (by simp) ns) ?_
  refine Follows.bind (follows_loadContent path n _) fun r'' b _ => ?_
  exact Follows.pure _

end Request

namespace Response

variable {names : NameTable}

theorem follows_loadStatus (path : String) (n : Node) (r : Response) :
    Follows (Draft.after names) (loadStatus path n) r (statusReading path n r) := by
  unfold loadStatus statusReading
  rcases n.get? "status" with _ | s
  · exact Follows.pure _
  · refine Follows.bindSame (fun ns => ?_) fun k _ => ?_
    · rw [Fill.runOn_size?, Reading.names_size?, List.append_nil]
    · rcases k with _ | k
      · exact Follows.pure _
      · dsimp only
        split
        · exact Follows.ofRun fun _ => rfl
        · exact Follows.pure _

/-- Filling a response in from a map follows its reading. -/
theorem follows_load (h : names.frozen = false) (path : String) {n : Node}
    (hn : n.isMapping = true) (r : Response) :
    Follows (Draft.after names) (load path n) r (reading path n r) := by
  unfold load reading
  rw [hn]
  refine Follows.runBind (Fill.runOn_change _ r) ?_
  refine Follows.bind (follows_loadStatus path n _) fun r' a _ => ?_
  have hheaders (r : Response) (ns : List Text) :
      (Fill.headers path n fun fs rs r =>
          { r with fields := r.fields ++ fs, rules := r.rules.merge rs }).runOn
          (Draft.after names ns r) = _ :=
    Fill.runOn_headers h path n (by simp) ns
  dsimp only [withReason]
  rcases (n.get? "reason").bind Node.scalar? with _ | reason
  · exact Follows.learnBind (hheaders _) (Follows.pure _)
  · exact Follows.runBind (Fill.runOn_change _ r') (Follows.learnBind (hheaders _) (Follows.pure _))

end Response

end TrafficReplay
