import Mathlib.Data.List.Forall2
import TrafficReplay.Yaml.Document

/-!
# Readings of a document side by side

A document with a node that has no end is read several times.  Which tokens a reading consumes and
where it fails does not depend on the reading before, and what it makes of them is right one level
deeper.  So the readings of a document come closer and closer to each other.

* `Node.Alike`: nodes that are the same down to a number of levels;
* `Parse.Related`: computations that keep two parsers in step;
* `Parse.related_parseNode`: so does the parsing of a node, by induction on the bound for its steps;
* `composeIn_alike`: readings after which a document is the same down to a number of levels.
-/

namespace TrafficReplay.Yaml

/-! ### Levels -/

namespace Node

/-- Entries whose keys and whose values correspond. -/
def PairAlike (R : Node → Node → Prop) (e e' : Node × Node) : Prop := R e.1 e'.1 ∧ R e.2 e'.2

/-- Nodes of one kind at one line, with one text or with children that correspond. -/
inductive Layer (R : Node → Node → Prop) : Node → Node → Prop
  | scalar (line : Nat) (s : Text) : Layer R (.scalar line s) (.scalar line s)
  | sequence (line : Nat) {ns ns' : List Node} (h : List.Forall₂ R ns ns') :
    Layer R (.sequence line ns) (.sequence line ns')
  | mapping (line : Nat) {es es' : List (Node × Node)}
    (h : List.Forall₂ (PairAlike R) es es') :
    Layer R (.mapping line es) (.mapping line es')

/-- Nodes that are the same down to a number of levels. -/
def Alike : Nat → Node → Node → Prop
  | 0 => fun _ _ => True
  | k + 1 => Layer (Alike k)

variable {R R' : Node → Node → Prop} {k : Nat} {n n' : Node}

theorem Layer.mono (h : Layer R n n') (hR : ∀ m m', R m m' → R' m m') : Layer R' n n' := by
  cases h with
  | scalar line s => exact .scalar line s
  | sequence line h => exact .sequence line (h.imp fun _ _ => hR _ _)
  | mapping line h => exact .mapping line (h.imp fun _ _ h => h.imp (hR _ _) (hR _ _))

theorem Alike.pred (h : Alike (k + 1) n n') : Alike k n n' := by
  induction k generalizing n n' with
  | zero => trivial
  | succ k ih => exact Layer.mono h fun _ _ => ih

theorem Alike.refl (k : Nat) (n : Node) : Alike k n n := by
  induction k generalizing n with
  | zero => trivial
  | succ k ih =>
    cases n with
    | scalar line s => exact .scalar line s
    | sequence line ns => exact .sequence line (List.forall₂_same.mpr fun n _ => ih n)
    | mapping line es => exact .mapping line (List.forall₂_same.mpr fun e _ => ⟨ih e.1, ih e.2⟩)

end Node

open Node (Alike PairAlike)

variable {k : Nat}

/-! ### Computations in step -/

/-- Computations that fail with the same fault, or have results with a relation between them. -/
inductive SameOutcome {α β : Type} (P : α → β → Prop) : Except Fault α → Except Fault β → Prop
  | ok {a : α} {b : β} (h : P a b) : SameOutcome P (.ok a) (.ok b)
  | error (f : Fault) : SameOutcome P (.error f) (.error f)

/-- The node that a name stands for after a reading. -/
def namedAfter (anchors : List (String × Option Node)) (name : String) : Node :=
  (anchors.lookup name).join.getD (Parse.emptyScalar 0)

/-- Named nodes that correspond. -/
def NamedAlike (k : Nat) (a a' : String × Option Node) : Prop :=
  a.1 = a'.1 ∧ Option.Rel (Alike k) a.2 a'.2

theorem NamedAlike.lookup {as as' : List (String × Option Node)}
    (h : List.Forall₂ (NamedAlike k) as as') (name : String) :
    Option.Rel (Option.Rel (Alike k)) (as.lookup name) (as'.lookup name) := by
  induction h with
  | nil => exact .none
  | @cons a a' as as' ha _ ih =>
    obtain ⟨key, node⟩ := a
    obtain ⟨_, node'⟩ := a'
    obtain ⟨rfl, hnode⟩ := ha
    rw [List.lookup_cons, List.lookup_cons]
    cases name == key with
    | true => exact .some hnode
    | false => exact ih

theorem NamedAlike.namedAfter {as as' : List (String × Option Node)}
    (h : List.Forall₂ (NamedAlike k) as as') (name : String) :
    Alike k (namedAfter as name) (namedAfter as' name) := by
  have hlookup := NamedAlike.lookup h name
  unfold Yaml.namedAfter
  generalize as.lookup name = found at hlookup ⊢
  generalize as'.lookup name = found' at hlookup ⊢
  cases hlookup with
  | none => exact Alike.refl k _
  | some hfound =>
    cases hfound with
    | none => exact Alike.refl k _
    | some h => exact h

/-- Parsers at the same place: what they have read is the same down to a number of levels, if that
is so of the readings before but for the last level. -/
structure ParseState.Alike (k : Nat) (s s' : ParseState) : Prop where
  tokens : s.tokens = s'.tokens
  fault : s.fault = s'.fault
  handles : s.handles = s'.handles
  recursive : s.recursive = s'.recursive
  anchors : List.Forall₂ (NamedAlike (k + 1)) s.anchors s'.anchors
  earlier : ∀ name, Node.Alike k (namedAfter s.earlier name) (namedAfter s'.earlier name)

namespace Parse

variable {α β γ δ : Type} {P : α → β → Prop} {Q : γ → δ → Prop}

/-- Computations that keep two parsers at the same place, and have related results. -/
def Related (k : Nat) (P : α → β → Prop) (x : Parse α) (y : Parse β) : Prop :=
  ∀ s s', s.Alike k s' → SameOutcome (fun p q => P p.1 q.1 ∧ p.2.Alike k q.2) (x s) (y s')

/-- A computation that does the same at the same place. -/
abbrev Steady (k : Nat) (x : Parse α) : Prop := Related k Eq x x

theorem Related.pure {a : α} {b : β} (h : P a b) : Related k P (pure a) (pure b) :=
  fun _ _ hs => .ok ⟨h, hs⟩

theorem related_throw (f : Fault) : Related k P (throw f) (throw f) := fun _ _ _ => .error f

theorem Related.bind {x : Parse α} {y : Parse β} {f : α → Parse γ} {g : β → Parse δ}
    (hx : Related k P x y) (hf : ∀ a b, P a b → Related k Q (f a) (g b)) :
    Related k Q (x >>= f) (y >>= g) := by
  intro s s' hs
  have h := hx s s' hs
  change SameOutcome _ ((x s).bind fun p => f p.1 p.2) ((y s').bind fun p => g p.1 p.2)
  generalize x s = u at h ⊢
  generalize y s' = v at h ⊢
  cases h with
  | ok h => exact hf _ _ h.1 _ _ h.2
  | error f => exact .error f

/-- A computation that does the same at the same place may come first. -/
theorem Steady.bind {x : Parse α} {f : α → Parse γ} {g : α → Parse δ} (hx : Steady k x)
    (hf : ∀ a, Related k Q (f a) (g a)) : Related k Q (x >>= f) (x >>= g) :=
  Related.bind hx fun a _ h => h ▸ hf a

/-- Or it comes first under a condition. -/
theorem Steady.guard {c : Prop} [Decidable c] {x : Parse Unit} {f : Unit → Parse γ}
    {g : Unit → Parse δ} (hx : Steady k x) (hf : Related k Q (f ()) (g ())) :
    Related k Q (if c then x >>= f else f ()) (if c then x >>= g else g ()) := by
  split
  · exact hx.bind fun _ => hf
  · exact hf

theorem Related.someBind {x : Parse α} {y : Parse β} {f : Option α → Parse γ}
    {g : Option β → Parse δ} (hx : Related k P x y)
    (hf : ∀ a b, P a b → Related k Q (f (some a)) (g (some b))) :
    Related k Q (some <$> x >>= f) (some <$> y >>= g) := by
  rw [bind_map_left, bind_map_left]
  exact hx.bind hf

theorem Related.mono {P' : α → β → Prop} {x : Parse α} {y : Parse β} (h : Related k P x y)
    (hP : ∀ a b, P a b → P' a b) : Related k P' x y := by
  intro s s' hs
  have h := h s s' hs
  generalize x s = u at h ⊢
  generalize y s' = v at h ⊢
  cases h with
  | ok h => exact .ok ⟨hP _ _ h.1, h.2⟩
  | error f => exact .error f

/-! ### Tokens -/

theorem steady_peek : Steady k peek := by
  rintro ⟨tokens, fault, _, _, _, _⟩ ⟨tokens', fault', _, _, _, _⟩ hs
  obtain rfl : tokens = tokens' := hs.tokens
  obtain rfl : fault = fault' := hs.fault
  rcases tokens with _ | ⟨t, ts⟩
  · cases fault with
    | none => exact .ok ⟨rfl, hs⟩
    | some f => exact .error f
  · exact .ok ⟨rfl, hs⟩

theorem steady_take : Steady k take := by
  refine steady_peek.bind fun t => ?_
  refine Steady.bind ?_ fun _ => .pure rfl
  exact fun s s' hs => .ok ⟨rfl, { hs with tokens := congrArg List.tail hs.tokens }⟩

theorem steady_nextIn (kinds : List Token.Kind) : Steady k (nextIn kinds) :=
  steady_peek.bind fun _ => .pure rfl

theorem steady_takeIf (kind : Token.Kind) : Steady k (takeIf kind) := by
  refine steady_peek.bind fun t => ?_
  split
  · exact steady_take.bind fun _ => .pure rfl
  · exact .pure rfl

theorem steady_expect (kind : Token.Kind) (f : Fault) : Steady k (expect kind f) := by
  refine (steady_takeIf kind).bind fun found => ?_
  split
  · exact related_throw f
  · exact .pure rfl

theorem steady_anchor? : Steady k anchor? := by
  refine steady_peek.bind fun t => ?_
  split
  · exact steady_take.bind fun _ => .pure rfl
  · exact .pure rfl

theorem steady_tag? : Steady k tag? := by
  refine steady_peek.bind fun t => ?_
  split
  · exact steady_take.bind fun _ => .pure rfl
  · exact .pure rfl

theorem steady_properties : Steady k properties := by
  refine steady_anchor?.bind fun a => ?_
  split
  · exact steady_tag?.bind fun _ => .pure rfl
  · refine steady_tag?.bind fun t => ?_
    split
    · exact steady_anchor?.bind fun _ => .pure rfl
    · exact .pure rfl

/-! ### Names -/

theorem Related.getBind {f : ParseState → Parse γ} {g : ParseState → Parse δ}
    (hf : ∀ s s', s.Alike k s' → Related k Q (f s) (g s')) :
    Related k Q (get >>= f) (get >>= g) :=
  fun s s' hs => hf s s' hs s s' hs

theorem related_set {t t' : ParseState} (h : t.Alike k t') : Related k Eq (set t) (set t') :=
  fun _ _ _ => .ok ⟨rfl, h⟩

theorem related_modify {f g : ParseState → ParseState}
    (h : ∀ s s', s.Alike k s' → (f s).Alike k (g s')) :
    Related k Eq (modify f : Parse PUnit) (modify g) :=
  fun s s' hs => .ok ⟨rfl, h s s' hs⟩

theorem steady_checkHandle (tag : Option Tag) : Steady k (checkHandle tag) := by
  unfold checkHandle
  split
  · refine .getBind fun s s' hs => ?_
    rw [hs.handles]
    split
    · exact related_throw _
    · exact .pure rfl
  · exact .pure rfl

theorem steady_openAnchor (name : Option String) : Steady k (openAnchor name) := by
  unfold openAnchor
  split
  · exact .pure rfl
  · rename_i name
    refine .getBind fun s s' hs => ?_
    have hknown : (s.anchors.lookup name).isSome = (s'.anchors.lookup name).isSome := by
      have hlookup := NamedAlike.lookup hs.anchors name
      generalize s.anchors.lookup name = found at hlookup ⊢
      generalize s'.anchors.lookup name = found' at hlookup ⊢
      cases hlookup <;> rfl
    rw [hknown]
    split
    · exact related_throw _
    · exact related_set { hs with anchors := .cons ⟨rfl, .none⟩ hs.anchors }

theorem related_closeAnchor (name : Option String) {n n' : Node} (h : Alike (k + 1) n n') :
    Related k (Alike (k + 1)) (closeAnchor name n) (closeAnchor name n') := by
  unfold closeAnchor
  split
  · exact .pure h
  · refine Related.bind (related_modify fun s s' hs => ?_) fun _ _ _ => .pure h
    exact { hs with anchors := .cons ⟨rfl, .some h⟩ hs.anchors }

/-- While a name is open, it stands for what it stood for in the reading before: here a level is
lost. -/
theorem related_named (name : String) : Related k (Alike k) (named name) (named name) := by
  refine .getBind fun s s' hs => ?_
  have hlookup := NamedAlike.lookup hs.anchors name
  generalize s.anchors.lookup name = found at hlookup ⊢
  generalize s'.anchors.lookup name = found' at hlookup ⊢
  cases hlookup with
  | none => exact related_throw _
  | some hfound =>
    cases hfound with
    | some h => exact .pure h.pred
    | none =>
      have hset : ({ s with recursive := true } : ParseState).Alike k
          { s' with recursive := true } := { hs with recursive := rfl }
      exact (related_set hset).bind fun _ _ _ => .pure (hs.earlier name)

/-! ### Nodes -/

/-- The parsing of nodes, with some bound for the number of steps, keeps parsers in step. -/
structure InStep (k fuel : Nat) : Prop where
  node : ∀ place, Related k (Alike k) (parseNode fuel place) (parseNode fuel place)
  optional : ∀ place ends line, Related k (Alike k) (parseOptional fuel place ends line)
    (parseOptional fuel place ends line)
  value : ∀ place ends, Related k (Alike k) (parseValue fuel place ends)
    (parseValue fuel place ends)
  entries : Related k (List.Forall₂ (Alike k)) (parseEntries fuel) (parseEntries fuel)
  openEntries : Related k (List.Forall₂ (Alike k)) (parseOpenEntries fuel) (parseOpenEntries fuel)
  pairs : Related k (List.Forall₂ (PairAlike (Alike k)))
    (parsePairs fuel) (parsePairs fuel)
  flowItems : ∀ first, Related k (List.Forall₂ (Alike k)) (parseFlowItems fuel first)
    (parseFlowItems fuel first)
  flowPairs : ∀ first, Related k (List.Forall₂ (PairAlike (Alike k)))
    (parseFlowPairs fuel first) (parseFlowPairs fuel first)

theorem related_emptyScalar (line : Nat) :
    Related k (Alike k) (pure (emptyScalar line)) (pure (emptyScalar line)) :=
  .pure (Alike.refl k _)

/-- A collection is right one level deeper than its parts. -/
theorem related_parsed (name : Option String) {x : Parse Node}
    (hx : Related k (Alike (k + 1)) x x) :
    Related k (Alike k) (do openAnchor name; closeAnchor name (← x))
      (do openAnchor name; closeAnchor name (← x)) := by
  refine (steady_openAnchor name).bind fun _ => ?_
  refine hx.bind fun n n' hn => ?_
  exact (related_closeAnchor name hn).mono fun _ _ => Alike.pred

theorem InStep.parseNode {fuel : Nat} (h : InStep k fuel) (place : Place) :
    Related k (Alike k) (parseNode (fuel + 1) place) (parseNode (fuel + 1) place) := by
  unfold Parse.parseNode
  refine steady_peek.bind fun t => ?_
  split
  · exact steady_take.bind fun _ => related_named _
  · refine steady_properties.bind fun p => ?_
    refine (steady_checkHandle p.tag).bind fun _ => ?_
    refine steady_peek.bind fun t => ?_
    dsimp only
    split
    · refine steady_take.bind fun _ => ?_
      exact related_parsed _ (.pure (Alike.refl _ _))
    · refine related_parsed _ (steady_take.bind fun _ => ?_)
      exact (h.flowItems true).bind fun _ _ hns => .pure (.sequence _ hns)
    · refine related_parsed _ (steady_take.bind fun _ => ?_)
      exact (h.flowPairs true).bind fun _ _ hes => .pure (.mapping _ hes)
    · refine related_parsed _ ?_
      exact h.openEntries.bind fun _ _ hns => .pure (.sequence _ hns)
    · refine related_parsed _ (steady_take.bind fun _ => ?_)
      exact h.entries.bind fun _ _ hns => .pure (.sequence _ hns)
    · refine related_parsed _ (steady_take.bind fun _ => ?_)
      exact h.entries.bind fun _ _ hns => .pure (.sequence _ hns)
    · refine related_parsed _ (steady_take.bind fun _ => ?_)
      exact h.pairs.bind fun _ _ hes => .pure (.mapping _ hes)
    · refine related_parsed _ (steady_take.bind fun _ => ?_)
      exact h.pairs.bind fun _ _ hes => .pure (.mapping _ hes)
    · split
      · exact related_parsed _ (.pure (Alike.refl _ _))
      · exact related_throw _

theorem InStep.parseOptional {fuel : Nat} (h : InStep k fuel) (place : Place)
    (ends : List Token.Kind) (line : Nat) :
    Related k (Alike k) (parseOptional (fuel + 1) place ends line)
      (parseOptional (fuel + 1) place ends line) := by
  unfold Parse.parseOptional
  refine (steady_nextIn ends).bind fun ended => ?_
  split
  · exact related_emptyScalar line
  · exact h.node place

theorem InStep.parseValue {fuel : Nat} (h : InStep k fuel) (place : Place)
    (ends : List Token.Kind) :
    Related k (Alike k) (parseValue (fuel + 1) place ends)
      (parseValue (fuel + 1) place ends) := by
  unfold Parse.parseValue
  refine steady_peek.bind fun t => ?_
  split
  · exact steady_take.bind fun _ => h.optional place ends t.line
  · exact related_emptyScalar t.line

theorem InStep.parseEntries {fuel : Nat} (h : InStep k fuel) :
    Related k (List.Forall₂ (Alike k)) (parseEntries (fuel + 1)) (parseEntries (fuel + 1)) := by
  unfold Parse.parseEntries
  refine steady_peek.bind fun t => ?_
  split
  · refine steady_take.bind fun _ => ?_
    refine (h.optional _ _ _).bind fun _ _ hn => ?_
    exact h.entries.bind fun _ _ hns => .pure (.cons hn hns)
  · exact (steady_expect _ _).bind fun _ => .pure .nil

theorem InStep.parseOpenEntries {fuel : Nat} (h : InStep k fuel) :
    Related k (List.Forall₂ (Alike k)) (parseOpenEntries (fuel + 1))
      (parseOpenEntries (fuel + 1)) := by
  unfold Parse.parseOpenEntries
  refine steady_peek.bind fun t => ?_
  split
  · refine steady_take.bind fun _ => ?_
    refine (h.optional _ _ _).bind fun _ _ hn => ?_
    exact h.openEntries.bind fun _ _ hns => .pure (.cons hn hns)
  · exact .pure .nil

theorem InStep.parsePairs {fuel : Nat} (h : InStep k fuel) :
    Related k (List.Forall₂ (PairAlike (Alike k))) (parsePairs (fuel + 1))
      (parsePairs (fuel + 1)) := by
  unfold Parse.parsePairs
  refine steady_peek.bind fun t => ?_
  split
  · refine steady_take.bind fun _ => ?_
    refine (h.optional _ _ _).bind fun _ _ hkey => ?_
    refine (h.value _ _).bind fun _ _ hvalue => ?_
    exact h.pairs.bind fun _ _ hes => .pure (.cons ⟨hkey, hvalue⟩ hes)
  · exact (steady_expect _ _).bind fun _ => .pure .nil

theorem InStep.parseFlowItems {fuel : Nat} (h : InStep k fuel) (first : Bool) :
    Related k (List.Forall₂ (Alike k)) (parseFlowItems (fuel + 1) first)
      (parseFlowItems (fuel + 1) first) := by
  unfold Parse.parseFlowItems
  refine (steady_takeIf _).bind fun ended => ?_
  split
  · exact .pure .nil
  refine (steady_expect _ _).guard ?_
  refine steady_peek.bind fun t => ?_
  split
  · refine steady_take.bind fun _ => ?_
    refine (h.optional _ _ _).bind fun _ _ hkey => ?_
    refine (h.value _ _).bind fun _ _ hvalue => ?_
    refine (h.flowItems false).bind fun _ _ hns => .pure (.cons ?_ hns)
    exact Alike.pred (.mapping t.line (.cons ⟨hkey, hvalue⟩ .nil))
  · refine (steady_takeIf _).bind fun ended => ?_
    split
    · exact .pure .nil
    · refine (h.node _).bind fun _ _ hn => ?_
      exact (h.flowItems false).bind fun _ _ hns => .pure (.cons hn hns)

theorem InStep.parseFlowPairs {fuel : Nat} (h : InStep k fuel) (first : Bool) :
    Related k (List.Forall₂ (PairAlike (Alike k))) (parseFlowPairs (fuel + 1) first)
      (parseFlowPairs (fuel + 1) first) := by
  unfold Parse.parseFlowPairs
  refine (steady_takeIf _).bind fun ended => ?_
  split
  · exact .pure .nil
  refine (steady_expect _ _).guard ?_
  refine steady_peek.bind fun t => ?_
  split
  · refine steady_take.bind fun _ => ?_
    refine (h.optional _ _ _).bind fun _ _ hkey => ?_
    refine (h.value _ _).bind fun _ _ hvalue => ?_
    exact (h.flowPairs false).bind fun _ _ hes => .pure (.cons ⟨hkey, hvalue⟩ hes)
  · refine (steady_takeIf _).bind fun ended => ?_
    split
    · exact .pure .nil
    · refine (h.node _).bind fun _ _ hkey => ?_
      refine steady_peek.bind fun t => ?_
      refine (h.flowPairs false).bind fun _ _ hes => .pure (.cons ⟨hkey, ?_⟩ hes)
      exact Alike.refl k _

theorem inStep (k : Nat) : ∀ fuel, InStep k fuel
  | 0 => by
    refine ⟨fun _ => ?_, fun _ _ _ => ?_, fun _ _ => ?_, ?_, ?_, ?_, fun _ => ?_, fun _ => ?_⟩
    · exact related_emptyScalar 0
    · exact related_emptyScalar _
    · exact related_emptyScalar 0
    all_goals exact .pure .nil
  | fuel + 1 =>
    have h := inStep k fuel
    ⟨h.parseNode, h.parseOptional, h.parseValue, h.parseEntries, h.parseOpenEntries, h.parsePairs,
      h.parseFlowItems, h.parseFlowPairs⟩

/-! ### Documents -/

theorem steady_parseDirectives (fuel : Nat) (versioned : Bool) (handles : List String) :
    Steady k (parseDirectives fuel versioned handles) := by
  induction fuel generalizing versioned handles with
  | zero => exact .pure rfl
  | succ fuel ih =>
    refine steady_peek.bind fun t => ?_
    split
    · refine steady_take.bind fun _ => ?_
      split
      · refine Steady.guard (related_throw _) ?_
        exact Steady.guard (related_throw _) (ih _ _)
      · exact Steady.guard (related_throw _) (ih _ _)
      · exact ih _ _
    · exact related_modify fun s s' hs => { hs with handles := rfl }

theorem steady_skipDocumentEnds (fuel : Nat) : Steady k (skipDocumentEnds fuel) := by
  induction fuel with
  | zero => exact .pure rfl
  | succ fuel ih =>
    refine (steady_takeIf _).bind fun ended => ?_
    split
    · exact ih
    · exact .pure rfl

theorem steady_parseDocumentStart (fuel : Nat) : Steady k (parseDocumentStart fuel) := by
  refine (steady_skipDocumentEnds fuel).bind fun _ => ?_
  refine steady_peek.bind fun t => ?_
  split
  · exact .pure rfl
  · refine (steady_parseDirectives fuel false []).bind fun _ => ?_
    exact (steady_expect _ _).bind fun _ => .pure rfl

theorem related_parseExplicitRoot (fuel : Nat) :
    Related k (Alike k) (parseExplicitRoot fuel) (parseExplicitRoot fuel) := by
  refine steady_peek.bind fun t => ?_
  split
  · exact related_emptyScalar t.line
  · exact (inStep k fuel).node .block

theorem related_parseStream (fuel : Nat) :
    Related k (Option.Rel (Alike k)) (parseStream fuel) (parseStream fuel) := by
  refine steady_take.bind fun _ => ?_
  refine steady_peek.bind fun t => ?_
  have hend (n n' : Node) (hn : Alike k n n') : Related k (Option.Rel (Alike k))
      (do
        let _ ← takeIf .documentEnd
        if ← parseDocumentStart fuel then throw .furtherDocument
        return some n)
      (do
        let _ ← takeIf .documentEnd
        if ← parseDocumentStart fuel then throw .furtherDocument
        return some n') := by
    refine (steady_takeIf _).bind fun _ => ?_
    refine (steady_parseDocumentStart fuel).bind fun further => ?_
    exact Steady.guard (related_throw _) (.pure (.some hn))
  split
  · refine (steady_parseDocumentStart fuel).bind fun explicit => ?_
    split
    · exact (related_parseExplicitRoot fuel).someBind hend
    · exact fun s s' hs => .ok ⟨.none, hs⟩
  · exact ((inStep k fuel).node .block).someBind hend

end Parse

/-! ### Readings -/

/-- Readings that come to the same down to a number of levels. -/
def ReadAlike (k : Nat) (p q : Option Node × ParseState) : Prop :=
  Option.Rel (Alike k) p.1 q.1 ∧ p.2.Alike k q.2

variable {feed : Feed Token}

theorem alike_readDocument {as as' : List (String × Option Node)}
    (h : ∀ name, Alike k (namedAfter as name) (namedAfter as' name)) :
    SameOutcome (ReadAlike k) (readDocument feed as) (readDocument feed as') :=
  Parse.related_parseStream _ _ _ ⟨rfl, rfl, rfl, rfl, .nil, h⟩

/-- A document after it has been read again a number of times. -/
def reading (feed : Feed Token) : Nat → Except Fault (Option Node × ParseState)
  | 0 => readDocument feed []
  | i + 1 => do readDocument feed (← reading feed i).2.anchors

/-- No reading depends on what comes below the first levels of the one before. -/
theorem alike_reading (i j : Nat) (hij : i ≤ j) :
    SameOutcome (ReadAlike i) (reading feed i) (reading feed j) := by
  induction i generalizing j with
  | zero =>
    induction j with
    | zero => exact alike_readDocument fun _ => trivial
    | succ j ih =>
      have hprevious := ih (Nat.zero_le j)
      unfold reading
      generalize reading feed j = x at hprevious ⊢
      generalize hfirst : reading feed 0 = y at hprevious
      cases hprevious with
      | ok => exact alike_readDocument fun _ => trivial
      | error f =>
        rw [reading] at hfirst
        rw [hfirst]
        exact .error f
  | succ i ih =>
    cases j with
    | zero => exact absurd hij (Nat.not_succ_le_zero i)
    | succ j =>
      have hprevious := ih j (Nat.le_of_succ_le_succ hij)
      unfold reading
      generalize reading feed i = x at hprevious ⊢
      generalize reading feed j = y at hprevious ⊢
      cases hprevious with
      | ok h => exact alike_readDocument (NamedAlike.namedAfter h.2.anchors)
      | error f => exact .error f

/-- If the first reading succeeds then all do, and they meet a node without an end if it does. -/
theorem exists_reading {p : Option Node × ParseState} (hp : reading feed 0 = .ok p) (i : Nat) :
    ∃ q, reading feed i = .ok q ∧ q.2.recursive = p.2.recursive := by
  have hsame := @alike_reading feed 0 i (Nat.zero_le i)
  rw [hp] at hsame
  generalize reading feed i = x at hsame
  cases hsame with
  | ok h => exact ⟨_, rfl, h.2.recursive.symm⟩

/-- To read a document with such a node again is to go on to its next readings. -/
theorem readAgain_eq_reading {p q : Option Node × ParseState} (hp : reading feed 0 = .ok p)
    (hrecursive : p.2.recursive = true) (n : Nat) {i : Nat} (hq : reading feed i = .ok q) :
    readAgain feed n q = (reading feed (i + n)).map Prod.fst := by
  induction n generalizing i q with
  | zero =>
    rw [Nat.add_zero, hq]
    rfl
  | succ n ih =>
    obtain ⟨r, hr, -⟩ := exists_reading hp (i + 1)
    have hnext : readDocument feed q.2.anchors = .ok r := by
      rw [← hr, reading, hq]
      rfl
    have hagain : q.2.recursive = true := by
      obtain ⟨q', hq', hsame⟩ := exists_reading hp i
      obtain rfl : q = q' := Except.ok.inj (hq.symm.trans hq')
      exact hsame.trans hrecursive
    rw [readAgain, if_pos hagain, hnext]
    exact (ih hr).trans (by rw [Nat.add_assoc, Nat.add_comm 1 n])

/-- The root of the document in a source that is read again at most a number of times. -/
def composeIn (n : Nat) (source : Source) : Except Fault (Option Node) := do
  let feed := tokens source
  readAgain feed n (← readDocument feed [])

theorem compose_eq_composeIn (source : Source) : compose source = composeIn unfoldings source := rfl

/-- **Readings come closer to each other.** If a document is read again as often as there are levels
that count, then reading it more often changes nothing in these levels; nor does it change whether
there is a fault, and which. -/
theorem composeIn_alike {m n : Nat} (h : m ≤ n) (source : Source) :
    SameOutcome (Option.Rel (Alike m)) (composeIn m source) (composeIn n source) := by
  unfold composeIn
  dsimp only
  cases hp : readDocument (tokens source) [] with
  | error f => exact .error f
  | ok p =>
    change SameOutcome _ (readAgain (tokens source) m p) (readAgain (tokens source) n p)
    cases hrecursive : p.2.recursive with
    | false =>
      have honce (n : Nat) : readAgain (tokens source) n p = .ok p.1 := by
        cases n with
        | zero => rfl
        | succ n =>
          rw [readAgain, hrecursive]
          rfl
      rw [honce, honce]
      cases p.1 with
      | none => exact .ok .none
      | some n => exact .ok (.some (.refl m n))
    | true =>
      have hfirst : reading (tokens source) 0 = .ok p := hp
      rw [readAgain_eq_reading hfirst hrecursive m hfirst,
        readAgain_eq_reading hfirst hrecursive n hfirst, Nat.zero_add, Nat.zero_add]
      have hsame := @alike_reading (tokens source) m n h
      generalize reading (tokens source) m = x at hsame ⊢
      generalize reading (tokens source) n = y at hsame ⊢
      cases hsame with
      | ok h => exact .ok h.1
      | error f => exact .error f

end TrafficReplay.Yaml
