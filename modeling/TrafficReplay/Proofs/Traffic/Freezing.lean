import TrafficReplay.Traffic.RunState

/-!
# What a frozen state keeps

A frozen run state refuses every write of names, global rules and the size of the largest body, and
takes no more sessions.  The preparation of a batch comes too late then: it puts the sessions in
order and lets the first one start at zero before it meets the refusal.

* `RunState.Sealed`: a state that is frozen in all its parts;
* `RunState.performAll`: a state after some operations;
* `RunState.performAll_of_freeze`: what operations leave of a frozen state.
-/

namespace TrafficReplay
namespace RunState

variable {s s₀ : RunState} {ssns : List Session}

/-! ### Sessions in the order of their starts -/

/-- Whether sessions are in the order of their starts and the first one starts at zero. -/
def Normal (ssns : List Session) : Prop :=
  ssns.Pairwise (fun a b => a.start ≤ b.start) ∧ ∀ first ∈ ssns.head?, first.start = 0

/-- Sessions in the order of their starts, the first one starting at zero. -/
def normalized (ssns : List Session) : List Session :=
  shifted (((byStart ssns).head?.map Session.start).getD 0) (byStart ssns)

theorem startLe_trans (a b c : Session) (hab : decide (a.start ≤ b.start) = true)
    (hbc : decide (b.start ≤ c.start) = true) : decide (a.start ≤ c.start) = true :=
  decide_eq_true (Int.le_trans (of_decide_eq_true hab) (of_decide_eq_true hbc))

theorem startLe_total (a b : Session) :
    (decide (a.start ≤ b.start) || decide (b.start ≤ a.start)) = true := by
  simpa using Int.le_total a.start b.start

theorem pairwise_byStart (ssns : List Session) :
    (byStart ssns).Pairwise fun a b => a.start ≤ b.start :=
  (List.pairwise_mergeSort startLe_trans startLe_total ssns).imp of_decide_eq_true

theorem byStart_eq_self (h : ssns.Pairwise fun a b => a.start ≤ b.start) : byStart ssns = ssns :=
  List.mergeSort_of_pairwise (h.imp decide_eq_true)

theorem shifted_zero (ssns : List Session) : shifted 0 ssns = ssns := by
  simp [shifted]

theorem pairwise_shifted (offset : Int) (h : ssns.Pairwise fun a b => a.start ≤ b.start) :
    (shifted offset ssns).Pairwise fun a b => a.start ≤ b.start :=
  List.pairwise_map.2 (h.imp fun hab => Int.sub_le_sub_right hab offset)

theorem normal_normalized (ssns : List Session) : Normal (normalized ssns) := by
  refine ⟨pairwise_shifted _ (pairwise_byStart ssns), ?_⟩
  unfold normalized shifted
  cases byStart ssns with
  | nil => simp
  | cons first rest => simp

/-- Only sessions that are so already stay as they are. -/
theorem normalized_eq_self_iff : normalized ssns = ssns ↔ Normal ssns := by
  constructor
  · intro h
    exact h ▸ normal_normalized ssns
  · rintro ⟨hsorted, hfirst⟩
    rw [normalized, byStart_eq_self hsorted]
    cases ssns with
    | nil => rfl
    | cons first rest =>
      rw [List.head?_cons, Option.map_some, Option.getD_some, hfirst first rfl, shifted_zero]

@[simp] theorem normalized_normalized (ssns : List Session) :
    normalized (normalized ssns) = normalized ssns :=
  normalized_eq_self_iff.2 (normal_normalized ssns)

/-! ### Operations on a frozen state -/

/-- That a state is frozen in all its parts. -/
structure Sealed (s : RunState) : Prop where
  run : s.frozen = true
  names : s.names.frozen = true
  rules : s.rules.frozen = true

/-- A state with all its parts frozen. -/
def asFrozen (s : RunState) : RunState :=
  { s with names := { s.names with frozen := true }, rules := s.rules.freeze, frozen := true }

/-- A state can be frozen if neither it nor its name table is so already. -/
theorem freeze_eq_ok_iff :
    freeze.runOn s₀ = (.ok (), s) ↔
      s₀.frozen = false ∧ s₀.names.frozen = false ∧ s₀.asFrozen = s := by
  unfold freeze freezeNames NameTable.freeze asFrozen
  cases hrun : s₀.frozen with
  | true => simp [Step.runOn_bind, hrun]
  | false =>
    cases hnames : s₀.names.frozen with
    | true => simp [Step.runOn_bind, hrun, hnames]
    | false => simp [Step.runOn_bind, hrun, hnames]

/-- A state that was frozen is so in all its parts. -/
theorem sealed_of_freeze (h : freeze.runOn s₀ = (.ok (), s)) : s.Sealed := by
  obtain ⟨-, -, rfl⟩ := freeze_eq_ok_iff.1 h
  exact ⟨rfl, rfl, rfl⟩

/-- The preparation of a batch is refused, but the sessions have been put in order by then. -/
theorem Sealed.runOn_prepare (h : s.Sealed) :
    prepare.runOn s =
      (.error (.partFrozen .body), { s with sessions := normalized s.sessions }) := by
  simp [prepare, setMaxContentLength, checkWritable, Step.runOn_bind, h.run, normalized]

/-- Whether an operation is the preparation of a batch. -/
def Operation.isPrepare : Operation → Bool
  | .prepare => true
  | _ => false

theorem Sealed.localize (h : s.Sealed) (name : Text) :
    ((RunState.localize name).runOn s).2 = s := by
  cases hhas : s.names.has name <;>
    simp [RunState.localize, NameTable.localize, Step.runOn_bind, h.names, hhas]

/-- All other operations on a frozen state read it, or are refused before they write. -/
theorem Sealed.runOn_perform (h : s.Sealed) {o : Operation} (ho : o.isPrepare = false) :
    ((perform o).runOn s).2 = s := by
  have hrun := h.run
  have hnames := h.names
  have hrules := h.rules
  cases o with
  | localize name => simp [perform, h.localize]
  | localizeLower name => simp [perform, h.localize]
  | lookup name | contains name => simp [perform]
  | freezeNames => simp [perform, freezeNames, NameTable.freeze, Step.runOn_bind, hnames]
  | addSession ssn => simp [perform, addSession, checkWritable, Step.runOn_bind, hrun]
  | mergeRules rules => simp [perform, mergeRules, checkWritable, Step.runOn_bind, hrun]
  | addRule rule =>
    simp [perform, addRule, FieldRules.add, FieldRules.change, Step.runOn_bind, hrules]
  | setMaxContentLength length =>
    simp [perform, setMaxContentLength, checkWritable, Step.runOn_bind, hrun]
  | body size => simp [perform, body, Step.runOn_bind]
  | freeze => simp [perform, freeze, Step.runOn_bind, hrun]
  | prepare => cases ho

/-- The state after some operations, of which each may return or stop at a fault. -/
def performAll (s : RunState) (ops : List Operation) : RunState :=
  ops.foldl (fun s o => ((perform o).runOn s).2) s

/-- The sessions of a frozen state after some operations. -/
def sessionsAfter (ssns : List Session) (ops : List Operation) : List Session :=
  if ops.any Operation.isPrepare then normalized ssns else ssns

theorem Sealed.performAll (h : s.Sealed) (ops : List Operation) :
    s.performAll ops = { s with sessions := sessionsAfter s.sessions ops } := by
  induction ops generalizing s with
  | nil => rfl
  | cons o ops ih =>
    rw [RunState.performAll, List.foldl_cons]
    cases ho : o.isPrepare with
    | false =>
      rw [h.runOn_perform ho]
      refine (ih h).trans ?_
      rw [sessionsAfter, sessionsAfter, List.any_cons, ho, Bool.false_or]
    | true =>
      obtain rfl : o = .prepare := by cases o <;> first | rfl | cases ho
      have hrun :
          ((perform .prepare).runOn s).2 = { s with sessions := normalized s.sessions } := by
        simp [perform, h.runOn_prepare]
      rw [hrun]
      -- Once the sessions are in order, a second preparation finds nothing to do.
      have hsealed : Sealed { s with sessions := normalized s.sessions } :=
        ⟨h.run, h.names, h.rules⟩
      refine (ih hsealed).trans ?_
      simp [sessionsAfter, Operation.isPrepare]

/-- **What a frozen state keeps.** Whatever is done to it, a frozen state keeps all but the order
and the starts of its sessions.  These it keeps as well, unless a batch is prepared whose sessions
are not in order or do not start at zero; then they are in order and start at zero for good. -/
theorem performAll_of_freeze (h : freeze.runOn s₀ = (.ok (), s)) (ops : List Operation) :
    s.performAll ops = { s with sessions := sessionsAfter s.sessions ops } ∧
      ((s.performAll ops).sessions = s.sessions ↔
        ops.any Operation.isPrepare = false ∨ Normal s.sessions) := by
  have hall := (sealed_of_freeze h).performAll ops
  refine ⟨hall, ?_⟩
  rw [hall]
  cases hops : ops.any Operation.isPrepare with
  | false => simp [sessionsAfter, hops]
  | true => simp [sessionsAfter, hops, normalized_eq_self_iff]

/-- A loaded state with a session for each of some starts. -/
def withStarts (starts : List Int) : RunState :=
  { empty with sessions := starts.map fun start => { Session.blank "f.yaml" 1 with start } }

/-- The same state after it was frozen. -/
def frozenWith (starts : List Int) : RunState := (freeze.runOn (withStarts starts)).2

/-- The starts of the sessions of a state. -/
def starts (s : RunState) : List Int := s.sessions.map Session.start

/-- Sessions that are in order from zero on stay as they are when a batch is prepared too late. -/
theorem performAll_of_freeze_inOrder :
    freeze.runOn (withStarts [0, 5]) = (.ok (), frozenWith [0, 5]) ∧
      ((frozenWith [0, 5]).performAll [.localize "host", .prepare, .setMaxContentLength 3]).starts =
        [0, 5] := by
  have hfreeze : freeze.runOn (withStarts [0, 5]) = (.ok (), frozenWith [0, 5]) := rfl
  have hnormal : Normal (frozenWith [0, 5]).sessions := by
    have hsessions : (frozenWith [0, 5]).sessions = (withStarts [0, 5]).sessions := rfl
    simp [hsessions, withStarts, Normal]
  refine ⟨hfreeze, ?_⟩
  rw [starts, (performAll_of_freeze hfreeze _).2.2 (.inr hnormal)]
  rfl

/-- A session that starts late is moved to zero when a batch is prepared too late. -/
theorem not_frozen_starts_late :
    freeze.runOn (withStarts [1000]) = (.ok (), frozenWith [1000]) ∧
      ¬ ((frozenWith [1000]).performAll [.prepare]).sessions = (frozenWith [1000]).sessions := by
  have hfreeze : freeze.runOn (withStarts [1000]) = (.ok (), frozenWith [1000]) := rfl
  refine ⟨hfreeze, fun hkept => ?_⟩
  rw [(sealed_of_freeze hfreeze).performAll] at hkept
  have hnormal : Normal (frozenWith [1000]).sessions := normalized_eq_self_iff.1 hkept
  exact absurd (hnormal.2 _ rfl) (by decide)

end RunState
end TrafficReplay
