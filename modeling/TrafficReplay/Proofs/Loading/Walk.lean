import TrafficReplay.Proofs.Loading.Follows

/-!
# A walk does what its reading says

On a state that is being loaded, the walk through a node ends with the result of the node's reading,
and it leaves the state as it was but for what the reading brings (`Handler.follows_walkTransaction`,
`Handler.follows_walkSession`, `Handler.runOn_loader`).
-/

namespace TrafficReplay
open TrafficReplay.Yaml TrafficReplay.Text
open Step (Follows)

/-- A run with some names more. -/
def RunState.learn (run : RunState) (ns : List Text) : RunState :=
  { run with names := run.names.addAll ns }

/-- A run with some names and sessions more. -/
def RunState.gain (run : RunState) (ns : List Text) (ssns : List Session) : RunState :=
  { run.learn ns with sessions := run.sessions ++ ssns }

namespace LoadState

/-- What the reading of transactions depends on. -/
def context (s : LoadState) (settings : Settings) : ReadingContext :=
  ⟨settings, s.path, s.run.rules.rules⟩

/-- A state with some names more and an open transaction. -/
def filling (s : LoadState) (ns : List Text) (t : Transaction) : LoadState :=
  { s with run := s.run.learn ns, transaction := some t }

theorem learn_filling (s : LoadState) (ns ms : List Text) (t : Transaction) :
    { s.filling ns t with run := (s.filling ns t).run.learn ms } = s.filling (ns ++ ms) t := by
  simp [filling, RunState.learn]

/-- A state with some names more, an open session, and a transaction that may have been closed. -/
def closing (s : LoadState) (ns : List Text) (p : Option Transaction × Session) : LoadState :=
  { s with run := s.run.learn ns, session := some p.2, transaction := p.1 }

/-- A state inside a scope that holds the load lock. -/
def inside (s : LoadState) : LoadState :=
  { s with run := { s.run with locked := true }, scopes := true :: s.scopes }

/-- A state with some names more and an open session. -/
def building (s : LoadState) (ns : List Text) (ssn : Session) : LoadState :=
  { s with run := s.run.learn ns, session := some ssn }

/-- A state with some names and sessions more, and what is left of the last session. -/
def between (s : LoadState) (ns : List Text) (ssns : List Session) (left : Option Session) :
    LoadState :=
  { s with run := s.run.gain ns ssns, session := left }

end LoadState

/-- The sessions that reading a node gives. -/
def Session.gained (r : Reading (Option Session × Report)) : List Session :=
  match r.result with
  | .ok (ssn, _) => ssn.toList
  | .error _ => []

/-- A session with a transaction more, if there is one. -/
def Session.attach (ssn : Session) (t : Option Transaction) : Session :=
  { ssn with transactions := ssn.transactions ++ t.toList }

@[simp] theorem Session.attach_none (ssn : Session) : ssn.attach none = ssn := by
  simp [attach]

namespace Load

variable {s : LoadState}

/-- Filling a message of the open transaction in follows the filling in of the message. -/
theorem follows_fill {μ : Type} {message : Transaction → μ}
    {replace : Transaction → μ → Transaction} {x : Fill μ Report} {t : Transaction}
    {r : Reading (μ × Report)} (hx : Follows (Draft.after s.run.names) x (message t) r) :
    Follows s.filling (Load.fill message replace x) t
      (do
        let (m, a) ← r
        return (replace t m, a)) := by
  refine hx.onPart (replace t) fun ns ms a m hrun => ?_
  have htransaction : transaction.runOn (s.filling ns t) = (.ok t, s.filling ns t) := rfl
  have hpart : x.runOn ⟨(s.filling ns t).run.names, message t⟩ = _ := hrun
  rw [Load.fill, Step.runOn_bind_of_ok htransaction, Step.runOn_onPart]
  simp only [hpart]
  rfl

/-- Loading the rules of a block, into a table that is not frozen. -/
theorem runOn_rules (h : s.run.names.frozen = false) (n : Node) :
    (rules n).runOn s =
      (.ok ((LoadedFields.ofRules s.path n).rules, (LoadedFields.ofRules s.path n).report),
        { s with run := s.run.learn (LoadedFields.ofRules s.path n).names }) := by
  simp only [rules, onRun, Step.runOn_bind, Step.runOn_get, Step.runOn_onPart, Step.runOn_liftM,
    loadRules_eq h]
  rfl

end Load

namespace Handler

variable {s : LoadState} {settings : Settings} {n : Node}

/-! ### Transactions -/

theorem follows_fillRequest (h : s.run.names.frozen = false) {n : Node} (hn : n.isMapping = true)
    (t : Transaction) :
    Follows s.filling (fillRequest n) t
      (do
        let (request, a) ← t.request.reading s.path n
        return ({ t with request }, a)) :=
  Follows.getBind fun _ => Load.follows_fill (Request.follows_load h s.path hn t.request)

theorem follows_fillResponse (h : s.run.names.frozen = false) {n : Node}
    (hn : n.isMapping = true) (t : Transaction) :
    Follows s.filling (fillResponse n) t
      (do
        let (response, a) ← { t.response with rules := s.run.rules.rules }.reading s.path n
        return ({ t with response }, a)) := by
  unfold fillResponse
  refine Follows.getBind fun _ => ?_
  refine Follows.runBind (fun _ => rfl) ?_
  refine Follows.runBind (fun _ => rfl) ?_
  exact Load.follows_fill (Response.follows_load h s.path hn _)

theorem follows_tell (h : s.run.names.frozen = false) (sec : Section) {n : Node}
    (hn : n.isMapping = true) (t : Transaction) :
    Follows s.filling ((recording settings).tell sec n) t
      (Transaction.mapReading (s.context settings) sec n t) := by
  have hrequest := follows_fillRequest h hn t
  have hresponse := follows_fillResponse h hn t
  unfold Transaction.mapReading
  cases hmode : settings.mode <;> cases sec <;>
    simp only [tell, clientRequest, proxyRequest, proxyResponse, serverResponse, hmode,
      LoadState.context, Section.role, if_true, reduceCtorEq, if_false]
  all_goals first | exact hrequest | exact hresponse | exact Follows.pure _

theorem follows_walkSection (h : s.run.names.frozen = false) (n : Node) (sec : Section)
    (t : Transaction) :
    Follows s.filling ((recording settings).walkSection n sec) t
      (Transaction.sectionReading (s.context settings) n t sec) := by
  unfold walkSection Transaction.sectionReading
  rcases n.get? sec.key with _ | m
  · exact Follows.pure _
  · dsimp only
    split
    · rename_i hm
      exact Follows.bind (follows_tell h sec hm t) fun t' a _ => Follows.pure _
    · exact Follows.getBind fun _ => Follows.pure _

theorem follows_walkSections (h : s.run.names.frozen = false) (n : Node) (secs : List Section)
    (t : Transaction) :
    Follows s.filling ((recording settings).walkSections n secs) t
      (Transaction.sectionsReading (s.context settings) n t secs) := by
  induction secs generalizing t with
  | nil => exact Follows.pure _
  | cons sec secs ih =>
    refine Follows.bind (follows_walkSection h n sec t) fun t' p _ => ?_
    exact Follows.bind (ih t') fun t'' q _ => Follows.pure _

theorem runOn_walkAll (h : s.run.names.frozen = false) (n : Node) (ns : List Text)
    (t : Transaction) :
    ((recording settings).walkAll n).runOn (s.filling ns t) =
      (.ok (LoadedFields.ofAll s.path n).report,
        s.filling (ns ++ (LoadedFields.ofAll s.path n).names)
          (t.withRules (LoadedFields.ofAll s.path n).rules)) := by
  have hblank (a : Report) :
      (.ok a, s.filling ns t) = ((.ok (LoadedFields.blank a).report : Except Fault Report),
        s.filling (ns ++ (LoadedFields.blank a).names)
          (t.withRules (LoadedFields.blank a).rules)) := by
    simp [LoadedFields.blank, LoadedFields.names, Transaction.withRules]
  unfold walkAll LoadedFields.ofAll
  rcases n.get? "all" with _ | all
  · exact hblank []
  · dsimp only
    rcases all.get? "headers" with _ | headers
    · exact hblank _
    · have hfrozen : (s.filling ns t).run.names.frozen = false := by
        rw [← h]
        exact NameTable.frozen_addAll _ _
      have hrules := Load.runOn_rules hfrozen headers
      rw [LoadState.learn_filling] at hrules
      have happly (rules : RuleSet) (ns : List Text) :
          ((recording settings).applyToAll rules).runOn (s.filling ns t) =
            (.ok [], s.filling ns (t.withRules rules)) := rfl
      rw [Step.runOn_bind_of_ok hrules, Step.runOn_bind_of_ok (happly _ _), List.append_nil]
      rfl

theorem runOn_closeTransaction (ns : List Text) (t : Transaction) (ssn : Session) :
    ((recording settings).closeTransaction).runOn (s.closing ns (some t, ssn)) =
      (.ok (Transaction.closed (s.context settings) t).2,
        s.closing ns (none, ssn.attach (Transaction.closed (s.context settings) t).1)) := by
  have hwanted :
      (settings.keys.isEmpty || settings.keys.contains (t.request.key settings.keyFormat)) =
      (t.keyed settings).wanted settings := rfl
  unfold closeTransaction Transaction.closed
  rw [Step.runOn_bind_of_ok (Step.runOn_get _)]
  simp only [LoadState.closing, Step.runOn_bind_of_ok (Step.runOn_set _ _), hwanted]
  cases hw : (t.keyed settings).wanted settings with
  | true =>
    simp only [LoadState.context, hw, if_true, Option.isNone_some, Bool.false_eq_true, if_false]
    rfl
  | false =>
    simp only [LoadState.context, hw, Bool.false_eq_true, if_false, Session.attach,
      Option.toList_none, List.append_nil]
    rfl

/-- The walk through the contents of an open transaction closes it and attaches to the session what
the contents come to. -/
theorem follows_walkContents (h : s.run.names.frozen = false) (n : Node) (ssn : Session) :
    Follows s.closing ((recording settings).walkContents n) (some (.blank settings.strict), ssn)
      (do
        let (t, a) ← Transaction.contentsReading (s.context settings) n
        return ((none, ssn.attach t), a)) := by
  unfold walkContents Transaction.contentsReading
  rw [bind_assoc]
  -- The sections see the open transaction only: for them the session is part of the state.
  have hs : ({ s with session := some ssn } : LoadState).run.names.frozen = false := h
  refine (follows_walkSections hs n Section.all (.blank settings.strict)).bindPart
    (fun t => (some t, ssn)) (fun _ _ => rfl) fun t p _ => ?_
  obtain ⟨a, malformed⟩ := p
  dsimp only
  rw [bind_assoc]
  have hall (ns : List Text) :
      ((recording settings).walkAll n).runOn (s.closing ns (some t, ssn)) =
        (.ok (LoadedFields.ofAll s.path n).report,
          s.closing (ns ++ (LoadedFields.ofAll s.path n).names)
            (some (t.withRules (LoadedFields.ofAll s.path n).rules), ssn)) :=
    runOn_walkAll hs n ns t
  refine Follows.learnBind hall ?_
  cases malformed with
  | true =>
    have hdiscard (ns : List Text) (p : Option Transaction × Session) :
        ((recording settings).discardTransaction).runOn (s.closing ns p) =
          (.ok (), s.closing ns (none, p.2)) := rfl
    refine Follows.getBind fun _ => Follows.runBind (hdiscard · _) ?_
    simp only [if_true, pure_bind, Session.attach_none]
    exact Follows.pure _
  | false =>
    refine Follows.runBind (runOn_closeTransaction · _ ssn) ?_
    exact Follows.pure _

theorem runOn_openScope_ok (hopen : (missingSections settings.mode s.path n).ok = true)
    (ht : s.transaction = none) (hl : s.run.locked = false) (ns : List Text) (ssn : Session) :
    ((recording settings).openScope n).runOn (s.building ns ssn) =
      (.ok (missingSections settings.mode s.path n),
        s.inside.closing ns (some (.blank settings.strict), ssn)) := by
  have hopened : ((recording settings).openTransaction n).runOn (s.building ns ssn) =
      (.ok (missingSections settings.mode s.path n),
        s.closing ns (some (.blank settings.strict), ssn)) := by
    unfold openTransaction
    simp only [Step.runOn_bind_of_ok (Step.runOn_get _), LoadState.building, ht,
      Option.isSome_none, Bool.false_eq_true, if_false, hopen, if_true]
    rfl
  have hlocked : (s.closing ns (some (.blank settings.strict), ssn)).run.locked = false := hl
  rw [openScope, Step.runOn_bind_of_ok hopened]
  simp only [hopen, if_true, Step.runOn_bind_of_ok (Step.runOn_get _), hlocked,
    Bool.false_eq_true, if_false]
  rfl

theorem runOn_openScope_bad (hopen : ¬ (missingSections settings.mode s.path n).ok = true)
    (ht : s.transaction = none) (ns : List Text) (ssn : Session) :
    ((recording settings).openScope n).runOn (s.building ns ssn) =
      (.ok (missingSections settings.mode s.path n),
        { s.building ns ssn with scopes := false :: s.scopes }) := by
  have hopened : ((recording settings).openTransaction n).runOn (s.building ns ssn) =
      (.ok (missingSections settings.mode s.path n), s.building ns ssn) := by
    unfold openTransaction
    simp only [Step.runOn_bind_of_ok (Step.runOn_get _), LoadState.building, ht,
      Option.isSome_none, Bool.false_eq_true, if_false, hopen]
    rfl
  rw [openScope, Step.runOn_bind_of_ok hopened]
  simp only [hopen, Bool.false_eq_true, if_false]
  rfl

/-- Leaving the scope of a transaction gives the load lock back and drops what is left. -/
theorem runOn_leaveScope (ht : s.transaction = none) (hl : s.run.locked = false)
    (ns : List Text) (p : Option Transaction × Session) :
    (leaveScope.runOn (s.inside.closing ns p)).2 = s.building ns p.2 := by
  -- The lock is given back and the transaction dropped, which is how `s` was before the scope.
  obtain ⟨run, path, session, transaction, scopes⟩ := s
  cases ht
  obtain ⟨names, sessions, rules, size, buffer, frozen, locked⟩ := run
  cases hl
  rfl

/-- What is done in the scope of a transaction, given what opening it reported. -/
def walkOpened (h : Handler) (n : Node) (opened : Report) : Load Report := do
  if opened.ok then return opened ++ (← h.walkContents n) else return opened

/-- In the scope of a transaction that can be opened, a step works on the open transaction, and what
is left of that is dropped. -/
theorem follows_inScope {α : Type} {x : Report → Load α}
    {r : Reading ((Option Transaction × Session) × α)} {ssn : Session}
    (hopen : (missingSections settings.mode s.path n).ok = true) (ht : s.transaction = none)
    (hl : s.run.locked = false)
    (hx : Follows s.inside.closing (x (missingSections settings.mode s.path n))
      (some (.blank settings.strict), ssn) r) :
    Follows s.building (inScope (recording settings) n x) ssn
      (do
        let (p, a) ← r
        return (p.2, a)) := by
  refine hx.onPart Prod.snd fun ns ms a p hrun => ?_
  rw [inScope, Step.runOn_bind_of_ok (runOn_openScope_ok hopen ht hl ns ssn)]
  simp only [Step.runOn_ofRun, hrun]
  rw [runOn_leaveScope ht hl]

theorem follows_walkOpened (h : s.run.names.frozen = false) (n : Node) {opened : Report}
    (hopen : opened.ok = true) (ssn : Session) :
    Follows s.closing ((recording settings).walkOpened n opened)
      (some (.blank settings.strict), ssn)
      (do
        let (t, a) ← Transaction.contentsReading (s.context settings) n
        return ((none, ssn.attach t), opened ++ a)) := by
  have hcontents := (@follows_walkContents s settings h n ssn).bind
    (f := fun a => pure (opened ++ a)) (g := fun q => pure (q.1, opened ++ q.2))
    fun p a _ => Follows.pure _
  simpa only [walkOpened, hopen, if_true, bind_assoc, pure_bind] using hcontents

/-- The walk through a transaction attaches to the session what the node comes to. -/
theorem follows_walkTransaction (h : s.run.names.frozen = false) (ht : s.transaction = none)
    (hl : s.run.locked = false) (n : Node) (ssn : Session) :
    Follows s.building ((recording settings).walkTransaction n) ssn
      (do
        let (t, a) ← Transaction.reading (s.context settings) n
        return (ssn.attach t, a)) := by
  unfold walkTransaction Transaction.reading
  split
  · simp only [pure_bind, Session.attach_none]
    exact Follows.getBind fun _ => Follows.pure _
  · by_cases hopen : (missingSections settings.mode s.path n).ok = true
    · have hscope := follows_inScope hopen ht hl
        (@follows_walkOpened s.inside settings h n _ hopen ssn)
      simp only [LoadState.context, hopen, if_true, bind_assoc, pure_bind] at hscope ⊢
      exact hscope
    · simp only [LoadState.context, hopen, Bool.false_eq_true, if_false, pure_bind,
        Session.attach_none]
      refine Follows.ofRun fun ns => ?_
      have hscope := runOn_openScope_bad hopen ht ns ssn
      rw [inScope, Step.runOn_bind_of_ok hscope]
      simp only [Step.runOn_ofRun, hopen, Bool.false_eq_true, if_false]
      rfl

theorem follows_walkEach (h : s.run.names.frozen = false) (ht : s.transaction = none)
    (hl : s.run.locked = false) (ts : List Node) (ssn : Session) :
    Follows s.building (Load.each (recording settings).walkTransaction ts) ssn
      (do
        let (ts, a) ← Transaction.readings (s.context settings) ts
        return ({ ssn with transactions := ssn.transactions ++ ts }, a)) := by
  induction ts generalizing ssn with
  | nil =>
    simp only [Transaction.readings, pure_bind, List.append_nil]
    exact Follows.pure _
  | cons n ts ih =>
    -- The rest of the nodes starts from the session that the first one leaves.
    have hcons := (@follows_walkTransaction s settings h ht hl n ssn).bind
      (f := fun a => Load.each (recording settings).walkTransaction ts >>= fun b => pure (a ++ b))
      (g := fun p => do
        let (ts, b) ← Transaction.readings (s.context settings) ts
        return ({ p.1 with transactions := p.1.transactions ++ ts }, p.2 ++ b))
      fun ssn' a _ => by
        have hrest := (ih ssn').bind (f := fun b => pure (a ++ b))
          (g := fun p => pure (p.1, a ++ p.2)) fun ssn'' b _ => Follows.pure _
        simpa only [bind_assoc, pure_bind] using hrest
    simpa only [Load.each, Transaction.readings, bind_assoc, pure_bind, Session.attach,
      List.append_assoc] using hcons

theorem follows_walkTransactions (h : s.run.names.frozen = false) (ht : s.transaction = none)
    (hl : s.run.locked = false) (n : Node) (ssn : Session) :
    Follows s.building ((recording settings).walkTransactions n) ssn
      (Session.transactionsReading (s.context settings) n ssn) := by
  unfold walkTransactions Session.transactionsReading
  refine Follows.getBind fun _ => ?_
  rcases n.get? "transactions" with _ | ⟨_, _⟩ | ⟨_, ts⟩ | ⟨_, _⟩
  · exact Follows.pure _
  · exact Follows.pure _
  · exact follows_walkEach h ht hl ts ssn
  · exact Follows.pure _

/-! ### Sessions -/

theorem follows_loadServerName (h : s.run.names.frozen = false) (hl : s.run.locked = false)
    (n : Node) (ssn : Session) :
    Follows s.building (loadServerName n) ssn (Session.serverNameReading s.path n ssn) := by
  have hlocalize (name : Text) (ns : List Text) :
      (Load.onRun (RunState.withLock (RunState.localize name))).runOn (s.building ns ssn) =
        (.ok name, s.building (ns ++ [name]) ssn) := by
    have hfrozen : (s.run.names.addAll ns).frozen = false := by rw [NameTable.frozen_addAll, h]
    simp only [Load.onRun, Step.runOn_onPart, RunState.withLock, Step.runOn_ofRun, hl,
      LoadState.building, RunState.learn, Bool.false_eq_true, if_false, RunState.localize,
      Step.runOn_bind, Step.runOn_get, Step.runOn_liftM, NameTable.localize_eq hfrozen,
      Step.runOn_set, Step.runOn_pure, NameTable.addAll_append, NameTable.addAll_singleton]
  unfold loadServerName Session.serverNameReading
  rcases (n.get? "tls").bind (·.get? "client-sni") with _ | ⟨_, name⟩ | ⟨_, _⟩ | ⟨_, _⟩
  · exact Follows.pure _
  · exact Follows.learnBind (hlocalize _) (Follows.ofRun fun _ => rfl)
  · exact Follows.getBind fun _ => Follows.pure _
  · exact Follows.getBind fun _ => Follows.pure _

theorem follows_loadProtocols (h : s.run.names.frozen = false) (hl : s.run.locked = false)
    (n : Node) (ps : List Node) (ssn : Session) :
    Follows s.building (loadProtocols n ps) ssn (Session.protocolsReading s.path n ps ssn) := by
  induction ps generalizing ssn with
  | nil => exact Follows.pure _
  | cons p ps ih =>
    have hmark (f : Session → Session) (ssn : Session) (ns : List Text) :
        (Load.changeSession f).runOn (s.building ns ssn) = (.ok ⟨⟩, s.building ns (f ssn)) := rfl
    unfold loadProtocols Session.protocolsReading
    dsimp only
    by_cases h2 : h2Mark.isPrefixOf (Text.lower p.text.toList) = true <;>
      by_cases htls : tlsMark.isPrefixOf (Text.lower p.text.toList) = true <;>
      simp only [h2, htls, if_true, Bool.false_eq_true, if_false]
    · exact Follows.runBind (hmark _ _)
        (Follows.runBind (hmark _ _) (follows_loadServerName h hl n _))
    · exact Follows.runBind (hmark _ _) (ih _)
    · exact Follows.runBind (hmark _ _) (follows_loadServerName h hl n _)
    · exact ih _

theorem follows_loadProtocol (h : s.run.names.frozen = false) (hl : s.run.locked = false)
    (n : Node) (ssn : Session) :
    Follows s.building (loadProtocol n) ssn (Session.protocolReading s.path n ssn) := by
  unfold loadProtocol Session.protocolReading
  refine Follows.getBind fun _ => ?_
  rcases n.get? "protocol" with _ | ⟨_, _⟩ | ⟨_, ps⟩ | ⟨_, _⟩
  · exact Follows.pure _
  · exact Follows.pure _
  · exact follows_loadProtocols h hl n ps ssn
  · exact Follows.pure _

theorem follows_loadStart (n : Node) (ssn : Session) :
    Follows s.building (loadStart n) ssn (Session.startReading s.path n ssn) := by
  unfold loadStart Session.startReading
  refine Follows.getBind fun _ => ?_
  rcases n.get? "connection-time" with _ | ⟨_, text⟩ | ⟨_, _⟩ | ⟨_, _⟩
  · exact Follows.pure _
  · dsimp only
    unfold Reading.size?
    rcases readSize? text with ⟨_ | digits⟩ | _ | _ | k
    · exact Follows.pure _
    · exact Follows.throw _
    · exact Follows.pure _
    · exact Follows.pure _
    · exact Follows.ofRun fun _ => rfl
  · exact Follows.pure _
  · exact Follows.pure _

theorem follows_openSession (h : s.run.names.frozen = false) (hl : s.run.locked = false)
    (n : Node) (ssn : Session) :
    Follows s.building ((recording settings).openSession n) ssn
      (Session.openReading s.path n) := by
  have hblank (ns : List Text) :
      (modify fun s => { s with session := some (.blank s.path n.line) } : Load Unit).runOn
        (s.building ns ssn) = (.ok ⟨⟩, s.building ns (.blank s.path n.line)) := rfl
  unfold openSession Session.openReading
  refine Follows.runBind hblank ?_
  refine Follows.bind (follows_loadProtocol h hl n _) fun ssn' a _ => ?_
  have hclassify (ns : List Text) :
      (Load.changeSession fun s => { s with protocol := .classify s.isTls s.isH2 }).runOn
        (s.building ns ssn') = (.ok ⟨⟩, s.building ns ssn'.classified) := rfl
  refine Follows.runBind hclassify ?_
  exact Follows.bind (follows_loadStart n _) fun ssn'' b _ => Follows.pure _

/-- Opening a session forgets the one before, so it does not matter which one that is. -/
theorem runOn_openSession (h : s.run.names.frozen = false) (hl : s.run.locked = false) (n : Node) :
    ∃ ssn, ((recording settings).openSession n).runOn s =
        ((Session.openReading s.path n).result.map Prod.snd,
          s.building (Session.openReading s.path n).names ssn) ∧
      ∀ p, (Session.openReading s.path n).result = .ok p → p.1 = ssn :=
  @follows_openSession s settings h hl n (.blank s.path n.line) []

/-- What is done for a session before it is closed. -/
def walkParts (h : Handler) (n : Node) : Load Report := do
  let a ← h.openSession n
  if a.ok then return a ++ (← h.walkTransactions n) else return a

theorem walkSession_of_isMapping (h : Handler) {n : Node} (hn : n.isMapping = true) :
    h.walkSession n = h.walkParts n >>= fun a => h.closeSession >>= fun b => pure (a ++ b) := by
  unfold walkSession walkParts
  rw [hn, bind_assoc]
  refine bind_congr fun a => ?_
  dsimp only
  split <;> simp only [bind_assoc, pure_bind, List.append_nil]

theorem follows_walkParts (h : s.run.names.frozen = false) (ht : s.transaction = none)
    (hl : s.run.locked = false) (n : Node) (ssn : Session) :
    Follows s.building ((recording settings).walkParts n) ssn
      (Session.contentsReading (s.context settings) n) := by
  unfold walkParts Session.contentsReading
  refine Follows.bind (follows_openSession h hl n ssn) fun ssn' a _ => ?_
  dsimp only
  split
  · exact Follows.bind (follows_walkTransactions h ht hl n ssn') fun ssn'' b _ => Follows.pure _
  · exact Follows.pure _

theorem runOn_addSession {run : RunState} (hw : run.frozen = false) (ssn : Session) :
    (RunState.addSession ssn).runOn run =
      (.ok !ssn.transactions.isEmpty,
        { run with sessions := run.sessions ++ ssn.registered.toList }) := by
  have hwritable : (RunState.checkWritable .sessions).runOn run = (.ok ⟨⟩, run) := by
    rw [RunState.checkWritable, Step.runOn_bind_of_ok (Step.runOn_get _), hw]
    rfl
  rw [RunState.addSession, Step.runOn_bind_of_ok hwritable, Session.registered]
  cases ssn.transactions.isEmpty with
  | true => simp
  | false => rfl

theorem runOn_closeSession (hw : s.run.frozen = false) (ns : List Text) (ssn : Session) :
    ((recording settings).closeSession).runOn (s.building ns ssn) =
      (.ok [ssn.closeNote], s.between ns ssn.registered.toList none) := by
  have hadd : (Load.onRun (RunState.addSession ssn)).runOn (s.between ns [] none) =
      (.ok !ssn.transactions.isEmpty, s.between ns ssn.registered.toList none) := by
    have hfrozen : (s.between ns [] none).run.frozen = false := hw
    rw [Load.onRun, Step.runOn_onPart, runOn_addSession hfrozen]
    simp [LoadState.between, RunState.gain]
  have hdrop : { s.building ns ssn with session := none } = s.between ns [] none := by
    simp [LoadState.building, LoadState.between, RunState.gain, RunState.learn]
  rw [closeSession, Step.runOn_bind_of_ok (Step.runOn_get _)]
  dsimp only [LoadState.building] at hdrop ⊢
  rw [Step.runOn_bind_of_ok (Step.runOn_modify _ _), hdrop, Step.runOn_bind_of_ok hadd,
    Session.closeNote]
  cases ssn.transactions.isEmpty <;> rfl

/-- The walk through a session puts into the run what the node comes to. -/
theorem runOn_walkSession (h : s.run.names.frozen = false) (ht : s.transaction = none)
    (hl : s.run.locked = false) (hw : s.run.frozen = false) (n : Node) :
    ∃ left, ((recording settings).walkSession n).runOn s =
      ((Session.reading (s.context settings) n).result.map Prod.snd,
        s.between (Session.reading (s.context settings) n).names
          (Session.gained (Session.reading (s.context settings) n)) left) := by
  unfold Session.reading
  cases hn : n.isMapping with
  | false =>
    refine ⟨s.session, ?_⟩
    simp only [walkSession, hn, Bool.not_false, if_true]
    rw [Step.runOn_bind_of_ok (Step.runOn_get _)]
    simp [LoadState.between, RunState.gain, RunState.learn, Session.gained, LoadState.context,
      Except.map]
  | true =>
    -- Opening a session forgets the one before, so any will do to start from.
    obtain ⟨ssn, hrun, hssn⟩ :=
      @follows_walkParts s settings h ht hl n (.blank s.path n.line) []
    have hstart : ((recording settings).walkParts n).runOn s = _ := hrun
    rw [walkSession_of_isMapping _ hn]
    cases hr : (Session.contentsReading (s.context settings) n).result with
    | error e =>
      rw [hr] at hstart
      rw [Step.runOn_bind_of_error hstart, Reading.bind_of_error hr]
      refine ⟨some ssn, ?_⟩
      simp [LoadState.between, LoadState.building, RunState.gain, RunState.learn, Session.gained,
        Except.map]
    | ok p =>
      obtain ⟨ssn', a⟩ := p
      obtain rfl : ssn' = ssn := hssn _ hr
      rw [hr] at hstart
      rw [Step.runOn_bind_of_ok hstart, Step.runOn_bind_of_ok (runOn_closeSession hw _ _),
        Reading.bind_of_ok hr]
      refine ⟨none, ?_⟩
      simp [Session.gained, Except.map]

end Handler

end TrafficReplay
