import Mathlib.Logic.Function.Basic
import TrafficReplay.Proofs.Loading.Sections

/-!
# The two sides of the proxy

The modes of a run are mirror images of each other: what one mode does with the sections of one side
of the proxy, the other mode does with those of the other side.

* `Handler.Section.mirror`: the section on the other side;
* `Yaml.Node.mirrored`: a document with the sections of the two sides exchanged;
* `RunState.loadDocument_mirrored`: it loads in one mode as the document itself does in the other.
-/

namespace TrafficReplay
open TrafficReplay.Yaml

open Handler (Section)
open Reading (Related)

/-! ### Sections and their keys -/

namespace Handler.Section

/-- The section on the other side of the proxy. -/
def mirror : Section → Section
  | .clientRequest => .proxyRequest
  | .proxyRequest => .clientRequest
  | .serverResponse => .proxyResponse
  | .proxyResponse => .serverResponse

@[simp] theorem mirror_mirror (s : Section) : s.mirror.mirror = s := by
  cases s <;> rfl

theorem role_mirror (s : Section) : s.mirror.role .client = s.role .noProxy := by
  cases s <;> rfl

/-- The section with a key. -/
def ofKey? (key : Text) : Option Section := all.find? fun s => s.key = key

theorem ofKey?_key (s : Section) : ofKey? s.key = some s := by
  cases s <;> decide

theorem key_of_ofKey? {key : Text} {s : Section} (h : ofKey? key = some s) : s.key = key := by
  simpa using List.find?_some h

/-- The key of the section on the other side; other keys are left as they are. -/
def mirrorKey (key : Text) : Text := ((ofKey? key).map fun s => s.mirror.key).getD key

@[simp] theorem mirrorKey_key (s : Section) : mirrorKey s.key = s.mirror.key := by
  rw [mirrorKey, ofKey?_key]
  rfl

theorem mirrorKey_of_ne {key : Text} (h : ∀ s : Section, s.key ≠ key) : mirrorKey key = key := by
  cases hs : ofKey? key with
  | none => rw [mirrorKey, hs]; rfl
  | some s => exact absurd (key_of_ofKey? hs) (h s)

theorem mirrorKey_involutive : Function.Involutive mirrorKey := by
  intro key
  by_cases h : ∃ s : Section, s.key = key
  · obtain ⟨s, rfl⟩ := h
    simp
  · have hkey := mirrorKey_of_ne fun s hs => h ⟨s, hs⟩
    rw [hkey, hkey]

end Handler.Section

/-! ### Nodes with exchanged keys -/

namespace Yaml.Node

/-- A node with something done to its items, if it is a sequence. -/
def mapItems (f : Node → Node) : Node → Node
  | .sequence line ns => .sequence line (ns.map f)
  | n => n

/-- A node with something done to the items of what it has under a key, if it is a mapping. -/
def mapUnder (key : Text) (f : Node → Node) : Node → Node
  | .mapping line es =>
    .mapping line (es.map fun e =>
      (e.1, if e.1.scalar? = some key then e.2.mapItems f else e.2))
  | n => n

/-- A node with something done to its text, if it is a scalar. -/
def mapText (f : Text → Text) : Node → Node
  | .scalar line s => .scalar line (f s)
  | n => n

theorem itemsAlike_mapItems {R : Node → Node → Prop} {f : Node → Node} (hf : ∀ n, R n (f n)) :
    ∀ n, ItemsAlike R n (n.mapItems f)
  | .scalar line s => .scalar line s
  | .mapping line es => .mapping line es
  | .sequence line _ =>
    .sequence line (List.forall₂_map_right_iff.mpr (List.forall₂_same.mpr fun n _ => hf n))

theorem alikeUnder_mapUnder {R : Node → Node → Prop} {f : Node → Node} (hf : ∀ n, R n (f n))
    (key : Text) : ∀ n, AlikeUnder key R n (n.mapUnder key f)
  | .scalar line s => .scalar line s
  | .sequence line ns => .sequence line ns
  | .mapping line es => by
    refine .mapping line
      (List.forall₂_map_right_iff.mpr (List.forall₂_same.mpr fun e _ => ⟨rfl, ?_⟩))
    dsimp only
    split
    · exact itemsAlike_mapItems hf e.2
    · rfl

/-- The transaction of a node with the sections of the two sides exchanged. -/
def mirroredTransaction : Node → Node
  | .mapping line es => .mapping line (es.map fun e => (e.1.mapText Section.mirrorKey, e.2))
  | n => n

/-- A document with the sections of the two sides exchanged in all transactions. -/
def mirrored (root : Node) : Node :=
  root.mapUnder "sessions" (mapUnder "transactions" mirroredTransaction)

theorem documentsAlike_mirrored (root : Option Node) :
    DocumentsAlike (fun n n' => n.mirroredTransaction = n') root (root.map mirrored) := by
  cases root with
  | none => exact .none
  | some n => exact .some (alikeUnder_mapUnder (alikeUnder_mapUnder (fun _ => rfl) _) _ n)

theorem isMapping_mirroredTransaction (n : Node) :
    n.mirroredTransaction.isMapping = n.isMapping := by
  cases n <;> rfl

theorem lookup_mapText {f : Text → Text} (hf : Function.Injective f) (k : Text)
    (es : List (Node × Node)) :
    lookup (f k) (es.map fun e => (e.1.mapText f, e.2)) = lookup k es := by
  have hscalar (key : Node) : (key.mapText f).scalar? = some (f k) ↔ key.scalar? = some k := by
    cases key <;> simp [mapText, scalar?, hf.eq_iff]
  induction es with
  | nil => rfl
  | cons e es ih => simp only [List.map_cons, lookup, hscalar, ih]

theorem get?_mirroredTransaction (n : Node) (k : Text) :
    n.mirroredTransaction.get? (Section.mirrorKey k) = n.get? k := by
  cases n with
  | scalar => rfl
  | sequence => rfl
  | mapping line es => exact lookup_mapText Section.mirrorKey_involutive.injective k es

theorem get?_mirror (n : Node) (s : Section) :
    n.mirroredTransaction.get? s.mirror.key = n.get? s.key := by
  rw [← Section.mirrorKey_key, get?_mirroredTransaction]

end Yaml.Node

/-- The settings with another mode. -/
def Settings.inMode (settings : Settings) (mode : RunMode) : Settings := { settings with mode }

namespace Transaction

variable (settings : Settings) (path : String) (rules : RuleSet)

/-- A section is read in one mode as the section on the other side is in the other mode. -/
theorem related_sectionReading_mirror (n : Node) (t : Transaction) (s : Section) :
    Related (fun p q => p.1 = q.1 ∧ p.2.2 = q.2.2)
      (sectionReading ⟨settings.inMode .noProxy, path, rules⟩ n t s)
      (sectionReading ⟨settings.inMode .client, path, rules⟩ n.mirroredTransaction t s.mirror) := by
  unfold sectionReading
  rw [n.get?_mirror]
  cases n.get? s.key with
  | none => exact .pure ⟨rfl, rfl⟩
  | some m =>
    dsimp only
    split
    · have hmap : mapReading ⟨settings.inMode .client, path, rules⟩ s.mirror m t =
          mapReading ⟨settings.inMode .noProxy, path, rules⟩ s m t := by
        unfold mapReading
        have hrole : s.mirror.role (settings.inMode .client).mode =
          s.role (settings.inMode .noProxy).mode := s.role_mirror
        rw [hrole]
      rw [hmap]
      refine (Related.refl (P := Eq) _ fun _ _ => rfl).bind ?_
      rintro p _ rfl
      exact .pure ⟨rfl, rfl⟩
    · exact .pure ⟨rfl, rfl⟩

theorem wellFormed_mirror (n : Node) (s : Section) :
    s.mirror.wellFormed n.mirroredTransaction = s.wellFormed n := by
  rw [Section.wellFormed, Section.wellFormed, n.get?_mirror]

/-- The sections come to the same in the two modes, for each mode reads its request before its
response. -/
theorem related_sectionsReading_mirror (n : Node) (t : Transaction) :
    Related (fun p q => p.1 = q.1 ∧ p.2.2 = q.2.2)
      (sectionsReading ⟨settings.inMode .noProxy, path, rules⟩ n t Section.all)
      (sectionsReading ⟨settings.inMode .client, path, rules⟩ n.mirroredTransaction t
        Section.all) := by
  obtain ⟨_, hfirst⟩ := sectionReading_unused (c := ⟨settings.inMode .noProxy, path, rules⟩)
    (s := .clientRequest) rfl n
  obtain ⟨_, hlast⟩ := sectionReading_unused (c := ⟨settings.inMode .noProxy, path, rules⟩)
    (s := .proxyResponse) rfl n
  obtain ⟨_, hsecond⟩ := sectionReading_unused (c := ⟨settings.inMode .client, path, rules⟩)
    (s := .proxyRequest) rfl n.mirroredTransaction
  obtain ⟨_, hthird⟩ := sectionReading_unused (c := ⟨settings.inMode .client, path, rules⟩)
    (s := .serverResponse) rfl n.mirroredTransaction
  have hrequest : Section.proxyRequest.wellFormed n.mirroredTransaction =
      Section.clientRequest.wellFormed n := wellFormed_mirror n .clientRequest
  have hresponse : Section.serverResponse.wellFormed n.mirroredTransaction =
      Section.proxyResponse.wellFormed n := wellFormed_mirror n .proxyResponse
  -- The unused sections stand in other places, but what they come to does not depend on the others.
  simp only [Section.all, sectionsReading, hfirst, hlast, hsecond, hthird, hrequest, hresponse,
    pure_bind, bind_assoc]
  refine (related_sectionReading_mirror settings path rules n t .proxyRequest).bind ?_
  rintro ⟨t, a, bad⟩ ⟨_, a', _⟩ ⟨rfl, rfl⟩
  refine (related_sectionReading_mirror settings path rules n t .serverResponse).bind ?_
  rintro ⟨t, b, bad'⟩ ⟨_, b', _⟩ ⟨rfl, rfl⟩
  refine .pure ⟨rfl, ?_⟩
  dsimp only
  ac_rfl

theorem nodesAgree_mirrored (n : Node) :
    NodesAgree ⟨settings.inMode .noProxy, path, rules⟩ ⟨settings.inMode .client, path, rules⟩
      n n.mirroredTransaction where
  isMapping := n.isMapping_mirroredTransaction.symm
  opened := by
    have hhas (s : Section) : n.mirroredTransaction.has s.mirror.key = n.has s.key :=
      congrArg Option.isSome (n.get?_mirror s)
    have hrequest : n.mirroredTransaction.has "client-request" = n.has "proxy-request" :=
      hhas .proxyRequest
    have hresponse : n.mirroredTransaction.has "proxy-response" = n.has "server-response" :=
      hhas .serverResponse
    rw [Handler.ok_missingSections, Handler.ok_missingSections]
    simp [Settings.inMode, Handler.requiredSections, hrequest, hresponse]
  sections := related_sectionsReading_mirror settings path rules n _
  all := by
    have hall : n.mirroredTransaction.get? "all" = n.get? "all" := by
      rw [← n.get?_mirroredTransaction "all", Section.mirrorKey_of_ne Section.key_ne_all]
    rw [LoadedFields.ofAll, LoadedFields.ofAll, hall]

theorem agree_mirrored :
    Agree (settings.inMode .noProxy) (settings.inMode .client)
      (fun n n' => n.mirroredTransaction = n') (fun _ => true) False where
  related path rules n n' hn := by
    subst hn
    have hclosed (t : Transaction) : (closed ⟨settings.inMode .noProxy, path, rules⟩ t).1 =
        (closed ⟨settings.inMode .client, path, rules⟩ t).1.filter fun _ => true :=
      (keep_all _).symm
    exact ((nodesAgree_mirrored settings path rules n).related hclosed).mono fun _ _ h => ⟨h, nofun⟩
  all := nofun

end Transaction

/-- **The modes are mirror images.** A document that is loaded for the proxy's side leaves the same
run as the document with the sections of the two sides exchanged, loaded for the client's side, and
the two loads stop at the same faults. -/
theorem RunState.loadDocument_mirrored {run : RunState} (h : run.Loading) (settings : Settings)
    (path : String) (root : Option Node) :
    (run.loadDocument (settings.inMode .noProxy) path root).2 =
        (run.loadDocument (settings.inMode .client) path (root.map Node.mirrored)).2 ∧
      ∀ e, (run.loadDocument (settings.inMode .noProxy) path root).1 = .error e ↔
        (run.loadDocument (settings.inMode .client) path (root.map Node.mirrored)).1 = .error e := by
  have hagree := FileReading.agree_ofDocument (Transaction.agree_mirrored settings) path
    run.rules.rules (Node.documentsAlike_mirrored root)
  rw [loadDocument_eq h, loadDocument_eq h]
  refine ⟨?_, hagree.result.error_iff⟩
  dsimp only [after]
  rw [hagree.names, hagree.rules, hagree.sessions_eq fun _ => rfl]

/-- A transaction with the sections of the proxy's side is replayed without a proxy. -/
theorem RunState.loadDocument_mirrored_oneTransaction :
    empty.Loading ∧
      (empty.loadDocument (Settings.default.inMode .noProxy) "a.yaml"
        (some (.oneTransaction
          (Node.twoSections "proxy-request" "server-response")))).2.sessions.map
          (fun ssn => ssn.transactions.map Transaction.key) =
            ([["GET:/a"]] : List (List Text)) := by
  refine ⟨loading_empty, ?_⟩
  rw [(loadDocument_mirrored loading_empty .default "a.yaml" _).1]
  decide +kernel

end TrafficReplay
