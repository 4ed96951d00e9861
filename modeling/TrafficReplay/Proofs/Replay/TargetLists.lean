import Mathlib.Data.List.Infix
import TrafficReplay.Replay.Endpoint

/-!
# Lists of targets

An endpoint is written with brackets around its address exactly if there is a colon in that, and
an entry is read by the closing bracket if it begins with one, and by its last colon otherwise.  So
what is written is read back.  Only a bracket in front makes an entry an address of version 6,
though: without one, the last group of such an address is taken for the port whenever it reads as
one.

* `splitHostPort_eq_ok_iff`: the entries that are read, by the cut between host and port;
* `cutHostPort_bracketed`, `cutHostPort_plain`: where the cut is made;
* `resolve_join_netloc`: a list of endpoints is read back from their texts;
* `splitHostPort_unbracketed`: which entries without a bracket are read, and which of them with a
  colon in the host.
-/

namespace TrafficReplay
open TrafficReplay.Text

/-! ### Host and port of an entry -/

/-- Whether a text reads as a port. -/
def ReadsPort (text : List Char) (port : Int) : Prop :=
  readInt text = .ok port ∧ 0 < port ∧ port < 65536

theorem readPort_eq_ok_iff {text portText : List Char} {port : Int} :
    readPort text portText = .ok port ↔ ReadsPort portText port := by
  unfold readPort ReadsPort
  cases readInt portText with
  | error fault => simp
  | ok n =>
    dsimp only
    split
    · rename_i hn
      simp only [Except.ok.injEq]
      exact ⟨fun h => ⟨h, h ▸ hn⟩, And.left⟩
    · rename_i hn
      simp only [reduceCtorEq, Except.ok.injEq, false_iff, not_and]
      rintro rfl
      exact not_and.mp hn

theorem splitHostPort_of_error {s : List Char} {fault : EndpointFault}
    (h : cutHostPort (trim s) = .error fault) : splitHostPort s = .error fault := by
  simp only [splitHostPort, h]
  rfl

theorem splitHostPort_of_cut {s host portText : List Char}
    (h : cutHostPort (trim s) = .ok (host, portText)) :
    splitHostPort s =
      if host = [] then .error (.noHost (String.ofList (trim s)))
      else (readPort (trim s) portText).map fun port => (host, port) := by
  simp only [splitHostPort, h, bind, Except.bind]
  cases host with
  | nil => rfl
  | cons c host => cases readPort (trim s) portText <;> rfl

/-- An entry is read if it can be cut, into a host and what reads as a port. -/
theorem splitHostPort_eq_ok_iff {s host : List Char} {port : Int} :
    splitHostPort s = .ok (host, port) ↔
      ∃ portText, cutHostPort (trim s) = .ok (host, portText) ∧ host ≠ [] ∧
        ReadsPort portText port := by
  constructor
  · intro h
    cases hcut : cutHostPort (trim s) with
    | error fault => cases (splitHostPort_of_error hcut).symm.trans h
    | ok cut =>
      obtain ⟨front, portText⟩ := cut
      rw [splitHostPort_of_cut hcut] at h
      split at h
      · cases h
      · rename_i hfront
        cases hport : readPort (trim s) portText with
        | error fault => cases hport ▸ h
        | ok n =>
          cases hport ▸ h
          exact ⟨portText, rfl, hfront, readPort_eq_ok_iff.mp hport⟩
  · rintro ⟨portText, hcut, hhost, hport⟩
    rw [splitHostPort_of_cut hcut, if_neg hhost, readPort_eq_ok_iff.mpr hport]
    rfl

/-- A text that begins with a bracket is cut behind the first closing one, where a colon must
stand. -/
theorem cutHostPort_bracketed {rest host portText : List Char} :
    cutHostPort ('[' :: rest) = .ok (host, portText) ↔
      rest = host ++ ']' :: ':' :: portText ∧ ']' ∉ host := by
  have hcut (behind : List Char) :
      cutAt? [']'] rest = some (host, behind) ↔ rest = host ++ ']' :: behind ∧ ']' ∉ host := by
    rw [cutAt?_eq_some_iff List.not_mem_nil, List.singleton_infix_iff]
    rfl
  rw [← hcut, cutHostPort]
  split
  · rename_i front behind hfront
    simp [hfront]
  · rename_i hnone
    simp only [reduceCtorEq, false_iff]
    exact hnone _ _

/-- Any other text is cut at its last colon. -/
theorem cutHostPort_plain {text host portText : List Char} (h : text.head? ≠ some '[') :
    cutHostPort text = .ok (host, portText) ↔ text = host ++ ':' :: portText ∧ ':' ∉ portText := by
  rw [← cutAtLast?_eq_some_iff, cutHostPort]
  · cases cutAtLast? ':' text <;> simp
  · rintro rest rfl
    exact h rfl

/-! ### Endpoints that are read back -/

namespace Endpoint

/-- An endpoint that can stand in a list. -/
structure Listable (e : Endpoint) : Prop where
  nonempty : e.address ≠ ""
  address : ∀ c ∈ e.address.toList, isBlank c = false ∧ c ≠ ',' ∧ c ≠ '[' ∧ c ≠ ']'
  port : 0 < e.port ∧ e.port < 65536

instance : DecidablePred Listable := fun e =>
  decidable_of_iff
    (e.address ≠ "" ∧
      (e.address.toList.all fun c => !isBlank c && c != ',' && c != '[' && c != ']') = true ∧
      0 < e.port ∧ e.port < 65536)
    (by
      simp only [List.all_eq_true, Bool.and_eq_true, Bool.not_eq_true', bne_iff_ne, and_assoc]
      exact ⟨fun h => ⟨h.1, h.2.1, h.2.2⟩, fun h => ⟨h.1, h.2, h.3⟩⟩)

variable {e : Endpoint}

theorem toList_netloc :
    e.netloc.toList =
      (if ':' ∈ e.address.toList then '[' :: (e.address.toList ++ [']']) else e.address.toList) ++
        ':' :: (toString e.port).toList := by
  by_cases h : ':' ∈ e.address.toList <;> simp [netloc, isIpv6, h]

/-- A port is written with digits. -/
theorem Listable.isDigit_port (h : e.Listable) :
    ∀ c ∈ (toString e.port).toList, c.isDigit = true := by
  obtain ⟨n, hn⟩ := Int.eq_ofNat_of_zero_le (Int.le_of_lt h.port.1)
  intro c hc
  have hdigits : c ∈ (toString n).toList := by rwa [hn] at hc
  rw [Nat.toString_eq_repr, Nat.toList_repr] at hdigits
  exact Nat.isDigit_of_mem_toDigits (by decide) (by decide) hdigits

theorem Listable.readsPort (h : e.Listable) : ReadsPort (toString e.port).toList e.port := by
  obtain ⟨n, hn⟩ := Int.eq_ofNat_of_zero_le (Int.le_of_lt h.port.1)
  refine ⟨?_, h.port⟩
  have hshort : (toString n).toList.length ≤ 5 := by
    have hport := h.port.2
    rw [Nat.toString_eq_repr, Nat.toList_repr, Nat.length_toDigits_le_iff (by decide) (by decide)]
    omega
  rw [hn]
  exact readInt_toString (Nat.le_trans hshort (by decide))

theorem Listable.mem_netloc (h : e.Listable) {c : Char} (hc : c ∈ e.netloc.toList) :
    isBlank c = false ∧ c ≠ ',' := by
  have haddress (hc : c ∈ e.address.toList) : isBlank c = false ∧ c ≠ ',' :=
    ⟨(h.address c hc).1, (h.address c hc).2.1⟩
  rw [toList_netloc, List.mem_append, List.mem_cons] at hc
  rcases hc with hfront | rfl | hdigit
  · split at hfront
    · simp only [List.mem_cons, List.mem_append, List.not_mem_nil, or_false] at hfront
      rcases hfront with rfl | hc | rfl
      · decide
      · exact haddress hc
      · decide
    · exact haddress hfront
  · decide
  · have hc := h.isDigit_port c hdigit
    exact ⟨isBlank_of_isDigit hc, fun hcomma => absurd (hcomma ▸ hc) (by decide)⟩

/-- The host of an endpoint's text is its address, with and without brackets. -/
theorem Listable.cutHostPort_netloc (h : e.Listable) :
    cutHostPort e.netloc.toList = .ok (e.address.toList, (toString e.port).toList) := by
  have hclosing : ']' ∉ e.address.toList := fun hc => (h.address _ hc).2.2.2 rfl
  have hdigits : ':' ∉ (toString e.port).toList := fun hc =>
    absurd (h.isDigit_port _ hc) (by decide)
  rw [toList_netloc]
  split
  · rw [List.cons_append, cutHostPort_bracketed, List.append_assoc]
    exact ⟨rfl, hclosing⟩
  · refine (cutHostPort_plain fun hhead => ?_).mpr ⟨rfl, hdigits⟩
    have hopening : '[' ∈ e.address.toList := by
      cases haddress : e.address.toList with
      | nil => exact absurd (String.toList_eq_nil_iff.mp haddress) h.nonempty
      | cons c rest => simp_all
    exact (h.address _ hopening).2.2.1 rfl

theorem Listable.trim_netloc (h : e.Listable) : trim e.netloc.toList = e.netloc.toList :=
  trimBy_eq_self fun _ hc => (h.mem_netloc hc).1

theorem Listable.splitHostPort_netloc (h : e.Listable) :
    splitHostPort e.netloc.toList = .ok (e.address.toList, e.port) := by
  rw [splitHostPort_eq_ok_iff, h.trim_netloc]
  exact ⟨_, h.cutHostPort_netloc, mt String.toList_eq_nil_iff.mp h.nonempty, h.readsPort⟩

theorem Listable.resolveEntry_netloc (h : e.Listable) {lookup : NameLookup} {more : List String}
    (hlookup : lookup e.address = .ok (e.address :: more)) :
    resolveEntry lookup e.netloc.toList = .ok { e with name := e.address } := by
  simp only [resolveEntry, h.splitHostPort_netloc, bind, Except.bind, String.ofList_toList, hlookup]
  rfl

/-- The entries of a list of endpoints are their texts. -/
theorem listEntries_join_netloc {es : List Endpoint} (hes : es ≠ []) (h : ∀ e ∈ es, e.Listable) :
    listEntries (join "," (es.map netloc)).toList = es.map fun e => e.netloc.toList := by
  have hcomma : ∀ s ∈ es.map netloc, ',' ∉ s.toList :=
    List.forall_mem_map.mpr fun e he hc => ((h e he).mem_netloc hc).2 rfl
  have hpieces := pieces_join (mt List.map_eq_nil_iff.mp hes) hcomma
  rw [List.map_map] at hpieces
  refine (congrArg _ hpieces).trans (List.filter_eq_self.mpr (List.forall_mem_map.mpr ?_))
  intro e he
  have hcolon : ':' ∈ e.netloc.toList := by simp [toList_netloc]
  have hne : e.netloc.toList ≠ [] := List.ne_nil_of_mem hcolon
  simpa [(h e he).trim_netloc] using hne

end Endpoint

/-- If a function succeeds on what each member of a list stands for, it does on the list. -/
theorem mapM_map_eq_ok {α β γ ε : Type} {key : α → β} {f : β → Except ε γ} {g : α → γ} {l : List α}
    (h : ∀ a ∈ l, f (key a) = .ok (g a)) : (l.map key).mapM f = .ok (l.map g) := by
  induction l with
  | nil => rfl
  | cons a l ih =>
    obtain ⟨ha, hrest⟩ := List.forall_mem_cons.mp h
    rw [List.map_cons, List.mapM_cons, ha, ih hrest]
    rfl

/-- A list of endpoints is read back from their texts if each address is the first one that is
looked up for it. -/
theorem resolve_join_netloc {es : List Endpoint} (hes : es ≠ []) (h : ∀ e ∈ es, e.Listable)
    {lookup : NameLookup} (hlookup : ∀ e ∈ es, ∃ more, lookup e.address = .ok (e.address :: more)) :
    resolve lookup (join "," (es.map Endpoint.netloc)) =
      .ok (es.map fun e => { e with name := e.address }) := by
  have hentries : (es.map fun e => e.netloc.toList).mapM (resolveEntry lookup) =
      .ok (es.map fun e => { e with name := e.address }) := by
    refine mapM_map_eq_ok fun e he => ?_
    obtain ⟨more, hmore⟩ := hlookup e he
    exact (h e he).resolveEntry_netloc hmore
  simp only [resolve, Endpoint.listEntries_join_netloc hes h, hentries, bind, Except.bind]
  cases es with
  | nil => exact absurd rfl hes
  | cons e es => rfl

/-- Addresses of both versions and a name, of which the look-up knows another address. -/
theorem resolve_join_netloc_three :
    resolve (fun host => .ok (host :: if host = "proxy.local" then ["10.0.0.1"] else []))
        "127.0.0.1:8080,[::1]:443,proxy.local:65535" =
      .ok [⟨"127.0.0.1", 8080, "127.0.0.1"⟩, ⟨"::1", 443, "::1"⟩,
        ⟨"proxy.local", 65535, "proxy.local"⟩] := by
  let es : List Endpoint := [⟨"127.0.0.1", 8080, ""⟩, ⟨"::1", 443, "a"⟩, ⟨"proxy.local", 65535, ""⟩]
  have htext : "127.0.0.1:8080,[::1]:443,proxy.local:65535" =
      join "," (es.map Endpoint.netloc) := by
    decide +kernel
  rw [htext]
  exact resolve_join_netloc (by decide) (by decide +kernel) fun e _ => ⟨_, rfl⟩

/-! ### Entries without a bracket -/

/-- An entry that does not begin with a bracket is read exactly if what stands behind its last colon
reads as a port and something stands before it.  Its host is free of colons, or it is not read at
all, unless there is an earlier colon and the last group still reads as a port. -/
theorem splitHostPort_unbracketed {s : List Char} (h : (trim s).head? ≠ some '[') :
    (∀ host port, splitHostPort s = .ok (host, port) ↔
      ∃ last, trim s = host ++ ':' :: last ∧ ':' ∉ last ∧ host ≠ [] ∧ ReadsPort last port) ∧
    ((∃ fault, splitHostPort s = .error fault) ∨
        (∃ host port, splitHostPort s = .ok (host, port) ∧ ':' ∉ host) ↔
      ¬ ∃ front last port, trim s = front ++ ':' :: last ∧ ':' ∈ front ∧ ':' ∉ last ∧
        ReadsPort last port) := by
  have hread (host : List Char) (port : Int) : splitHostPort s = .ok (host, port) ↔
      ∃ last, trim s = host ++ ':' :: last ∧ ':' ∉ last ∧ host ≠ [] ∧ ReadsPort last port := by
    simp only [splitHostPort_eq_ok_iff, cutHostPort_plain h, and_assoc]
  refine ⟨hread, ?_, ?_⟩
  · rintro hsafe ⟨front, last, port, htrim, hfront, hlast, hport⟩
    have hok := (hread front port).mpr ⟨last, htrim, hlast, List.ne_nil_of_mem hfront, hport⟩
    rcases hsafe with ⟨fault, herror⟩ | ⟨host, port', hother, hhost⟩
    · cases herror.symm.trans hok
    · cases hother.symm.trans hok
      exact hhost hfront
  · intro hnone
    cases hsplit : splitHostPort s with
    | error fault => exact .inl ⟨fault, rfl⟩
    | ok split =>
      obtain ⟨host, port⟩ := split
      refine .inr ⟨host, port, rfl, fun hhost => hnone ?_⟩
      obtain ⟨last, htrim, hlast, -, hport⟩ := (hread host port).mp hsplit
      exact ⟨host, last, port, htrim, hhost, hlast, hport⟩

/-- An address of version 6 without brackets and without a port loses its last group to the port,
unless that is no number. -/
theorem splitHostPort_unbracketed_groups :
    splitHostPort "fe80::1".toList = .ok ("fe80:".toList, 1) ∧
    ((∃ fault, splitHostPort "fe80::a".toList = .error fault) ∨
      ∃ host port, splitHostPort "fe80::a".toList = .ok (host, port) ∧ ':' ∉ host) := by
  constructor
  · refine ((splitHostPort_unbracketed (by decide +kernel)).1 _ _).mpr ⟨['1'], ?_⟩
    exact ⟨by decide +kernel, by decide, by decide, by unfold ReadsPort; decide +kernel⟩
  · refine (splitHostPort_unbracketed (by decide +kernel)).2.mpr ?_
    rintro ⟨front, last, port, htrim, -, hlast, hport, -⟩
    have hcut : cutAtLast? ':' (trim "fe80::a".toList) = some ("fe80:".toList, ['a']) := by
      decide +kernel
    cases hcut.symm.trans (cutAtLast?_eq_some_iff.mpr ⟨htrim, hlast⟩)
    have hread : readInt ['a'] = .error .malformed := by decide +kernel
    cases hread.symm.trans hport

/-- Not every entry without a bracket is refused if there is more than one colon in it. -/
theorem not_refused_fe80 :
    ¬ ∀ s : List Char, (trim s).head? ≠ some '[' →
      (∃ fault, splitHostPort s = .error fault) ∨
        ∃ host port, splitHostPort s = .ok (host, port) ∧ ':' ∉ host := by
  intro h
  have hsplit : splitHostPort "fe80::1".toList = .ok ("fe80:".toList, 1) := by decide +kernel
  rcases h "fe80::1".toList (by decide +kernel) with ⟨fault, herror⟩ | ⟨host, port, hok, hhost⟩
  · cases herror.symm.trans hsplit
  · cases hok.symm.trans hsplit
    exact hhost (by decide)

end TrafficReplay
