import TrafficReplay.Proofs.Replay.Sessions

/-!
# The URLs that requests are sent to

A recorded target is taken for a full URL wherever `://` stands in it.  What comes behind that, up
to the next slash, is then taken for the authority and left out.  So a target that begins with a
slash is kept exactly if there is no `://` in it; and a full URL keeps path and query exactly if it
has a path or no query.

* `Endpoint.originForm_of_not_marked`, `Endpoint.originForm_of_parts`: what is kept of a target;
* `SessionRun.calls_runTransactions`: the calls that are made for some transactions;
* `Endpoint.url_verbatim_iff`, `FullUrl.url_keeps_iff`: when a target is kept, and when path and
  query of a full URL are.
-/

namespace TrafficReplay
open TrafficReplay.Text

namespace Endpoint

/-! ### Targets with and without a mark -/

/-- The mark between the scheme of a URL and its authority. -/
def mark : List CodePoint := ("://" : Text).toList

/-- Whether the mark stands somewhere in a text. -/
def Marked (s : List CodePoint) : Prop := mark <:+: s

theorem marked_iff {s : List CodePoint} : Marked s ↔ cutAt? mark s ≠ none := by
  rw [ne_eq, cutAt?_eq_none_iff, Classical.not_not, Marked]

instance : DecidablePred Marked := fun s =>
  decidable_of_iff ((cutAt? mark s).isSome = true) (by rw [marked_iff, Option.isSome_iff_ne_none])

/-- Whether a text is empty or begins with a slash. -/
def IsPath (s : List CodePoint) : Prop := s = [] ∨ s.head? = some (.char '/')

/-- A path, or the root in the place of an empty one. -/
def pathOrRoot (path : List CodePoint) : List CodePoint := if path = [] then [.char '/'] else path

/-- The parts of a text with the mark: the first mark stands between `before` and `host`, and the
first slash behind it begins `path`. -/
structure Parts (target before host path : List CodePoint) : Prop where
  eq : target = before ++ (mark ++ (host ++ path))
  before : ¬ Marked before
  host : .char '/' ∉ host
  path : IsPath path

theorem cutAt?_mark {target before rest : List CodePoint} :
    cutAt? mark target = some (before, rest) ↔
      target = before ++ (mark ++ rest) ∧ ¬ Marked before :=
  cutAt?_eq_some_iff (by decide)

theorem isPath_dropWhile (s : List CodePoint) : IsPath (s.dropWhile (· != .char '/')) := by
  induction s with
  | nil => exact .inl rfl
  | cons c s ih =>
    by_cases hc : c = .char '/'
    · exact .inr (by simp [hc])
    · simpa [hc] using ih

theorem dropWhile_host {host path : List CodePoint} (hhost : .char '/' ∉ host)
    (hpath : IsPath path) :
    (host ++ path).dropWhile (· != .char '/') = path := by
  induction host with
  | nil =>
    rcases hpath with rfl | hslash
    · rfl
    · cases path with
      | nil => rfl
      | cons c path => simp_all
  | cons c host ih =>
    simp only [List.mem_cons, not_or] at hhost
    simpa [Ne.symm hhost.1] using ih hhost.2

/-- Every text can be cut at its first slash. -/
theorem exists_split (s : List CodePoint) :
    ∃ host path, s = host ++ path ∧ .char '/' ∉ host ∧ IsPath path := by
  refine ⟨s.takeWhile (· != .char '/'), s.dropWhile (· != .char '/'), ?_, ?_, isPath_dropWhile s⟩
  · rw [List.takeWhile_append_dropWhile]
  · intro hslash
    simpa using List.all_eq_true.mp List.all_takeWhile _ hslash

/-- Every text with the mark has parts. -/
theorem exists_parts {target : List CodePoint} (h : Marked target) :
    ∃ before host path, Parts target before host path := by
  obtain ⟨⟨before, rest⟩, hcut⟩ := Option.ne_none_iff_exists'.mp (marked_iff.mp h)
  obtain ⟨rfl, hbefore⟩ := cutAt?_mark.mp hcut
  obtain ⟨host, path, rfl, hhost, hpath⟩ := exists_split rest
  exact ⟨before, host, path, rfl, hbefore, hhost, hpath⟩

/-- A target without the mark is kept. -/
theorem originForm_of_not_marked {target : List CodePoint} (h : ¬ Marked target) :
    originForm target = target := by
  have hcut : cutAt? ("://" : Text).toList target = none := cutAt?_eq_none_iff.mpr h
  simp only [originForm, hcut]

/-- Of a target with the mark, the path is kept. -/
theorem originForm_of_parts {target before host path : List CodePoint}
    (h : Parts target before host path) : originForm target = pathOrRoot path := by
  have hcut : cutAt? ("://" : Text).toList target = some (before, host ++ path) :=
    cutAt?_mark.mpr ⟨h.eq, h.before⟩
  simp only [originForm, hcut, dropWhile_host h.host h.path]
  cases path with
  | nil => rfl
  | cons c path => rfl

theorem length_pathOrRoot_le (path : List CodePoint) :
    (pathOrRoot path).length ≤ path.length + 1 := by
  unfold pathOrRoot
  split
  · simp
  · omega

theorem rooted_pathOrRoot {path : List CodePoint} (h : IsPath path) :
    rooted (pathOrRoot path) = pathOrRoot path := by
  rcases h with rfl | h
  · rfl
  · cases path with
    | nil => rfl
    | cons c path => simp_all [rooted, pathOrRoot]

/-! ### The URL of a target -/

/-- What all URLs of a scheme on an endpoint begin with. -/
def site (e : Endpoint) (scheme : String) : Text := scheme ++ "://" ++ e.netloc

theorem url_eq_iff {e : Endpoint} {scheme : String} {target : Text} {kept : List CodePoint} :
    e.url scheme target = e.site scheme ++ Text.ofList kept ↔
      rooted (originForm target.toList) = kept := by
  constructor
  · intro h
    have hlist := congrArg Text.toList h
    simpa [url, site] using hlist
  · rintro rfl
    rfl

theorem url_of_parts {target : Text} {before host path : List CodePoint}
    (h : Parts target.toList before host path) (e : Endpoint) (scheme : String) :
    e.url scheme target = e.site scheme ++ Text.ofList (pathOrRoot path) := by
  rw [url_eq_iff, originForm_of_parts h, rooted_pathOrRoot h.path]

/-- Of a target with the mark, something is left out. -/
theorem rooted_originForm_ne {target : List CodePoint} (h : Marked target) :
    rooted (originForm target) ≠ target := by
  obtain ⟨before, host, path, hparts⟩ := exists_parts h
  rw [originForm_of_parts hparts, rooted_pathOrRoot hparts.path]
  intro heq
  have hlength := congrArg List.length (heq.trans hparts.eq)
  simp only [List.length_append, show mark.length = 3 from rfl] at hlength
  have hle := length_pathOrRoot_le path
  omega

theorem url_eq_verbatim_iff {target : Text} (h : target.toList.head? = some (.char '/'))
    (e : Endpoint) (scheme : String) :
    e.url scheme target = e.site scheme ++ target ↔ ¬ Marked target.toList := by
  have htarget : e.site scheme ++ target = e.site scheme ++ Text.ofList target.toList := rfl
  rw [htarget, url_eq_iff]
  constructor
  · intro heq hmarked
    exact rooted_originForm_ne hmarked heq
  · intro hmarked
    rw [originForm_of_not_marked hmarked, rooted, if_pos h]

end Endpoint

/-! ### The calls of a session -/

theorem url_of_callFor {carrier : Carrier} {settings : Settings} {buffer : Body}
    {target : Endpoint} {r : Request} {call : Call}
    (h : callFor carrier settings buffer target r = .ok call) :
    call.url = target.url carrier.scheme r.url := by
  unfold callFor at h
  cases hbody : r.body buffer with
  | error f =>
    rw [hbody] at h
    cases h
  | ok body =>
    rw [hbody] at h
    cases h
    rfl

namespace SessionRun

variable {ρ : Type} {c : RunContext ρ} {carrier : Carrier} {target : Endpoint} {s s' : SessionRun ρ}

/-- The contract of a step that makes no call. -/
def silent : Contract (SessionRun ρ) RunFault := .leaving calls fun _ _ => True

theorem allowsAccounts_silent : AllowsAccounts (silent : Contract (SessionRun ρ) RunFault) :=
  fun _ _ _ _ => rfl

/-- A transaction makes the call for its request, or it makes none and stops the session. -/
theorem calls_runTransaction {t : Transaction} {result : Except RunFault Bool}
    (hrun : (runTransaction c carrier target t).runOn s = (result, s')) :
    (∃ call, callFor carrier c.settings c.buffer target t.request = .ok call ∧
      s'.calls = s.calls ++ [call]) ∨
    (s'.calls = s.calls ∧ ∃ f, result = .error f) := by
  cases hcall : callFor carrier c.settings c.buffer target t.request with
  | error f =>
    unfold runTransaction send at hrun
    rw [hcall] at hrun
    cases hrun
    exact .inr ⟨rfl, _, rfl⟩
  | ok call =>
    refine .inl ⟨call, rfl, ?_⟩
    -- What is done with the outcome makes no call.
    have hrest {x : OnSession ρ Bool} (hx : x.Meets silent)
        (h : x.runOn (s.sent c call) = (result, s')) : s'.calls = s.calls ++ [call] := by
      have hcalls := (hx (s.sent c call)).1
      rw [h] at hcalls
      exact hcalls
    rw [runOn_runTransaction hcall] at hrun
    cases houtcome : (c.peer call s.peer).1.outcome with
    | ok r =>
      rw [houtcome] at hrun
      exact hrest ((meets_receive allowsAccounts_silent t r).bind fun _ => .pure _) hrun
    | error f =>
      rw [houtcome] at hrun
      dsimp only at hrun
      split at hrun
      · exact hrest (meets_recover allowsAccounts_silent carrier target t f) hrun
      · exact hrest (.throw fun _ => trivial) hrun

/-- That some calls are those for the requests of the first of some transactions, in order. -/
def Calls (c : RunContext ρ) (carrier : Carrier) (target : Endpoint) (made : List Call)
    (ts : List Transaction) : Prop :=
  ∀ (i : Nat) call, made[i]? = some call →
    ∃ t, ts[i]? = some t ∧ callFor carrier c.settings c.buffer target t.request = .ok call

theorem calls_nil (ts : List Transaction) : Calls c carrier target [] ts := by
  simp [Calls]

theorem Calls.cons {call : Call} {made : List Call} {t : Transaction} {ts : List Transaction}
    (hcall : callFor carrier c.settings c.buffer target t.request = .ok call)
    (h : Calls c carrier target made ts) : Calls c carrier target (call :: made) (t :: ts) := by
  intro i call' hi
  cases i with
  | zero =>
    cases hi
    exact ⟨t, rfl, hcall⟩
  | succ i => exact h i call' hi

/-- Whatever comes of some transactions, the calls are those for the requests of the first of
them. -/
theorem calls_runTransactions {ts : List Transaction} {result : Except RunFault Unit}
    (hrun : (runTransactions c carrier target ts).runOn s = (result, s')) :
    ∃ made, s'.calls = s.calls ++ made ∧ Calls c carrier target made ts := by
  induction ts generalizing s with
  | nil =>
    cases hrun
    exact ⟨[], by simp, calls_nil _⟩
  | cons t ts ih =>
    unfold runTransactions at hrun
    rcases hfirst : (runTransaction c carrier target t).runOn s with ⟨f | goesOn, u⟩
    · rw [Step.runOn_bind_of_error hfirst] at hrun
      cases hrun
      rcases calls_runTransaction hfirst with ⟨call, hcall, hcalls⟩ | ⟨hcalls, -⟩
      · exact ⟨[call], hcalls, .cons hcall (calls_nil ts)⟩
      · exact ⟨[], by simp [hcalls], calls_nil _⟩
    · rw [Step.runOn_bind_of_ok hfirst] at hrun
      rcases calls_runTransaction hfirst with ⟨call, hcall, hcalls⟩ | ⟨-, f, hf⟩
      · have hothers : ∃ made, s'.calls = u.calls ++ made ∧ Calls c carrier target made ts := by
          cases goesOn with
          | true => exact ih hrun
          | false =>
            cases hrun
            exact ⟨[], by simp, calls_nil _⟩
        obtain ⟨made, hmade, hothers⟩ := hothers
        exact ⟨call :: made, by simp [hmade, hcalls], .cons hcall hothers⟩
      · cases hf

/-- The calls of a session are those for the requests of its first transactions, in order. -/
theorem calls_runSession {w : WorkItem} {peer : ρ} {i : Nat} {call : Call}
    (h : (runSession c w peer).2.calls[i]? = some call) :
    ∃ carrier t, Carrier.select c.settings.mode w.session = some carrier ∧
      w.session.transactions[i]? = some t ∧
      callFor carrier c.settings c.buffer w.target t.request = .ok call := by
  cases hcarrier : Carrier.select c.settings.mode w.session with
  | none =>
    obtain ⟨report, hskipped⟩ := runSession_of_no_carrier hcarrier peer
    rw [hskipped] at h
    cases h
  | some carrier =>
    rcases hrun : (runTransactions c carrier w.target w.session.transactions).runOn
      (connected carrier w peer) with ⟨result, s'⟩
    rw [runSession_of_carrier hcarrier hrun] at h
    have hcalls : s'.calls[i]? = some call := h
    obtain ⟨made, hmade, hall⟩ := calls_runTransactions hrun
    have hnone : (connected carrier w peer).calls = [] := rfl
    rw [hmade, hnone, List.nil_append] at hcalls
    obtain ⟨t, ht, hcall⟩ := hall i call hcalls
    exact ⟨carrier, t, rfl, ht, hcall⟩

end SessionRun

/-! ### What is kept of a target -/

namespace Endpoint

/-- **When a target in origin form is kept.** A target that begins with a slash is kept exactly if
there is no `://` in it.  If there is one, all that is kept begins with the first slash behind it.
So a call of a session goes to such a target exactly if there is no `://` in it. -/
theorem url_verbatim_iff {target : Text} (h : target.toList.head? = some (.char '/')) :
    (∀ (e : Endpoint) (scheme : String),
      e.url scheme target = scheme ++ "://" ++ e.netloc ++ target ↔ ¬ Marked target.toList) ∧
    (Marked target.toList → ∃ before host path, Parts target.toList before host path ∧
      ∀ (e : Endpoint) (scheme : String),
        e.url scheme target = scheme ++ "://" ++ e.netloc ++ Text.ofList (pathOrRoot path)) ∧
    ∀ {ρ : Type} (c : RunContext ρ) (w : WorkItem) (peer : ρ) (i : Nat) (call : Call),
      (runSession c w peer).2.calls[i]? = some call →
        ∃ carrier t, Carrier.select c.settings.mode w.session = some carrier ∧
          w.session.transactions[i]? = some t ∧
          (t.request.url = target →
            (call.url = carrier.scheme ++ "://" ++ w.target.netloc ++ target ↔
              ¬ Marked target.toList)) := by
  refine ⟨url_eq_verbatim_iff h, fun hmarked => ?_, fun c w peer i call hcall => ?_⟩
  · obtain ⟨before, host, path, hparts⟩ := exists_parts hmarked
    exact ⟨before, host, path, hparts, url_of_parts hparts⟩
  · obtain ⟨carrier, t, hcarrier, ht, hsent⟩ := SessionRun.calls_runSession hcall
    refine ⟨carrier, t, hcarrier, ht, ?_⟩
    rintro rfl
    rw [url_of_callFor hsent]
    exact url_eq_verbatim_iff h w.target carrier.scheme

/-- A proxy on the same machine. -/
def loopback : Endpoint := ⟨"127.0.0.1", 8080, "127.0.0.1"⟩

/-- A session with one request. -/
def sessionTo (url : Text) : Session :=
  { Session.blank "f.yaml" 1 with
    transactions := [{ Transaction.blank false with request := { Request.blank with url } }] }

/-- A run in which every call is answered. -/
def answered : RunContext Unit :=
  ⟨.default, .empty, [], fun _ s => (⟨0, .ok ⟨200, []⟩⟩, s)⟩

/-- A query with a URL in it is taken for the authority and the path of a full URL. -/
theorem url_verbatim_iff_nested :
    ("/a?b=1" : Text).toList.head? = some (.char '/') ∧
      loopback.url "http" "/a?b=1" = "http://127.0.0.1:8080/a?b=1" ∧
    (runSession answered ⟨sessionTo "/go?to=http://x/y", loopback⟩ ()).2.calls.map Call.url =
      (["http://127.0.0.1:8080/y"] : List Text) ∧
    ∀ call ∈ (runSession answered ⟨sessionTo "/go?to=http://x/y", loopback⟩ ()).2.calls,
      call.url ≠ ("http://127.0.0.1:8080" ++ "/go?to=http://x/y" : Text) := by
  refine ⟨by decide, ?_, by decide +kernel, fun call hcall => ?_⟩
  · have hplain : ("/a?b=1" : Text).toList.head? = some (.char '/') := by decide
    exact ((url_verbatim_iff hplain).1 loopback "http").mpr (by decide)
  · have hnested : ("/go?to=http://x/y" : Text).toList.head? = some (.char '/') := by decide
    obtain ⟨i, hi⟩ := List.mem_iff_getElem?.mp hcall
    obtain ⟨carrier, t, hcarrier, ht, hkept⟩ :=
      (url_verbatim_iff hnested).2.2 answered _ () i call hi
    obtain rfl : carrier = .plain := Option.some.inj hcarrier.symm
    obtain rfl : i = 0 := by
      cases i with
      | zero => rfl
      | succ i => cases ht
    cases ht
    exact fun hurl => (hkept rfl).mp hurl (by decide)

/-- Not every target that begins with a slash is kept. -/
theorem not_verbatim_nested :
    ¬ ∀ (e : Endpoint) (scheme : String) (target : Text), target.toList.head? = some (.char '/') →
      e.url scheme target = scheme ++ "://" ++ e.netloc ++ target := by
  intro h
  exact absurd (h loopback "http" "/go?to=http://x/y" (by decide)) (by decide)

end Endpoint

/-! ### What is kept of a full URL -/

/-- A full URL: a scheme, an authority that ends at the first of three characters, and what comes
behind it. -/
structure FullUrl where
  scheme : List CodePoint
  authority : List CodePoint
  rest : List CodePoint
  scheme_unmarked : ¬ Endpoint.Marked scheme
  authority_ended : .char '/' ∉ authority ∧ .char '?' ∉ authority ∧ .char '#' ∉ authority
  rest_begins : rest = [] ∨ rest.head? = some (.char '/') ∨ rest.head? = some (.char '?')

namespace FullUrl
open Endpoint

variable (u : FullUrl)

/-- The text of a full URL. -/
def text : Text := .ofList (u.scheme ++ (mark ++ (u.authority ++ u.rest)))

/-- Path and query, with a slash in front of a query without a path. -/
def pathAndQuery : List CodePoint :=
  if u.rest.head? = some (.char '/') then u.rest else .char '/' :: u.rest

/-- The parts of a full URL: what stands in front of the first slash of a query counts as host. -/
theorem parts {query path : List CodePoint} (hrest : u.rest = query ++ path)
    (hquery : .char '/' ∉ query) (hpath : IsPath path) :
    Parts u.text.toList u.scheme (u.authority ++ query) path where
  eq := by simp [text, hrest]
  before := u.scheme_unmarked
  host := by simp [u.authority_ended.1, hquery]
  path := hpath

theorem url_of_isPath (h : IsPath u.rest) (e : Endpoint) (scheme : String) :
    e.url scheme u.text = e.site scheme ++ Text.ofList u.pathAndQuery := by
  rw [url_of_parts (u.parts (List.nil_append _).symm List.not_mem_nil h), pathAndQuery, pathOrRoot]
  rcases h with hnil | hslash
  · simp [hnil]
  · rw [if_pos hslash, if_neg]
    intro hnil
    simp [hnil] at hslash

/-- **When path and query of a full URL are kept.** They are kept exactly if there is a path, or no
query.  Of a query without a path, all that is kept begins with its first slash. -/
theorem url_keeps_iff (e : Endpoint) (scheme : String) (u : FullUrl) :
    (e.url scheme u.text = scheme ++ "://" ++ e.netloc ++ Text.ofList u.pathAndQuery ↔
      u.rest.head? ≠ some (.char '?')) ∧
    (u.rest.head? = some (.char '?') →
      ∃ query path, u.rest = query ++ path ∧ .char '/' ∉ query ∧ IsPath path ∧
      e.url scheme u.text = scheme ++ "://" ++ e.netloc ++ Text.ofList (pathOrRoot path)) := by
  obtain ⟨query, path, hrest, hquery, hpath⟩ := exists_split u.rest
  have hurl := url_of_parts (u.parts hrest hquery hpath) e scheme
  refine ⟨?_, fun _ => ⟨query, path, hrest, hquery, hpath, hurl⟩⟩
  constructor
  · intro hkept hmark
    -- What is left out is not empty: with a question mark in front, the rest is no path.
    have hsome : 0 < query.length := by
      rw [List.length_pos_iff]
      rintro rfl
      rw [List.nil_append] at hrest
      subst hrest
      rcases hpath with hnil | hslash <;> simp_all
    have hsame : pathOrRoot path = .char '/' :: u.rest :=
      calc pathOrRoot path = u.pathAndQuery := (url_eq_iff.mp hurl).symm.trans (url_eq_iff.mp hkept)
        _ = .char '/' :: u.rest := if_neg (by simp [hmark])
    have hlength : (pathOrRoot path).length = query.length + path.length + 1 := by
      simp [hsame, hrest]
    have hle := length_pathOrRoot_le path
    omega
  · intro hmark
    refine u.url_of_isPath ?_ e scheme
    rcases u.rest_begins with hnil | hslash | hquestion
    · exact .inl hnil
    · exact .inr hslash
    · exact absurd hquestion hmark

/-- A full URL on a host, with a query and no path. -/
def pathless (query : List CodePoint) : FullUrl where
  scheme := ("http" : Text).toList
  authority := ("example.com" : Text).toList
  rest := .char '?' :: query
  scheme_unmarked := by decide
  authority_ended := by decide
  rest_begins := .inr (.inr rfl)

/-- A slash in the query counts as the beginning of the path. -/
theorem url_keeps_iff_slashInQuery :
    (pathless ("next=/home" : Text).toList).text = "http://example.com?next=/home" ∧
      loopback.url "http" (pathless ("next=/home" : Text).toList).text =
        "http://127.0.0.1:8080/home" ∧
      (pathless ("next=/home" : Text).toList).rest.head? = some (.char '?') ∧
      loopback.url "http" (pathless ("next=/home" : Text).toList).text ≠
        "http://127.0.0.1:8080/?next=/home" := by
  refine ⟨by decide, by decide, rfl, fun hkept => ?_⟩
  exact (url_keeps_iff loopback "http" (pathless ("next=/home" : Text).toList)).1.mp hkept rfl

/-- Not every full URL keeps its query. -/
theorem not_kept_pathless :
    ¬ ∀ (e : Endpoint) (scheme : String) (u : FullUrl),
      e.url scheme u.text = scheme ++ "://" ++ e.netloc ++ Text.ofList u.pathAndQuery := by
  intro h
  exact absurd (h loopback "http" (pathless ("a=b" : Text).toList)) (by decide)

end FullUrl

end TrafficReplay
