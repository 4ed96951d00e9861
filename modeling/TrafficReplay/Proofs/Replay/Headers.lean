import Mathlib.Data.List.Induction
import TrafficReplay.Proofs.Replay.Verifying
import TrafficReplay.Replay.Exchange

/-!
# The fields that are sent

Over HTTP/1 the recorded fields are folded, each name with all its values at the place where it came
first; over HTTP/2 they are sent as they were recorded.  Both leave some names out, and to leave
names out before the fold or after it comes to the same.

* `recordedValues`: the values of a name in a list of fields;
* `keys_foldFields`, `get?_foldFields`: the names of folded fields, and what is under them;
* `foldFields_filter`: names left out before the fold or after it;
* `outboundFields_agree`: what is sent over HTTP/1 and over HTTP/2.
-/

namespace TrafficReplay
open TrafficReplay.Text

/-! ### Entries without some names -/

namespace Keyed

variable {α : Type}

/-- The entries whose keys pass a test. -/
def filterKeys (p : Text → Bool) (m : Keyed α) : Keyed α := ⟨m.entries.filter fun e => p e.1⟩

theorem find?_filter {p : Text → Bool} {key : Text} (hkey : p key = true)
    (es : List (Text × α)) : find? key (es.filter fun e => p e.1) = find? key es := by
  induction es with
  | nil => rfl
  | cons e es ih =>
    obtain ⟨k, v⟩ := e
    by_cases hk : k = key
    · subst hk
      simp [find?, hkey]
    · by_cases hp : p k = true <;> simp [find?, hk, hp, ih]

theorem filter_putEntries (p : Text → Bool) (key : Text) (value : α)
    (es : List (Text × α)) :
    (putEntries key value es).filter (fun e => p e.1) =
      if p key = true then putEntries key value (es.filter fun e => p e.1)
      else es.filter fun e => p e.1 := by
  induction es with
  | nil => by_cases hp : p key = true <;> simp [putEntries, hp]
  | cons e es ih =>
    obtain ⟨k, v⟩ := e
    by_cases hk : k = key
    · subst hk
      by_cases hp : p k = true <;> simp [putEntries, hp]
    · by_cases hp : p key = true <;> by_cases hpk : p k = true <;>
        simp [putEntries, hk, hp, hpk, ih]

/-- A change under a key that passes the test can be made after the others are left out. -/
theorem filterKeys_alter (p : Text → Bool) (m : Keyed α) (key : Text) (f : Option α → α) :
    (m.alter key f).filterKeys p =
      if p key = true then (m.filterKeys p).alter key f else m.filterKeys p := by
  unfold alter put filterKeys get?
  rw [filter_putEntries]
  by_cases hp : p key = true
  · simp [hp, find?_filter hp]
  · simp [hp]

end Keyed

/-! ### Folded fields -/

/-- One field more. -/
def foldField (m : Keyed Text) (f : Text × Text) : Keyed Text := m.alter f.1 (joinValue f.2)

/-- The values of the fields with a name, in their order. -/
def recordedValues (fields : FieldList) (name : Text) : List Text :=
  (fields.filter fun f => f.1 = name).map Prod.snd

theorem foldFields_concat (fields : FieldList) (f : Text × Text) :
    foldFields (fields ++ [f]) = foldField (foldFields fields) f := List.foldl_append

/-- Folded fields have each name once, in the order in which the names came first. -/
theorem keys_foldFields (fields : FieldList) :
    (foldFields fields).keys = (fields.map Prod.fst).eraseDups := by
  induction fields using List.reverseRecOn with
  | nil => rfl
  | append_singleton fields f ih =>
    rw [foldFields_concat, foldField, Keyed.alter, Keyed.keys_put, ih, List.map_append,
      List.eraseDups_append]
    by_cases hf : f.1 ∈ fields.map Prod.fst
    · simp [List.removeAll, List.mem_eraseDups, hf]
    · simp [List.removeAll, List.mem_eraseDups, hf, List.eraseDups_cons]

theorem nodup_foldFields (fields : FieldList) : (foldFields fields).keys.Nodup := by
  induction fields using List.reverseRecOn with
  | nil => exact .nil
  | append_singleton fields f ih =>
    rw [foldFields_concat]
    exact Keyed.nodup_put ih f.1 _

theorem get?_foldField (name : Text) (m : Keyed Text) (f : Text × Text) :
    (foldField m f).get? name =
      if f.1 = name then some (joinValue f.2 (m.get? name)) else m.get? name := by
  rw [foldField, Keyed.alter, Keyed.get?_put]
  by_cases hf : f.1 = name
  · subst hf
    rw [if_pos rfl]
  · rw [if_neg hf, if_neg hf]

/-- Under a name there are all values of the name. -/
theorem get?_foldFields (fields : FieldList) (name : Text) :
    (foldFields fields).get? name = joinAll none (recordedValues fields name) := by
  show (fields.foldl foldField .empty).get? name = _
  exact get?_foldl_joined (by simpa using get?_foldField name) fields .empty

/-- Names can be left out before the fields are folded or after that. -/
theorem foldFields_filter (p : Text → Bool) (fields : FieldList) :
    foldFields (fields.filter fun f => p f.1) = (foldFields fields).filterKeys p := by
  induction fields using List.reverseRecOn with
  | nil => rfl
  | append_singleton fields f ih =>
    rw [List.filter_append, foldFields_concat, foldField, Keyed.filterKeys_alter, ← ih]
    by_cases hf : p f.1 = true
    · simp [hf, foldFields_concat, foldField]
    · simp [hf]

theorem foldFields_fieldsWithout (names : List Text) (fields : FieldList) :
    foldFields (fieldsWithout names fields) =
      (foldFields fields).filterKeys fun name => !names.contains name :=
  foldFields_filter (fun name => !names.contains name) fields

/-- Each entry of folded fields has all values of its name. -/
theorem value_of_mem_foldFields {fields : FieldList} {f : Text × Text}
    (hf : f ∈ (foldFields fields).entries) :
    f.2 = join (", " : Text) (recordedValues fields f.1) := by
  have hfound : (foldFields fields).get? f.1 = some f.2 :=
    (Keyed.find?_eq_some_iff (nodup_foldFields fields)).mpr hf
  rw [get?_foldFields, joinAll_none] at hfound
  cases hvalues : recordedValues fields f.1 with
  | nil => simp [hvalues] at hfound
  | cons value values =>
    rw [hvalues] at hfound
    exact (Option.some.inj hfound).symm

/-! ### Outgoing requests -/

/-- The recorded fields as they are sent over HTTP/1: every name but those that follow from the body
stands there once, in the order in which the names came first, with all its values. -/
structure SentFolded (fields sent : FieldList) : Prop where
  names : sent.map Prod.fst = ((fields.map Prod.fst).filter fun name : Text =>
    name ≠ "content-length" ∧ name ≠ "transfer-encoding").eraseDups
  once : (sent.map Prod.fst).Nodup
  values : ∀ f ∈ sent, f.2 = join (", " : Text) (recordedValues fields f.1)

/-- The recorded fields as they are sent over HTTP/2: those that are about a connection are left
out, and all others stay as often and in the order in which they were recorded. -/
structure SentAsRecorded (fields sent : FieldList) : Prop where
  order : sent.Sublist fields
  repeats : ∀ f, sent.count f = if f.1 ∈ connectionFields then 0 else fields.count f

theorem sentFolded_plain (fields : FieldList) :
    SentFolded fields (Carrier.plain.outboundFields fields) := by
  have hsent : Carrier.plain.outboundFields fields =
      ((foldFields fields).filterKeys fun name => !framingFields.contains name).entries :=
    congrArg Keyed.entries (foldFields_fieldsWithout framingFields fields)
  constructor
  · have hnames : (fieldsWithout framingFields fields).map Prod.fst =
        (fields.map Prod.fst).filter fun name : Text =>
          name ≠ "content-length" ∧ name ≠ "transfer-encoding" := by
      rw [fieldsWithout, List.filter_map]
      refine congrArg _ (List.filter_congr fun f _ => ?_)
      simp [framingFields]
    rw [← hnames, ← keys_foldFields]
    rfl
  · exact nodup_foldFields _
  · intro f hf
    rw [hsent] at hf
    exact value_of_mem_foldFields (List.mem_of_mem_filter hf)

theorem sentAsRecorded_http2 (fields : FieldList) :
    SentAsRecorded fields (Carrier.http2.outboundFields fields) := by
  constructor
  · exact List.filter_sublist
  · intro f
    show (fields.filter fun f => !connectionFields.contains f.1).count f = _
    by_cases hf : f.1 ∈ connectionFields
    · rw [if_pos hf, List.count_eq_zero]
      intro hmem
      simpa [hf] using (List.mem_filter.mp hmem).2
    · rw [if_neg hf, List.count_filter]
      simpa using hf

/-- **HTTP/1 and HTTP/2 send the same fields.** A call over HTTP/1, with or without TLS, has the
recorded fields folded; one over HTTP/2 has them as they were recorded.  Folded, the latter are the
former without the fields that are about a connection. -/
theorem outboundFields_agree (fields : FieldList) :
    (∀ c settings buffer target r call, callFor c settings buffer target r = .ok call →
      call.headers = c.outboundFields r.fields) ∧
    (∀ serverName, (Carrier.tls serverName).outboundFields fields =
      Carrier.plain.outboundFields fields) ∧
    SentFolded fields (Carrier.plain.outboundFields fields) ∧
    SentAsRecorded fields (Carrier.http2.outboundFields fields) ∧
    (foldFields (Carrier.http2.outboundFields fields)).entries =
      (Carrier.plain.outboundFields fields).filter fun f => f.1 ∉ connectionFields := by
  refine ⟨?_, fun _ => rfl, sentFolded_plain fields, sentAsRecorded_http2 fields, ?_⟩
  · intro c settings buffer target r call hcall
    unfold callFor at hcall
    cases hbody : r.body buffer with
    | error e => simp [hbody, bind, Except.bind] at hcall
    | ok body =>
      simp only [hbody, bind, Except.bind, pure, Except.pure, Except.ok.injEq] at hcall
      rw [← hcall]
  · -- The names that follow from the body are among those that are about a connection.
    have hmore : ∀ name ∈ framingFields, name ∈ connectionFields := by decide
    show (foldFields (fieldsWithout connectionFields fields)).entries =
      (foldFields (fieldsWithout framingFields fields)).entries.filter _
    rw [foldFields_fieldsWithout, foldFields_fieldsWithout]
    simp only [Keyed.filterKeys, List.filter_filter]
    refine List.filter_congr fun f _ => ?_
    by_cases hf : f.1 ∈ framingFields
    · simp [hf, hmore f.1 hf]
    · simp [hf]

/-- Repeated fields, and fields that are not sent over one of the two. -/
def mixedFields : FieldList :=
  [("via", "a"), ("host", "x"), ("content-length", "3"), ("connection", "close"), ("via", "b"),
    ("host", "y")]

/-- The values of repeated fields are joined where they came first, and only `connection` is sent
over HTTP/1 and not over HTTP/2. -/
theorem outboundFields_agree_mixed :
    Carrier.plain.outboundFields mixedFields =
        ([("via", "a, b"), ("host", "x, y"), ("connection", "close")] : FieldList) ∧
      (foldFields (Carrier.http2.outboundFields mixedFields)).entries =
        ([("via", "a, b"), ("host", "x, y")] : FieldList) := by
  obtain ⟨-, -, -, -, hfolded⟩ := outboundFields_agree mixedFields
  have hplain : Carrier.plain.outboundFields mixedFields =
      ([("via", "a, b"), ("host", "x, y"), ("connection", "close")] : FieldList) := by
    decide +kernel
  refine ⟨hplain, ?_⟩
  rw [hfolded, hplain]
  decide

end TrafficReplay
