import Mathlib.Data.List.Induction
import Mathlib.Logic.Function.Basic
import TrafficReplay.Traffic.Rule

/-!
# Rule sets, added to and merged

A set has one rule at most for a name.  Rules that are added or merged count before those that were
there, and take their places; new names go to the end.  So a name stays where it was put first, and
it does not matter in which order merges are carried out.

* `RuleSet.last?`, `RuleSet.withNew`: the rule that counts for a name, and the order of the names;
* `FieldRules.Writable`: what holds of every set that rules can be added to;
* `FieldRules.Change`: the making of some sets by additions and merges;
* `FieldRules.merge_laws`: the laws of merging, and what every set that is made is like.
-/

namespace TrafficReplay

/-! ### Rules in a list, and merged -/

namespace RuleSet

/-- The last rule for a name in a list. -/
def last? (rules : List FieldRule) (name : Text) : Option FieldRule :=
  rules.reverse.find? fun r => r.name = name

/-- Names in order, with those of a list behind them that are new. -/
def withNew (known names : List Text) : List Text :=
  known ++ (names.filter fun name => name ∉ known).eraseDups

/-- The new names come one after another. -/
theorem withNew_cons (known : List Text) (name : Text) (names : List Text) :
    withNew known (name :: names) =
      withNew (if name ∈ known then known else known ++ [name]) names := by
  unfold withNew
  by_cases hname : name ∈ known
  · simp [hname]
  · have hfilter : (names.filter fun x => x ∉ known).filter (fun x => !x == name) =
        names.filter fun x => x ∉ known ++ [name] := by
      rw [List.filter_filter]
      refine List.filter_congr fun x _ => ?_
      by_cases hx : x = name <;> simp [hx]
    rw [List.filter_cons_of_pos (by simpa using hname), List.eraseDups_cons, hfilter, if_neg hname,
      List.append_assoc, List.singleton_append]

theorem nodup_withNew {known : List Text} (h : known.Nodup) (names : List Text) :
    (withNew known names).Nodup := by
  induction names generalizing known with
  | nil => simpa [withNew] using h
  | cons name names ih =>
    rw [withNew_cons]
    split
    · exact ih h
    · rename_i hname
      refine ih (List.nodup_append.mpr ⟨h, by simp, fun x hx y hy => ?_⟩)
      rintro rfl
      exact hname (List.mem_singleton.mp hy ▸ hx)

theorem withNew_append (known names more : List Text) :
    withNew known (names ++ more) = withNew (withNew known names) more := by
  induction names generalizing known with
  | nil => simp [withNew]
  | cons name names ih => rw [List.cons_append, withNew_cons, ih, ← withNew_cons]

theorem mem_withNew {known names : List Text} {x : Text} :
    x ∈ withNew known names ↔ x ∈ known ∨ x ∈ names := by
  by_cases hx : x ∈ known <;> simp [withNew, List.mem_eraseDups, hx]

theorem withNew_concat (known names : List Text) (name : Text) :
    withNew known (names ++ [name]) =
      if name ∈ withNew known names then withNew known names
      else withNew known names ++ [name] := by
  rw [withNew_append, withNew_cons]
  simp [withNew]

/-- A name that comes again is not new. -/
theorem withNew_eraseDups (known names : List Text) :
    withNew known names.eraseDups = withNew known names := by
  -- From the end, where dropping repeats leaves the names before the last one as they are.
  induction names using List.reverseRecOn with
  | nil => rfl
  | append_singleton names name ih =>
    by_cases hname : name ∈ names
    · have hsame : (names ++ [name]).eraseDups = names.eraseDups := by
        simp [List.eraseDups_append, List.removeAll, hname]
      rw [hsame, ih, withNew_concat, if_pos (mem_withNew.mpr (.inr hname))]
    · have hmore : (names ++ [name]).eraseDups = names.eraseDups ++ [name] := by
        simp [List.eraseDups_append, List.removeAll, hname, List.eraseDups_cons]
      rw [hmore, withNew_concat, withNew_concat, ih]

/-- What is new comes in the order in which it came first. -/
theorem withNew_nil (names : List Text) : withNew [] names = names.eraseDups := by
  rw [withNew, List.nil_append, List.filter_eq_self.mpr fun _ _ => by simp]

theorem keys_merge (rules other : RuleSet) :
    (rules.merge other).keys = withNew rules.keys other.keys := by
  obtain ⟨es⟩ := other
  induction es generalizing rules with
  | nil => simp [withNew, Keyed.keys, Keyed.merge]
  | cons e es ih =>
    refine (ih (rules.put e.1 e.2)).trans ?_
    rw [Keyed.keys_put, ← withNew_cons]
    rfl

/-- A rule of the set that is merged counts before one that was there. -/
theorem get?_merge {other : RuleSet} (h : other.keys.Nodup) (rules : RuleSet) (name : Text) :
    (rules.merge other).get? name = (other.get? name).or (rules.get? name) := by
  by_cases hname : name ∈ other.keys
  · have hsome : (other.get? name).isSome := Keyed.isSome_get?_iff.mpr hname
    have hself : other.merge other = other := (Keyed.merge_eq_self_iff h).mpr fun _ _ => rfl
    rw [Keyed.get?_merge_of_mem hname rules other, hself, Option.or_of_isSome hsome]
  · have hnone : other.get? name = none := by
      rw [← Option.not_isSome_iff_eq_none, Keyed.isSome_get?_iff]
      exact hname
    rw [Keyed.get?_merge_of_not_mem hname, hnone, Option.none_or]

theorem foldl_add (rules : List FieldRule) (rs : RuleSet) :
    (∀ name, (rules.foldl add rs).get? name = (last? rules name).or (rs.get? name)) ∧
      (rules.foldl add rs).keys = withNew rs.keys (rules.map FieldRule.name) := by
  induction rules generalizing rs with
  | nil => simp [last?, withNew]
  | cons r rules ih =>
    obtain ⟨hget, hkeys⟩ := ih (rs.add r)
    refine ⟨fun name => ?_, ?_⟩
    · rw [List.foldl_cons, hget, last?, last?, List.reverse_cons, List.find?_append,
        Option.or_assoc, add, Keyed.get?_put]
      by_cases hname : r.name = name <;> simp [hname]
    · rw [List.foldl_cons, hkeys, List.map_cons, withNew_cons, add, Keyed.keys_put]

/-- In a set that holds some rules the last one for a name counts. -/
theorem get?_ofList (rules : List FieldRule) (name : Text) :
    (ofList rules).get? name = last? rules name := by
  have hget := (foldl_add rules .empty).1 name
  rwa [Keyed.get?_empty, Option.or_none] at hget

/-- The names stand in the order in which they came first. -/
theorem keys_ofList (rules : List FieldRule) :
    (ofList rules).keys = (rules.map FieldRule.name).eraseDups :=
  (foldl_add rules .empty).2.trans (withNew_nil _)

theorem merge_foldl_add {rs : RuleSet} (h : rs.keys.Nodup) (base : RuleSet)
    (rules : List FieldRule) :
    base.merge (rules.foldl add rs) = rules.foldl add (base.merge rs) := by
  induction rules generalizing rs with
  | nil => rfl
  | cons r rules ih =>
    rw [List.foldl_cons, @ih (rs.add r) (Keyed.nodup_put h r.name r), List.foldl_cons, add,
      Keyed.merge_put h]
    rfl

end RuleSet

namespace FieldRules

variable {s other A B : FieldRules}

/-! ### Merging -/

/-- What holds of every set that rules can be added to: it is not frozen, and under a name there is
one rule at most. -/
structure Writable (s : FieldRules) : Prop where
  unfrozen : s.frozen = false
  distinct : s.rules.keys.Nodup

/-- A set with the rules of another merged into it. -/
def joined (s other : FieldRules) : FieldRules := ⟨s.rules.merge other.rules, false⟩

theorem change_eq (h : s.frozen = false) (f : RuleSet → RuleSet) :
    s.change f = .ok ⟨f s.rules, false⟩ := by
  obtain ⟨rules, frozen⟩ := s
  cases h
  rfl

theorem merge_eq (h : s.frozen = false) (other : FieldRules) :
    s.merge other.rules = .ok (s.joined other) :=
  change_eq h (·.merge other.rules)

theorem Writable.joined (h : s.Writable) (other : FieldRules) : (s.joined other).Writable :=
  ⟨rfl, Keyed.nodup_merge h.distinct other.rules⟩

theorem joined_assoc (hB : B.Writable) (A C : FieldRules) :
    (A.joined B).joined C = A.joined (B.joined C) :=
  congrArg (FieldRules.mk · false) (Keyed.merge_assoc hB.distinct A.rules C.rules).symm

theorem joined_self (hA : A.Writable) : A.joined A = A := by
  have hrules : A.rules.merge A.rules = A.rules :=
    (Keyed.merge_eq_self_iff hA.distinct).mpr fun _ _ => rfl
  rw [joined, hrules, ← hA.unfrozen]

theorem joined_twice (hB : B.Writable) (A : FieldRules) :
    (A.joined B).joined B = A.joined B := by
  rw [joined_assoc hB, joined_self hB]

theorem joined_empty (hA : A.Writable) : A.joined empty = A := by
  rw [joined, ← hA.unfrozen]
  rfl

/-- Rules that are merged into the empty set stay in their order. -/
theorem empty_joined (hA : A.Writable) : empty.joined A = A := by
  rw [joined, show empty.rules = (.empty : RuleSet) from rfl, Keyed.empty_merge hA.distinct,
    ← hA.unfrozen]

/-! ### Sets in the making -/

/-- The names of the rules of a set, in the order in which the rules are listed. -/
def listed (s : FieldRules) : List Text := s.rules.values.map FieldRule.name

/-- A change to one of some sets, which have names themselves. -/
inductive Change
  | add (set : Text) (r : FieldRule)
  | merge (set other : Text)

namespace Change

/-- The sets after a change. -/
def perform (sets : Text → FieldRules) : Change → Except Fault (Text → FieldRules)
  | .add set r => return Function.update sets set (← (sets set).add r)
  | .merge set other => return Function.update sets set (← (sets set).merge (sets other).rules)

/-- For each set, the names that were put into it, in this order and as often as they were put. -/
def record (put : Text → List Text) : Change → Text → List Text
  | .add set r => Function.update put set (put set ++ [r.name])
  | .merge set other => Function.update put set (put set ++ put other)

end Change

/-- The sets that some changes make of empty ones. -/
def makeAll (changes : List Change) : Except Fault (Text → FieldRules) :=
  changes.foldlM Change.perform fun _ => empty

/-- The names that some changes put into each set. -/
def putBy (changes : List Change) : Text → List Text :=
  changes.foldl Change.record fun _ => []

/-- A set into which some names were put: it can be changed, has each of the names once, in the
order in which they were put first, and under each the rule that is called so. -/
structure MadeOf (names : List Text) (s : FieldRules) : Prop where
  unfrozen : s.frozen = false
  keys : s.rules.keys = names.eraseDups
  own : ∀ name r, s.rules.get? name = some r → r.name = name

namespace MadeOf

variable {names more : List Text}

theorem writable (h : s.MadeOf names) : s.Writable := by
  refine ⟨h.unfrozen, ?_⟩
  rw [h.keys, ← RuleSet.withNew_nil]
  exact RuleSet.nodup_withNew List.nodup_nil names

theorem listed (h : s.MadeOf names) : s.listed = names.eraseDups := by
  rw [← h.keys, FieldRules.listed, Keyed.values, List.map_map]
  refine List.map_congr_left fun e he => ?_
  exact h.own e.1 e.2 ((Keyed.find?_eq_some_iff h.writable.distinct).mpr he)

theorem empty : FieldRules.empty.MadeOf [] := ⟨rfl, rfl, nofun⟩

theorem add (h : s.MadeOf names) (r : FieldRule) :
    MadeOf (names ++ [r.name]) ⟨s.rules.add r, false⟩ := by
  refine ⟨rfl, ?_, fun name r' hr' => ?_⟩
  · rw [RuleSet.add, Keyed.keys_put, h.keys, ← RuleSet.withNew_nil, ← RuleSet.withNew_nil,
      RuleSet.withNew_concat]
  · rw [RuleSet.add, Keyed.get?_put] at hr'
    split at hr'
    · cases hr'
      assumption
    · exact h.own name r' hr'

theorem joined (h : s.MadeOf names) (hother : other.MadeOf more) :
    (s.joined other).MadeOf (names ++ more) := by
  refine ⟨rfl, ?_, fun name r hr => ?_⟩
  · rw [FieldRules.joined, RuleSet.keys_merge, h.keys, hother.keys, RuleSet.withNew_eraseDups,
      ← RuleSet.withNew_nil, ← RuleSet.withNew_nil, RuleSet.withNew_append]
  · rw [FieldRules.joined, RuleSet.get?_merge hother.writable.distinct] at hr
    rcases Option.or_eq_some_iff.mp hr with hr | ⟨-, hr⟩
    · exact hother.own name r hr
    · exact h.own name r hr

end MadeOf

/-- That each of some sets is one into which the recorded names were put. -/
def Made (sets : Text → FieldRules) (put : Text → List Text) : Prop :=
  ∀ set, (sets set).MadeOf (put set)

variable {sets : Text → FieldRules} {put : Text → List Text}

theorem Made.update (h : Made sets put) (set : Text) {names : List Text}
    (hs : s.MadeOf names) : Made (Function.update sets set s) (Function.update put set names) := by
  intro set'
  by_cases hset : set' = set
  · subst hset
    rwa [Function.update_self, Function.update_self]
  · rw [Function.update_of_ne hset, Function.update_of_ne hset]
    exact h set'

/-- No change to sets in the making is refused. -/
theorem Made.perform (h : Made sets put) (c : Change) :
    ∃ sets', c.perform sets = .ok sets' ∧ Made sets' (c.record put) := by
  cases c with
  | add set r =>
    have hadd : (sets set).add r = .ok ⟨(sets set).rules.add r, false⟩ :=
      change_eq (h set).unfrozen (·.add r)
    refine ⟨Function.update sets set ⟨(sets set).rules.add r, false⟩, ?_, ?_⟩
    · rw [Change.perform, hadd]
      rfl
    · exact h.update set ((h set).add r)
  | merge set other =>
    refine ⟨Function.update sets set ((sets set).joined (sets other)), ?_, ?_⟩
    · rw [Change.perform, merge_eq (h set).unfrozen]
      rfl
    · exact h.update set ((h set).joined (h other))

/-- So it is with any number of changes. -/
theorem Made.performAll (h : Made sets put) (changes : List Change) :
    ∃ sets', changes.foldlM Change.perform sets = .ok sets' ∧
      Made sets' (changes.foldl Change.record put) := by
  induction changes generalizing sets put with
  | nil => exact ⟨sets, rfl, h⟩
  | cons c changes ih =>
    obtain ⟨sets₁, hfirst, h₁⟩ := h.perform c
    obtain ⟨sets₂, hrest, h₂⟩ := ih h₁
    refine ⟨sets₂, ?_, h₂⟩
    rw [List.foldlM_cons, hfirst]
    exact hrest

theorem made_makeAll (changes : List Change) :
    ∃ sets, makeAll changes = .ok sets ∧ Made sets (putBy changes) :=
  Made.performAll (fun _ => MadeOf.empty) changes

/-- A change puts names behind those that were put before. -/
theorem Change.prefix_record (put : Text → List Text) (c : Change) (set : Text) :
    put set <+: c.record put set := by
  have hupdate (target : Text) (names : List Text) :
      put set <+: Function.update put target (put target ++ names) set := by
    by_cases hset : set = target
    · subst hset
      rw [Function.update_self]
      exact List.prefix_append _ _
    · exact ⟨[], by rw [List.append_nil, Function.update_of_ne hset]⟩
  cases c with
  | add target r => exact hupdate target _
  | merge target other => exact hupdate target _

theorem prefix_putBy (earlier later : List Change) (set : Text) :
    putBy earlier set <+: putBy (earlier ++ later) set := by
  induction later using List.reverseRecOn with
  | nil => exact ⟨[], by rw [List.append_nil, List.append_nil]⟩
  | append_singleton later c ih =>
    have hlast : putBy (earlier ++ (later ++ [c])) = c.record (putBy (earlier ++ later)) := by
      simp [putBy]
    rw [hlast]
    exact ih.trans (c.prefix_record _ set)

/-- Names that come later do not change the places of those before them. -/
theorem eraseDups_prefix {names more : List Text} (h : names <+: more) :
    names.eraseDups <+: more.eraseDups := by
  obtain ⟨rest, rfl⟩ := h
  rw [List.eraseDups_append]
  exact List.prefix_append _ _

/-- **The laws of merging.** Merging into a set that can be changed returns such a set.  To merge
`C` into what comes of merging `B` into `A` gives the same set, in the same order, as to merge what
comes of merging `C` into `B` into `A`.  To merge a set into itself changes nothing, nor does it to
merge another one a second time, nor to merge the empty set; and merged into the empty set, a set
stays as it is.  After a merge a name has the rule of the set that was merged, or else the one it
had.

Whatever changes are made to sets that are empty at first, none is refused.  Each set can be changed
then, lists each name that was put into it once, in the order in which the names were put first, and
keeps all names that it listed earlier where they were. -/
theorem merge_laws {A B : FieldRules} (hA : A.Writable) (hB : B.Writable) (C : FieldRules) :
    (∃ AB BC ABC, A.merge B.rules = .ok AB ∧ AB.merge C.rules = .ok ABC ∧
      B.merge C.rules = .ok BC ∧ A.merge BC.rules = .ok ABC ∧ ABC.Writable) ∧
    A.merge A.rules = .ok A ∧
    (∃ AB, A.merge B.rules = .ok AB ∧ AB.merge B.rules = .ok AB ∧
      ∀ name, AB.rules.get? name = (B.rules.get? name).or (A.rules.get? name)) ∧
    A.merge empty.rules = .ok A ∧ empty.merge A.rules = .ok A ∧
    ∀ earlier later : List Change, ∃ before after,
      makeAll earlier = .ok before ∧ makeAll (earlier ++ later) = .ok after ∧
      ∀ set, (after set).Writable ∧
        (after set).listed = (putBy (earlier ++ later) set).eraseDups ∧
        (after set).listed.Nodup ∧ (before set).listed <+: (after set).listed := by
  refine ⟨⟨A.joined B, B.joined C, (A.joined B).joined C, merge_eq hA.unfrozen B,
    merge_eq rfl C, merge_eq hB.unfrozen C, ?_, (hA.joined B).joined C⟩, ?_,
    ⟨A.joined B, merge_eq hA.unfrozen B, ?_, RuleSet.get?_merge hB.distinct A.rules⟩, ?_, ?_, ?_⟩
  · rw [merge_eq hA.unfrozen, joined_assoc hB]
  · rw [merge_eq hA.unfrozen, joined_self hA]
  · rw [merge_eq rfl, joined_twice hB]
  · rw [merge_eq hA.unfrozen, joined_empty hA]
  · rw [merge_eq rfl, empty_joined hA]
  · intro earlier later
    obtain ⟨before, hbefore, hmade⟩ := made_makeAll earlier
    obtain ⟨after, hafter, hmade'⟩ := made_makeAll (earlier ++ later)
    refine ⟨before, after, hbefore, hafter, fun set => ?_⟩
    have hlisted := (hmade' set).listed
    refine ⟨(hmade' set).writable, hlisted, ?_, ?_⟩
    · rw [hlisted, ← RuleSet.withNew_nil]
      exact RuleSet.nodup_withNew List.nodup_nil _
    · rw [hlisted, (hmade set).listed]
      exact eraseDups_prefix (prefix_putBy earlier later set)

/-- Rules for `server` and `age`. -/
def serverAge : FieldRules := ⟨.ofList [⟨"server", "a", .equal⟩, ⟨"age", "", .present⟩], false⟩

/-- Rules for `via` and `server`. -/
def viaServer : FieldRules := ⟨.ofList [⟨"via", "", .absent⟩, ⟨"server", "b", .contains⟩], false⟩

/-- Rules for `age` and `host`. -/
def ageHost : FieldRules := ⟨.ofList [⟨"age", "0", .equal⟩, ⟨"host", "h", .equal⟩], false⟩

/-- Two sets with a rule each. -/
def oneEach : List Change :=
  [.add "a" ⟨"server", "a", .equal⟩, .add "b" ⟨"via", "", .absent⟩]

/-- Each of the two sets takes in the other. -/
def crossMerged : List Change :=
  [.merge "b" "a", .add "a" ⟨"via", "", .present⟩, .add "b" ⟨"age", "", .absent⟩, .merge "a" "b"]

/-- Of three sets that share names, the last one decides and the first one orders; and two sets that
take in each other keep their own names in front. -/
theorem merge_laws_shared :
    serverAge.Writable ∧ viaServer.Writable ∧
    (∃ AB BC ABC, serverAge.merge viaServer.rules = .ok AB ∧ AB.merge ageHost.rules = .ok ABC ∧
      viaServer.merge ageHost.rules = .ok BC ∧ serverAge.merge BC.rules = .ok ABC ∧
      ABC.rules.values.map FieldRule.describe =
        (["\"server\" contains \"b\"", "\"age\" equal \"0\"", "\"via\" absent",
          "\"host\" equal \"h\""] : List Text)) ∧
    ∃ before after, makeAll oneEach = .ok before ∧ makeAll (oneEach ++ crossMerged) = .ok after ∧
      (after "a").listed = (["server", "via", "age"] : List Text) ∧
      (after "b").listed = (["via", "server", "age"] : List Text) ∧
      (before "b").listed <+: (after "b").listed := by
  have hA : serverAge.Writable := ⟨rfl, by decide⟩
  have hB : viaServer.Writable := ⟨rfl, by decide⟩
  obtain ⟨⟨AB, BC, ABC, hAB, hABC, hBC, hABC', -⟩, -, -, -, -, hmade⟩ := merge_laws hA hB ageHost
  refine ⟨hA, hB, ⟨AB, BC, ABC, hAB, hABC, hBC, hABC', ?_⟩, ?_⟩
  · obtain rfl := Except.ok.inj hAB
    obtain rfl := Except.ok.inj hABC
    decide
  · obtain ⟨before, after, hbefore, hafter, hsets⟩ := hmade oneEach crossMerged
    refine ⟨before, after, hbefore, hafter, ?_, ?_, (hsets "b").2.2.2⟩
    · rw [(hsets "a").2.1]
      decide
    · rw [(hsets "b").2.1]
      decide

end FieldRules

end TrafficReplay
