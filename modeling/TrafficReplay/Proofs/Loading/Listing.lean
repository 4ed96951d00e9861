import Mathlib.Data.List.Nodup
import TrafficReplay.Proofs.Loading.Discovery

/-!
# The order of replay files

The replay files under a directory are found in an order that depends on their places alone: the
files of a directory come before those of its subdirectories, and both in the order of their names.
A list of places in this order is told by the places that are in it, so the order in which
directories are listed does not matter.

* `FileTree.Before`: which of two places comes first;
* `FileTree.places`, `FileTree.pairwise_places`: the places of the replay files, and their order;
* `FileTree.nodup_replayFiles`: no replay file is found twice;
* `FileTree.Relisted`: a tree with its directories listed in another order;
* `FileTree.findReplayFiles_ordered`: what is found under a path.
-/

namespace TrafficReplay
open TrafficReplay.Text

namespace FileTree

/-! ### Places -/

/-- That a tree has a file at a place. -/
inductive HasFile : FileTree → List String → Prop
  | here {access access' : Access} {es : List (String × FileTree)} {name : String}
    {bytes : List UInt8} (h : (name, .file access' bytes) ∈ es) :
    HasFile (.directory access es) [name]
  | inside {access : Access} {es : List (String × FileTree)} {name : String} {t : FileTree}
    {parts : List String} (h : (name, t) ∈ es) (ht : HasFile t parts) :
    HasFile (.directory access es) (name :: parts)

/-- Which of two places comes first.  Names are compared by the code points of their characters. -/
inductive Before : List String → List String → Prop
  /-- Two files of a directory. -/
  | own {a b : String} (h : a < b) : Before [a] [b]
  /-- A file of a directory, and one in a subdirectory. -/
  | above {a b c : String} {parts : List String} : Before [a] (b :: c :: parts)
  /-- Files in two subdirectories. -/
  | beside {a b c d : String} {parts parts' : List String} (h : a < b) :
    Before (a :: c :: parts) (b :: d :: parts')
  /-- Files in the same subdirectory. -/
  | within {a : String} {parts parts' : List String} (h : Before parts parts') :
    Before (a :: parts) (a :: parts')

/-- That a file of this name is a replay file: how its name ends, in whatever case. -/
def ReplayName (name : String) : Prop :=
  ∃ e ∈ ([".yaml", ".yml", ".json"] : List Text), e.toList <:+ (lowerText name).toList

theorem isReplayName_iff (name : String) : isReplayName name = true ↔ ReplayName name := by
  rw [isReplayName, List.any_eq_true]
  exact exists_congr fun e => and_congr_right fun _ => endsIn_iff

theorem HasFile.ne_nil {t : FileTree} {parts : List String} (h : t.HasFile parts) : parts ≠ [] := by
  cases h <;> simp

theorem not_before_nil {parts : List String} : ¬ Before parts [] := nofun

/-- No two places come one before the other. -/
theorem Before.asymm {parts parts' : List String} (h : Before parts parts') :
    ¬ Before parts' parts := by
  induction h with
  | own h =>
    intro h'
    cases h' with
    | own h' => exact String.lt_asymm h h'
    | within h' => exact not_before_nil h'
  | above =>
    intro h'
    cases h' with
    | within h' => exact not_before_nil h'
  | beside h =>
    intro h'
    cases h' with
    | beside h' => exact String.lt_asymm h h'
    | within h' => exact String.lt_irrefl _ h
  | within h ih =>
    intro h'
    cases h' with
    | own h' => exact String.lt_irrefl _ h'
    | above => exact not_before_nil h
    | beside h' => exact String.lt_irrefl _ h'
    | within h' => exact ih h'

/-- A tree has a replay file where it has a file with the name of one. -/
theorem holds_iff {t : FileTree} {parts : List String} :
    t.Holds parts ↔
      t.HasFile parts ∧ ∃ name, parts.getLast? = some name ∧ ReplayName name := by
  constructor
  · intro h
    induction h with
    | here h hname => exact ⟨.here h, _, rfl, (isReplayName_iff _).mp hname⟩
    | inside h ht ih =>
      obtain ⟨hfile, name, hlast, hname⟩ := ih
      refine ⟨.inside h hfile, name, ?_, hname⟩
      rw [List.getLast?_cons, hlast]
      rfl
  · rintro ⟨h, name, hlast, hname⟩
    induction h with
    | @here _ _ es file bytes h =>
      cases hlast
      exact .here h ((isReplayName_iff file).mpr hname)
    | inside h ht ih =>
      refine .inside h (ih ?_)
      rw [List.getLast?_cons_of_ne_nil ht.ne_nil] at hlast
      exact hlast

/-! ### The order in which files are found -/

/-- The places of the replay files of a tree, in the order in which they are found. -/
def places (t : FileTree) : List (List String) :=
  (t.replayFiles ⟨false, []⟩).map FilePath.parts

/-- The subdirectories of a directory in the order of their names. -/
def subdirectories (es : List (String × FileTree)) : List (String × FileTree) :=
  byName (es.filter fun e => e.2.isDirectory)

theorem mem_subdirectories {e : String × FileTree} {es : List (String × FileTree)} :
    e ∈ subdirectories es ↔ e ∈ es ∧ e.2.isDirectory = true := by
  rw [subdirectories, (byName_perm _).mem_iff, List.mem_filter]

theorem byName_map {α β : Type} (f : String × α → β) (es : List (String × α)) :
    byName (es.map fun e => (e.1, f e)) = (byName es).map fun e => (e.1, f e) := by
  unfold byName
  rw [List.map_mergeSort]
  intro _ _ _ _
  rfl

/-- The places in a directory, by those in its entries. -/
def placesIn (es : List (String × FileTree)) : List (List String) :=
  (ownNames es).map (fun name => [name]) ++
    (subdirectories es).flatMap fun e => e.2.places.map (e.1 :: ·)

theorem replayFiles_directory_eq {es : List (String × FileTree)}
    (h : ∀ e ∈ es, ∀ p, e.2.replayFiles p = e.2.places.map p.below) (access : Access)
    (p : FilePath) : replayFiles p (.directory access es) = (placesIn es).map p.below := by
  have hown : (ownNames es).map p.child = ((ownNames es).map fun name => [name]).map p.below := by
    rw [List.map_map]
    rfl
  have hbelow : ((subdirectories es).flatMap fun e => replayFiles (p.child e.1) e.2) =
      ((subdirectories es).flatMap fun e => e.2.places.map (e.1 :: ·)).map p.below := by
    rw [List.map_flatMap]
    refine List.flatMap_congr fun e he => ?_
    rw [h e (mem_subdirectories.mp he).1, List.map_map]
    exact List.map_congr_left fun parts _ => p.below_child e.1 parts
  rw [replayFiles_directory, filesBelow_eq, byName_map fun e => replayFiles (p.child e.1) e.2,
    List.flatMap_map, placesIn, List.map_append, ← hown, ← hbelow]
  rfl

theorem places_eq_of_replayFiles {t : FileTree} {parts : List (List String)}
    (h : ∀ p, t.replayFiles p = parts.map p.below) : t.places = parts := by
  rw [places, h, List.map_map]
  exact List.map_id parts

/-- The paths that are found lead to the places. -/
theorem replayFiles_eq_map (t : FileTree) (p : FilePath) :
    t.replayFiles p = t.places.map p.below := by
  induction t using induct generalizing p with
  | file access bytes =>
    rw [places, replayFiles, replayFiles]
    rfl
  | directory access es ih =>
    have hplaces := replayFiles_directory_eq (fun e he p => ih e he p) access
    rw [places_eq_of_replayFiles hplaces, hplaces]

theorem places_directory (access : Access) (es : List (String × FileTree)) :
    (FileTree.directory access es).places = placesIn es :=
  places_eq_of_replayFiles (replayFiles_directory_eq (fun e _ p => replayFiles_eq_map e.2 p) access)

theorem mem_places {t : FileTree} {parts : List String} : parts ∈ t.places ↔ t.Holds parts := by
  have hmem := @mem_replayFiles t ⟨false, []⟩ (FilePath.below ⟨false, []⟩ parts)
  rw [replayFiles_eq_map, List.mem_map_of_injective (FilePath.below_injective _)] at hmem
  rw [hmem]
  constructor
  · rintro ⟨parts', h, heq⟩
    rwa [FilePath.below_injective _ heq]
  · intro h
    exact ⟨parts, h, rfl⟩

/-- Entries with different names stand in the strict order of their names. -/
theorem pairwise_byName {α : Type} {es : List (String × α)} (h : (es.map Prod.fst).Nodup) :
    (byName es).Pairwise fun e e' => e.1 < e'.1 := by
  have htrans (a b c : String × α) (hab : decide (a.1 ≤ b.1) = true)
      (hbc : decide (b.1 ≤ c.1) = true) : decide (a.1 ≤ c.1) = true :=
    decide_eq_true (String.le_trans (of_decide_eq_true hab) (of_decide_eq_true hbc))
  have htotal (a b : String × α) : (decide (a.1 ≤ b.1) || decide (b.1 ≤ a.1)) = true := by
    rw [Bool.or_eq_true, decide_eq_true_eq, decide_eq_true_eq]
    exact String.le_total a.1 b.1
  have hle : (byName es).Pairwise fun e e' => decide (e.1 ≤ e'.1) = true :=
    List.pairwise_mergeSort htrans htotal es
  have hne : (byName es).Pairwise fun e e' => e.1 ≠ e'.1 :=
    List.pairwise_map.mp (((byName_perm es).map Prod.fst).nodup_iff.mpr h)
  refine hle.imp₂ (fun e e' hle hne => ?_) hne
  exact String.not_le.mp fun hge => hne (String.le_antisymm (of_decide_eq_true hle) hge)

theorem pairwise_ownNames {es : List (String × FileTree)} (h : (es.map Prod.fst).Nodup) :
    (ownNames es).Pairwise (· < ·) := by
  have hnames : (((es.map fun e => (e.1, e.2.isDirectory)).filter
      fun e => !e.2 && isReplayName e.1).map Prod.fst).Sublist (es.map Prod.fst) := by
    refine (List.filter_sublist.map Prod.fst).trans ?_
    rw [List.map_map]
    exact .refl _
  exact List.pairwise_map.mpr (pairwise_byName (hnames.nodup h))

theorem pairwise_subdirectories {es : List (String × FileTree)} (h : (es.map Prod.fst).Nodup) :
    (subdirectories es).Pairwise fun e e' => e.1 < e'.1 :=
  pairwise_byName ((List.filter_sublist.map Prod.fst).nodup h)

/-- A place in a subdirectory has more than one part. -/
theorem exists_of_mem_below {e : String × FileTree} {parts : List String}
    (h : parts ∈ e.2.places.map (e.1 :: ·)) : ∃ name rest, parts = e.1 :: name :: rest := by
  obtain ⟨rest, hrest, rfl⟩ := List.mem_map.mp h
  obtain ⟨name, rest', rfl⟩ := List.exists_cons_of_ne_nil (mem_places.mp hrest).ne_nil
  exact ⟨name, rest', rfl⟩

/-- The places of the replay files stand in their order. -/
theorem pairwise_places {t : FileTree} (h : t.Distinct) : t.places.Pairwise Before := by
  induction t using induct with
  | file access bytes =>
    rw [places, replayFiles]
    exact .nil
  | directory access es ih =>
    cases h with
    | directory names entries =>
      rw [places_directory, placesIn, List.pairwise_append, List.pairwise_flatMap]
      refine ⟨?_, ⟨fun e he => ?_, ?_⟩, ?_⟩
      · exact List.pairwise_map.mpr ((pairwise_ownNames names).imp Before.own)
      · have hentry := (mem_subdirectories.mp he).1
        exact List.pairwise_map.mpr ((ih e hentry (entries e hentry)).imp Before.within)
      · refine (pairwise_subdirectories names).imp fun {e e'} hlt parts hparts parts' hparts' => ?_
        obtain ⟨_, _, rfl⟩ := exists_of_mem_below hparts
        obtain ⟨_, _, rfl⟩ := exists_of_mem_below hparts'
        exact .beside hlt
      · intro parts hparts parts' hparts'
        obtain ⟨name, -, rfl⟩ := List.mem_map.mp hparts
        obtain ⟨e, -, hbelow⟩ := List.mem_flatMap.mp hparts'
        obtain ⟨_, _, rfl⟩ := exists_of_mem_below hbelow
        exact .above

theorem nodup_places {t : FileTree} (h : t.Distinct) : t.places.Nodup := by
  refine (pairwise_places h).imp fun hbefore heq => ?_
  subst heq
  exact hbefore.asymm hbefore

/-- No replay file is found twice. -/
theorem nodup_replayFiles {t : FileTree} (h : t.Distinct) (p : FilePath) :
    (t.replayFiles p).Nodup := by
  rw [replayFiles_eq_map]
  exact (nodup_places h).map p.below_injective

/-- Trees with the same replay files have them in the same order. -/
theorem places_eq_of_holds_iff {t t' : FileTree} (h : t.Distinct) (h' : t'.Distinct)
    (hholds : ∀ parts, t.Holds parts ↔ t'.Holds parts) : t.places = t'.places := by
  have hperm : t.places.Perm t'.places := by
    rw [List.perm_ext_iff_of_nodup (nodup_places h) (nodup_places h')]
    intro parts
    rw [mem_places, mem_places, hholds]
  refine hperm.eq_of_pairwise (fun _ _ _ _ hab hba => ?_) (pairwise_places h) (pairwise_places h')
  exact absurd hba hab.asymm

/-! ### Other listings -/

/-- That a tree is another one with its directories listed in another order. -/
inductive Relisted : FileTree → FileTree → Prop
  | refl (t : FileTree) : Relisted t t
  | trans {t u v : FileTree} (htu : Relisted t u) (huv : Relisted u v) : Relisted t v
  /-- The entries of a directory in another order. -/
  | order {access : Access} {es es' : List (String × FileTree)} (h : es.Perm es') :
    Relisted (.directory access es) (.directory access es')
  /-- An entry of a directory that is listed in another order; any entry can be put in front. -/
  | entry {access : Access} {es : List (String × FileTree)} {name : String} {t t' : FileTree}
    (h : Relisted t t') :
    Relisted (.directory access ((name, t) :: es)) (.directory access ((name, t') :: es))

namespace Relisted

variable {t t' : FileTree}

theorem distinct (h : Relisted t t') (ht : t.Distinct) : t'.Distinct := by
  induction h with
  | refl => exact ht
  | trans _ _ ih ih' => exact ih' (ih ht)
  | order h =>
    cases ht with
    | directory names entries =>
      refine .directory ((h.map Prod.fst).nodup_iff.mp names) fun e he => ?_
      exact entries e (h.mem_iff.mpr he)
  | entry h ih =>
    cases ht with
    | directory names entries =>
      refine .directory names ?_
      obtain ⟨hentry, hrest⟩ := List.forall_mem_cons.mp entries
      exact List.forall_mem_cons.mpr ⟨ih hentry, hrest⟩

theorem symm (h : Relisted t t') : Relisted t' t := by
  induction h with
  | refl t => exact .refl t
  | trans _ _ ih ih' => exact .trans ih' ih
  | order h => exact .order h.symm
  | entry _ ih => exact .entry ih

theorem isDirectory_eq (h : Relisted t t') : t.isDirectory = t'.isDirectory := by
  induction h with
  | refl => rfl
  | trans _ _ ih ih' => exact ih.trans ih'
  | order => rfl
  | entry => rfl

theorem eq_file {access : Access} {bytes : List UInt8} (h : Relisted t t')
    (ht : t = .file access bytes) : t' = .file access bytes := by
  induction h with
  | refl => exact ht
  | trans _ _ ih ih' => exact ih' (ih ht)
  | order => cases ht
  | entry => cases ht

theorem holds (h : Relisted t t') {parts : List String} (ht : t.Holds parts) : t'.Holds parts := by
  induction h generalizing parts with
  | refl => exact ht
  | trans _ _ ih ih' => exact ih' (ih ht)
  | order h =>
    cases ht with
    | here hentry hname => exact .here (h.mem_iff.mp hentry) hname
    | inside hentry ht => exact .inside (h.mem_iff.mp hentry) ht
  | entry h ih =>
    cases ht with
    | here hentry hname =>
      obtain heq | hentry := List.mem_cons.mp hentry
      · cases heq
        rw [h.eq_file rfl]
        exact .here List.mem_cons_self hname
      · exact .here (List.mem_cons_of_mem _ hentry) hname
    | inside hentry ht =>
      obtain heq | hentry := List.mem_cons.mp hentry
      · cases heq
        exact .inside List.mem_cons_self (ih ht)
      · exact .inside (List.mem_cons_of_mem _ hentry) ht

theorem holds_iff (h : Relisted t t') (parts : List String) : t.Holds parts ↔ t'.Holds parts :=
  ⟨h.holds, h.symm.holds⟩

end Relisted

/-! ### What is found under a path -/

/-- Entries with different names are in one order by their names. -/
theorem byName_eq_of_perm {α : Type} {es es' : List (String × α)} (h : es.Perm es')
    (hnodup : (es.map Prod.fst).Nodup) : byName es = byName es' := by
  have hnodup' : (es'.map Prod.fst).Nodup := (h.map Prod.fst).nodup_iff.mp hnodup
  have hperm : (byName es).Perm (byName es') :=
    ((byName_perm es).trans h).trans (byName_perm es').symm
  refine hperm.eq_of_pairwise (fun _ _ _ _ hab hba => ?_) (pairwise_byName hnodup)
    (pairwise_byName hnodup')
  exact absurd hba (String.lt_asymm hab)

/-- The fault that keeps a tree from being walked does not depend on how it is listed. -/
theorem Relisted.unlisted_eq {t t' : FileTree} (h : Relisted t t') (ht : t.Distinct)
    (start : FilePath) (barrier : Option FileFault) (p : FilePath) :
    t.unlisted start barrier p = t'.unlisted start barrier p := by
  induction h generalizing barrier p with
  | refl => rfl
  | trans htu _ ih ih' => exact (ih ht barrier p).trans (ih' (htu.distinct ht) barrier p)
  | @order access es es' h =>
    cases ht with
    | directory names entries =>
      rw [unlisted_directory, unlisted_directory, unlistedBelow_eq, unlistedBelow_eq,
        byName_eq_of_perm (h.map fun e => (e.1, unlisted start access.passing (p.child e.1) e.2))]
      rwa [List.map_map]
  | entry h ih =>
    cases ht with
    | directory names entries =>
      obtain ⟨hentry, -⟩ := List.forall_mem_cons.mp entries
      rw [unlisted_directory, unlisted_directory, unlistedBelow_eq, unlistedBelow_eq,
        List.map_cons, List.map_cons, ih hentry]

theorem replayFilesAt_eq_ok {t : FileTree} {p : FilePath} (h : ∀ f, ¬ t.Unlisted p f) :
    t.replayFilesAt p = .ok (t.places.map p.below) := by
  rw [replayFilesAt, unlisted_eq_none_iff.mpr h, replayFiles_eq_map]

/-- If a directory cannot be listed, the files are not found, and the fault tells why. -/
theorem replayFilesAt_eq_error {t : FileTree} {p : FilePath} (h : ¬ ∀ f, ¬ t.Unlisted p f) :
    ∃ f, t.Unlisted p f ∧ t.replayFilesAt p = .error f := by
  obtain ⟨f, hf⟩ := Option.ne_none_iff_exists'.mp fun hnone => h (unlisted_eq_none_iff.mp hnone)
  exact ⟨f, unlistedFrom_of_unlisted hf, by rw [replayFilesAt, hf]⟩

theorem findReplayFiles_eq {root t : FileTree} {p : FilePath} (hp : root.find p = .ok t)
    (ht : t.isDirectory = true) : root.findReplayFiles p = t.replayFilesAt p := by
  cases t with
  | file access bytes => cases ht
  | directory access es => rw [findReplayFiles, hp]

/-- The places of the files that are found: all replay files, each once, in their order. -/
structure Found (t : FileTree) (places : List (List String)) : Prop where
  all : ∀ parts, parts ∈ places ↔
    t.HasFile parts ∧ ∃ name, parts.getLast? = some name ∧ ReplayName name
  once : places.Nodup
  ordered : places.Pairwise Before

theorem found_places {t : FileTree} (h : t.Distinct) : t.Found t.places where
  all _ := mem_places.trans FileTree.holds_iff
  once := nodup_places h
  ordered := pairwise_places h

/-- **Replay files are found in their order.** Under a path to a directory, if the system lists it
and all directories below, there are found all files below it with names of replay files, each once,
in the order of their places; otherwise the answer is the fault of one of the directories that
cannot be listed.  And the answer is the same if the directories are listed in any other order. -/
theorem findReplayFiles_ordered {root : FileTree} {p : FilePath} {access : Access}
    {es : List (String × FileTree)} (hp : root.find p = .ok (.directory access es))
    (h : (FileTree.directory access es).Distinct) :
    ((∀ f, ¬ (FileTree.directory access es).Unlisted p f) →
      ∃ places, root.findReplayFiles p = .ok (places.map p.below) ∧
        (FileTree.directory access es).Found places) ∧
    ((¬ ∀ f, ¬ (FileTree.directory access es).Unlisted p f) →
      ∃ f, (FileTree.directory access es).Unlisted p f ∧ root.findReplayFiles p = .error f) ∧
    ∀ (root' t' : FileTree), root'.find p = .ok t' → Relisted (.directory access es) t' →
      root'.findReplayFiles p = root.findReplayFiles p := by
  rw [findReplayFiles_eq hp rfl]
  refine ⟨fun hlisted => ?_, replayFilesAt_eq_error, fun root' t' hp' ht' => ?_⟩
  · exact ⟨_, replayFilesAt_eq_ok hlisted, found_places h⟩
  · rw [findReplayFiles_eq hp' ht'.isDirectory_eq.symm, replayFilesAt, replayFilesAt,
      ht'.unlisted_eq h, replayFiles_eq_map, replayFiles_eq_map,
      places_eq_of_holds_iff h (ht'.distinct h) ht'.holds_iff]

/-- The entries of a subdirectory. -/
def innerShelf : List (String × FileTree) :=
  [("z.yaml", .file .free []), ("B.JSON", .file .free [])]

/-- Files beside the subdirectory; one of them is no replay file. -/
def shelfFiles : List (String × FileTree) :=
  [("b.yml", .file .free []), ("a.txt", .file .free []), ("a.yaml", .file .free [])]

/-- A directory with files and a subdirectory. -/
def shelf : List (String × FileTree) := ("a", .directory .free innerShelf) :: shelfFiles

/-- The same directory, listed from its end. -/
def turnedShelf : List (String × FileTree) :=
  (("a", .directory .free innerShelf.reverse) :: shelfFiles).reverse

theorem distinct_shelf : (FileTree.directory .free shelf).Distinct := by
  refine .directory (by decide) ?_
  simp only [shelf, shelfFiles, List.forall_mem_cons]
  refine ⟨.directory (by decide) ?_, .file _ _, .file _ _, .file _ _, nofun⟩
  simp only [innerShelf, List.forall_mem_cons]
  exact ⟨.file _ _, .file _ _, nofun⟩

theorem relisted_turnedShelf :
    Relisted (.directory .free shelf) (.directory .free turnedShelf) := by
  have hinner : Relisted (.directory .free shelf)
      (.directory .free (("a", .directory .free innerShelf.reverse) :: shelfFiles)) :=
    .entry (.order (List.reverse_perm innerShelf).symm)
  exact hinner.trans (.order (List.reverse_perm _).symm)

theorem places_shelf : (FileTree.directory .free shelf).places =
    [["a.yaml"], ["b.yml"], ["a", "B.JSON"], ["a", "z.yaml"]] := by
  have hown : ∀ name ∈ ["a.yaml", "b.yml", "B.JSON", "z.yaml"], isReplayName name = true := by
    decide +kernel
  have htext : isReplayName "a.txt" = false := by decide +kernel
  have hfiles : ¬ "b.yml" ≤ "a.yaml" := by decide
  have hinner : ¬ "z.yaml" ≤ "B.JSON" := by decide
  simp [places_directory, placesIn, ownNames, subdirectories, byName, shelf, shelfFiles, innerShelf,
    isDirectory, hown, htext, hfiles, hinner, List.mergeSort,
    List.MergeSort.Internal.splitInTwo]

/-- Both directories of the shelf can be listed. -/
theorem listed_shelf : ∀ f, ¬ (FileTree.directory .free shelf).Unlisted ⟨false, []⟩ f := by
  refine listed_directory (by decide +kernel) ?_
  simp only [shelf, shelfFiles, List.forall_mem_cons]
  refine ⟨listed_directory (by decide +kernel) ?_, listed_file, listed_file, listed_file, nofun⟩
  simp only [innerShelf, List.forall_mem_cons]
  exact ⟨listed_file, listed_file, nofun⟩

/-- The files of the directory come before those of the subdirectory, though its name is less. -/
theorem findReplayFiles_ordered_shelf :
    (FileTree.directory .free shelf).Distinct ∧
      (∀ f, ¬ (FileTree.directory .free shelf).Unlisted ⟨false, []⟩ f) ∧
      Relisted (.directory .free shelf) (.directory .free turnedShelf) ∧
      (FileTree.directory .free turnedShelf).findReplayFiles ⟨false, []⟩ =
        .ok [⟨false, ["a.yaml"]⟩, ⟨false, ["b.yml"]⟩, ⟨false, ["a", "B.JSON"]⟩,
          ⟨false, ["a", "z.yaml"]⟩] := by
  have hfind (es : List (String × FileTree)) :
      (FileTree.directory .free es).find ⟨false, []⟩ = .ok (.directory .free es) := rfl
  obtain ⟨-, -, hturned⟩ := findReplayFiles_ordered (hfind shelf) distinct_shelf
  refine ⟨distinct_shelf, listed_shelf, relisted_turnedShelf, ?_⟩
  rw [hturned _ _ (hfind turnedShelf) relisted_turnedShelf, findReplayFiles_eq (hfind shelf) rfl,
    replayFilesAt_eq_ok listed_shelf, places_shelf]
  rfl

end FileTree

end TrafficReplay
