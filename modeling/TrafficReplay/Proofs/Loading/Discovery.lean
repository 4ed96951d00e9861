import TrafficReplay.Loading.FileTree

/-!
# Finding replay files

The replay files under a directory are all the files below it with the name of a replay file, in
every subdirectory. They are found if the system lists all these directories.

* `FileTree.Holds`: that a tree has a replay file at a place;
* `FileTree.Distinct`: trees whose directories have one entry for each name;
* `FileTree.mem_replayFiles`: which files are found;
* `FileTree.HasDirectory`, `FileTree.Unlisted`: the directories of a tree, and what keeps one of
  them from being listed;
* `FileTree.unlisted_eq_none_iff`: when all of them can be listed.
-/

namespace TrafficReplay

/-- The path of a place below a path. -/
def FilePath.below (p : FilePath) (parts : List String) : FilePath :=
  { p with parts := p.parts ++ parts }

theorem FilePath.below_child (p : FilePath) (name : String) (parts : List String) :
    (p.child name).below parts = p.below (name :: parts) := by
  simp [below, child]

theorem FilePath.below_nil (p : FilePath) : p.below [] = p := by simp [below]

theorem FilePath.below_injective (p : FilePath) : Function.Injective p.below := by
  intro parts parts' h
  exact List.append_cancel_left (FilePath.mk.inj h).2

namespace FileTree

/-- That a tree has a replay file at a place. -/
inductive Holds : FileTree → List String → Prop
  | here {access access' : Access} {es : List (String × FileTree)} {name : String}
    {bytes : List UInt8} (h : (name, .file access' bytes) ∈ es)
    (hname : isReplayName name = true) : Holds (.directory access es) [name]
  | inside {access : Access} {es : List (String × FileTree)} {name : String} {t : FileTree}
    {parts : List String} (h : (name, t) ∈ es) (ht : Holds t parts) :
    Holds (.directory access es) (name :: parts)

/-- Trees whose directories have one entry for each name. -/
inductive Distinct : FileTree → Prop
  | file (access : Access) (bytes : List UInt8) : Distinct (.file access bytes)
  | directory {access : Access} {es : List (String × FileTree)} (names : (es.map Prod.fst).Nodup)
    (entries : ∀ e ∈ es, Distinct e.2) : Distinct (.directory access es)

/-- What holds of files, and of a directory if it holds of its entries, holds of all trees. -/
theorem induct {P : FileTree → Prop} (file : ∀ access bytes, P (.file access bytes))
    (directory : ∀ (access : Access) (es : List (String × FileTree)), (∀ e ∈ es, P e.2) →
      P (.directory access es)) : ∀ t, P t
  | .file access bytes => file access bytes
  | .directory access es => directory access es fun e _ => induct file directory e.2
termination_by t => sizeOf t
decreasing_by
  rename_i he
  obtain ⟨name, t⟩ := e
  have hentry := List.sizeOf_lt_of_mem he
  simp only [Prod.mk.sizeOf_spec, FileTree.directory.sizeOf_spec] at hentry ⊢
  omega

theorem byName_perm {α : Type} (es : List (String × α)) : (byName es).Perm es :=
  List.mergeSort_perm es _

theorem filesBelow_eq (p : FilePath) (es : List (String × FileTree)) :
    filesBelow p es =
      (es.filter fun e => e.2.isDirectory).map fun e => (e.1, replayFiles (p.child e.1) e.2) := by
  induction es with
  | nil => rfl
  | cons e es ih =>
    obtain ⟨name, t⟩ := e
    rw [filesBelow, filesBelowEntry, ih]
    cases ht : t.isDirectory <;> simp [ht]

/-- The names of the replay files in a directory. -/
def ownNames (es : List (String × FileTree)) : List String :=
  (byName ((es.map fun e => (e.1, e.2.isDirectory)).filter
    fun e => !e.2 && isReplayName e.1)).map Prod.fst

theorem replayFiles_directory (p : FilePath) (access : Access) (es : List (String × FileTree)) :
    replayFiles p (.directory access es) =
      (ownNames es).map p.child ++ (byName (filesBelow p es)).flatMap Prod.snd := by
  rw [replayFiles, ownNames, List.map_map]
  rfl

theorem mem_ownNames {es : List (String × FileTree)} {name : String} :
    name ∈ ownNames es ↔
      isReplayName name = true ∧ ∃ access bytes, (name, .file access bytes) ∈ es := by
  simp only [ownNames, List.mem_map, (byName_perm _).mem_iff, List.mem_filter]
  constructor
  · rintro ⟨_, ⟨⟨⟨name, t⟩, he, rfl⟩, hp⟩, rfl⟩
    cases t with
    | file access bytes => exact ⟨by simpa [isDirectory] using hp, access, bytes, he⟩
    | directory access es' => simp [isDirectory] at hp
  · rintro ⟨hname, access, bytes, he⟩
    exact ⟨(name, false), ⟨⟨_, he, rfl⟩, by simpa using hname⟩, rfl⟩

theorem mem_filesBelow {p q : FilePath} {es : List (String × FileTree)} :
    q ∈ (byName (filesBelow p es)).flatMap Prod.snd ↔
      ∃ e ∈ es, q ∈ replayFiles (p.child e.1) e.2 := by
  simp only [List.mem_flatMap, (byName_perm _).mem_iff, filesBelow_eq, List.mem_map,
    List.mem_filter]
  constructor
  · rintro ⟨_, ⟨e, ⟨he, -⟩, rfl⟩, hq⟩
    exact ⟨e, he, hq⟩
  · rintro ⟨e, he, hq⟩
    refine ⟨_, ⟨e, ⟨he, ?_⟩, rfl⟩, hq⟩
    cases ht : e.2 with
    | file access bytes =>
      rw [ht, replayFiles] at hq
      cases hq
    | directory access es' => rfl

/-- The replay files under a directory are those that the tree has. -/
theorem mem_replayFiles {t : FileTree} {p q : FilePath} :
    q ∈ t.replayFiles p ↔ ∃ parts, t.Holds parts ∧ q = p.below parts := by
  induction t using induct generalizing p with
  | file access bytes =>
    rw [replayFiles]
    exact ⟨nofun, fun ⟨_, h, _⟩ => nomatch h⟩
  | directory access es ih =>
    rw [replayFiles_directory, List.mem_append, List.mem_map, mem_filesBelow]
    constructor
    · rintro (⟨name, hname, rfl⟩ | ⟨e, he, hq⟩)
      · obtain ⟨hreplay, _, bytes, hentry⟩ := mem_ownNames.mp hname
        exact ⟨[name], .here hentry hreplay, rfl⟩
      · obtain ⟨parts, hparts, rfl⟩ := (ih e he).mp hq
        exact ⟨e.1 :: parts, .inside he hparts, p.below_child e.1 parts⟩
    · rintro ⟨parts, hparts, rfl⟩
      cases hparts with
      | @here _ _ _ name bytes hentry hreplay =>
        exact .inl ⟨name, mem_ownNames.mpr ⟨hreplay, _, bytes, hentry⟩, rfl⟩
      | @inside _ _ name t parts hentry ht =>
        exact .inr ⟨(name, t), hentry,
          (ih _ hentry).mpr ⟨parts, ht, (p.below_child name parts).symm⟩⟩

theorem Holds.ne_nil {t : FileTree} {parts : List String} (h : t.Holds parts) : parts ≠ [] := by
  cases h <;> simp

/-! ### Directories that cannot be listed -/

/-- That a tree has a directory at a place, given what keeps paths from leading to the tree; and
what keeps paths from leading to this directory, or the directory from being listed. -/
inductive HasDirectory : FileTree → Option FileFault → List String → Option FileFault → Prop
  | here {access : Access} {es : List (String × FileTree)} {barrier : Option FileFault} :
    HasDirectory (.directory access es) barrier [] (barrier <|> access.reading)
  | inside {access : Access} {es : List (String × FileTree)} {barrier : Option FileFault}
    {name : String} {t : FileTree} {parts : List String} {fault : Option FileFault}
    (h : (name, t) ∈ es) (ht : HasDirectory t access.passing parts fault) :
    HasDirectory (.directory access es) barrier (name :: parts) fault

/-- That a directory of a tree cannot be listed, on the way down from a path. -/
def UnlistedFrom (start : FilePath) (t : FileTree) (barrier : Option FileFault) (p : FilePath)
    (f : PathFault) : Prop :=
  ∃ parts fault, t.HasDirectory barrier parts fault ∧ f.path = start.textFrom (p.below parts) ∧
    (FilePath.lengthFault f.path <|> fault) = some f.fault

/-- That a directory cannot be listed, of those at a path and below: its text is too long, paths do
not lead to it, or it is kept from being listed itself. -/
def Unlisted (t : FileTree) (p : FilePath) (f : PathFault) : Prop := UnlistedFrom p t none p f

theorem unlistedBelow_eq (start : FilePath) (barrier : Option FileFault) (p : FilePath)
    (es : List (String × FileTree)) :
    unlistedBelow start barrier p es =
      es.map fun e => (e.1, unlisted start barrier (p.child e.1) e.2) := by
  induction es with
  | nil => rfl
  | cons e es ih => rw [unlistedBelow, unlistedEntry, ih, List.map_cons]

theorem unlisted_directory (start : FilePath) (barrier : Option FileFault) (p : FilePath)
    (access : Access) (es : List (String × FileTree)) :
    unlisted start barrier p (.directory access es) =
      match (FilePath.lengthFault (start.textFrom p) <|> barrier <|> access.reading) with
      | some f => some ⟨f, start.textFrom p⟩
      | none => (byName (unlistedBelow start access.passing p es)).findSome? Prod.snd :=
  rfl

/-- A directory cannot be listed, of a directory and those below it, if it is this one, or one of an
entry. -/
theorem unlistedFrom_directory {start p : FilePath} {access : Access}
    {es : List (String × FileTree)} {barrier : Option FileFault} {f : PathFault} :
    UnlistedFrom start (.directory access es) barrier p f ↔
      (f.path = start.textFrom p ∧
        (FilePath.lengthFault f.path <|> barrier <|> access.reading) = some f.fault) ∨
      ∃ e ∈ es, UnlistedFrom start e.2 access.passing (p.child e.1) f := by
  constructor
  · rintro ⟨parts, fault, h, hpath, hfault⟩
    cases h with
    | here =>
      rw [p.below_nil] at hpath
      exact .inl ⟨hpath, hfault⟩
    | @inside _ _ _ name t parts _ h ht =>
      rw [← p.below_child] at hpath
      exact .inr ⟨(name, t), h, parts, fault, ht, hpath, hfault⟩
  · rintro (⟨hpath, hfault⟩ | ⟨e, he, parts, fault, h, hpath, hfault⟩)
    · exact ⟨[], _, .here, by rwa [p.below_nil], hfault⟩
    · exact ⟨e.1 :: parts, fault, .inside he h, by rwa [← p.below_child], hfault⟩

theorem listed_file {start p : FilePath} {access : Access} {bytes : List UInt8}
    {barrier : Option FileFault} (f : PathFault) :
    ¬ UnlistedFrom start (.file access bytes) barrier p f := by
  rintro ⟨parts, fault, h, -⟩
  cases h

theorem listed_directory {start p : FilePath} {access : Access} {es : List (String × FileTree)}
    {barrier : Option FileFault}
    (h : (FilePath.lengthFault (start.textFrom p) <|> barrier <|> access.reading) = none)
    (hes : ∀ e ∈ es, ∀ f, ¬ UnlistedFrom start e.2 access.passing (p.child e.1) f)
    (f : PathFault) : ¬ UnlistedFrom start (.directory access es) barrier p f := by
  rw [unlistedFrom_directory]
  rintro (⟨hpath, hfault⟩ | ⟨e, he, hf⟩)
  · rw [hpath, h] at hfault
    cases hfault
  · exact hes e he f hf

/-- What keeps the walk from going on is a directory that cannot be listed. -/
theorem unlistedFrom_of_unlisted {start p : FilePath} {t : FileTree} {barrier : Option FileFault}
    {f : PathFault} (h : t.unlisted start barrier p = some f) :
    UnlistedFrom start t barrier p f := by
  induction t using induct generalizing p barrier with
  | file access bytes =>
    rw [unlisted] at h
    cases h
  | directory access es ih =>
    rw [unlisted_directory] at h
    rw [unlistedFrom_directory]
    split at h
    · next fault hfault =>
      cases h
      exact .inl ⟨rfl, hfault⟩
    · obtain ⟨⟨name, _⟩, hmem, hsome⟩ := List.exists_of_findSome?_eq_some h
      rw [(byName_perm _).mem_iff, unlistedBelow_eq] at hmem
      obtain ⟨e, he, heq⟩ := List.mem_map.mp hmem
      cases heq
      exact .inr ⟨e, he, ih e he hsome⟩

/-- The walk comes to its end if every directory can be listed. -/
theorem unlisted_eq_none_iff {start p : FilePath} {t : FileTree} {barrier : Option FileFault} :
    t.unlisted start barrier p = none ↔ ∀ f, ¬ UnlistedFrom start t barrier p f := by
  refine ⟨fun h => ?_, fun h => ?_⟩
  · induction t using induct generalizing p barrier with
    | file access bytes => exact listed_file
    | directory access es ih =>
      rw [unlisted_directory] at h
      split at h
      · cases h
      · next hnone =>
        rw [List.findSome?_eq_none_iff] at h
        refine listed_directory hnone fun e he => ih e he (h (e.1, _) ?_)
        rw [(byName_perm _).mem_iff, unlistedBelow_eq]
        exact List.mem_map.mpr ⟨e, he, rfl⟩
  · rw [Option.eq_none_iff_forall_ne_some]
    exact fun f hf => h f (unlistedFrom_of_unlisted hf)

end FileTree

end TrafficReplay
