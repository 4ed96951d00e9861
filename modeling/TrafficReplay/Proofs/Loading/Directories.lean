import TrafficReplay.Proofs.Loading.AtOnce
import TrafficReplay.Proofs.Loading.Listing

/-!
# Directories of replay files

The files of a directory are loaded at the same time, and no file keeps the others from being
loaded: whatever the number of threads and the order of their turns, all files are loaded, and the
answer counts those that fail. What does keep them from being loaded is a directory that cannot be
listed.

* `directoryLoaded`: the answer to the results of the files of a directory;
* `directoryRefused`: the answer if a directory cannot be listed;
* `LoadPool.Survived`: what the loads of all files of a directory come to;
* `LoadPool.survived_directory`: that they come to this, in every order.
-/

namespace TrafficReplay

/-! ### Results and answers -/

/-- Whether the load of a file failed: it stopped at a fault, or reported an error. -/
def failed : Except Fault Report → Bool
  | .ok report => !report.ok
  | .error _ => true

/-- What is logged of the load of a file. -/
def fileLog (p : FilePath) : Except Fault Report → List LogRecord
  | .ok report => report.logged loadChannel
  | .error f =>
    ⟨loadChannel, .error, "Unexpected failure loading " ++ p.text⟩ ::
      Report.logged loadChannel [⟨.error, "Failed to load \"" ++ p.text ++ "\": " ++ f.message⟩]

/-- What is answered when the files of a directory have been loaded, given their results in the
order in which the loads ended. -/
def directoryLoaded (p : FilePath) (results : List (FilePath × Except Fault Report)) : Loaded :=
  if results.isEmpty then
    ⟨[⟨.error, "No replay files found in \"" ++ p.text ++ "\"."⟩], []⟩
  else
    ⟨[⟨.info, "Loaded " ++ toString results.length ++ " replay files from \"" ++ p.text ++ "\" (" ++
      toString (results.countP fun e => failed e.2) ++ " with errors)."⟩],
      results.flatMap fun e => fileLog e.1 e.2⟩

/-- A directory without replay files is an error, and nothing else is. -/
theorem ok_directoryLoaded (p : FilePath) (results : List (FilePath × Except Fault Report)) :
    (directoryLoaded p results).report.ok = true ↔ 0 < results.length := by
  unfold directoryLoaded
  cases results with
  | nil => exact iff_of_false Bool.false_ne_true (Nat.lt_irrefl 0)
  | cons e results => exact iff_of_true rfl (Nat.succ_pos _)

/-- The number of threads that load files, where a number of them is asked for. -/
def poolSize (threads : Int) (files : Nat) : Nat := (max 1 (min threads files)).toNat

theorem poolSize_pos (threads : Int) (files : Nat) : 0 < poolSize threads files := by
  unfold poolSize
  omega

/-- The results of files that are loaded one after another, and the run after them. -/
def resultsInTurn (loader : FileLoader) :
    List FilePath → RunState → List (FilePath × Except Fault Report) × RunState
  | [], run => ([], run)
  | p :: ps, run =>
    let (results, run') := resultsInTurn loader ps ((loader p).runOn run).2
    ((p, ((loader p).runOn run).1) :: results, run')

theorem loadEach_eq (loader : FileLoader) (ps : List FilePath) (run : RunState) :
    loadEach loader ps run =
      (((resultsInTurn loader ps run).1.flatMap fun e => fileLog e.1 e.2,
        (resultsInTurn loader ps run).1.countP fun e => failed e.2),
        (resultsInTurn loader ps run).2) := by
  induction ps generalizing run with
  | nil => rfl
  | cons p ps ih =>
    rw [loadEach, loadOne, resultsInTurn]
    rcases (loader p).runOn run with ⟨f | report, run'⟩
    · dsimp only
      rw [ih, List.flatMap_cons, List.countP_cons]
      rfl
    · dsimp only
      rw [ih, List.flatMap_cons, List.countP_cons]
      cases hok : report.ok <;> simp [failed, hok, fileLog]

theorem map_fst_resultsInTurn (loader : FileLoader) (ps : List FilePath) (run : RunState) :
    (resultsInTurn loader ps run).1.map Prod.fst = ps := by
  induction ps generalizing run with
  | nil => rfl
  | cons p ps ih => exact congrArg (p :: ·) (ih _)

/-- The answer when a directory cannot be listed. -/
def directoryRefused (p : FilePath) (f : PathFault) : Loaded :=
  ⟨[⟨.error, "Unable to read directory \"" ++ p.text ++ "\": " ++ f.message⟩], []⟩

section

variable {loader : FileLoader} {files t : FileTree} {p : FilePath} {run : RunState}

/-- What is loaded under a path to a directory hangs on what is found there. -/
theorem loadPath_of_directory (hfind : files.find p = .ok t) (hdirectory : t.isDirectory = true) :
    loadPath loader files p run =
      match t.replayFilesAt p with
      | .error f => .ok (directoryRefused p f, run)
      | .ok ps => .ok (directoryLoaded p (resultsInTurn loader ps run).1,
          (resultsInTurn loader ps run).2) := by
  have hlength (ps : List FilePath) : (resultsInTurn loader ps run).1.length = ps.length := by
    have hmap := congrArg List.length (map_fst_resultsInTurn loader ps run)
    rwa [List.length_map] at hmap
  cases t with
  | file access bytes => cases hdirectory
  | directory access es =>
    unfold loadPath filesAt
    rw [hfind]
    dsimp only
    rcases (FileTree.directory access es).replayFilesAt p with f | _ | ⟨q, qs⟩
    · rfl
    · rfl
    · have hsome : (resultsInTurn loader (q :: qs) run).1.isEmpty = false := rfl
      simp only [Except.map, loadFound, loadEach_eq, directoryLoaded, hsome, hlength,
        Bool.false_eq_true, if_false]

/-- A directory is answered with the results of its replay files, -/
theorem loadPath_of_listed (hfind : files.find p = .ok t) (hdirectory : t.isDirectory = true)
    (hlisted : t.unlisted p none p = none) :
    loadPath loader files p run =
      .ok (directoryLoaded p (resultsInTurn loader (t.replayFiles p) run).1,
        (resultsInTurn loader (t.replayFiles p) run).2) := by
  rw [loadPath_of_directory hfind hdirectory, FileTree.replayFilesAt, hlisted]

/-- but if one cannot be listed, with that, and nothing is loaded. -/
theorem loadPath_of_unlisted (hfind : files.find p = .ok t) (hdirectory : t.isDirectory = true)
    {f : PathFault} (hf : t.unlisted p none p = some f) :
    loadPath loader files p run = .ok (directoryRefused p f, run) := by
  rw [loadPath_of_directory hfind hdirectory, FileTree.replayFilesAt, hf]

end

/-! ### All files of a directory -/

/-- What the loads of all replay files of a directory come to. -/
structure LoadPool.Survived (files : FileTree) (settings : Settings) (p : FilePath)
    (t : FileTree) (run : RunState) (b : LoadPool) : Prop where
  /-- The loader was called once for each replay file. -/
  called : b.called.Nodup ∧
    ∀ q, q ∈ b.called ↔ ∃ parts, t.Holds parts ∧ q = p.below parts
  /-- Each load has ended as it does alone. -/
  ended : (b.ended.map Prod.fst).Perm b.called
  alone : ∀ e ∈ b.ended, e.2 = (RunState.empty.load files (settings, e.1)).1
  /-- The answer counts all files, and those that failed. -/
  report : b.called ≠ [] → (directoryLoaded p b.ended).report =
    [⟨.info, "Loaded " ++ toString b.called.length ++ " replay files from \"" ++ p.text ++ "\" (" ++
      toString (b.called.countP fun q => failed (RunState.empty.load files (settings, q)).1) ++
        " with errors)."⟩]
  ok : (directoryLoaded p b.ended).report.ok = true ↔ ∃ parts, t.Holds parts
  /-- The run has gained every session that was closed with transactions in it, -/
  sessions : b.run.sessions = run.sessions ++ b.closed.map Prod.snd
  /-- and these are the sessions that the files give alone. -/
  closed : (∀ e ∈ b.closed, e.1 ∈ b.called) ∧ ∀ q ∈ b.called,
    List.Forall₂ Session.Akin (closedBy q b.closed) (RunState.own files (settings, q)).sessions

namespace LoadPool

variable {files tree : FileTree} {settings : Settings} {p : FilePath} {run : RunState}
  {b : LoadPool}

theorem Sound.survived
    (hb : b.Sound files settings run (tree.replayFiles p))
    (hdistinct : tree.Distinct) (hfinished : b.finished = true) :
    b.Survived files settings p tree run := by
  obtain ⟨hwaiting, hworking⟩ : b.waiting = [] ∧ b.working = [] := by
    simpa [finished] using hfinished
  have hcalled : b.called = tree.replayFiles p := by
    have hinOrder := hb.inOrder
    rwa [hwaiting, List.append_nil] at hinOrder
  have hended : (b.ended.map Prod.fst).Perm b.called := by
    have honce := hb.once
    rw [hworking] at honce
    exact honce.symm
  have hmem (q : FilePath) :
      q ∈ b.called ↔ ∃ parts, tree.Holds parts ∧ q = p.below parts := by
    rw [hcalled]
    exact FileTree.mem_replayFiles
  have hlength : b.ended.length = b.called.length := by
    rw [← hended.length_eq, List.length_map]
  exact
    { called := ⟨hcalled ▸ FileTree.nodup_replayFiles hdistinct p, hmem⟩
      ended := hended
      alone := fun e he => (hb.alone e he).1
      report := by
        intro hsome
        have hcount : (b.ended.countP fun e => failed e.2) =
            b.called.countP fun q => failed (RunState.empty.load files (settings, q)).1 := by
          rw [← hended.countP_eq, List.countP_map]
          refine List.countP_congr fun e he => ?_
          rw [(hb.alone e he).1]
          rfl
        have hsome' : b.ended.isEmpty = false := by
          rw [List.isEmpty_eq_false_iff, ← List.length_pos_iff, hlength]
          exact List.length_pos_iff.mpr hsome
        rw [directoryLoaded, hsome', if_neg Bool.false_ne_true, hlength, hcount]
      ok := by
        rw [ok_directoryLoaded, hlength, List.length_pos_iff_exists_mem]
        constructor
        · rintro ⟨q, hq⟩
          obtain ⟨parts, hparts, -⟩ := (hmem q).mp hq
          exact ⟨parts, hparts⟩
        · rintro ⟨parts, hparts⟩
          exact ⟨p.below parts, (hmem _).mpr ⟨parts, hparts, rfl⟩⟩
      sessions := hb.gains.sessions
      closed := by
        refine ⟨hb.known, fun q hq => ?_⟩
        obtain ⟨e, he, rfl⟩ := List.mem_map.mp (hended.mem_iff.mpr hq)
        exact (hb.alone e he).2 }

/-! ### One file after another -/

variable {h : Handler} {threads : Nat} {ts ts' : List Turn} {b' b'' : LoadPool}

theorem turns_append (hts : b.turns h files threads ts = some b')
    (hts' : b'.turns h files threads ts' = some b'') :
    b.turns h files threads (ts ++ ts') = some b'' := by
  rw [turns, List.foldlM_append]
  exact Option.bind_eq_some_iff.mpr ⟨b', hts, hts'⟩

/-- A load that is the only one under way can go on until it has ended. -/
theorem exists_turns_finish (h : Handler) (files : FileTree) (threads : Nat) (b : LoadPool)
    {w : Task} (hworking : b.working = [w]) :
    ∃ ts b', b.turns h files threads ts = some b' ∧ b'.waiting = b.waiting ∧ b'.working = [] ∧
      b'.run = (w.finish h b.run).2 ∧ b'.ended = b.ended ++ [(w.file, (w.finish h b.run).1)] := by
  induction hparts : w.stage.parts using Nat.strongRecOn generalizing b w with
  | ind n ih =>
    rcases Nat.eq_zero_or_pos n with rfl | hpos
    · obtain ⟨r, hr⟩ := Stage.eq_ended_of_parts_eq_zero hparts
      refine ⟨[.go 0], _, Option.bind_eq_some_iff.mpr ⟨_, turn_go_of_ended hworking hr, rfl⟩,
        rfl, rfl, ?_, ?_⟩
      · rw [Task.finish_of_ended h hr]
      · rw [Task.finish_of_ended h hr]
    · subst hparts
      let b₁ : LoadPool := { b with
        run := (w.go h b.run).2
        working := [(w.go h b.run).1]
        closed := b.closed ++ w.closing.map (w.file, ·) }
      obtain ⟨ts, b', hts, hwaiting', hworking', hrun, hended⟩ :=
        ih _ (Task.parts_go h hpos b.run) b₁ rfl rfl
      refine ⟨.go 0 :: ts, b', Option.bind_eq_some_iff.mpr ⟨b₁, turn_go hworking hpos, hts⟩,
        hwaiting', hworking', ?_, ?_⟩
      · rw [hrun, Task.finish_go]
      · rw [hended, Task.finish_go, Task.file_go]

/-- The files can be loaded one after another. -/
theorem exists_turns_inTurn (h : Handler) (files : FileTree) (hthreads : 0 < threads) (b : LoadPool)
    (hworking : b.working = []) :
    ∃ ts b', b.turns h files threads ts = some b' ∧ b'.finished = true ∧
      b'.run = (resultsInTurn (h.loader files) b.waiting b.run).2 ∧
      b'.ended = b.ended ++ (resultsInTurn (h.loader files) b.waiting b.run).1 := by
  induction hwaiting : b.waiting generalizing b with
  | nil =>
    refine ⟨[], b, rfl, ?_, rfl, (List.append_nil _).symm⟩
    rw [finished, hwaiting, hworking]
    rfl
  | cons q qs ih =>
    let b₁ : LoadPool := { b with
      waiting := qs
      working := b.working ++ [.start files q]
      called := b.called ++ [q] }
    have hcall : b.turn h files threads .call = some b₁ :=
      turn_call hwaiting (by rwa [hworking])
    have hworking₁ : b₁.working = [.start files q] := congrArg (· ++ [Task.start files q]) hworking
    obtain ⟨ts, b₂, hts, hwaiting₂, hworking₂, hrun₂, hended₂⟩ :=
      exists_turns_finish h files threads b₁ hworking₁
    obtain ⟨ts', b', hts', hfinished, hrun, hended⟩ := ih b₂ hworking₂ hwaiting₂
    rw [Task.finish_start] at hrun₂ hended₂
    have hturns : b.turns h files threads (.call :: (ts ++ ts')) = some b' :=
      Option.bind_eq_some_iff.mpr ⟨b₁, hcall, turns_append hts hts'⟩
    refine ⟨_, b', hturns, hfinished, ?_, ?_⟩
    · rw [hrun, hrun₂]
      rfl
    · rw [hended, hended₂, hrun₂, List.append_assoc]
      rfl

/-! ### Every order -/

/-- That some turns are possible from the start, when the replay files of a directory are loaded
into a run by a number of threads. -/
def Reached (files : FileTree) (settings : Settings) (threads : Int) (p : FilePath)
    (tree : FileTree) (run : RunState) (ts : List Turn) (b : LoadPool) : Prop :=
  (start run (tree.replayFiles p)).turns (.recording settings) files
    (poolSize threads (tree.replayFiles p).length) ts = some b

/-- **No file keeps the others from being loaded.** Take a path to a directory. If the system lists
it and all directories below, then whatever the number of threads and the order of their turns, the
load of the directory comes to an end, after turns whose number is bounded in advance, and not
before all replay files have been loaded: each is loaded once and as it would be alone, the answer
is good if there is any, it counts those that failed, and all sessions that were closed are in the
run.  Loading one file after another is one of these orders.  Otherwise the answer is the error that
tells of a directory that cannot be listed; no loader is called, and the run stays as it was. -/
theorem survived_directory (settings : Settings) (files : FileTree) (threads : Int) (p : FilePath)
    (tree : FileTree) (hfind : files.find p = .ok tree) (hdirectory : tree.isDirectory = true)
    (hdistinct : tree.Distinct) (run : RunState) (hrun : run.Loading) :
    ((∀ f, ¬ tree.Unlisted p f) →
      (∀ ts b, Reached files settings threads p tree run ts b →
        ts.length ≤ (start run (tree.replayFiles p)).left files ∧
        (b.finished = false →
          ∃ t b', Reached files settings threads p tree run (ts ++ [t]) b') ∧
        (b.finished = true → b.Survived files settings p tree run)) ∧
      ∃ ts b, Reached files settings threads p tree run ts b ∧ b.finished = true ∧
        loadPath ((Handler.recording settings).loader files) files p run =
          .ok (directoryLoaded p b.ended, b.run)) ∧
    ((¬ ∀ f, ¬ tree.Unlisted p f) →
      ∃ f, tree.Unlisted p f ∧
        ∀ loader : FileLoader, loadPath loader files p run = .ok (directoryRefused p f, run)) := by
  have hthreads := poolSize_pos threads (tree.replayFiles p).length
  refine ⟨fun hlisted => ⟨fun ts b hts => ⟨?_, fun hfinished => ?_, fun hfinished => ?_⟩, ?_⟩,
    fun hunlisted => ?_⟩
  · exact Nat.le_of_add_right_le (length_turns hts)
  · obtain ⟨t, b', ht⟩ : ∃ t b', b.turn (.recording settings) files _ t = some b' :=
      exists_turn hthreads hfinished
    exact ⟨t, b', turns_append hts (Option.bind_eq_some_iff.mpr ⟨b', ht, rfl⟩)⟩
  · have hnodup := FileTree.nodup_replayFiles hdistinct p
    exact ((sound_start hrun _).turns hnodup hts).survived hdistinct hfinished
  · obtain ⟨ts, b, hts, hfinished, hrun', hended⟩ :=
      exists_turns_inTurn (.recording settings) files hthreads
        (start run (tree.replayFiles p)) rfl
    refine ⟨ts, b, hts, hfinished, ?_⟩
    rw [loadPath_of_listed hfind hdirectory (FileTree.unlisted_eq_none_iff.mpr hlisted), hrun',
      hended]
    rfl
  · obtain ⟨f, hf⟩ := Option.ne_none_iff_exists'.mp fun hnone =>
      hunlisted (FileTree.unlisted_eq_none_iff.mp hnone)
    exact ⟨f, FileTree.unlistedFrom_of_unlisted hf, fun loader =>
      loadPath_of_unlisted hfind hdirectory hf⟩

/-- A file with one session. -/
def goodFile : List UInt8 :=
  Text.Utf8.bytes <|
    "sessions:\n- transactions:\n  - client-request:\n      method: GET\n      url: /a\n" ++
      "    proxy-response:\n      status: 200\n"

/-- A file with an escape that is no character, and a good file in a subdirectory. -/
def badAndGood : FileTree :=
  .directory .free
    [("bad.yaml", .file .free (Text.Utf8.bytes "\"\\UFFFFFFFF\"")),
     ("sub", .directory .free [("good.yml", .file .free goodFile)])]

/-- These files in a directory. -/
def besideEachOther : FileTree := .directory .free [("d", badAndGood)]

theorem distinct_badAndGood : badAndGood.Distinct := by
  refine .directory (by decide) fun e he => ?_
  rcases List.mem_cons.mp he with rfl | he
  · exact .file _ _
  · obtain rfl := List.mem_singleton.mp he
    refine .directory (by decide) fun e he => ?_
    obtain rfl := List.mem_singleton.mp he
    exact .file _ _

theorem replayFiles_badAndGood : badAndGood.replayFiles (.ofText "d") =
    [⟨false, ["d", "bad.yaml"]⟩, ⟨false, ["d", "sub", "good.yml"]⟩] := by
  have hbad : FileTree.isReplayName "bad.yaml" = true := by decide +kernel
  have hgood : FileTree.isReplayName "good.yml" = true := by decide +kernel
  have hd : (FilePath.ofText "d").parts = ["d"] := by decide +kernel
  have hd' : (FilePath.ofText "d").absolute = false := by decide +kernel
  simp [FileTree.replayFiles_directory, FileTree.ownNames, FileTree.filesBelow_eq, badAndGood,
    FileTree.byName, FileTree.isDirectory, hbad, hgood, FilePath.child, hd, hd']

theorem listed_badAndGood : ∀ f, ¬ badAndGood.Unlisted (.ofText "d") f := by
  refine FileTree.listed_directory (by decide +kernel) ?_
  simp only [List.forall_mem_cons]
  refine ⟨FileTree.listed_file, FileTree.listed_directory (by decide +kernel) ?_, nofun⟩
  simp only [List.forall_mem_cons]
  exact ⟨FileTree.listed_file, nofun⟩

/-- Two threads, of which the one with the good file goes on first. -/
def goodFirst : List Turn := [.call, .call, .go 1, .go 1, .go 1, .go 1, .go 1, .go 1, .go 0]

/-- Both files are loaded, whichever ends first: the answer counts the bad one as failed. -/
theorem survived_directory_badAndGood :
    ∃ b, Reached besideEachOther .default 8 (.ofText "d") badAndGood .empty goodFirst b ∧
      b.Survived besideEachOther .default (.ofText "d") badAndGood .empty ∧
      (directoryLoaded (.ofText "d") b.ended).report =
        [⟨.info, "Loaded 2 replay files from \"d\" (1 with errors)."⟩] ∧
      b.run.sessions.length = 1 := by
  have hsurvived := ((survived_directory .default besideEachOther 8 (.ofText "d") badAndGood rfl rfl
    distinct_badAndGood .empty RunState.loading_empty).1 listed_badAndGood).1 goodFirst
  have hturns : ((start .empty
      [⟨false, ["d", "bad.yaml"]⟩, ⟨false, ["d", "sub", "good.yml"]⟩]).turns
      (.recording .default) besideEachOther 2 goodFirst).map
        (fun b => (b.finished, (directoryLoaded (.ofText "d") b.ended).report,
          b.run.sessions.length)) =
      some (true, [⟨.info, "Loaded 2 replay files from \"d\" (1 with errors)."⟩], 1) := by
    decide +kernel
  obtain ⟨b, hb, heq⟩ := Option.map_eq_some_iff.mp hturns
  simp only [Prod.mk.injEq] at heq
  have hreached : Reached besideEachOther .default 8 (.ofText "d") badAndGood .empty goodFirst
      b := by
    rw [Reached, replayFiles_badAndGood]
    exact hb
  exact ⟨b, hreached, (hsurvived b hreached).2.2 heq.1, heq.2⟩

/-- The name of a subdirectory. -/
def innerName : String := String.ofList (List.replicate 100 's')

/-- A name that is nearly too long. -/
def outerName : String := String.ofList (List.replicate 250 'd')

/-- A good file beside an empty subdirectory. -/
def besideInner : List (String × FileTree) :=
  [("a.yaml", .file .free goodFile), (innerName, .directory .free [])]

/-- These in a directory. -/
def outer : FileTree := .directory .free [(outerName, .directory .free besideInner)]

/-- The path of that directory, which goes up and down again until there are 35 bytes left. -/
def windingPath : FilePath where
  absolute := false
  parts := outerName :: (List.replicate 15 ["..", outerName]).flatten

theorem find_windingPath : outer.find windingPath = .ok (.directory .free besideInner) := by
  have hlength : FilePath.lengthFault windingPath.text = none := by decide +kernel
  have hname : outerName ≠ ".." := by decide +kernel
  rw [FileTree.find, hlength]
  simp [FileTree.followPath, windingPath, outer, FileTree.follow, Access.free, hname, Access.allow,
    bind, Except.bind]

theorem unlisted_windingPath :
    ∃ f, (FileTree.directory .free besideInner).unlisted windingPath none windingPath = some f := by
  have hbelow : FilePath.lengthFault (windingPath.textFrom (windingPath.child innerName)) =
      some .nameTooLong := by decide +kernel
  refine Option.ne_none_iff_exists'.mp fun hlisted => ?_
  refine FileTree.unlisted_eq_none_iff.mp hlisted
    ⟨.nameTooLong, windingPath.textFrom (windingPath.child innerName)⟩ ?_
  refine ⟨[innerName], _, .inside (List.mem_cons_of_mem _ List.mem_cons_self) .here, rfl, ?_⟩
  rw [hbelow]
  rfl

/-- The file is not loaded, though it is there: the subdirectory beside it has too long a path. -/
theorem not_loaded_besideInner :
    ¬ ∀ (settings : Settings) (files : FileTree) (p : FilePath) (tree : FileTree) (run : RunState),
      files.find p = .ok tree → tree.isDirectory = true → tree.Distinct → run.Loading →
      ∃ loaded run', loadPath ((Handler.recording settings).loader files) files p run =
        .ok (loaded, run') ∧ (loaded.report.ok = true ↔ ∃ parts, tree.Holds parts) := by
  intro h
  have hdistinct : (FileTree.directory .free besideInner).Distinct := by
    refine .directory (by decide +kernel) ?_
    simp only [besideInner, List.forall_mem_cons]
    exact ⟨.file _ _, .directory List.nodup_nil nofun, nofun⟩
  have hholds : (FileTree.directory .free besideInner).Holds ["a.yaml"] :=
    .here List.mem_cons_self (by decide +kernel)
  obtain ⟨loaded, run', hload, hok⟩ :=
    h .default outer windingPath _ .empty find_windingPath rfl hdistinct RunState.loading_empty
  obtain ⟨f, hf⟩ := unlisted_windingPath
  rw [loadPath_of_unlisted find_windingPath rfl hf] at hload
  cases hload
  exact absurd (hok.mpr ⟨_, hholds⟩) Bool.false_ne_true

end LoadPool

end TrafficReplay
