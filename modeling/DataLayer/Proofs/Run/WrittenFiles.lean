import DataLayer.Proofs.Files.Contents
import DataLayer.Proofs.Introspection.Correspondence
import DataLayer.Proofs.Snapshot.Answers
import DataLayer.Run

/-!
# The files that a run writes

A run on a file tree first reads, and writes once when nothing is left that can fail.
`execute_files` states what this means for the files: a run that fails leaves all of them as they
are, and a run that succeeds writes the code for the snapshot under the output path and changes
nothing else.
-/

namespace DataLayer

open Reading

/-- After an action that only looks at the state, a sequence comes to a value when the action comes
to one and the rest does from there. -/
theorem Reading.runFrom_bind_eq_ok_iff {σ α β : Type} {action : Reading σ α} {state after : σ}
    (kept : Keeps (· = state) action) {next : α → Reading σ β} {value : β} :
    (action >>= next).runFrom state = (.ok value, after) ↔
      ∃ first, action.runFrom state = (.ok first, state) ∧
        (next first).runFrom state = (.ok value, after) := by
  have same : (action.runFrom state).2 = state := kept state rfl
  rcases reached : action.runFrom state with ⟨outcome, between⟩
  rw [reached] at same
  obtain rfl : between = state := same
  cases outcome with
  | error failure => simp [runFrom_bind_error reached]
  | ok first => simp [runFrom_bind_ok reached]

namespace Run

open CommandLine

/-- Reads settings and a snapshot, and generates the code: the path that is to be written, and the
text. -/
def produce (options : Options) (snapshotPath : String) : Reading FileTree (String × String) := do
  let settings := withOutput options (← Settings.load options.settings)
  let schema ← snapshotSchema settings snapshotPath
  let clips ← Clips.load settings.clipsDirectory
  let code ← Generator.generate { settings := settings, clips := clips } schema
  pure (settings.exportFile, code)

/-- Writes what was produced. -/
def write (target text : String) : Reading FileTree Unit := do
  match ← (FileAccess.writeText target text : StateM FileTree (Except String Unit)) with
  | .ok () => pure ()
  | .error reason => throw (.outputFailed reason)

variable {options : Options} {snapshotPath : String}

/-- A run with a snapshot produces the text and then writes it. -/
theorem generate_eq (offline : options.snapshot = some snapshotPath) (environment : Environment) :
    (generate environment options : Reading FileTree Unit) = (do
      let (target, text) ← produce options snapshotPath
      write target text) := by
  unfold generate produce
  rw [offline, bind_assoc]
  refine bind_congr fun settings => ?_
  rw [bind_assoc]
  refine bind_congr fun schema => ?_
  rw [bind_assoc]
  refine bind_congr fun clips => ?_
  rw [bind_assoc]
  refine bind_congr fun code => ?_
  symm
  exact pure_bind _ _

section Looking

/-- Looking at files changes none of them. -/
theorem looking_keeps {α : Type} {action : StateM FileTree α}
    (same : ∀ tree, (action.run tree).2 = tree) (tree : FileTree) :
    Keeps (· = tree) (action : Reading FileTree α) := by
  rintro _ rfl
  exact same _

variable (tree : FileTree) (path : String)

/-- Asking whether a path exists changes no file. -/
theorem pathExists_keeps :
    Keeps (· = tree) (FileAccess.pathExists path : StateM FileTree Bool) :=
  looking_keeps (fun _ => rfl) tree

/-- Reading a file changes no file. -/
theorem readText_keeps :
    Keeps (· = tree)
      (FileAccess.readText path : StateM FileTree (Except ReadFault String)) :=
  looking_keeps (fun _ => rfl) tree

/-- Asking for a directory changes no file. -/
theorem isDirectory_keeps :
    Keeps (· = tree) (FileAccess.isDirectory path : StateM FileTree Bool) := by
  refine looking_keeps (fun state => ?_) tree
  simp only [FileAccess.isDirectory, StateT.run_bind, StateT.run_get, pure_bind]
  split <;> rfl

/-- Asking for a file changes no file. -/
theorem isFile_keeps : Keeps (· = tree) (FileAccess.isFile path : StateM FileTree Bool) := by
  refine looking_keeps (fun state => ?_) tree
  simp only [FileAccess.isFile, StateT.run_bind, StateT.run_get, pure_bind]
  split <;> rfl

/-- A file that must be there is read, and what is read is judged. -/
theorem judged_keeps {α : Type} (judge : String → Except Failure α)
    (unreadable : ReadFault → Failure) (missing : Failure) :
    Keeps (· = tree) (do
      if ← (FileAccess.pathExists path : StateM FileTree Bool) then
        match ← (FileAccess.readText path : StateM FileTree (Except ReadFault String)) with
        | .ok text => judge text
        | .error fault => throw (unreadable fault)
      else
        throw missing : Reading FileTree α) := by
  refine (pathExists_keeps tree path).bind fun found => ?_
  cases found with
  | false => exact .conclude _
  | true =>
      refine (readText_keeps tree path).bind fun text => ?_
      cases text with
      | error fault => exact .conclude _
      | ok text => exact .conclude _

/-- Loading the settings changes no file. -/
theorem settingsLoad_keeps :
    Keeps (· = tree) (Settings.load path : Reading FileTree Settings) :=
  judged_keeps tree path _ _ _

/-- Loading a snapshot changes no file. -/
theorem snapshotLoad_keeps :
    Keeps (· = tree) (Snapshot.load path : Reading FileTree Snapshot) :=
  judged_keeps tree path _ _ _

/-- Replacing clips by those of a directory changes no file there. -/
theorem replaceFrom_keeps (clips : Clips) (names : List Clips.Name) :
    Keeps (· = tree) (Clips.replaceFrom path clips names : Reading FileTree Clips) := by
  induction names generalizing clips with
  | nil => exact .conclude _
  | cons name names ih =>
      refine (isFile_keeps tree _).bind fun found => ?_
      cases found with
      | false => exact ih clips
      | true =>
          refine (readText_keeps tree _).bind fun text => ?_
          cases text with
          | error fault => exact .conclude _
          | ok text => exact ih _

/-- Loading the clips changes no file. -/
theorem clipsLoad_keeps (directory : Option String) :
    Keeps (· = tree) (Clips.load directory : Reading FileTree Clips) := by
  cases directory with
  | none => exact .conclude _
  | some path =>
      refine (isDirectory_keeps tree path).bind fun found => ?_
      cases found with
      | false => exact .conclude _
      | true => exact replaceFrom_keeps tree path _ _

/-- Reading the schema out of a snapshot changes no file. -/
theorem snapshotSchema_keeps (settings : Settings) :
    Keeps (· = tree) (snapshotSchema settings path : Reading FileTree Schema) :=
  (snapshotLoad_keeps tree path).bind fun _ => .conclude _

/-- Everything before the writing only looks at files. -/
theorem produce_keeps : Keeps (· = tree) (produce options snapshotPath) :=
  (settingsLoad_keeps tree _).bind fun _ => (snapshotSchema_keeps tree _ _).bind fun _ =>
    (clipsLoad_keeps tree _).bind fun _ => Keeps.bind (.conclude _) fun _ => .conclude _

end Looking

/-- Settings that are read from a text have been prepared. -/
theorem prepared_of_ofYaml {text : String} {settings : Settings}
    (accepted : Settings.ofYaml text = .ok settings) :
    ∃ given : Settings, given.prepare = .ok settings := by
  unfold Settings.ofYaml at accepted
  split at accepted
  · exact ⟨{}, accepted⟩
  split at accepted
  · exact ⟨_, accepted⟩
  · cases accepted

/-- Settings that were loaded are normalised and valid. -/
theorem prepared_of_load {path : String} {tree after : FileTree} {settings : Settings}
    (loaded : runFrom (Settings.load path) tree = (.ok settings, after)) :
    ∃ given : Settings, given.prepare = .ok settings := by
  obtain ⟨found, -, read⟩ := (runFrom_bind_eq_ok_iff (pathExists_keeps tree path)).mp loaded
  cases found with
  | false => cases read
  | true =>
      obtain ⟨text, -, judged⟩ := (runFrom_bind_eq_ok_iff (readText_keeps tree path)).mp read
      cases text with
      | error fault => cases judged
      | ok text =>
          change (Settings.ofYaml text, tree) = _ at judged
          exact prepared_of_ofYaml (Prod.mk.inj judged).1

/-- The schema of a snapshot that was loaded. -/
theorem snapshotSchema_eq_ok_iff {settings : Settings} {path : String} {tree after : FileTree}
    {schema : Schema} :
    runFrom (snapshotSchema settings path) tree = (.ok schema, after) ↔
      after = tree ∧ ∃ snapshot, runFrom (Snapshot.load path) tree = (.ok snapshot, tree) ∧
        ((Introspection.introspect SnapshotCatalog.reader settings).runFrom
          (.ofSnapshot snapshot)).1 = .ok schema := by
  refine (runFrom_bind_eq_ok_iff (snapshotLoad_keeps tree path)).trans ⟨?_, ?_⟩
  · rintro ⟨snapshot, loaded, introspected⟩
    obtain ⟨read, same⟩ := Prod.ext_iff.mp introspected
    exact ⟨same.symm, snapshot, loaded, read⟩
  · rintro ⟨rfl, snapshot, loaded, read⟩
    exact ⟨snapshot, loaded, Prod.ext read rfl⟩

/-- What a run with a snapshot is to write, and what it is made of. -/
structure Production (options : Options) (snapshotPath : String) (tree : FileTree) where
  settings : Settings
  snapshot : Snapshot
  clips : Clips
  text : String
  loaded : runFrom (Settings.load options.settings) tree = (.ok settings, tree)
  prepared : ∃ given : Settings, given.prepare = .ok settings
  described : runFrom (Snapshot.load snapshotPath) tree = (.ok snapshot, tree)
  provided : runFrom (Clips.load settings.clipsDirectory) tree = (.ok clips, tree)
  generated : (Generator.outputFor { settings := settings, clips := clips } snapshot).1 = .ok text

/-- The path to write: the one among the options, or else the one in the settings. -/
def Production.target {tree : FileTree} (production : Production options snapshotPath tree) :
    String :=
  options.output.getD production.settings.exportFile

section Overriding

variable (options) (settings : Settings)

/-- The export file of a run is the requested output, else the one of the settings. -/
theorem exportFile_withOutput :
    (withOutput options settings).exportFile = options.output.getD settings.exportFile := by
  unfold withOutput
  cases options.output <;> rfl

/-- A requested output leaves the directory of the clips as it is. -/
theorem clipsDirectory_withOutput :
    (withOutput options settings).clipsDirectory = settings.clipsDirectory := by
  unfold withOutput
  cases options.output <;> rfl

/-- The text does not depend on where it is written. -/
theorem outputFor_withOutput (clips : Clips) (snapshot : Snapshot) :
    Generator.outputFor { settings := withOutput options settings, clips := clips } snapshot =
      Generator.outputFor { settings := settings, clips := clips } snapshot := by
  unfold withOutput
  cases options.output <;> rfl

end Overriding

/-- There is output for a snapshot when its schema can be read and code can be made for it. -/
theorem outputFor_eq_ok_iff {generator : Generator} {snapshot : Snapshot} {text : String} :
    (generator.outputFor snapshot).1 = .ok text ↔
      ∃ schema, ((Introspection.introspect SnapshotCatalog.reader generator.settings).runFrom
          (.ofSnapshot snapshot)).1 = .ok schema ∧ generator.generate schema = .ok text := by
  unfold Generator.outputFor
  rcases (Introspection.introspect SnapshotCatalog.reader generator.settings).runFrom
    (.ofSnapshot snapshot) with ⟨read, catalog⟩
  cases read with
  | error failure => simp [Except.bind]
  | ok schema => simp [Except.bind]

/-- A run comes to something to write exactly when all its stages succeed. -/
theorem produce_eq_ok_iff {tree after : FileTree} {target text : String} :
    (produce options snapshotPath).runFrom tree = (.ok (target, text), after) ↔
      after = tree ∧ ∃ production : Production options snapshotPath tree,
        production.target = target ∧ production.text = text := by
  -- Each stage reads the same files as the one before, since none of them changes a file.
  refine (runFrom_bind_eq_ok_iff (settingsLoad_keeps tree _)).trans ⟨?_, ?_⟩
  · rintro ⟨settings, loaded, read⟩
    obtain ⟨schema, read, loadedClips⟩ :=
      (runFrom_bind_eq_ok_iff (snapshotSchema_keeps tree _ _)).mp read
    obtain ⟨-, snapshot, described, introspected⟩ := snapshotSchema_eq_ok_iff.mp read
    obtain ⟨clips, provided, generated⟩ :=
      (runFrom_bind_eq_ok_iff (clipsLoad_keeps tree _)).mp loadedClips
    obtain ⟨code, made, finished⟩ := (runFrom_bind_eq_ok_iff (.conclude _)).mp generated
    cases finished
    refine ⟨rfl, ?_⟩
    have output := outputFor_eq_ok_iff.mpr ⟨schema, introspected, (Prod.ext_iff.mp made).1⟩
    rw [outputFor_withOutput] at output
    rw [clipsDirectory_withOutput] at provided
    exact ⟨{ settings, snapshot, clips, text, loaded, prepared := prepared_of_load loaded,
             described, provided, generated := output }, (exportFile_withOutput _ _).symm, rfl⟩
  · rintro ⟨rfl, production, rfl, rfl⟩
    have output := production.generated
    rw [← outputFor_withOutput options] at output
    obtain ⟨schema, introspected, made⟩ := outputFor_eq_ok_iff.mp output
    refine ⟨production.settings, production.loaded, ?_⟩
    refine (runFrom_bind_eq_ok_iff (snapshotSchema_keeps _ _ _)).mpr ⟨schema, ?_, ?_⟩
    · exact snapshotSchema_eq_ok_iff.mpr ⟨rfl, _, production.described, introspected⟩
    refine (runFrom_bind_eq_ok_iff (clipsLoad_keeps _ _)).mpr ⟨production.clips, ?_, ?_⟩
    · rw [clipsDirectory_withOutput]
      exact production.provided
    refine (runFrom_bind_eq_ok_iff (.conclude _)).mpr ⟨production.text, ?_, ?_⟩
    · exact Prod.ext made rfl
    · rw [exportFile_withOutput]
      rfl

namespace Production

variable {tree : FileTree}

/-- A production is what producing gives, without a change to the files. -/
theorem produced (production : Production options snapshotPath tree) :
    (produce options snapshotPath).runFrom tree =
      (.ok (production.target, production.text), tree) :=
  produce_eq_ok_iff.mpr ⟨rfl, production, rfl, rfl⟩

/-- There is only one thing to write. -/
theorem unique (production other : Production options snapshotPath tree) :
    production.target = other.target ∧ production.text = other.text := by
  have same := production.produced.symm.trans other.produced
  exact Prod.mk.inj (Except.ok.inj (Prod.mk.inj same).1)

end Production

/-- Writing is the end of the run, so its outcome is that of the run. -/
theorem write_runFrom (target text : String) (tree : FileTree) :
    (write target text).runFrom tree =
      ((tree.writeFile target text.toUTF8).2.mapError Failure.outputFailed,
        (tree.writeFile target text.toUTF8).1) := by
  have writes :
      runFrom ((FileAccess.writeText target text : StateM FileTree (Except String Unit)) :
        Reading FileTree (Except String Unit)) tree =
      (.ok (tree.writeFile target text.toUTF8).2, (tree.writeFile target text.toUTF8).1) := rfl
  unfold write
  refine (runFrom_bind_ok writes _).trans ?_
  cases (tree.writeFile target text.toUTF8).2 <;> rfl

/-- How a run ends after its stages came to an outcome. -/
def Outcome.ofResult : Except Failure Unit → Outcome
  | .ok () => { exitCode := 0 }
  | .error failure => { exitCode := 1, complaint := failure.message }

/-- A command line that asks for a run has its result and its files. -/
theorem execute_run {arguments : List String} (asked : request arguments = .ok (.run options))
    (environment : Environment) (tree : FileTree) :
    (execute environment arguments : StateM FileTree Outcome).run tree =
      (.ofResult (runFrom (generate environment options) tree).1,
        (runFrom (generate environment options) tree).2) := by
  rcases reached : runFrom (generate environment options) tree with ⟨result, after⟩
  have ran : StateT.run (m := Id) (generate environment options).run tree = (result, after) :=
    reached
  unfold execute
  rw [asked]
  refine (StateT.run_bind _ _ _).trans ?_
  rw [ran]
  cases result <;> rfl

/-- What a run with a snapshot does to the files. -/
structure Effect (options : Options) (snapshotPath : String) (before : FileTree)
    (outcome : Outcome) (after : FileTree) : Prop where
  codes : outcome.exitCode = 0 ∨ outcome.exitCode = 1
  /-- Nothing but a stage that fails or a file that cannot be written keeps a run from its end. -/
  succeeds : outcome.exitCode = 0 ↔ ∃ production : Production options snapshotPath before,
    (before.writeFile production.target production.text.toUTF8).2 = .ok ()
  failed : outcome.exitCode = 1 → after.file? = before.file?
  written : outcome.exitCode = 0 → ∃ (production : Production options snapshotPath before)
    (place : List String), FileTree.WrittenAt place production.target production.text before after

namespace Effect

variable {before after : FileTree} {outcome : Outcome}

/-- A run that fails has its effect when every production is stuck and the files are the same. -/
theorem of_failed (code : outcome.exitCode = 1)
    (stuck : ∀ production : Production options snapshotPath before,
      (before.writeFile production.target production.text.toUTF8).2 ≠ .ok ())
    (same : after.file? = before.file?) : Effect options snapshotPath before outcome after := by
  have unfinished : outcome.exitCode ≠ 0 := by
    rw [code]
    decide
  constructor
  case codes => exact .inr code
  case succeeds => exact iff_of_false unfinished fun ⟨production, whole⟩ => stuck production whole
  case failed => exact fun _ => same
  case written => exact fun done => absurd done unfinished

/-- A run that writes a production as a whole has its effect. -/
theorem of_written (code : outcome.exitCode = 0)
    (production : Production options snapshotPath before)
    (whole : (before.writeFile production.target production.text.toUTF8).2 = .ok ())
    {place : List String}
    (written : FileTree.WrittenAt place production.target production.text before after) :
    Effect options snapshotPath before outcome after := by
  constructor
  case codes => exact .inl code
  case succeeds => exact iff_of_true code ⟨production, whole⟩
  case failed =>
    rw [code]
    exact fun unfinished => absurd unfinished (by decide)
  case written => exact fun _ => ⟨production, place, written⟩

/-- Writing what was produced. -/
theorem of_write (production : Production options snapshotPath before) :
    Effect options snapshotPath before
      (.ofResult (runFrom (write production.target production.text) before).1)
      (runFrom (write production.target production.text) before).2 := by
  rcases wrote : before.writeFile production.target production.text.toUTF8 with ⟨after, result⟩
  rw [write_runFrom, wrote]
  rcases FileTree.writeFile_cases wrote with ⟨rfl, place, written⟩ | ⟨⟨reason, rfl⟩, unchanged⟩
  · exact of_written rfl production (congrArg Prod.snd wrote) written
  · have stuck (other : Production options snapshotPath before) :
        (before.writeFile other.target other.text.toUTF8).2 ≠ .ok () := by
      obtain ⟨sameTarget, sameText⟩ := other.unique production
      rw [sameTarget, sameText, wrote]
      exact fun whole => nomatch whole
    exact of_failed rfl stuck unchanged

end Effect

/-- Whatever comes of its stages, a run writes at most once. -/
theorem generate_effect (offline : options.snapshot = some snapshotPath)
    (environment : Environment) (tree : FileTree) :
    Effect options snapshotPath tree
      (.ofResult (runFrom (generate environment options) tree).1)
      (runFrom (generate environment options) tree).2 := by
  rw [generate_eq offline]
  have same : ((produce options snapshotPath).runFrom tree).2 = tree := produce_keeps tree tree rfl
  rcases produced : (produce options snapshotPath).runFrom tree with ⟨result, between⟩
  rw [produced] at same
  obtain rfl : between = tree := same
  cases result with
  | error failure =>
      rw [runFrom_bind_error produced]
      refine .of_failed rfl (fun production _ => ?_) rfl
      cases produced.symm.trans production.produced
  | ok found =>
      obtain ⟨-, production, -, -⟩ := produce_eq_ok_iff.mp produced
      rw [runFrom_bind_ok production.produced]
      exact .of_write production

/-- A run that fails leaves every file alone. One that succeeds writes the code for the snapshot
under the path that was asked for and changes no other file. -/
theorem execute_files {arguments : List String} (asked : request arguments = .ok (.run options))
    (offline : options.snapshot = some snapshotPath) (environment : Environment)
    (tree : FileTree) :
    let ran := (execute environment arguments : StateM FileTree Outcome).run tree
    Effect options snapshotPath tree ran.1 ran.2 := by
  dsimp only
  rw [execute_run asked]
  exact generate_effect offline environment tree

/-- A run from a directory above writes the output below it. -/
theorem execute_files_below :
    let arguments := ["settings.yaml", "--snapshot", "catalog.yaml", "-o", "out/dal.cs"]
    let options : Options :=
      { settings := "settings.yaml", snapshot := some "catalog.yaml", output := some "out/dal.cs" }
    let tree := FileTree.ofEntries
      [("settings.yaml", .file "class_prefix: Row".toUTF8),
       ("catalog.yaml", .file "tables: []".toUTF8)]
    let ran := (execute {} arguments : StateM FileTree Outcome).run tree
    request arguments = .ok (.run options) ∧ options.snapshot = some "catalog.yaml" ∧
      ran.1.exitCode = 0 ∧ Effect options "catalog.yaml" tree ran.1 ran.2 := by
  refine ⟨by decide, rfl, by decide +kernel, ?_⟩
  exact execute_files (by decide) rfl {} _

end Run

end DataLayer
