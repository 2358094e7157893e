import FlowCheck.Command.Config
import FlowCheck.Proofs.Command.Outcomes
import FlowCheck.Proofs.Files.Program

/-! # What is shown of the checker

The settings command shows what the checker's name resolves to, and a check starts the checker by
this name. The two look for it in different ways: what is shown is looked for from the current
directory, and only has to be there; what is started is looked for from the project's root, and has
to be a program.
-/

namespace FlowCheck

/-- The settings command says that the checker resolves to a path. -/
def CommandRun.ResolvesTo (run : CommandRun) (shown : String) : Prop :=
  run.acts.getLast? = some (.message s!"# checker resolves to {shown}")

/-- With its settings at hand, the settings command resolves the checker as the search for a program
to show does. -/
theorem CommandLine.showSettings_resolvesTo {line : CommandLine} {host : Host} {root : String}
    {settings : Settings} (isProject : line.settingsProject host.files = .ok root)
    (loaded : Settings.load host.files host.home root line.config = .ok settings) (json : Bool)
    (shown : String) : (line.showSettings host json).ResolvesTo shown ↔
      host.files.showProgram? host.searchPath settings.executable = some shown := by
  have found : (do
      let project ← line.settingsProject host.files
      return (project, ← Settings.load host.files host.home project line.config)) =
        Except.ok (root, settings) := by
    rw [isProject]
    change (Settings.load host.files host.home root line.config).bind _ = _
    rw [loaded]
    rfl
  unfold showSettings CommandRun.ResolvesTo
  simp only [found]
  rw [List.getLast?_append_cons]
  change some (executableAct host settings) = _ ↔ _
  unfold executableAct
  cases host.files.showProgram? host.searchPath settings.executable with
  | none => simp
  | some path => simp [toString]

/-- Of two cuts of a list one is before the other one, unless they are the same. -/
theorem mem_or_eq_or_mem_of_cuts {α : Type} {before after passed rest : List α} {entry other : α}
    (same : before ++ entry :: after = passed ++ other :: rest) :
    other ∈ before ∨ (before = passed ∧ entry = other) ∨ entry ∈ passed := by
  rcases List.append_eq_append_iff.mp same with ⟨more, rfl, isMore⟩ | ⟨more, rfl, isMore⟩
  · cases more with
    | nil =>
        obtain ⟨rfl, -⟩ := List.cons.inj isMore
        exact .inr (.inl ⟨(List.append_nil _).symm, rfl⟩)
    | cons head more =>
        obtain ⟨rfl, -⟩ := List.cons.inj isMore
        exact .inr (.inr (by simp))
  · cases more with
    | nil =>
        obtain ⟨rfl, -⟩ := List.cons.inj isMore
        exact .inr (.inl ⟨List.append_nil _, rfl⟩)
    | cons head more =>
        obtain ⟨rfl, -⟩ := List.cons.inj isMore
        exact .inl (by simp)

namespace Host

variable {host : Host} {launch : Launch} {there : Files} {search path shown file : String}

/-- A launch starts a file. -/
def StartsFile (host : Host) (launch : Launch) (file : String) : Prop :=
  ∃ started, host.invocation launch = .ok started ∧ started.file = file

/-- What a path leads to from the directory of a launch can be started by it. -/
def CanStart (host : Host) (launch : Launch) (path : String) : Prop :=
  Files.Passable (launch.executable :: launch.arguments) ∧
    ∃ there, host.filesFor launch = .ok there ∧ there.Starts interpreterLimit path

/-- One path leads to the same place from the current directory as another one does from the
directory of a launch. -/
def SamePlace (host : Host) (launch : Launch) (shown file : String) : Prop :=
  ∃ there place, host.filesFor launch = .ok there ∧ host.files.locate shown = .ok place ∧
    there.locate file = .ok place

/-- What the settings command says of the checker is what a launch of it does: the checker resolves
to a path exactly if it can be started, and then this is the file that is started. -/
structure Foretells (host : Host) (launch : Launch) (run : CommandRun) : Prop where
  started : (∃ shown, run.ResolvesTo shown) ↔ ∃ file, host.StartsFile launch file
  same : ∀ shown file, run.ResolvesTo shown → host.StartsFile launch file →
    host.SamePlace launch shown file

private theorem exists_place (seen : host.filesFor launch = .ok there) :
    ∃ place, there = host.files.seenFrom place := by
  unfold filesFor at seen
  dsimp only at seen
  split at seen
  · next place located =>
      split at seen
      · exact ⟨place, (Except.ok.inj seen).symm⟩
      · cases seen
  · cases seen

/-- From the directory of a launch a path that starts at the root leads where it always does. -/
theorem locate_there (seen : host.filesFor launch = .ok there)
    (absolute : Path.isAbsolute path = true) : there.locate path = host.files.locate path := by
  obtain ⟨place, rfl⟩ := exists_place seen
  exact Files.locate_seenFrom absolute place

private theorem hasFile_there (seen : host.filesFor launch = .ok there)
    (absolute : Path.isAbsolute path = true) : there.hasFile path = host.files.hasFile path := by
  obtain ⟨place, rfl⟩ := exists_place seen
  rw [Files.hasFile, Files.hasFile, Files.node, Files.node, Files.locate_seenFrom absolute]
  rfl

private theorem refuses_there (seen : host.filesFor launch = .ok there)
    (absolute : Path.isAbsolute path = true) : there.Refuses path ↔ host.files.Refuses path := by
  rw [Files.Refuses, Files.Refuses, locate_there seen absolute]

section Directory

variable {directory name zeroth : String} {arguments : List String} {limit : Nat}
  (seen : host.filesFor launch = .ok there) (absolute : Path.isAbsolute directory = true)
  (single : '/' ∉ name.toList)
include seen absolute single

/-- What a launch can start in a directory is a file that can be shown. -/
theorem hasFile_of_starts (starts : there.Starts limit (Path.under directory name)) :
    host.files.hasFile (Path.join directory name) = true ∧
      host.files.locate (Path.under directory name) =
        host.files.locate (Path.join directory name) := by
  have leads : host.files.hasFile (Path.under directory name) = true := by
    rw [← hasFile_there seen (Path.under_isAbsolute absolute)]
    exact starts.hasFile
  have admitted := Files.admitted_of_hasFile leads
  rw [Files.hasFile_under absolute single admitted] at leads
  exact ⟨leads, Files.locate_under absolute single admitted⟩

/-- A launch passes over a directory without a file to show. -/
theorem passesOver_there (isNone : host.files.hasFile (Path.join directory name) = false)
    (admitted : ¬ host.files.Refuses (Path.under directory name)) :
    there.PassesOver zeroth arguments (Path.under directory name) := by
  have under : Path.isAbsolute (Path.under directory name) = true :=
    Path.under_isAbsolute absolute
  apply Files.passesOver_of_hasFile
  · rw [hasFile_there seen under, Files.hasFile_under absolute single admitted, isNone]
  · rwa [refuses_there seen under]

/-- A file that is passed over is not at a place where one can be started. -/
theorem elsewhere_of_passesOver
    (passed : there.PassesOver zeroth arguments (Path.under directory name))
    (starts : there.Starts interpreterLimit path) :
    host.files.locate (Path.join directory name) ≠ there.locate path := by
  intro same
  have under : Path.isAbsolute (Path.under directory name) = true :=
    Path.under_isAbsolute absolute
  have admitted : ¬ host.files.Refuses (Path.under directory name) := by
    rw [← refuses_there seen under]
    exact passed.admitted
  apply passed.not_starts
  apply starts.congr
  rw [Files.node, Files.node, locate_there seen under,
    Files.locate_under absolute single admitted, same]

end Directory

/-- A launch starts the file that its program comes to, seen from its directory. -/
theorem startsFile_iff : host.StartsFile launch file ↔ ∃ there, host.filesFor launch = .ok there ∧
    ∃ started, there.start host.searchPath launch.executable launch.arguments = .ok started ∧
      started.file = file := by
  unfold StartsFile invocation
  cases seen : host.filesFor launch with
  | error failure => simp [bind, Except.bind]
  | ok there =>
      simp only [bind, Except.bind, Except.ok.injEq, exists_eq_left']
      cases there.start host.searchPath launch.executable launch.arguments <;> simp

/-- A launch starts one file only. -/
theorem StartsFile.unique (starts : host.StartsFile launch file)
    (others : host.StartsFile launch path) : path = file := by
  obtain ⟨started, invoked, rfl⟩ := starts
  obtain ⟨other, otherInvoked, rfl⟩ := others
  obtain rfl := Except.ok.inj (invoked.symm.trans otherInvoked)
  rfl

/-- When what is shown of a name is what is started. A name of several steps has to lead somewhere
exactly if it can be started, and then to the same place from both directories. The first file that
a name of one step leads to has to be one that can be started, and no path before may be refused. -/
def Clear (host : Host) (launch : Launch) (search : String) : Prop :=
  if 1 < Path.stepCount launch.executable then
    (host.files.has launch.executable = true ↔ host.CanStart launch launch.executable) ∧
      (host.CanStart launch launch.executable →
        host.SamePlace launch launch.executable launch.executable)
  else
    ∀ before directory after, searchDirectories search = before ++ directory :: after →
      (∀ other ∈ before, host.files.hasFile (Path.join other launch.executable) = false) →
      host.files.hasFile (Path.join directory launch.executable) = true →
        host.CanStart launch (Path.under directory launch.executable) ∧
          ∀ other ∈ before, ¬ host.files.Refuses (Path.under other launch.executable)

/-- An absolute name is clear if it leads nowhere or can be started. -/
theorem clear_iff_of_absolute (many : 1 < Path.stepCount launch.executable)
    (absolute : Path.isAbsolute launch.executable = true) :
    host.Clear launch search ↔ (host.files.has launch.executable = true →
      host.CanStart launch launch.executable) := by
  have leads : host.CanStart launch launch.executable →
      host.SamePlace launch launch.executable launch.executable ∧
        host.files.has launch.executable = true := by
    rintro ⟨-, there, seen, starts⟩
    have isFile := starts.hasFile
    rw [hasFile_there seen absolute] at isFile
    obtain ⟨place, located⟩ := Files.exists_locate_of_hasFile isFile
    refine ⟨⟨there, place, seen, located, ?_⟩, Files.has_of_hasFile isFile⟩
    rw [locate_there seen absolute, located]
  rw [Clear, if_pos many]
  constructor
  · rintro ⟨started, -⟩
    exact started.mp
  · intro starts
    exact ⟨⟨starts, fun canStart => (leads canStart).2⟩, fun canStart => (leads canStart).1⟩

/-- A name that is searched for is clear if all files of that name can be started. -/
theorem clear_of_canStart (few : ¬ 1 < Path.stepCount launch.executable)
    (admitted : ∀ directory ∈ searchDirectories search,
      ¬ host.files.Refuses (Path.under directory launch.executable))
    (starts : ∀ directory ∈ searchDirectories search,
      host.files.hasFile (Path.join directory launch.executable) = true →
        host.CanStart launch (Path.under directory launch.executable)) :
    host.Clear launch search := by
  rw [Clear, if_neg few]
  intro before directory after cut _ leads
  rw [cut] at admitted starts
  refine ⟨starts directory (by simp) leads, fun other inside => ?_⟩
  exact admitted other (List.mem_append_left _ inside)

section Searched

variable (isSearch : host.searchPath = some search)
include isSearch

/-- A name with a slash starts the file that it names. -/
theorem startsFile_of_slash (slash : '/' ∈ launch.executable.toList) :
    host.StartsFile launch file ↔ host.CanStart launch launch.executable ∧
      file = launch.executable := by
  rw [startsFile_iff, isSearch]
  simp only [Files.start_of_slash slash]
  constructor
  · rintro ⟨there, seen, passable, starts, same⟩
    exact ⟨⟨passable, there, seen, starts⟩, same⟩
  · rintro ⟨⟨passable, there, seen, starts⟩, same⟩
    exact ⟨there, seen, passable, starts, same⟩

section Single

variable (absolute : ∀ directory ∈ searchDirectories search, Path.isAbsolute directory = true)
  (single : '/' ∉ launch.executable.toList)
include absolute single

/-- A name without a slash starts the first file on the search path that is not passed over. -/
theorem startsFile_of_single : host.StartsFile launch file ↔
    ∃ there, host.filesFor launch = .ok there ∧
      (Files.Passable (launch.executable :: launch.arguments) ∧ launch.executable ≠ "") ∧
      ∃ before directory after, searchDirectories search = before ++ directory :: after ∧
        (∀ other ∈ before, there.PassesOver launch.executable launch.arguments
          (Path.under other launch.executable)) ∧
        there.Starts interpreterLimit (Path.under directory launch.executable) ∧
        file = Path.under directory launch.executable := by
  rw [startsFile_iff, isSearch]
  simp only [Files.start_of_single absolute single]

/-- The first file that can be shown is started, if it can be and nothing before ends the search. -/
theorem startsFile_of_first {before after : List String} {directory : String}
    (cut : searchDirectories search = before ++ directory :: after)
    (isNone : ∀ other ∈ before,
      host.files.hasFile (Path.join other launch.executable) = false)
    (canStart : host.CanStart launch (Path.under directory launch.executable))
    (admitted : ∀ other ∈ before,
      ¬ host.files.Refuses (Path.under other launch.executable)) :
    host.StartsFile launch (Path.under directory launch.executable) := by
  obtain ⟨passable, there, seen, starts⟩ := canStart
  rw [startsFile_of_single isSearch absolute single]
  refine ⟨there, seen, ⟨passable, Files.named_of_hasFile_under starts.hasFile⟩, before, directory,
    after, cut, ?_, starts, rfl⟩
  intro other inside
  have fromRoot : Path.isAbsolute other = true := by
    apply absolute
    rw [cut]
    exact List.mem_append_left _ inside
  exact passesOver_there seen fromRoot single (isNone other inside) (admitted other inside)

end Single

variable {run : CommandRun} (shows : ∀ shown, run.ResolvesTo shown ↔
  host.files.showProgram? host.searchPath launch.executable = some shown)
include shows

/-- A name of several steps is shown as it is and started as it is. -/
theorem foretells_of_steps (many : 1 < Path.stepCount launch.executable) :
    host.Foretells launch run ↔ host.Clear launch search := by
  have slash : '/' ∈ launch.executable.toList := by
    by_contra single
    have few := Path.stepCount_of_notMem single
    omega
  have resolves (shown : String) : run.ResolvesTo shown ↔
      host.files.has launch.executable = true ∧ shown = launch.executable := by
    rw [shows, isSearch, Files.showProgram?_of_steps many]
  rw [Clear, if_pos many]
  constructor
  · rintro ⟨started, same⟩
    simp only [resolves, startsFile_of_slash isSearch slash, exists_and_left, exists_eq,
      and_true] at started
    refine ⟨started, fun starts => ?_⟩
    exact same _ _ ((resolves _).mpr ⟨started.mpr starts, rfl⟩)
      ((startsFile_of_slash isSearch slash).mpr ⟨starts, rfl⟩)
  · rintro ⟨started, same⟩
    constructor
    · simpa only [resolves, startsFile_of_slash isSearch slash, exists_and_left, exists_eq,
        and_true] using started
    · intro shown file resolved starts
      obtain ⟨-, rfl⟩ := (resolves shown).mp resolved
      obtain ⟨canStart, rfl⟩ := (startsFile_of_slash isSearch slash).mp starts
      exact same canStart

/-- A name of a single step is shown in the first directory of the search path with such a file. -/
theorem resolvesTo_of_step (few : ¬ 1 < Path.stepCount launch.executable) :
    run.ResolvesTo shown ↔ ∃ before directory after,
      searchDirectories search = before ++ directory :: after ∧
        (∀ other ∈ before, host.files.hasFile (Path.join other launch.executable) = false) ∧
        host.files.hasFile (Path.join directory launch.executable) = true ∧
        shown = Path.join directory launch.executable := by
  rw [shows, isSearch, Files.showProgram?_of_step few]

/-- A name of one step that has a slash is neither shown nor started. -/
theorem foretells_of_slash (few : ¬ 1 < Path.stepCount launch.executable)
    (slash : '/' ∈ launch.executable.toList) :
    host.Foretells launch run ∧ host.Clear launch search := by
  have isNone (directory : String) :
      host.files.hasFile (Path.join directory launch.executable) = false :=
    Files.hasFile_of_slash slash few (Path.exists_join directory _)
  have unshown (shown : String) : ¬ run.ResolvesTo shown := by
    rw [resolvesTo_of_step isSearch shows few]
    rintro ⟨-, directory, -, -, -, leads, -⟩
    cases (isNone directory).symm.trans leads
  have unstarted (file : String) : ¬ host.StartsFile launch file := by
    rw [startsFile_of_slash isSearch slash]
    rintro ⟨⟨-, there, -, starts⟩, -⟩
    cases (Files.hasFile_of_slash slash few ⟨[], rfl⟩).symm.trans starts.hasFile
  refine ⟨⟨⟨?_, ?_⟩, ?_⟩, ?_⟩
  · rintro ⟨shown, resolved⟩
    exact (unshown shown resolved).elim
  · rintro ⟨file, starts⟩
    exact (unstarted file starts).elim
  · intro shown file resolved
    exact (unshown shown resolved).elim
  · rw [Clear, if_neg few]
    intro before directory after _ _ leads
    cases (isNone directory).symm.trans leads

variable (absolute : ∀ directory ∈ searchDirectories search, Path.isAbsolute directory = true)
include absolute

/-- What is shown of a name without a slash is not passed over, if it is what is started. -/
theorem Foretells.clear_of_single (foretells : host.Foretells launch run)
    (few : ¬ 1 < Path.stepCount launch.executable)
    (single : '/' ∉ launch.executable.toList) : host.Clear launch search := by
  rw [Clear, if_neg few]
  intro before directory after cut isNone leads
  have resolved : run.ResolvesTo (Path.join directory launch.executable) := by
    rw [resolvesTo_of_step isSearch shows few]
    exact ⟨before, directory, after, cut, isNone, leads, rfl⟩
  obtain ⟨file, started⟩ := foretells.started.mp ⟨_, resolved⟩
  obtain ⟨there, place, seen, shownAt, fileAt⟩ := foretells.same _ _ resolved started
  obtain ⟨same, seenSame, passable, passed, first, rest, firstCut, passes, starts, rfl⟩ :=
    (startsFile_of_single isSearch absolute single).mp started
  obtain rfl := Except.ok.inj (seen.symm.trans seenSame)
  have fromRoot : Path.isAbsolute directory = true ∧ Path.isAbsolute first = true := by
    constructor <;> apply absolute
    · simp [cut]
    · simp [firstCut]
  rcases mem_or_eq_or_mem_of_cuts (cut.symm.trans firstCut) with earlier | here | later
  · obtain ⟨leads, -⟩ := hasFile_of_starts seen fromRoot.2 single starts
    cases (isNone first earlier).symm.trans leads
  · obtain ⟨rfl, rfl⟩ := here
    refine ⟨⟨passable.1, there, seen, starts⟩, fun other inside => ?_⟩
    have otherFromRoot : Path.isAbsolute other = true := by
      apply absolute
      rw [cut]
      exact List.mem_append_left _ inside
    rw [← refuses_there seen (Path.under_isAbsolute otherFromRoot)]
    exact (passes other inside).admitted
  · -- What is shown was passed over, so it is not what was started.
    exact (elsewhere_of_passesOver seen fromRoot.1 single (passes directory later) starts
      (shownAt.trans fileAt.symm)).elim

/-- What is shown of a name without a slash is what is started, if the name is clear. -/
theorem Clear.foretells_of_single (clear : host.Clear launch search)
    (few : ¬ 1 < Path.stepCount launch.executable)
    (single : '/' ∉ launch.executable.toList) : host.Foretells launch run := by
  rw [Clear, if_neg few] at clear
  constructor
  · constructor
    · rintro ⟨shown, resolved⟩
      rw [resolvesTo_of_step isSearch shows few] at resolved
      obtain ⟨before, directory, after, cut, isNone, leads, rfl⟩ := resolved
      obtain ⟨canStart, admitted⟩ := clear before directory after cut isNone leads
      exact ⟨_, startsFile_of_first isSearch absolute single cut isNone canStart admitted⟩
    · rintro ⟨file, started⟩
      obtain ⟨there, seen, -, before, directory, after, cut, -, starts, rfl⟩ :=
        (startsFile_of_single isSearch absolute single).mp started
      have inside : directory ∈ searchDirectories search := by
        rw [cut]
        exact List.mem_append_right _ List.mem_cons_self
      obtain ⟨leads, -⟩ := hasFile_of_starts seen (absolute directory inside) single starts
      obtain ⟨shown, found⟩ := Files.exists_shown few inside leads
      exact ⟨shown, (shows shown).mpr (isSearch ▸ found)⟩
  · intro shown file resolved started
    rw [resolvesTo_of_step isSearch shows few] at resolved
    obtain ⟨before, directory, after, cut, isNone, leads, rfl⟩ := resolved
    obtain ⟨canStart, admitted⟩ := clear before directory after cut isNone leads
    obtain rfl := (startsFile_of_first isSearch absolute single cut isNone canStart
      admitted).unique started
    obtain ⟨-, there, seen, starts⟩ := canStart
    have fromRoot : Path.isAbsolute directory = true := by
      apply absolute
      simp [cut]
    obtain ⟨leads, same⟩ := hasFile_of_starts seen fromRoot single starts
    obtain ⟨place, located⟩ := Files.exists_locate_of_hasFile leads
    refine ⟨there, place, seen, located, ?_⟩
    rw [locate_there seen (Path.under_isAbsolute fromRoot), same, located]

/-- What is shown of a name is what is started exactly if the name is clear. -/
theorem foretells_iff : host.Foretells launch run ↔ host.Clear launch search := by
  by_cases many : 1 < Path.stepCount launch.executable
  · exact foretells_of_steps isSearch shows many
  · by_cases slash : '/' ∈ launch.executable.toList
    · obtain ⟨foretells, clear⟩ := foretells_of_slash isSearch shows many slash
      exact iff_of_true foretells clear
    · constructor
      · intro foretells
        exact foretells.clear_of_single isSearch shows absolute many slash
      · intro clear
        exact clear.foretells_of_single isSearch shows absolute many slash

end Searched

end Host

/-- **When the settings command tells what a check runs.** Let both commands have the same project
and the same settings, and let all directories of the search path be absolute. The settings command
says that the checker resolves to a path exactly if the check can start the checker, and then this
is the file that it starts, if and only if the checker's name is clear: a name of several steps
leads somewhere exactly if it can be started from the project's root, and to the same place from
there as from the current directory, and for any other name the first regular file on the search
path is one that can be started. A check that cannot start its checker ends without a verdict. -/
theorem shown_checker_starts_iff {line checkLine : CommandLine} {host : Host}
    {options : CheckOptions} {request : Request} {settings : Settings} {search : String}
    (resolves : options.Resolves host checkLine request settings)
    (isProject : line.settingsProject host.files = .ok request.root)
    (loaded : Settings.load host.files host.home request.root line.config = .ok settings)
    (isSearch : host.searchPath = some search)
    (absolute : ∀ directory ∈ searchDirectories search, Path.isAbsolute directory = true)
    (json : Bool) (mode : OutputMode) :
    let launch := settings.launch request
    (host.Foretells launch (line.showSettings host json) ↔ host.Clear launch search) ∧
      ((¬ ∃ file, host.StartsFile launch file) →
        EndsUnjudged (options.run host host.run checkLine mode).value) := by
  intro launch
  constructor
  · have shows (shown : String) := CommandLine.showSettings_resolvesTo isProject loaded json shown
    exact Host.foretells_iff isSearch shows absolute
  · intro unstarted
    cases invoked : host.invocation launch with
    | ok started => exact (unstarted ⟨_, started, invoked, rfl⟩).elim
    | error failure =>
        have unjudged : Verdict.ofRun (host.run launch) = .error failure := by
          rw [Host.run, invoked]
          rfl
        exact resolves.endsUnjudged unjudged mode

/-! ## Two checkers on the search path -/

/-- A host with a file to check, and two files with the checker's name on its search path. The first
one need not be a program. -/
def twoCheckersHost (isProgram : Bool) : Host where
  files := { root := .directory [
    ("p", .directory [("a.js", .file ByteArray.empty false)]),
    ("a", .directory [("flow",
      if isProgram then .program "flow" else .file ByteArray.empty false)]),
    ("b", .directory [("flow", .program "flow")])] }
  searchPath := some "/a:/b"

private theorem twoCheckersHost_resolves (isProgram : Bool) :
    oneFileCheck.Resolves (twoCheckersHost isProgram) { command := .check oneFileCheck }
      oneFileRequest {} where
  located := by cases isProgram <;> decide +kernel
  inProject := by cases isProgram <;> decide +kernel
  loaded := by cases isProgram <;> decide +kernel
  isText := by cases isProgram <;> decide +kernel

/-- The command that shows the settings of the file's project. -/
def projectSettingsLine : CommandLine where
  command := .config false
  project := some "/p"

private theorem projectSettingsLine_isProject (isProgram : Bool) :
    projectSettingsLine.settingsProject (twoCheckersHost isProgram).files = .ok "/p" := by
  cases isProgram <;> decide +kernel

private theorem projectSettingsLine_loaded (isProgram : Bool) :
    Settings.load (twoCheckersHost isProgram).files (twoCheckersHost isProgram).home "/p"
      projectSettingsLine.config = .ok {} := by
  cases isProgram <;> decide +kernel

/-- The run of the checker that the check asks for. -/
def oneFileLaunch : Launch :=
  Settings.launch {} oneFileRequest

private theorem oneFileLaunch_passable :
    Files.Passable (oneFileLaunch.executable :: oneFileLaunch.arguments) := by
  decide +kernel

private theorem filesFor_oneFileLaunch (isProgram : Bool) :
    (twoCheckersHost isProgram).filesFor oneFileLaunch =
      .ok ((twoCheckersHost isProgram).files.seenFrom ["p"]) := by
  cases isProgram <;> rfl

private theorem twoCheckers_directories : searchDirectories "/a:/b" = ["/a", "/b"] := by
  decide +kernel

private theorem absolute_of_twoCheckers :
    ∀ directory ∈ searchDirectories "/a:/b", Path.isAbsolute directory = true := by
  rw [twoCheckers_directories]
  decide +kernel

/-- If the first of the two files is a program as well, the settings command tells what is run. -/
theorem shown_checker_starts_iff_of_programs :
    (twoCheckersHost true).Foretells oneFileLaunch
      (projectSettingsLine.showSettings (twoCheckersHost true) false) := by
  apply (shown_checker_starts_iff (twoCheckersHost_resolves true)
    (projectSettingsLine_isProject true) (projectSettingsLine_loaded true) rfl
    absolute_of_twoCheckers false .normal).1.mpr
  apply Host.clear_of_canStart
  · decide +kernel
  · rw [twoCheckers_directories, List.forall_mem_cons, List.forall_mem_singleton]
    constructor <;> exact Files.admitted_of_hasFile (by decide +kernel)
  · rw [twoCheckers_directories, List.forall_mem_cons, List.forall_mem_singleton]
    constructor <;> intro _ <;>
      exact ⟨oneFileLaunch_passable, _, filesFor_oneFileLaunch true, .program rfl⟩

/-- The settings command does not always tell what a check runs: the first of the two files may be
shown although it is no program, and then the check runs the other one. -/
theorem shown_checker_not_always_started :
    ¬ ∀ (line checkLine : CommandLine) (host : Host) (options : CheckOptions) (request : Request)
      (settings : Settings) (search : String) (json : Bool),
      options.Resolves host checkLine request settings →
      line.settingsProject host.files = .ok request.root →
      Settings.load host.files host.home request.root line.config = .ok settings →
      host.searchPath = some search →
      (∀ directory ∈ searchDirectories search, Path.isAbsolute directory = true) →
        host.Foretells (settings.launch request) (line.showSettings host json) := by
  intro always
  have foretells := always projectSettingsLine _ (twoCheckersHost false) _ _ _ _ false
    (twoCheckersHost_resolves false) (projectSettingsLine_isProject false)
    (projectSettingsLine_loaded false) rfl absolute_of_twoCheckers
  have shown : (projectSettingsLine.showSettings (twoCheckersHost false) false).ResolvesTo
      "/a/flow" := by
    rw [CommandLine.showSettings_resolvesTo (projectSettingsLine_isProject false)
      (projectSettingsLine_loaded false)]
    change (twoCheckersHost false).files.showProgram? (some "/a:/b") "flow" = some "/a/flow"
    rw [Files.showProgram?_of_step (by decide +kernel)]
    exact ⟨[], "/a", ["/b"], twoCheckers_directories, by simp, by decide +kernel,
      by decide +kernel⟩
  have passes : ((twoCheckersHost false).files.seenFrom ["p"]).PassesOver "flow"
      oneFileLaunch.arguments "/a/flow" :=
    ⟨.permissionDenied, by simp [Files.passedOver], rfl⟩
  have started : (twoCheckersHost false).StartsFile oneFileLaunch "/b/flow" := by
    rw [Host.startsFile_of_single rfl absolute_of_twoCheckers (by decide +kernel)]
    exact ⟨_, filesFor_oneFileLaunch false, ⟨oneFileLaunch_passable, by decide +kernel⟩,
      ["/a"], "/b", [], twoCheckers_directories, List.forall_mem_singleton.mpr passes,
      .program rfl, by decide +kernel⟩
  obtain ⟨there, place, seen, shownAt, startedAt⟩ := foretells.same _ _ shown started
  obtain rfl := Except.ok.inj ((filesFor_oneFileLaunch false).symm.trans seen)
  have first : (twoCheckersHost false).files.locate "/a/flow" = .ok ["a", "flow"] := by
    decide +kernel
  have second : ((twoCheckersHost false).files.seenFrom ["p"]).locate "/b/flow" =
      .ok ["b", "flow"] := by
    decide +kernel
  obtain rfl := Except.ok.inj (first.symm.trans shownAt)
  have same : ["b", "flow"] = ["a", "flow"] := Except.ok.inj (second.symm.trans startedAt)
  exact absurd same (by decide)

end FlowCheck
