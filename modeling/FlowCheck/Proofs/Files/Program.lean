import FlowCheck.Files.Program
import FlowCheck.Proofs.Files.Path

/-! # Which programs can be started

A path can be started if it leads to a program, or to a script that may be executed and whose
interpreter can be started. A name that is searched for is started by the first path that can be,
as long as each path before is missing or may not be executed. What is shown for such a name is the
first path that leads to a regular file.
-/

namespace FlowCheck

namespace Files

variable {files : Files} {path name zeroth : String} {arguments : List String} {limit : Nat}
  {started : Invocation}

/-! ## Starting what a path leads to -/

/-- A path can be started through so many interpreters. -/
inductive Starts (files : Files) : Nat → String → Prop
  | program {limit : Nat} {path name : String} :
      files.node path = .ok (.program name) → Starts files (limit + 1) path
  | script {limit : Nat} {path interpreter : String} {content : ByteArray}
      {argument : Option String} : files.node path = .ok (.file content true) →
      interpreterLine? content = some (interpreter, argument) → interpreter ≠ "" →
      Starts files limit interpreter → Starts files (limit + 1) path

/-- The problems that a search passes over. -/
def passedOver : List SystemError :=
  [.notFound, .notDirectory, .permissionDenied]

/-- What can be started is a file. -/
theorem Starts.hasFile (starts : files.Starts limit path) : files.hasFile path = true := by
  cases starts with
  | program leads => rw [Files.hasFile, leads]; rfl
  | script leads => rw [Files.hasFile, leads]; rfl

/-- Whether a path can be started depends on nothing but what it leads to. -/
theorem Starts.congr (starts : files.Starts limit path) {other : String}
    (same : files.node other = files.node path) : files.Starts limit other := by
  cases starts with
  | program leads => exact .program (same.trans leads)
  | script leads line named interpreter => exact .script (same.trans leads) line named interpreter

/-- What is started is the file that the path leads to, and it can be. -/
theorem invoke_eq_ok (invoked : files.invoke limit path zeroth arguments = .ok started) :
    started.file = path ∧ files.Starts limit path := by
  induction limit generalizing path zeroth arguments started with
  | zero => cases invoked
  | succ limit ih =>
      rw [invoke] at invoked
      cases leads : files.node path with
      | error problem =>
          rw [leads] at invoked
          cases invoked
      | ok held =>
          rw [leads] at invoked
          simp only [bind, Except.bind] at invoked
          split at invoked
          · next name =>
              obtain rfl := Except.ok.inj invoked
              exact ⟨rfl, .program leads⟩
          · next content =>
              split at invoked
              · cases invoked
              · next interpreter argument line =>
                  by_cases named : interpreter = ""
                  · subst named
                    cases invoked
                  · rw [if_neg (by rwa [String.isEmpty_iff])] at invoked
                    split at invoked
                    · cases invoked
                    · next inner innerInvoked =>
                        obtain rfl := Except.ok.inj invoked
                        exact ⟨rfl, .script leads line named (ih innerInvoked).2⟩
          · cases invoked

/-- What can be started is started by whatever name and with whatever arguments. -/
theorem Starts.exists_invoke (starts : files.Starts limit path) (zeroth : String)
    (arguments : List String) :
    ∃ started, files.invoke limit path zeroth arguments = .ok started := by
  induction starts generalizing zeroth arguments with
  | program leads => exact ⟨_, by rw [invoke, leads]; rfl⟩
  | @script limit path interpreter content argument leads line named _ ih =>
      obtain ⟨started, invoked⟩ := ih interpreter (argument.toList ++ path :: arguments)
      have nonempty : interpreter.isEmpty = false := String.isEmpty_eq_false_iff.mpr named
      refine ⟨{ started with file := path }, ?_⟩
      rw [invoke, leads]
      simp only [bind, Except.bind, line, nonempty, Bool.false_eq_true, ↓reduceIte, invoked]
      rfl

/-- A search passes over a path: it goes on behind it. -/
def PassesOver (files : Files) (zeroth : String) (arguments : List String) (path : String) :
    Prop :=
  ∃ problem ∈ passedOver, files.invoke interpreterLimit path zeroth arguments = .error problem

/-- What is passed over cannot be started. -/
theorem PassesOver.not_starts (passed : files.PassesOver zeroth arguments path) :
    ¬ files.Starts interpreterLimit path := by
  intro starts
  obtain ⟨problem, -, failed⟩ := passed
  obtain ⟨started, invoked⟩ := starts.exists_invoke zeroth arguments
  cases failed.symm.trans invoked

/-- A path that is refused ends the search. -/
theorem PassesOver.admitted (passed : files.PassesOver zeroth arguments path) :
    ¬ files.Refuses path := by
  obtain ⟨problem, isPassed, failed⟩ := passed
  have fails {cause : SystemError} (located : files.locate path = .error cause) :
      files.invoke interpreterLimit path zeroth arguments = .error cause := by
    rw [interpreterLimit, invoke, node, located]
    rfl
  rintro (nul | tooLong)
  · obtain rfl := Except.error.inj (failed.symm.trans (fails nul))
    simp [passedOver] at isPassed
  · obtain rfl := Except.error.inj (failed.symm.trans (fails tooLong))
    simp [passedOver] at isPassed

/-- A path without a file is passed over, unless it is refused. -/
theorem passesOver_of_hasFile (isNone : files.hasFile path = false)
    (admitted : ¬ files.Refuses path) : files.PassesOver zeroth arguments path := by
  unfold PassesOver
  rw [interpreterLimit, invoke]
  cases leads : files.node path with
  | error problem =>
      refine ⟨problem, ?_, rfl⟩
      cases located : files.locate path with
      | error cause =>
          rw [node, located] at leads
          obtain rfl := Except.error.inj leads
          rcases locate_error located admitted with rfl | rfl <;> simp [passedOver]
      | ok place =>
          rw [node, located] at leads
          simp only [bind, Except.bind] at leads
          split at leads
          · cases leads
          · obtain rfl := Except.error.inj leads
            simp [passedOver]
  | ok held =>
      refine ⟨.permissionDenied, by simp [passedOver], ?_⟩
      rw [hasFile, leads] at isNone
      cases held with
      | file | program => cases isNone
      | device | directory => rfl

/-! ## Searching -/

/-- The first entry that matters is the head of a list, or it is behind a head that does not. -/
theorem exists_cut_cons {α : Type} {passes found : α → Prop} {first : α} {rest : List α} :
    (∃ before entry after, first :: rest = before ++ entry :: after ∧
      (∀ other ∈ before, passes other) ∧ found entry) ↔
      found first ∨ passes first ∧ ∃ before entry after, rest = before ++ entry :: after ∧
        (∀ other ∈ before, passes other) ∧ found entry := by
  constructor
  · rintro ⟨before, entry, after, cut, passed, isFound⟩
    cases before with
    | nil =>
        obtain ⟨rfl, rfl⟩ := List.cons.inj cut
        exact .inl isFound
    | cons head before =>
        obtain ⟨rfl, rfl⟩ := List.cons.inj cut
        obtain ⟨headPassed, passed⟩ := List.forall_mem_cons.mp passed
        exact .inr ⟨headPassed, before, entry, after, rfl, passed, isFound⟩
  · rintro (isFound | ⟨headPassed, before, entry, after, rfl, passed, isFound⟩)
    · exact ⟨[], first, rest, rfl, by simp, isFound⟩
    · exact ⟨first :: before, entry, after, rfl, List.forall_mem_cons.mpr ⟨headPassed, passed⟩,
        isFound⟩

/-- A search starts the first candidate that is not passed over. -/
theorem invokeFirst_eq_ok_iff {paths : List String} {cause : SystemError} :
    files.invokeFirst name arguments paths cause = .ok started ↔
      ∃ before path after, paths = before ++ path :: after ∧
        (∀ passed ∈ before, files.PassesOver name arguments passed) ∧
          files.invoke interpreterLimit path name arguments = .ok started := by
  induction paths generalizing cause with
  | nil => simp [invokeFirst]
  | cons first rest ih =>
      rw [invokeFirst, exists_cut_cons]
      cases invoked : files.invoke interpreterLimit first name arguments with
      | ok found => simp [PassesOver, invoked]
      | error problem =>
          change (if problem ∈ passedOver then _ else _) = _ ↔ _
          by_cases isPassed : problem ∈ passedOver
          · have passed : files.PassesOver name arguments first := ⟨problem, isPassed, invoked⟩
            rw [if_pos isPassed, ih]
            simp [passed]
          · have ends : ¬ files.PassesOver name arguments first := by
              rintro ⟨other, isOther, failed⟩
              obtain rfl := Except.error.inj (invoked.symm.trans failed)
              exact isPassed isOther
            rw [if_neg isPassed]
            simp [ends]

/-- The system takes texts as the name and the arguments of a program. -/
def Passable (texts : List String) : Prop :=
  ∀ text ∈ texts, '\x00' ∉ text.toList ∧ text.utf8ByteSize ≤ argumentLimit

instance (texts : List String) : Decidable (Passable texts) :=
  inferInstanceAs (Decidable (∀ text ∈ texts, _))

variable {search : String} {other shown : String}

/-- A name with a slash is started as it is, and any other one is looked up in the directories of
the search path in turn. -/
theorem start_of_passable (passable : Passable (name :: arguments)) (named : name ≠ "") :
    files.start (some search) name arguments =
      if '/' ∈ name.toList then files.invoke interpreterLimit name name arguments
      else files.invokeFirst name arguments
        ((searchDirectories search).map fun directory =>
          if directory.isEmpty then name else directory ++ "/" ++ name) .notFound := by
  have clean : ((name :: arguments).any fun text => text.toList.contains '\x00') = false := by
    rw [List.any_eq_false]
    intro text inside
    simpa using (passable text inside).1
  have short : ((name :: arguments).any fun text =>
      decide (argumentLimit < text.utf8ByteSize)) = false := by
    rw [List.any_eq_false]
    intro text inside
    simpa using (passable text inside).2
  have nonempty : name.isEmpty = false := String.isEmpty_eq_false_iff.mpr named
  rw [start, clean, short, nonempty]
  simp

private theorem start_eq_ok (begun : files.start (some search) name arguments = .ok started) :
    Passable (name :: arguments) ∧ name ≠ "" := by
  unfold start at begun
  cases nul : (name :: arguments).any fun text => text.toList.contains '\x00' with
  | true =>
      rw [nul] at begun
      cases begun
  | false =>
      cases long : (name :: arguments).any fun text =>
          decide (argumentLimit < text.utf8ByteSize) with
      | true =>
          rw [nul, long] at begun
          cases begun
      | false =>
          rw [List.any_eq_false] at nul long
          constructor
          · intro text inside
            exact ⟨by simpa using nul text inside, by simpa using long text inside⟩
          · rintro rfl
            rw [List.any_eq_false.mpr nul, List.any_eq_false.mpr long] at begun
            cases begun

/-- A name with a slash is not searched for. -/
theorem start_of_slash (slash : '/' ∈ name.toList) :
    (∃ started, files.start (some search) name arguments = .ok started ∧ started.file = path) ↔
      Passable (name :: arguments) ∧ files.Starts interpreterLimit name ∧ path = name := by
  have named : name ≠ "" := by
    rintro rfl
    cases slash
  constructor
  · rintro ⟨started, begun, rfl⟩
    obtain ⟨passable, -⟩ := start_eq_ok begun
    rw [start_of_passable passable named, if_pos slash] at begun
    obtain ⟨same, starts⟩ := invoke_eq_ok begun
    exact ⟨passable, starts, same⟩
  · rintro ⟨passable, starts, rfl⟩
    obtain ⟨started, invoked⟩ := starts.exists_invoke path arguments
    refine ⟨started, ?_, (invoke_eq_ok invoked).1⟩
    rw [start_of_passable passable named, if_pos slash, invoked]

/-- A name without a slash is searched for in the directories of the search path. -/
theorem start_of_single
    (absolute : ∀ directory ∈ searchDirectories search, Path.isAbsolute directory = true)
    (single : '/' ∉ name.toList) :
    (∃ started, files.start (some search) name arguments = .ok started ∧ started.file = path) ↔
      (Passable (name :: arguments) ∧ name ≠ "") ∧ ∃ before directory after,
        searchDirectories search = before ++ directory :: after ∧
          (∀ other ∈ before, files.PassesOver name arguments (Path.under other name)) ∧
          files.Starts interpreterLimit (Path.under directory name) ∧
          path = Path.under directory name := by
  have candidates : ((searchDirectories search).map fun directory =>
      if directory.isEmpty then name else directory ++ "/" ++ name) =
        (searchDirectories search).map fun directory => Path.under directory name := by
    refine List.map_congr_left fun directory inside => ?_
    rw [Path.isEmpty_of_isAbsolute (absolute directory inside)]
    rfl
  constructor
  · rintro ⟨started, begun, rfl⟩
    have passable := start_eq_ok begun
    refine ⟨passable, ?_⟩
    rw [start_of_passable passable.1 passable.2, if_neg single, candidates,
      invokeFirst_eq_ok_iff] at begun
    obtain ⟨beforePaths, path, afterPaths, cut, passes, invoked⟩ := begun
    obtain ⟨before, rest, isDirectories, rfl, isRest⟩ := List.map_eq_append_iff.mp cut
    obtain ⟨directory, after, rfl, rfl, rfl⟩ := List.map_eq_cons_iff.mp isRest
    obtain ⟨same, starts⟩ := invoke_eq_ok invoked
    exact ⟨before, directory, after, isDirectories, by simpa using passes, starts, same⟩
  · rintro ⟨passable, before, directory, after, cut, passes, starts, rfl⟩
    obtain ⟨started, invoked⟩ := starts.exists_invoke name arguments
    refine ⟨started, ?_, (invoke_eq_ok invoked).1⟩
    rw [start_of_passable passable.1 passable.2, if_neg single, candidates,
      invokeFirst_eq_ok_iff]
    refine ⟨before.map fun other => Path.under other name, Path.under directory name,
      after.map fun other => Path.under other name, ?_, by simpa using passes, invoked⟩
    rw [cut, List.map_append, List.map_cons]

/-! ## Showing -/

/-- A name of several steps is shown as it is, if there is something by that name. -/
theorem showProgram?_of_steps (many : 1 < Path.stepCount name) :
    files.showProgram? (some search) name = some shown ↔ files.has name = true ∧ shown = name := by
  rw [showProgram?, if_pos many]
  by_cases leads : files.has name <;> simp [leads, eq_comm]

/-- A name of one step is shown as the first file of that name on the search path. -/
theorem showProgram?_of_step (few : ¬ 1 < Path.stepCount name) :
    files.showProgram? (some search) name = some shown ↔ ∃ before directory after,
      searchDirectories search = before ++ directory :: after ∧
        (∀ other ∈ before, files.hasFile (Path.join other name) = false) ∧
        files.hasFile (Path.join directory name) = true ∧ shown = Path.join directory name := by
  rw [showProgram?, if_neg few]
  change ((searchDirectories search).map fun directory => Path.join directory name).find?
    files.hasFile = some shown ↔ _
  rw [List.find?_map, Option.map_eq_some_iff]
  simp only [List.find?_eq_some_iff_append]
  constructor
  · rintro ⟨directory, ⟨leads, before, after, cut, passes⟩, rfl⟩
    exact ⟨before, directory, after, cut, by simpa using passes, leads, rfl⟩
  · rintro ⟨before, directory, after, cut, passes, leads, rfl⟩
    exact ⟨directory, ⟨leads, before, after, cut, by simpa using passes⟩, rfl⟩

section Under

variable {directory : String}

/-- The path of a file is located. -/
theorem exists_locate_of_hasFile (leads : files.hasFile path = true) :
    ∃ place, files.locate path = .ok place := by
  rw [hasFile, node] at leads
  cases located : files.locate path with
  | error cause =>
      rw [located] at leads
      cases leads
  | ok place => exact ⟨place, rfl⟩

/-- The path of a file is the path of something. -/
theorem has_of_hasFile (leads : files.hasFile path = true) : files.has path = true := by
  rw [hasFile] at leads
  rw [has]
  cases isNode : files.node path with
  | error cause =>
      rw [isNode] at leads
      cases leads
  | ok held => rfl

/-- The path of a file is not refused. -/
theorem admitted_of_hasFile (leads : files.hasFile path = true) : ¬ files.Refuses path := by
  obtain ⟨place, located⟩ := exists_locate_of_hasFile leads
  rw [Refuses, located]
  rintro (nul | tooLong)
  · cases nul
  · cases tooLong

/-- A directory has a file of some name whichever way the name is put behind it. -/
theorem hasFile_under (absolute : Path.isAbsolute directory = true) (single : '/' ∉ name.toList)
    (admitted : ¬ files.Refuses (Path.under directory name)) :
    files.hasFile (Path.under directory name) = files.hasFile (Path.join directory name) := by
  rw [hasFile, hasFile, node, node, locate_under absolute single admitted]

/-- A path that ends in a slash, or in a dot behind one, leads to no file. -/
theorem hasFile_of_cut {before last : List Char} (cut : path.toList = before ++ '/' :: last)
    (single : '/' ∉ last) (stays : Path.isStep (String.ofList last) = false) :
    files.hasFile path = false := by
  rw [hasFile]
  cases leads : files.node path with
  | error problem => rfl
  | ok held =>
      have isDirectory := isDirectory_of_cut cut single stays leads
      cases held with
      | directory entries => rfl
      | file | program | device => cases isDirectory

/-- A file in a directory has a name. -/
theorem named_of_hasFile_under (leads : files.hasFile (Path.under directory name) = true) :
    name ≠ "" := by
  rintro rfl
  have cut : (Path.under directory "").toList = directory.toList ++ '/' :: [] := by
    simp [Path.under]
  cases leads.symm.trans (hasFile_of_cut cut (by simp) rfl)

end Under

/-- A name of one step is shown if there is a file of that name. -/
theorem exists_shown (few : ¬ 1 < Path.stepCount name) {directory : String}
    (inside : directory ∈ searchDirectories search)
    (leads : files.hasFile (Path.join directory name) = true) :
    ∃ shown, files.showProgram? (some search) name = some shown := by
  rw [showProgram?, if_neg few, ← Option.isSome_iff_exists]
  change (((searchDirectories search).map fun directory => Path.join directory name).find?
    files.hasFile).isSome = true
  rw [List.find?_isSome]
  exact ⟨_, List.mem_map_of_mem inside, leads⟩

/-- A name of one step that has a slash is the name of no file. -/
theorem hasFile_of_slash (slash : '/' ∈ name.toList) (few : ¬ 1 < Path.stepCount name)
    (ends : ∃ front, path.toList = front ++ name.toList) : files.hasFile path = false := by
  obtain ⟨front, ends⟩ := ends
  obtain ⟨before, last, cut, single⟩ := Path.exists_cut slash
  rw [cut, ← List.append_assoc] at ends
  exact hasFile_of_cut ends single (Path.not_isStep_of_cut cut single (Nat.not_lt.mp few))

end Files

end FlowCheck
