import FlowCheck.Files.Tree
import Mathlib.Tactic.Common

/-! # Where paths lead

An absolute path leads to the same place from every directory, and so does one with a slash more in
front of its name. A path that ends in a slash, or in a dot behind one, leads to a directory or
nowhere.
-/

namespace FlowCheck

namespace Path

/-! ## Pieces -/

private theorem split_ne_nil (chars : List Char) : split chars ≠ [] := by
  cases chars with
  | nil => exact List.cons_ne_nil _ _
  | cons c rest =>
      unfold split
      split
      · exact List.cons_ne_nil _ _
      · split <;> exact List.cons_ne_nil _ _

private theorem split_of_notMem {name : List Char} (single : '/' ∉ name) : split name = [name] := by
  induction name with
  | nil => rfl
  | cons c rest ih =>
      rw [List.mem_cons, not_or] at single
      rw [split, if_neg (Ne.symm single.1), ih single.2]

/-- A path is split at every slash, so the parts around one are split on their own. -/
theorem split_append (before after : List Char) :
    split (before ++ '/' :: after) = split before ++ split after := by
  induction before with
  | nil => rfl
  | cons c rest ih =>
      rw [List.cons_append, split, split, ih]
      by_cases slash : c = '/'
      · rw [if_pos slash, if_pos slash, List.cons_append]
      · rw [if_neg slash, if_neg slash]
        obtain ⟨piece, more, cut⟩ := List.exists_cons_of_ne_nil (split_ne_nil rest)
        rw [cut, List.cons_append, List.cons_append]

/-- Behind its last slash stands the last piece of a path. -/
theorem pieces_of_cut {path : String} {before name : List Char}
    (cut : path.toList = before ++ '/' :: name) (single : '/' ∉ name) :
    pieces path = (split before).map String.ofList ++ [String.ofList name] := by
  rw [pieces, cut, split_append, split_of_notMem single, List.map_append, List.map_singleton]

/-- A path with a slash is cut at its last one. -/
theorem exists_cut {chars : List Char} (slash : '/' ∈ chars) :
    ∃ before name, chars = before ++ '/' :: name ∧ '/' ∉ name := by
  obtain ⟨name, before, cut, single⟩ :=
    List.eq_append_cons_of_mem (List.mem_reverse.mpr slash)
  refine ⟨before.reverse, name.reverse, ?_, by simpa using single⟩
  rw [← List.reverse_reverse chars, cut]
  simp

/-! ## Steps -/

/-- What stands in front of the first slash of a path always counts as a step. -/
theorem stepCount_of_pieces {path first second : String} {rest : List String}
    (isPieces : pieces path = first :: second :: rest) :
    stepCount path = 1 + ((second :: rest).filter isStep).length := by
  by_cases isDot : first = "."
  · subst isDot
    rw [stepCount, parts, isPieces]
    rfl
  · by_cases isEmpty : first = ""
    · subst isEmpty
      rw [stepCount, parts, isPieces]
      rfl
    · have step : isStep first = true := by simp [isStep, isDot, isEmpty]
      have relative : parts path = (.relative, first :: second :: rest) := by
        rw [parts, isPieces]
        split
        · next same => exact (isDot (List.cons.inj same).1).elim
        · next same => exact (isEmpty (List.cons.inj same).1).elim
        · rfl
      rw [stepCount, relative, List.filter_cons_of_pos step, List.length_cons]
      simp only [↓reduceIte]
      omega

/-- A path without a slash has one step at most. -/
theorem stepCount_of_notMem {path : String} (single : '/' ∉ path.toList) : stepCount path ≤ 1 := by
  have alone : pieces path = [path] := by
    rw [pieces, split_of_notMem single, List.map_singleton, String.ofList_toList]
  by_cases isDot : path = "."
  · subst isDot
    decide +kernel
  · have relative : parts path = (.relative, [path]) := by
      rw [parts, alone]
      split
      · next same => exact (isDot (List.cons.inj same).1).elim
      · next same => cases (List.cons.inj same).2
      · rfl
    rw [stepCount, relative]
    simpa using List.length_filter_le isStep [path]

/-- The last piece of a path with a slash is no step, if the path has one step at most. -/
theorem not_isStep_of_cut {path : String} {before name : List Char}
    (cut : path.toList = before ++ '/' :: name) (single : '/' ∉ name)
    (few : stepCount path ≤ 1) : isStep (String.ofList name) = false := by
  have isPieces := pieces_of_cut cut single
  obtain ⟨first, more, isBefore⟩ := List.exists_cons_of_ne_nil (split_ne_nil before)
  rw [isBefore, List.map_cons, List.cons_append] at isPieces
  obtain ⟨second, rest, isRest⟩ : ∃ second rest,
      more.map String.ofList ++ [String.ofList name] = second :: rest :=
    List.exists_cons_of_ne_nil (by simp)
  rw [isRest] at isPieces
  rw [stepCount_of_pieces isPieces] at few
  have none : (second :: rest).filter isStep = [] := by
    apply List.eq_nil_of_length_eq_zero
    omega
  have inside : String.ofList name ∈ second :: rest := by
    rw [← isRest]
    simp
  simpa using List.filter_eq_nil_iff.mp none _ inside

/-- The path of a name in a directory, always with a slash between them. -/
def under (directory name : String) : String :=
  directory ++ "/" ++ name

section Under

variable {directory name : String}

/-- A joined path ends as the second path does. -/
theorem exists_join (directory name : String) :
    ∃ front, (join directory name).toList = front ++ name.toList := by
  unfold join
  split
  · exact ⟨[], rfl⟩
  · split
    · exact ⟨directory.toList, String.toList_append⟩
    · exact ⟨(directory ++ "/").toList, String.toList_append⟩

private theorem exists_of_isAbsolute {path : String} (absolute : isAbsolute path = true) :
    ∃ rest, path.toList = '/' :: rest := by
  rw [isAbsolute, beq_iff_eq] at absolute
  obtain ⟨rest, cut⟩ := List.head?_eq_some_iff.mp absolute
  exact ⟨rest, cut⟩

/-- A path that starts at the root is not empty. -/
theorem isEmpty_of_isAbsolute {path : String} (absolute : isAbsolute path = true) :
    path.isEmpty = false := by
  rw [String.isEmpty_eq_false_iff]
  rintro rfl
  obtain ⟨rest, cut⟩ := exists_of_isAbsolute absolute
  cases cut

private theorem isAbsolute_of_append {path other : String} (absolute : isAbsolute path = true) :
    isAbsolute (path ++ other) = true := by
  obtain ⟨rest, cut⟩ := exists_of_isAbsolute absolute
  rw [isAbsolute, String.toList_append, cut]
  rfl

private theorem isAbsolute_of_notMem (single : '/' ∉ name.toList) : isAbsolute name = false := by
  by_contra absolute
  rw [Bool.not_eq_false] at absolute
  obtain ⟨rest, cut⟩ := exists_of_isAbsolute absolute
  exact single (cut ▸ List.mem_cons_self)

/-- The name is joined to a directory by a slash, unless the directory ends in one. -/
theorem join_cases (absolute : isAbsolute directory = true) (single : '/' ∉ name.toList) :
    join directory name = under directory name ∨
      join directory name = directory ++ name ∧ ∃ before, directory.toList = before ++ ['/'] := by
  unfold join
  rw [isAbsolute_of_notMem single, isEmpty_of_isAbsolute absolute]
  by_cases ends : directory.toList.getLast? = some '/'
  · right
    refine ⟨by simp [ends], ?_⟩
    obtain ⟨before, cut⟩ := List.getLast?_eq_some_iff.mp ends
    exact ⟨before, cut⟩
  · left
    simp [ends, under]

private theorem join_isAbsolute (absolute : isAbsolute directory = true)
    (single : '/' ∉ name.toList) : isAbsolute (join directory name) = true := by
  rcases join_cases absolute single with same | ⟨joined, -⟩
  · rw [same, under, String.append_assoc]
    exact isAbsolute_of_append absolute
  · rw [joined]
    exact isAbsolute_of_append absolute

/-- What is under a directory whose path starts at the root has such a path too. -/
theorem under_isAbsolute (absolute : isAbsolute directory = true) :
    isAbsolute (under directory name) = true := by
  rw [under, String.append_assoc]
  exact isAbsolute_of_append absolute

/-- The two paths of a name in a directory have the same pieces, apart from one that is empty. -/
theorem pieces_under (absolute : isAbsolute directory = true) (single : '/' ∉ name.toList) :
    ∃ before, pieces (join directory name) = before ++ [name] ∧
      (pieces (under directory name) = before ++ [name] ∨
        pieces (under directory name) = before ++ ["", name]) := by
  have isUnder : pieces (under directory name) =
      (split directory.toList).map String.ofList ++ [name] := by
    have cut : (under directory name).toList = directory.toList ++ '/' :: name.toList := by
      simp [under]
    rw [pieces_of_cut cut single, String.ofList_toList]
  rcases join_cases absolute single with same | ⟨joined, before, ends⟩
  · rw [same]
    exact ⟨_, isUnder, .inl isUnder⟩
  · refine ⟨(split before).map String.ofList, ?_, .inr ?_⟩
    · have cut : (join directory name).toList = before ++ '/' :: name.toList := by
        rw [joined, String.toList_append, ends, List.append_assoc]
        rfl
      rw [pieces_of_cut cut single, String.ofList_toList]
    · rw [isUnder, ends, split_append, List.map_append, List.append_assoc]
      rfl

/-- The joined path is the shorter one. -/
theorem join_le_under (absolute : isAbsolute directory = true) (single : '/' ∉ name.toList) :
    (join directory name).utf8ByteSize ≤ (under directory name).utf8ByteSize ∧
      ('\x00' ∈ (join directory name).toList ↔ '\x00' ∈ (under directory name).toList) := by
  rcases join_cases absolute single with same | ⟨joined, -⟩
  · rw [same]
    exact ⟨Nat.le_refl _, Iff.rfl⟩
  · rw [joined]
    constructor
    · simp only [under, String.utf8ByteSize_append]
      omega
    · simp [under]

end Under

end Path

/-! ## Following paths -/

namespace Files

variable {files : Files} {path : String} {place : Place}

/-- The same files, seen from another directory. -/
def seenFrom (files : Files) (place : Place) : Files :=
  { files with directory := place }

/-- The system refuses a path as it is, whatever files there are on its way. -/
def Refuses (files : Files) (path : String) : Prop :=
  files.locate path = .error .nulInPath ∨ files.locate path = .error .nameTooLong

/-- A path that starts at the root is followed in the same way from everywhere. -/
theorem locate_seenFrom (absolute : Path.isAbsolute path = true) (directory : Place) :
    (files.seenFrom directory).locate path = files.locate path := by
  unfold locate
  rw [absolute]
  rfl

private theorem step_eq_ok {piece : String} {next : Place}
    (stepped : files.step place piece = .ok next) :
    ∃ entries, files.root.get? place = some (.directory entries) := by
  unfold step at stepped
  split at stepped
  · next entries held => exact ⟨entries, held⟩
  · cases stepped
  · cases stepped

/-- A piece that is no step stays where it is, and only a directory can be stayed in. -/
theorem step_of_not_isStep {piece : String} (stays : Path.isStep piece = false) {next : Place}
    (stepped : files.step place piece = .ok next) : next = place := by
  obtain ⟨entries, held⟩ := step_eq_ok stepped
  rw [step, held] at stepped
  simp only [stays, Bool.not_false, ↓reduceIte] at stepped
  exact (Except.ok.inj stepped).symm

/-- A slash more makes no difference to the piece behind it. -/
theorem step_bind_step (piece : String) :
    (files.step place "" >>= fun next => files.step next piece) = files.step place piece := by
  cases held : files.root.get? place with
  | none =>
      rw [step, step, held]
      rfl
  | some node =>
      cases node with
      | directory entries =>
          have stays : files.step place "" = .ok place := by
            rw [step, held]
            rfl
          rw [stays]
          rfl
      | _ =>
          rw [step, step, held]
          rfl

/-- A path that starts at the root leads where its pieces lead, if it can be used at all. -/
theorem locate_of_isAbsolute (absolute : Path.isAbsolute path = true) :
    files.locate path =
      if '\x00' ∈ path.toList then .error .nulInPath
      else if pathLimit ≤ path.utf8ByteSize then .error .nameTooLong
      else (Path.pieces path).foldlM files.step [] := by
  rw [locate, Path.isEmpty_of_isAbsolute absolute, absolute]
  simp

/-- A path leads to what is held at the place it is located at. -/
theorem node_eq_ok_iff {held : Node} :
    files.node path = .ok held ↔
      ∃ place, files.locate path = .ok place ∧ files.root.get? place = some held := by
  unfold Files.node
  cases files.locate path with
  | error cause => simp [bind, Except.bind]
  | ok place =>
      simp only [bind, Except.bind, Except.ok.injEq, exists_eq_left']
      cases files.root.get? place with
      | none => simp
      | some node => simp

/-- A path that ends in a slash, or in a dot behind one, leads to a directory or nowhere. -/
theorem isDirectory_of_cut {before name : List Char} (cut : path.toList = before ++ '/' :: name)
    (single : '/' ∉ name) (stays : Path.isStep (String.ofList name) = false) {held : Node}
    (leads : files.node path = .ok held) : held.isDirectory = true := by
  obtain ⟨place, located, isHeld⟩ := node_eq_ok_iff.mp leads
  have followed : (Path.pieces path).foldlM files.step
      (if Path.isAbsolute path then [] else files.directory) = .ok place := by
    unfold locate at located
    split at located
    · cases located
    · split at located
      · cases located
      · split at located
        · cases located
        · exact located
  rw [Path.pieces_of_cut cut single, List.foldlM_append] at followed
  -- All but the last piece lead to a directory, and the last one stays there.
  cases middle : ((Path.split before).map String.ofList).foldlM files.step
      (if Path.isAbsolute path then [] else files.directory) with
  | error cause =>
      rw [middle] at followed
      cases followed
  | ok next =>
      rw [middle] at followed
      have stepped : files.step next (String.ofList name) = .ok place := by
        change [String.ofList name].foldlM files.step next = .ok place at followed
        simpa only [List.foldlM_cons, List.foldlM_nil, bind_pure] using followed
      obtain ⟨entries, isDirectory⟩ := step_eq_ok stepped
      obtain rfl := step_of_not_isStep stays stepped
      obtain rfl := Option.some.inj (isHeld.symm.trans isDirectory)
      rfl

section Under

variable {directory name : String}

private theorem follow_under (files : Files) (absolute : Path.isAbsolute directory = true)
    (single : '/' ∉ name.toList) :
    (Path.pieces (Path.under directory name)).foldlM files.step [] =
      (Path.pieces (Path.join directory name)).foldlM files.step [] := by
  obtain ⟨before, joined, same | more⟩ := Path.pieces_under absolute single
  · rw [joined, same]
  · rw [joined, more, List.foldlM_append, List.foldlM_append]
    congr 1
    funext place
    simp only [List.foldlM_cons, List.foldlM_nil, bind_pure]
    exact step_bind_step name

/-- A name in a directory leads to the same place by both paths, unless the longer one is refused.
-/
theorem locate_under (absolute : Path.isAbsolute directory = true) (single : '/' ∉ name.toList)
    (admitted : ¬ files.Refuses (Path.under directory name)) :
    files.locate (Path.under directory name) = files.locate (Path.join directory name) := by
  obtain ⟨shorter, sameNul⟩ := Path.join_le_under absolute single
  have follow := follow_under files absolute single
  rw [Refuses, not_or] at admitted
  rw [locate_of_isAbsolute (Path.under_isAbsolute absolute)] at admitted ⊢
  rw [locate_of_isAbsolute (Path.join_isAbsolute absolute single), ← follow]
  by_cases nul : '\x00' ∈ (Path.under directory name).toList
  · rw [if_pos nul, if_pos (sameNul.mpr nul)]
  · rw [if_neg nul] at admitted ⊢
    rw [if_neg fun inside => nul (sameNul.mp inside)]
    by_cases tooLong : pathLimit ≤ (Path.under directory name).utf8ByteSize
    · rw [if_pos tooLong] at admitted
      exact (admitted.2 rfl).elim
    · rw [if_neg tooLong, if_neg fun large => tooLong (Nat.le_trans large shorter)]

end Under

/-- What can stop the search for a place. -/
theorem step_error {piece : String} {cause : SystemError}
    (failed : files.step place piece = .error cause) :
    cause = .notFound ∨ cause = .notDirectory ∨ cause = .nameTooLong := by
  unfold step at failed
  split at failed
  · split at failed
    · cases failed
    · split at failed
      · cases failed
      · split at failed
        · exact .inr (.inr (Except.error.inj failed).symm)
        · split at failed
          · cases failed
          · exact .inl (Except.error.inj failed).symm
  · exact .inr (.inl (Except.error.inj failed).symm)
  · exact .inl (Except.error.inj failed).symm

/-- The reasons for which a path cannot be followed. -/
theorem follow_error {pieces : List String} {cause : SystemError}
    (failed : pieces.foldlM files.step place = .error cause) :
    cause = .notFound ∨ cause = .notDirectory ∨ cause = .nameTooLong := by
  induction pieces generalizing place with
  | nil => cases failed
  | cons piece pieces ih =>
      rw [List.foldlM_cons] at failed
      cases stepped : files.step place piece with
      | error other =>
          rw [stepped] at failed
          obtain rfl := Except.error.inj failed
          exact step_error stepped
      | ok next =>
          rw [stepped] at failed
          exact ih failed

/-- Apart from paths that are refused, only what is missing or no directory stops a search. -/
theorem locate_error {cause : SystemError} (failed : files.locate path = .error cause)
    (admitted : ¬ files.Refuses path) : cause = .notFound ∨ cause = .notDirectory := by
  rw [Refuses, failed, not_or] at admitted
  have possible : cause = .notFound ∨ cause = .notDirectory ∨ cause = .nameTooLong ∨
      cause = .nulInPath := by
    unfold locate at failed
    split at failed
    · exact .inl (Except.error.inj failed).symm
    · split at failed
      · exact .inr (.inr (.inr (Except.error.inj failed).symm))
      · split at failed
        · exact .inr (.inr (.inl (Except.error.inj failed).symm))
        · rcases follow_error failed with missing | other | tooLong
          · exact .inl missing
          · exact .inr (.inl other)
          · exact .inr (.inr (.inl tooLong))
  rcases possible with missing | other | rfl | rfl
  · exact .inl missing
  · exact .inr other
  · exact (admitted.2 rfl).elim
  · exact (admitted.1 rfl).elim

end Files

end FlowCheck
