import FlowCheck.Ui.Terminal

/-! # What acts show

Acts are looked at one kind at a time. Standard output is the texts that are emitted, one after the
other: neither the mode nor the theme has a say in it.
-/

namespace FlowCheck

namespace Act

/-- The text of an act. -/
def text : Act → String
  | message text | success text | warning text | error text | emit text | spin text => text

/-- The texts of the acts of one kind, in order. -/
def texts (kind : String → Act) (acts : List Act) : List String :=
  (acts.filter fun act => act = kind act.text).map text

/-- The texts of some kind in two lists are those in the first and those in the second. -/
theorem texts_append (kind : String → Act) (acts others : List Act) :
    texts kind (acts ++ others) = texts kind acts ++ texts kind others := by
  rw [texts, List.filter_append, List.map_append, ← texts, ← texts]

/-- The text of a first act of the kind is among them. -/
theorem texts_cons_of_eq {kind : String → Act} {act : Act} (same : act = kind act.text)
    (acts : List Act) : texts kind (act :: acts) = act.text :: texts kind acts := by
  rw [texts, List.filter_cons_of_pos (by simpa using same), List.map_cons, ← texts]

/-- The text of a first act of another kind is not among them. -/
theorem texts_cons_of_ne {kind : String → Act} {act : Act} (other : act ≠ kind act.text)
    (acts : List Act) : texts kind (act :: acts) = texts kind acts := by
  rw [texts, List.filter_cons_of_neg (by simpa using other), ← texts]

end Act

namespace Written

private theorem output_add_of_ne {act : Act} (other : act ≠ .emit act.text) (written : Written)
    (theme : Theme) (mode : OutputMode) : (written.add theme mode act).output = written.output := by
  have ofStatus (line : String) : (add.status written mode line).output = written.output := by
    unfold add.status
    split <;> rfl
  cases act with
  | emit => exact (other rfl).elim
  | message | success | warning => exact ofStatus _
  | error | spin => rfl

private theorem output_foldl (theme : Theme) (mode : OutputMode) (acts : List Act)
    (written : Written) :
    (acts.foldl (fun written act => written.add theme mode act) written).output =
      written.output ++ String.join (Act.texts .emit acts) := by
  induction acts generalizing written with
  | nil => exact String.append_empty.symm
  | cons act acts ih =>
      rw [List.foldl_cons, ih]
      by_cases emits : act = .emit act.text
      · have added : (written.add theme mode act).output = written.output ++ act.text := by
          rw [emits]
          rfl
        rw [added, Act.texts_cons_of_eq emits, String.join_cons, String.append_assoc]
      · rw [output_add_of_ne emits, Act.texts_cons_of_ne emits]

/-- What is written on standard output is what the acts emit. -/
theorem output_ofActs (theme : Theme) (mode : OutputMode) (acts : List Act) :
    (ofActs theme mode acts).output = String.join (Act.texts .emit acts) :=
  (output_foldl theme mode acts {}).trans String.empty_append

private theorem quiet_foldl (theme : Theme) (acts : List Act) (written : Written) :
    (acts.foldl (fun written act => written.add theme .quiet act) written).errors =
      written.errors ++
        String.join ((Act.texts .error acts).map fun text => s!"{theme.errorLine text}\n") := by
  induction acts generalizing written with
  | nil => exact String.append_empty.symm
  | cons act acts ih =>
      rw [List.foldl_cons, ih]
      by_cases fails : act = .error act.text
      · have added : (written.add theme .quiet act).errors =
            written.errors ++ s!"{theme.errorLine act.text}\n" := by
          rw [fails]
          rfl
        rw [added, Act.texts_cons_of_eq fails, List.map_cons, String.join_cons, String.append_assoc]
      · have unchanged : (written.add theme .quiet act).errors = written.errors := by
          cases act with
          | error text => exact (fails rfl).elim
          | message | success | warning | emit | spin => rfl
        rw [unchanged, Act.texts_cons_of_ne fails]

/-- In quiet mode a terminal gets the emitted texts as they are, and a line for each error. -/
theorem ofActs_quiet (theme : Theme) (acts : List Act) :
    ofActs theme .quiet acts =
      ⟨String.join (Act.texts .emit acts),
        String.join ((Act.texts .error acts).map fun text => s!"{theme.errorLine text}\n")⟩ := by
  have errors : (ofActs theme .quiet acts).errors = _ :=
    (quiet_foldl theme acts {}).trans String.empty_append
  rw [← output_ofActs theme .quiet acts, ← errors]

end Written

end FlowCheck
