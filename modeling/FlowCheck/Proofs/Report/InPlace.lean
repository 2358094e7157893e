import FlowCheck.Proofs.Command.Outcomes
import FlowCheck.Proofs.Coordinates

/-! # Diagnostics are shown in place

A report locates what lies outside its text at the beginning, and shows no snippet of it. Neither is
ever needed after a check. A range is only placed within the text, every offset of a text has a
position, and every position is on a line. So each diagnostic that a check has found, whatever the
checker said, is shown with the locations of its own two ends and with the line that it starts on.
-/

namespace FlowCheck

/-! ## Where diagnostics lie -/

/-- An offset is on a line of a document. -/
def Document.Holds (doc : Document) (offset : Nat) : Prop :=
  ∃ position line, doc.position? offset = some position ∧ doc.line? position.line = some line

/-- A text holds the offsets up to its length. -/
theorem Document.holds_of_le {doc : Document} {offset : Nat} (inText : offset ≤ doc.length) :
    doc.Holds offset := by
  obtain ⟨position, isPosition⟩ := exists_position inText
  obtain ⟨line, isLine, -⟩ := position?_eq_some_iff.mp isPosition
  exact ⟨position, line, isPosition, isLine⟩

/-- A diagnostic lies in a text: its ends are in order and not behind the end of the text, and both
are on a line of the text's document. -/
structure Diagnostic.LiesIn (diagnostic : Diagnostic) (text : String) : Prop where
  ordered : diagnostic.range.start ≤ diagnostic.range.stop
  inText : diagnostic.range.stop ≤ text.length
  start : (Document.ofString text).Holds diagnostic.range.start
  stop : (Document.ofString text).Holds diagnostic.range.stop

/-- Whatever a response says, its diagnostics lie in the text that they are placed in. -/
theorem Target.liesIn_of_mem {target : Target} {request : Request} {issues : List Issue}
    {diagnostic : Diagnostic}
    (member : diagnostic ∈ (target.diagnostics request.lineIndex issues).value) :
    diagnostic.LiesIn request.text := by
  obtain ⟨ordered, inDocument⟩ := within_of_mem member
  refine ⟨ordered, ?_, Document.holds_of_le (Nat.le_trans ordered inDocument),
    Document.holds_of_le inDocument⟩
  rwa [(Document.ofString request.text).length_eq, Document.ofString, String.length_toList]
    at inDocument

/-- Raw output makes the diagnostics of the verdict that it is. -/
theorem Settings.diagnosticsOf_value (settings : Settings) (index : LineIndex) (request : Request)
    (raw : String) :
    (settings.diagnosticsOf index request raw).value =
      (Verdict.decode raw).map fun verdict =>
        ((settings.target request).diagnostics index verdict.issues).value := by
  unfold Settings.diagnosticsOf
  rw [← Verdict.read_value]
  rcases Verdict.read raw with ⟨failure | verdict, events⟩ <;> rfl

/-- The diagnostics of a raw output lie in the text. -/
theorem Settings.liesIn_of_diagnosticsOf {settings : Settings} {request : Request} {raw : String}
    {diagnostics : List Diagnostic}
    (translated : (settings.diagnosticsOf request.lineIndex request raw).value = .ok diagnostics) :
    ∀ diagnostic ∈ diagnostics, diagnostic.LiesIn request.text := by
  rw [diagnosticsOf_value] at translated
  cases decoded : Verdict.decode raw with
  | error failure => rw [decoded] at translated; cases translated
  | ok verdict =>
      rw [decoded] at translated
      obtain rfl := Except.ok.inj translated
      exact fun diagnostic member => Target.liesIn_of_mem member

/-- The diagnostics of a check lie in the text. -/
theorem Settings.liesIn_of_check {settings : Settings} {request : Request}
    {launch : Launch → Except Failure Finished} {result : CheckResult}
    (checked : (settings.check launch request.lineIndex request).value = .ok result) :
    ∀ diagnostic ∈ result.diagnostics, diagnostic.LiesIn request.text := by
  rw [check_value] at checked
  cases ran : launch (settings.launch request) with
  | error failure => rw [ran] at checked; cases checked
  | ok finished =>
      rw [ran, Except.bind] at checked
      cases decoded : Verdict.decode finished.output with
      | error failure => rw [decoded] at checked; cases checked
      | ok verdict =>
          rw [decoded] at checked
          obtain rfl := Except.ok.inj checked
          exact fun diagnostic member => Target.liesIn_of_mem member

/-! ## How they are shown -/

namespace Report

variable {report : Report} {diagnostic : Diagnostic}

/-- A report locates an offset at its own position, from one on. -/
def LocatesTruly (report : Report) (offset : Nat) : Prop :=
  ∃ position, report.document.position? offset = some position ∧
    report.locate offset = ⟨position.line + 1, position.column + 1⟩

/-- The snippet of a range shows, behind its number, the line that the range starts on, and carets
on the line below. -/
def ShowsLine (report : Report) (range : TextRange) : Prop :=
  ∃ position line, report.document.position? range.start = some position ∧
    report.document.line? position.line = some line ∧
    ∀ colours, ∃ above below,
      report.snippet colours range =
        above ++ (Nat.toDigits 10 (position.line + 1) ++ [' '] ++ painted colours .bar ['|'] ++
          [' '] ++ trimReturns line ++ ['\n']) ++ below ∧ '^' ∈ below

/-- What a report says of a diagnostic is where it starts and, below that, the snippet. -/
def Tells (report : Report) (colours : Bool) (diagnostic : Diagnostic) (text : List Char) : Prop :=
  let location := report.locate diagnostic.range.start
  ∃ above below,
    text = above ++ s!"\n  --> {report.file}:{location.line}:{location.column}\n".toList ++
      report.snippet colours diagnostic.range ++ below

private theorem mem_painted {colours : Bool} {style : Style} {text : List Char} {c : Char}
    (inside : c ∈ text) : c ∈ painted colours style text := by
  unfold painted Style.paint
  split
  · split
    · exact inside
    · exact List.mem_append_left _ (List.mem_append_right _ inside)
  · exact inside

/-- An offset in the text is located where it is. -/
theorem locatesTruly_of_holds {offset : Nat} (held : report.document.Holds offset) :
    report.LocatesTruly offset := by
  obtain ⟨position, _, isPosition, -⟩ := held
  exact ⟨position, isPosition, locate_of_position? isPosition⟩

/-- The line of a range that begins in the text is shown. -/
theorem showsLine_of_holds {range : TextRange} (held : report.document.Holds range.start) :
    report.ShowsLine range := by
  obtain ⟨position, line, isPosition, isLine⟩ := held
  refine ⟨position, line, isPosition, isLine, fun colours => ?_⟩
  unfold snippet
  rw [isPosition]
  dsimp only
  rw [isLine]
  dsimp only
  let margin := List.replicate (Nat.toDigits 10 (position.line + 1)).length ' '
  let bar := painted colours .bar ['|']
  let carets := List.replicate (underlineWidth line.length position.column range) '^'
  -- There is a caret even below an empty range.
  have caret : '^' ∈ carets := by
    refine List.mem_replicate.mpr ⟨?_, rfl⟩
    have positive : 1 ≤ underlineWidth line.length position.column range := Nat.le_max_left ..
    omega
  refine ⟨[' '] ++ margin ++ [' '] ++ bar ++ ['\n'] ++ [' '],
    ([' '] ++ margin ++ [' '] ++ bar ++ [' '] ++ List.replicate position.column ' ') ++
      (painted colours .caret carets ++ ['\n']), ?_, ?_⟩
  · simp only [List.append_assoc]
    rfl
  · exact List.mem_append_right _ (List.mem_append_left _ (mem_painted caret))

/-- The entry of a diagnostic tells it. -/
theorem tells_entry (colours : Bool) (diagnostic : Diagnostic) :
    report.Tells colours diagnostic (report.entry colours diagnostic) := by
  refine ⟨painted colours diagnostic.severity.style diagnostic.severity.name.toList ++
    s!": {diagnostic.message}".toList, ['\n'], ?_⟩
  unfold entry
  simp only [String.toList_append, List.append_assoc]

/-- A report for people tells all its diagnostics. -/
theorem tells_human (colours : Bool) (member : diagnostic ∈ report.diagnostics) :
    report.Tells colours diagnostic (report.human colours).toList := by
  obtain ⟨earlier, later, split⟩ := List.append_of_mem member
  obtain ⟨above, below, entry⟩ := report.tells_entry colours diagnostic
  refine ⟨earlier.flatMap (report.entry colours) ++ above,
    below ++ (later.flatMap (report.entry colours) ++ report.totals), ?_⟩
  rw [human, String.toList_ofList, split, List.flatMap_append, List.flatMap_cons, entry]
  simp only [List.append_assoc]

/-- A report shows a diagnostic in place: both ends where they are, and the line of the start. -/
structure ShowsInPlace (report : Report) (diagnostic : Diagnostic) : Prop where
  start : report.LocatesTruly diagnostic.range.start
  stop : report.LocatesTruly diagnostic.range.stop
  line : report.ShowsLine diagnostic.range

end Report

/-- **A check shows every diagnostic in place.** Its diagnostics, and those of any raw output, lie
in the text of the request. The report that the command emits for people or for tools holds all of
them, and neither locates an end of one at the beginning for want of a position nor leaves out a
snippet. -/
theorem diagnostics_shown_in_place (settings : Settings) (request : Request)
    (launch : Launch → Except Failure Finished) :
    (∀ raw diagnostics,
      (settings.diagnosticsOf request.lineIndex request raw).value = .ok diagnostics →
        ∀ diagnostic ∈ diagnostics, diagnostic.LiesIn request.text) ∧
    ∀ result, (settings.check launch request.lineIndex request).value = .ok result →
      (∀ diagnostic ∈ result.diagnostics, diagnostic.LiesIn request.text) ∧
      let report := Report.mk request.shownName (Document.ofString request.text) result.diagnostics
      (∀ diagnostic ∈ result.diagnostics, report.ShowsInPlace diagnostic) ∧
      ∀ (options : CheckOptions) (host : Host) (line : CommandLine) (mode : OutputMode),
        options.Resolves host line request settings →
          let emitted := Act.texts .emit (options.run host launch line mode).value.acts
          (options.format = .human → result.diagnostics ≠ [] →
            ∃ told, emitted = [told] ∧ ∀ diagnostic ∈ result.diagnostics,
              report.Tells (host.colours && !line.noColour) diagnostic told.toList) ∧
          (options.format = .json → emitted = [report.json]) := by
  refine ⟨fun raw diagnostics translated => Settings.liesIn_of_diagnosticsOf translated,
    fun result checked => ?_⟩
  have lie := Settings.liesIn_of_check checked
  refine ⟨lie, fun diagnostic member => ?_, fun options host line mode resolves => ?_⟩
  · obtain ⟨-, -, start, stop⟩ := lie diagnostic member
    exact ⟨Report.locatesTruly_of_holds start, Report.locatesTruly_of_holds stop,
      Report.showsLine_of_holds start⟩
  · let colours := host.colours && !line.noColour
    have emits : Act.texts .emit
        (options.present mode colours request.shownName request.text (.ok result)).1 = _ :=
      CheckOptions.texts_emit_present
    rw [resolves.run_value launch mode, checked]
    dsimp only at emits ⊢
    rw [Act.texts, List.filter_cons_of_neg (by simp [Act.text]), ← Act.texts, emits]
    refine ⟨fun human something => ?_, fun json => ?_⟩
    · rw [human, if_neg fun empty => something (Report.render_eq_empty_iff.mp empty).2]
      exact ⟨_, rfl, fun diagnostic member => Report.tells_human _ member⟩
    · rw [json, Report.render, if_neg (Report.json_ne_empty _)]

/-- A host with a file of three lines, of which the first ends in a carriage return and the last is
empty. -/
def threeLineHost : Host where
  files := ⟨.directory [("p", .directory [("a.js", .file "é\r\nab\n".toUTF8 false)])], []⟩

/-- What a check of that file asks for. -/
def threeLineRequest : Request :=
  ⟨"é\r\nab\n", "/p/a.js", "/p"⟩

/-- A run of a checker that found something at the end of the text and on a line that is missing. -/
def staleRun : Finished where
  output := "\x7b\"passed\":false,\"errors\":[\x7b\"message\":[" ++
    "\x7b\"descr\":\"last\",\"path\":\"-\",\"line\":2,\"endline\":3,\"start\":2,\"end\":0\x7d," ++
    "\x7b\"descr\":\"stale\",\"path\":\"-\",\"line\":2,\"endline\":9,\"start\":-4,\"end\":99\x7d" ++
    "]\x7d]\x7d"
  exitCode := some 2

private theorem threeLineRequest_resolves : oneFileCheck.Resolves threeLineHost
    { command := .check oneFileCheck } threeLineRequest {} where
  located := by decide +kernel
  inProject := by decide +kernel
  loaded := by decide +kernel
  isText := by decide +kernel

/-- Of a stale answer the part that still has a place is shown, up to the empty last line. -/
theorem diagnostics_shown_in_place_of_stale_run :
    let diagnostic : Diagnostic := ⟨⟨4, 6⟩, .error, "last. stale"⟩
    let report := Report.mk "a.js" (Document.ofString "é\r\nab\n") [diagnostic]
    diagnostic.LiesIn "é\r\nab\n" ∧ report.ShowsInPlace diagnostic ∧
      ∃ told, Act.texts .emit (oneFileCheck.run threeLineHost (fun _ => .ok staleRun)
          { command := .check oneFileCheck } .normal).value.acts = [told] ∧
        report.Tells false diagnostic told.toList := by
  intro diagnostic report
  have checked : (Settings.check {} (fun _ => .ok staleRun) threeLineRequest.lineIndex
      threeLineRequest).value = .ok ⟨[diagnostic], false, some 2, 0⟩ := by decide +kernel
  obtain ⟨lie, inPlace, emits⟩ :=
    (diagnostics_shown_in_place {} threeLineRequest fun _ => .ok staleRun).2 _ checked
  have shown : threeLineRequest.shownName = "a.js" := by decide +kernel
  rw [shown] at inPlace emits
  obtain ⟨told, emitted, tells⟩ :=
    (emits oneFileCheck threeLineHost _ .normal threeLineRequest_resolves).1 rfl nofun
  exact ⟨lie _ (List.mem_singleton.mpr rfl), inPlace _ (List.mem_singleton.mpr rfl), told, emitted,
    tells _ (List.mem_singleton.mpr rfl)⟩

end FlowCheck
