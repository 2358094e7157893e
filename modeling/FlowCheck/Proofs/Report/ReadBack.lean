import FlowCheck.Proofs.Coordinates
import FlowCheck.Proofs.Document.PositionOrder
import FlowCheck.Proofs.Json.Written
import FlowCheck.Report.Json

/-! # Reports that are read back

A report for tools is one JSON text with a newline behind it. Whoever knows its fields has back the
file and every diagnostic as it was, in order, whatever characters the messages hold. The locations
are those of the two ends of the diagnostic, and the summary counts what the list holds.
-/

namespace FlowCheck

open Json

/-- The severity that has a name. -/
def Severity.ofName? (name : String) : Option Severity :=
  [.warning, .error].find? fun severity => severity.name = name

private theorem Severity.ofName?_name (severity : Severity) :
    ofName? severity.name = some severity := by
  cases severity <;> rfl

/-! ## Readers -/

/-- What a report tells of a diagnostic: its ends come as offsets and as locations. -/
structure ToldDiagnostic where
  diagnostic : Diagnostic
  start : Location
  stop : Location

/-- What a report for tools tells. -/
structure ToldReport where
  file : String
  diagnostics : List ToldDiagnostic
  total : Nat
  errors : Nat
  warnings : Nat

/-- The fields of a diagnostic. -/
def ToldDiagnostic.fieldNames : List String :=
  ["severity", "message", "start", "end", "line", "column", "end_line", "end_column"]

/-- Read a diagnostic. No field may be missing, and numbers may be of any size. -/
def ToldDiagnostic.ofTree? (tree : Tree) : Option ToldDiagnostic := do
  match ← Tree.view.record? fieldNames tree with
  | [some severity, some message, some start, some stop, some line, some column, some endLine,
      some endColumn] =>
    return {
      diagnostic := {
        range := ⟨← start.natural?, ← stop.natural?⟩
        severity := ← (Tree.view.text? severity).bind Severity.ofName?
        message := ← Tree.view.text? message }
      start := ⟨← line.natural?, ← column.natural?⟩
      stop := ⟨← endLine.natural?, ← endColumn.natural?⟩ }
  | _ => none

/-- Read a report. -/
def ToldReport.ofTree? (tree : Tree) : Option ToldReport := do
  match ← Tree.view.record? ["file", "diagnostics", "summary"] tree with
  | [some file, some diagnostics, some summary] =>
    match ← Tree.view.record? ["total", "errors", "warnings"] summary with
    | [some total, some errors, some warnings] =>
      return {
        file := ← Tree.view.text? file
        diagnostics := ← Tree.view.list? ToldDiagnostic.ofTree? diagnostics
        total := ← total.natural?
        errors := ← errors.natural?
        warnings := ← warnings.natural? }
    | _ => none
  | _ => none

/-! ## What is told -/

/-- The locations of a diagnostic are where its ends are in a document, counted from one, and they
are in order. -/
structure ToldDiagnostic.LocatedIn (told : ToldDiagnostic) (document : Document) : Prop where
  start : ∃ position, document.position? told.diagnostic.range.start = some position ∧
    told.start = ⟨position.line + 1, position.column + 1⟩
  stop : ∃ position, document.position? told.diagnostic.range.stop = some position ∧
    told.stop = ⟨position.line + 1, position.column + 1⟩
  ordered : toLex (told.start.line, told.start.column) ≤ toLex (told.stop.line, told.stop.column)

/-- What is told is the report, nothing lost, with true locations and numbers. -/
structure ToldReport.IsOf (told : ToldReport) (report : Report) : Prop where
  file : told.file = report.file
  diagnostics : told.diagnostics.map (·.diagnostic) = report.diagnostics
  located : ∀ diagnostic ∈ told.diagnostics, diagnostic.LocatedIn report.document
  total : told.total = report.diagnostics.length
  sum : told.total = told.errors + told.warnings
  errors : told.errors = report.diagnostics.countP (·.severity = .error)
  warnings : told.warnings = report.diagnostics.countP (·.severity = .warning)

namespace Report

variable {report : Report} {diagnostic : Diagnostic} {tree : Tree}

/-- What a report tells of one of its diagnostics. -/
def told (report : Report) (diagnostic : Diagnostic) : ToldDiagnostic :=
  ⟨diagnostic, report.locate diagnostic.range.start, report.locate diagnostic.range.stop⟩

/-- All that a report tells. -/
def toldReport (report : Report) : ToldReport where
  file := report.file
  diagnostics := report.diagnostics.map report.told
  total := report.diagnostics.length
  errors := report.count .error
  warnings := report.count .warning

/-- A text is the report: whoever reads it as JSON is told the report and nothing else. -/
def IsReadFrom (report : Report) (text : String) : Prop :=
  ∃ tree told, Tree.ofChars? text.toList = some tree ∧ ToldReport.ofTree? tree = some told ∧
    told.IsOf report

/-- A diagnostic in the text is told where it is. -/
theorem told_locatedIn (ordered : diagnostic.range.start ≤ diagnostic.range.stop)
    (inText : diagnostic.range.stop ≤ report.document.length) :
    (report.told diagnostic).LocatedIn report.document := by
  obtain ⟨near, isNear⟩ := Document.exists_position (Nat.le_trans ordered inText)
  obtain ⟨far, isFar⟩ := Document.exists_position inText
  have nearby : report.locate diagnostic.range.start = _ := locate_of_position? isNear
  have farther : report.locate diagnostic.range.stop = _ := locate_of_position? isFar
  refine ⟨⟨near, isNear, nearby⟩, ⟨far, isFar, farther⟩, ?_⟩
  rw [told, nearby, farther]
  rcases Nat.eq_or_lt_of_le ordered with same | before
  · rw [same] at isNear
    obtain rfl := Option.some.inj (isNear.symm.trans isFar)
    exact le_refl _
  · have places := Document.place_lt_place isNear isFar before
    rw [Position.place, Position.place, Prod.Lex.toLex_lt_toLex] at places
    rw [Prod.Lex.toLex_le_toLex]
    dsimp only at places ⊢
    omega

/-- Every diagnostic has one of the two severities. -/
theorem length_eq_count_add_count (report : Report) :
    report.diagnostics.length = report.count .error + report.count .warning := by
  simp only [count, ← List.countP_eq_length_filter]
  rw [List.length_eq_countP_add_countP fun diagnostic => decide (diagnostic.severity = .error)]
  congr 2
  funext diagnostic
  cases diagnostic.severity <;> rfl

/-! ## What is written is read -/

private theorem diagnosticJson_isWhole (report : Report) (diagnostic : Diagnostic) :
    (report.diagnosticJson diagnostic).IsWhole := by
  apply Value.IsWhole.object
  simp only [List.forall_mem_cons]
  exact ⟨.text, .text, .integer, .integer, .integer, .integer, .integer, .integer, nofun⟩

/-- A report holds whole numbers only. -/
theorem toJson_isWhole (report : Report) : report.toJson.IsWhole := by
  apply Value.IsWhole.object
  simp only [List.forall_mem_cons]
  refine ⟨.text, .array ?_, .object ?_, nofun⟩
  · rw [List.forall_mem_map]
    intro diagnostic _
    exact report.diagnosticJson_isWhole diagnostic
  · simp only [List.forall_mem_cons]
    exact ⟨.integer, .integer, .integer, nofun⟩

private theorem ofTree?_diagnosticJson (writes : (report.diagnosticJson diagnostic).Writes tree) :
    ToldDiagnostic.ofTree? tree = some (report.told diagnostic) := by
  obtain ⟨nodes, record, each⟩ := Value.Writes.record? writes
    (show _ = ToldDiagnostic.fieldNames from rfl) (by decide)
  -- Each field has a node of its own, and the node is written for what the field holds.
  obtain _ | ⟨severity, _ | ⟨message, _ | ⟨start, _ | ⟨stop, _ | ⟨line, _ | ⟨column, _ |
    ⟨endLine, _ | ⟨endColumn, _ | _⟩⟩⟩⟩⟩⟩⟩⟩ := each
  rw [ToldDiagnostic.ofTree?, record]
  simp only [List.map_cons, List.map_nil, Option.bind_eq_bind, Option.bind_some, severity.text?,
    message.text?, start.natural?, stop.natural?, line.natural?, column.natural?,
    endLine.natural?, endColumn.natural?, Severity.ofName?_name]
  rfl

/-- What writes a report is read as what it tells. -/
theorem ofTree?_toJson (writes : report.toJson.Writes tree) :
    ToldReport.ofTree? tree = some report.toldReport := by
  obtain ⟨_, record, each⟩ := Value.Writes.record? writes
    (show _ = ["file", "diagnostics", "summary"] from rfl) (by decide)
  obtain _ | ⟨file, _ | ⟨list, _ | ⟨summary, _ | _⟩⟩⟩ := each
  obtain ⟨_, counts, each⟩ := Value.Writes.record? summary
    (show _ = ["total", "errors", "warnings"] from rfl) (by decide)
  obtain _ | ⟨total, _ | ⟨errors, _ | ⟨warnings, _ | _⟩⟩⟩ := each
  have diagnostics := list.list? fun diagnostic _ node => ofTree?_diagnosticJson
  rw [ToldReport.ofTree?, record]
  simp only [List.map_cons, List.map_nil, Option.bind_eq_bind, Option.bind_some, counts,
    file.text?, diagnostics, total.natural?, errors.natural?, warnings.natural?]
  rfl

/-- What a report tells is the report, if every diagnostic has its ends in order and in the text. -/
theorem toldReport_isOf
    (within : ∀ diagnostic ∈ report.diagnostics,
      diagnostic.range.start ≤ diagnostic.range.stop ∧
        diagnostic.range.stop ≤ report.document.length) :
    report.toldReport.IsOf report := by
  constructor
  case file | total => rfl
  case located =>
    rw [toldReport, List.forall_mem_map]
    intro diagnostic inside
    exact told_locatedIn (within diagnostic inside).1 (within diagnostic inside).2
  case diagnostics =>
    rw [toldReport, List.map_map]
    exact List.map_id _
  case sum => exact report.length_eq_count_add_count
  case errors =>
    rw [List.countP_eq_length_filter]
    rfl
  case warnings =>
    rw [List.countP_eq_length_filter]
    rfl

/-- The text of a report is that of one tree, with or without the newline behind it. -/
theorem exists_tree (report : Report) :
    ∃ tree, Tree.ofChars? (report.toJson.pretty 0) = some tree ∧
      Tree.ofChars? report.json.toList = some tree ∧
      ToldReport.ofTree? tree = some report.toldReport := by
  obtain ⟨tree, spells, writes⟩ := report.toJson_isWhole.exists_spelled Value.pretty_laysOut 0
  have written : report.json.toList = report.toJson.pretty 0 ++ ['\n'] := String.toList_ofList
  refine ⟨tree, spells.ofChars?, ?_, ofTree?_toJson writes⟩
  rw [written]
  exact spells.ofChars?_append (List.forall_mem_singleton.mpr rfl)

/-- **A report for tools is read back without loss.** If every diagnostic has its ends in order and
in the text, the report is the text of one tree and a newline, and the newline does not change what
the text is. The tree tells the file and, in order, each diagnostic as it was, with the locations of
its ends, and it counts them rightly. -/
theorem json_read_back (report : Report)
    (within : ∀ diagnostic ∈ report.diagnostics,
      diagnostic.range.start ≤ diagnostic.range.stop ∧
        diagnostic.range.stop ≤ report.document.length) :
    ∃ chars tree told, report.json.toList = chars ++ ['\n'] ∧ Tree.ofChars? chars = some tree ∧
      Tree.ofChars? report.json.toList = some tree ∧ ToldReport.ofTree? tree = some told ∧
      told.IsOf report := by
  obtain ⟨tree, alone, whole, told⟩ := report.exists_tree
  exact ⟨_, tree, _, String.toList_ofList, alone, whole, told, toldReport_isOf within⟩

/-- A report whose texts hold quotes, backslashes, line ends and control characters. One diagnostic
goes over several lines, the other is empty and at the end of the text. -/
def quotedReport : Report where
  file := "a \"b\"\\c.js"
  document := fourLines
  diagnostics := [⟨⟨1, 6⟩, .error, "\"é\"\r\n\x01€\\"⟩, ⟨⟨8, 8⟩, .warning, ""⟩]

/-- The report in JSON of such texts is read back as what it tells. -/
theorem json_read_back_of_quotes :
    (∀ diagnostic ∈ quotedReport.diagnostics,
      diagnostic.range.start ≤ diagnostic.range.stop ∧
        diagnostic.range.stop ≤ quotedReport.document.length) ∧
    ∃ chars tree told, quotedReport.json.toList = chars ++ ['\n'] ∧
      Tree.ofChars? chars = some tree ∧ Tree.ofChars? quotedReport.json.toList = some tree ∧
      ToldReport.ofTree? tree = some told ∧ told.IsOf quotedReport :=
  ⟨by decide, json_read_back quotedReport (by decide)⟩

end Report

end FlowCheck
