import SinkAudit.Proofs.Report
import SinkAudit.Proofs.Terminal.Comparison

/-!
# How reports of printable texts are laid out

A report of printable texts is laid out from what its texts are shown as, with nothing broken or cut:
the line of a valid configuration with its bucket, the table of fields in the plain layout, and the
line that counts the violations.

The results are about the wide console. Another one breaks lines and folds cells where it has to, and what
is whole here would be in pieces there.

- `reportText`: the report, given what is shown of the bucket, of a value and of messages.
- `outcomeText_eq_reportText`: an outcome is printed as its report, if all messages can be rendered.
- `ink_fieldLines`: the table of fields without blanks and strokes.
- `isInfix_fieldLines`: a line of a cell stands whole in the table.
-/

namespace SinkAudit

open Markup Terminal Text

/-! ## Reports as they are laid out -/

/-- The columns of a table of fields before the last: the names, and the values if they are shown. -/
def headColumns (verbose : Bool) (value : String × List String → List Char) :
    List (RowColumn (String × List String)) :=
  ⟨"Field".toList, (·.1.toList), false⟩ :: if verbose then [⟨"Value".toList, value, true⟩] else []

/-- The last column of a table of fields: the messages. -/
def errorsColumn (messages : List String → List Char) : RowColumn (String × List String) :=
  ⟨"Errors".toList, (messages ·.2), true⟩

/-- The headings of a table of fields. -/
def fieldHeadings (verbose : Bool) : List (List Char) :=
  "Field".toList :: (if verbose then ["Value".toList] else []) ++ ["Errors".toList]

/-- The lines of a table of fields. -/
def fieldLines (rows : List (String × List String)) (verbose : Bool)
    (value : String × List String → List Char) (messages : List String → List Char) :
    List (List Char) :=
  plainFrame "Configuration".toList
    ((headColumns verbose value ++ [errorsColumn messages]).map (·.over rows))

/-- The text of a report, given what is shown of the bucket, of a value and of messages. -/
def reportText (o : Outcome) (verbose : Bool) (bucket : List Char)
    (value : String × List String → List Char) (messages : List String → List Char) : String :=
  (if o.isValid then "VALID bucket=" ++ String.ofList bucket ++ "\n" else "")
    ++ (if o.isValid && !verbose then ""
      else printLines (fieldLines (tableRows o verbose) verbose value messages))
    ++ (if o.isValid then ""
      else "INVALID " ++ toString o.violationCount ++ " violation(s) on "
        ++ toString o.invalidFields.length ++ " field(s)\n")

/-- Are all texts that a report may show printable? -/
structure IsPrintableReport (o : Outcome) (s : Snapshot) : Prop where
  messages : ∀ f : Field, ∀ m ∈ o.messagesFor f.name, AllPrintable m.toList
  values : ∀ f : Field, AllPrintable (s.text f).toList

/-! ## What escaped texts are shown as -/

/-- A printable text is shown printable. -/
theorem exists_render_of_printable {text : String} (h : AllPrintable text.toList) :
    ∃ shown, render (escapeString text) = .ok shown ∧ AllPrintable shown := by
  obtain ⟨shown, hshown⟩ := exists_render_escapeString text
  refine ⟨shown, hshown, fun c hc => ?_⟩
  rcases mem_of_mem_escape (subset_of_render hshown hc) with hmem | rfl
  · exact h c hmem
  · decide +kernel

/-- Printable messages are shown legible, if they are shown at all. -/
theorem isLegible_of_render_messagesCell {messages : List String}
    (h : ∀ m ∈ messages, AllPrintable m.toList) {shown : List Char}
    (hshown : render (messagesCell messages) = .ok shown) : IsLegible shown := by
  -- rendering adds no characters, and escaping adds only backslashes
  intro c hc
  have hcell := subset_of_render hshown hc
  rw [messagesCell] at hcell
  by_cases hempty : messages.isEmpty = true
  · rw [if_pos hempty] at hcell
    have hok : AllPrintable "[dim]ok[/]".toList := by decide +kernel
    exact isLegible_of_printable hok c hcell
  · rw [if_neg hempty] at hcell
    refine forall_mem_intercalate (P := fun c => c = '\n' ∨ isPrintable c = true) ?_ ?_ c hcell
    · exact List.forall_mem_singleton.mpr (.inl rfl)
    · intro text htext d hd
      obtain ⟨m, hm, rfl⟩ := List.mem_map.mp htext
      rcases mem_of_mem_escape hd with hmem | rfl
      · exact .inr (h m hm d hmem)
      · exact .inr (by decide +kernel)

/-! ## What a report is laid out as -/

theorem lookup_toEntries (s : Snapshot) (f : Field) : s.toEntries.lookup f.name = some (s.text f) := by
  cases f <;> rfl

theorem allPrintable_name (f : Field) : AllPrintable f.name.toList := by
  cases f <;> decide +kernel

theorem paragraph_invalidLine (o : Outcome) :
    paragraph (invalidLine o) = .ok ("INVALID " ++ toString o.violationCount ++ " violation(s) on "
      ++ toString o.invalidFields.length ++ " field(s)\n") := by
  have hprintable : AllPrintable ("INVALID " ++ toString o.violationCount ++ " violation(s) on "
      ++ toString o.invalidFields.length ++ " field(s)").toList := by
    have hstart : AllPrintable "INVALID ".toList := by decide +kernel
    have hmiddle : AllPrintable " violation(s) on ".toList := by decide +kernel
    have hend : AllPrintable " field(s)".toList := by decide +kernel
    simp only [String.toList_append, List.append_assoc]
    exact hstart.append ((allPrintable_toString _).append
      (hmiddle.append ((allPrintable_toString _).append hend)))
  rw [paragraph_eq_of_render hprintable (render_invalidLine o), String.ofList_append,
    String.ofList_toList, String.append_assoc]
  rfl

/-- The columns of an outcome's table as they are shown, if names are shown as they are. -/
theorem shown_columns_outcomeTable {o : Outcome} {s : Snapshot} {verbose : Bool}
    (hnames : ∀ row ∈ tableRows o verbose, render row.1.toList = .ok row.1.toList) :
    (outcomeTable o s verbose).columns.map Column.shown
      = (headColumns verbose (fun row => shownMarkup (valueCell s row.1))
        ++ [errorsColumn fun ms => shownMarkup (messagesCell ms)]).map
          (·.over (tableRows o verbose)) := by
  -- the names of fields have no markup, so that they are shown as they are
  have hfield : (fieldColumn (tableRows o verbose)).shown
      = ⟨"Field".toList, (tableRows o verbose).map (·.1.toList), false⟩ := by
    rw [fieldColumn, Column.shown, List.map_map]
    congr 1
    exact List.map_congr_left fun row hrow => shownMarkup_of_render (hnames row hrow)
  have hvalue : (valueColumn (tableRows o verbose) s).shown
      = ⟨"Value".toList, (tableRows o verbose).map fun row => shownMarkup (valueCell s row.1),
        true⟩ := by
    rw [valueColumn, Column.shown, List.map_map]
    rfl
  have herrors : (messagesColumn (tableRows o verbose)).shown
      = ⟨"Errors".toList, (tableRows o verbose).map fun row => shownMarkup (messagesCell row.2),
        true⟩ := by
    rw [messagesColumn, Column.shown, List.map_map]
    rfl
  rw [columns_outcomeTable, List.map_append, List.map_append, List.map_singleton,
    List.map_singleton, hfield, herrors]
  cases verbose with
  | false => rfl
  | true =>
    rw [if_pos rfl, List.map_singleton, hvalue]
    rfl

section Layout

variable {o : Outcome} {s : Snapshot} (hprintable : IsPrintableReport o s)

include hprintable

theorem paragraph_validLine :
    paragraph (validLine s) = .ok ("VALID bucket="
      ++ String.ofList (shownMarkup (escapeString s.bucket.text)) ++ "\n") := by
  have hbucket : AllPrintable s.bucket.text.toList := hprintable.values .bucket
  obtain ⟨shown, hshown, hlegible⟩ := exists_render_of_printable hbucket
  have hhead : AllPrintable "VALID bucket=".toList := by decide +kernel
  rw [paragraph_eq_of_render (hhead.append hlegible) (render_validLine hshown),
    shownMarkup_of_render hshown]
  simp only [String.ofList_append, String.ofList_toList]

/-- The table of an outcome, if the messages of every row can be rendered. -/
theorem print_outcomeTable (habout : o.IsAboutFields) {verbose : Bool}
    (hcells : ∀ row ∈ tableRows o verbose, (render (messagesCell row.2)).isOk = true) :
    (outcomeTable o s verbose).print = .ok (printLines (fieldLines (tableRows o verbose) verbose
      (fun row => shownMarkup (valueCell s row.1)) fun ms => shownMarkup (messagesCell ms))) := by
  -- what is in the three columns, and that all of it is legible
  have hnames : ∀ row ∈ tableRows o verbose,
      render row.1.toList = .ok row.1.toList ∧ IsLegible row.1.toList := by
    intro row hrow
    obtain ⟨f, rfl⟩ := exists_field_of_mem_tableRows habout hrow
    exact ⟨render_plain (isPlain_name f), isLegible_of_printable (allPrintable_name f)⟩
  have hvalues : ∀ row ∈ tableRows o verbose,
      ∃ cs, render (valueCell s row.1) = .ok cs ∧ IsLegible cs := by
    intro row hrow
    obtain ⟨f, rfl⟩ := exists_field_of_mem_tableRows habout hrow
    rw [valueCell, lookup_toEntries]
    obtain ⟨cs, hcs, hlegible⟩ := exists_render_of_printable (hprintable.values f)
    exact ⟨cs, hcs, isLegible_of_printable hlegible⟩
  have hmessages : ∀ row ∈ tableRows o verbose,
      ∃ cs, render (messagesCell row.2) = .ok cs ∧ IsLegible cs := by
    intro row hrow
    have hok := hcells row hrow
    obtain ⟨f, rfl⟩ := exists_field_of_mem_tableRows habout hrow
    cases hshown : render (messagesCell (o.messagesFor f.name)) with
    | error e =>
      rw [hshown] at hok
      cases hok
    | ok cs => exact ⟨cs, rfl, isLegible_of_render_messagesCell (hprintable.messages f) hshown⟩
  have hheadings : IsLegible "Field".toList ∧ IsLegible "Value".toList
      ∧ IsLegible "Errors".toList := by decide +kernel
  rw [print_eq_plainFrame, shown_columns_outcomeTable fun row hrow => (hnames row hrow).1]
  · rfl
  · intro c hc
    rcases eq_of_mem_columns_outcomeTable hc with rfl | rfl | rfl
    · exact hheadings.1
    · exact hheadings.2.1
    · exact hheadings.2.2
  · intro c hc cell hcell
    rcases eq_of_mem_columns_outcomeTable hc with rfl | rfl | rfl
    · obtain ⟨row, hrow, rfl⟩ := List.mem_map.mp hcell
      exact ⟨_, hnames row hrow⟩
    · obtain ⟨row, hrow, rfl⟩ := List.mem_map.mp hcell
      exact hvalues row hrow
    · obtain ⟨row, hrow, rfl⟩ := List.mem_map.mp hcell
      exact hmessages row hrow

/-- A report is laid out from what its texts are shown as, if all messages can be rendered. -/
theorem outcomeText_eq_reportText (habout : o.IsAboutFields) {verbose : Bool}
    (hcells : ∀ row ∈ tableRows o verbose, (render (messagesCell row.2)).isOk = true) :
    outcomeText o s verbose = ⟨reportText o verbose (shownMarkup (escapeString s.bucket.text))
      (fun row => shownMarkup (valueCell s row.1)) fun ms => shownMarkup (messagesCell ms), none⟩ := by
  have hvalid := paragraph_validLine hprintable
  have htable := print_outcomeTable hprintable habout hcells
  have hinvalid := paragraph_invalidLine o
  rw [outcomeText, Printed.blocks_wide, outcomeBlocks, reportText]
  cases hisvalid : o.isValid with
  | true =>
    cases verbose with
    | true => simp [Printed.all, hvalid, htable]
    | false => simp [Printed.all, hvalid]
  | false => simp [Printed.all, htable, hinvalid]

end Layout

/-! ## The table of fields -/

/-- The table of an outcome without blanks and strokes: its rows, between what is the same for all
values and messages. -/
theorem ink_fieldLines {o : Outcome} (habout : o.IsAboutFields) {verbose : Bool}
    {value : String × List String → List Char}
    (hvalue : ∀ row ∈ tableRows o verbose, '\n' ∉ value row) (messages : List String → List Char) :
    ink (printLines (fieldLines (tableRows o verbose) verbose value messages)).toList
      = inkTop "Configuration".toList (fieldHeadings verbose)
        ++ ((tableRows o verbose).flatMap (fun row =>
            inkRow ((headColumns verbose value).map (·.text row)) (messages row.2))
          ++ inkBottom (fieldHeadings verbose)) := by
  -- only the last column may have cells of several lines
  have hheads : ∀ c ∈ headColumns verbose value, ∀ row ∈ tableRows o verbose, '\n' ∉ c.text row := by
    refine List.forall_mem_cons.mpr ⟨fun row hrow => ?_, fun c hc row hrow => ?_⟩
    · obtain ⟨f, rfl⟩ := exists_field_of_mem_tableRows habout hrow
      exact lineFeed_not_mem_of_allPrintable (allPrintable_name f)
    · cases verbose with
      | false => cases hc
      | true =>
        rw [List.mem_singleton.mp hc]
        exact hvalue row hrow
  have hheadings : (headColumns verbose value ++ [errorsColumn messages]).map (·.heading)
      = fieldHeadings verbose := by
    cases verbose <;> rfl
  have hframe := ink_plainFrame hheads (errorsColumn messages) "Configuration".toList
  rw [hheadings] at hframe
  rw [printLines, String.toList_ofList]
  exact hframe

/-- A table is laid out from what it shows of its rows. -/
theorem fieldLines_congr {rows : List (String × List String)} {verbose : Bool}
    {value value' : String × List String → List Char}
    (hvalue : verbose = true → ∀ row ∈ rows, value row = value' row)
    (messages messages' : List String → List Char)
    (hmessages : ∀ row ∈ rows, messages row.2 = messages' row.2) :
    fieldLines rows verbose value messages = fieldLines rows verbose value' messages' := by
  have herrors : (errorsColumn messages).over rows = (errorsColumn messages').over rows := by
    rw [RowColumn.over, RowColumn.over]
    congr 1
    exact List.map_congr_left hmessages
  have hheads : (headColumns verbose value).map (·.over rows)
      = (headColumns verbose value').map (·.over rows) := by
    cases verbose with
    | false => rfl
    | true =>
      show [_, (⟨_, rows.map value, _⟩ : ShownColumn)] = [_, ⟨_, rows.map value', _⟩]
      rw [List.map_congr_left (hvalue rfl)]
  rw [fieldLines, fieldLines, List.map_append, List.map_append, hheads, List.map_singleton,
    List.map_singleton, herrors]

/-- A line of a cell stands whole in the printed table. -/
theorem isInfix_fieldLines {rows : List (String × List String)} {row : String × List String}
    (hrow : row ∈ rows) {verbose : Bool} {value : String × List String → List Char}
    {messages : List String → List Char} {c : RowColumn (String × List String)}
    (hc : c ∈ headColumns verbose value ++ [errorsColumn messages]) {line : List Char}
    (hline : line ∈ lines (c.text row)) :
    line <:+: (printLines (fieldLines rows verbose value messages)).toList := by
  have hcell : c.text row ∈ (c.over rows).cells := List.mem_map_of_mem hrow
  obtain ⟨shown, hshown, hinfix⟩ := exists_isInfix_plainFrame "Configuration".toList
    (List.mem_map_of_mem hc) hcell hline
  have hend : shown <:+: shown ++ ['\n'] := (List.prefix_append _ _).isInfix
  rw [printLines, String.toList_ofList, List.flatMap_def]
  exact hinfix.trans (hend.trans (List.infix_of_mem_flatten (List.mem_map_of_mem hshown)))

end SinkAudit
