import SinkAudit.Proofs.Report.Layout

/-!
# Reports that show texts as they are given

Printable texts of a report ought to be shown as they are given, whatever they hold. They are not
always: a backslash before a bracket that begins no tag is dropped, a single backslash at the end of a
text is doubled, and since messages are joined after they were escaped, a bracket that one leaves open
may be closed by another, so that the report shows less or breaks off. Nothing else goes wrong. (Codes
for emoji stay as they are here: texts with such codes are not meant.)

- `verbatimText`: the report of an outcome with all texts as they are given;
  `isInfix_verbatimText`: each of them stands whole in it.
- `IsShownAsGiven`: the condition on the texts.
- `outcomeText_eq_verbatimText_iff`: a report is printed with its texts as they are given exactly under
  the condition; `isShownAsGiven_of_no_slashes`: texts without backslashes fulfil it, if no field has
  more than one message.
- `failureText_eq_iff`: the same of the line of a failure.
- `printed_as_given_iff`: all of it together; `not_printed_as_given`: texts that fall short.
-/

namespace SinkAudit

open Markup Terminal Text

/-- The value of a field as it is given. -/
def givenValue (s : Snapshot) (row : String × List String) : List Char :=
  ((s.toEntries.lookup row.1).getD "").toList

/-- Messages as they are given, each on its own line. -/
def givenMessages (messages : List String) : List Char :=
  if messages.isEmpty then "ok".toList else joined (messages.map String.toList)

/-- The report of an outcome with all texts as they are given. -/
def verbatimText (o : Outcome) (s : Snapshot) (verbose : Bool) : String :=
  reportText o verbose s.bucket.text.toList (givenValue s) givenMessages

/-- May all texts of a report be shown as they are given? Each has to be kept, and no tag may span two
messages of a field. -/
structure IsShownAsGiven (o : Outcome) (s : Snapshot) (verbose : Bool) : Prop where
  bucket : o.isValid = true → IsKept s.bucket.text.toList
  values : verbose = true → ∀ f : Field, IsKept (s.text f).toList
  messages : ∀ f : Field, (∀ m ∈ o.messagesFor f.name, IsKept m.toList)
    ∧ IsSeparate ((o.messagesFor f.name).map String.toList)

/-! ## What escaped texts are shown as -/

theorem render_messagesCell_nil : render (messagesCell []) = .ok "ok".toList := by
  have hcell : messagesCell [] = bracketed "dim".toList
      ++ ("ok".toList ++ (bracketed ['/'] ++ [])) := by decide
  have hword : IsPlain "ok".toList := by decide
  obtain ⟨next, hnext⟩ := renderFrom_styled isStyle_dim hword [] 0 []
  rw [render, hcell, hnext, pieces_nil]
  rfl

section Messages

variable {messages : List String} (hne : messages ≠ [])

include hne

theorem givenMessages_of_ne_nil : givenMessages messages = joined (messages.map String.toList) :=
  if_neg (by simpa using hne)

theorem messagesCell_of_ne_nil :
    messagesCell messages = joined ((messages.map String.toList).map escape) := by
  rw [messagesCell, if_neg (by simpa using hne), List.map_map]
  rfl

end Messages

section Rendered

variable {messages : List String} (h : ∀ m ∈ messages, AllPrintable m.toList)

include h

theorem lines_of_printable : ∀ text ∈ messages.map String.toList, '\n' ∉ text := by
  intro text htext
  obtain ⟨m, hm, rfl⟩ := List.mem_map.mp htext
  exact lineFeed_not_mem_of_allPrintable (h m hm)

/-- Messages that are kept and separate are shown as they are given. -/
theorem render_messagesCell_of_kept (hkept : ∀ m ∈ messages, IsKept m.toList)
    (hseparate : IsSeparate (messages.map String.toList)) :
    render (messagesCell messages) = .ok (givenMessages messages) := by
  by_cases hne : messages = []
  · subst hne
    exact render_messagesCell_nil
  · rw [messagesCell_of_ne_nil hne, givenMessages_of_ne_nil hne]
    exact (render_joined_iff (by simpa using hne) (lines_of_printable h)).mpr
      ⟨List.forall_mem_map.mpr hkept, hseparate⟩

/-- If the cell of messages agrees with the given messages, then they are kept and separate. -/
theorem settles_messages {shown : List Char} (hshown : render (messagesCell messages) = .ok shown)
    (columns : Nat) :
    Settles (shown.flatMap (inkOf columns) ++ ['│', '\n'])
      ((givenMessages messages).flatMap (inkOf columns) ++ ['│', '\n'])
      ((∀ m ∈ messages, IsKept m.toList) ∧ IsSeparate (messages.map String.toList)) := by
  -- a field without messages is shown by a word of its own, which is neither escaped nor joined
  by_cases hne : messages = []
  · subst hne
    rw [render_messagesCell_nil] at hshown
    cases hshown
    exact (Settles.refl _).imp fun _ => ⟨nofun, isSeparate_nil⟩
  · rw [messagesCell_of_ne_nil hne] at hshown
    rw [givenMessages_of_ne_nil hne]
    have hcell := settles_cell (by simpa using hne) (lines_of_printable h) hshown columns
      (show '│' ≠ '\\' by decide) ['\n']
    exact hcell.imp fun hkept => ⟨List.forall_mem_map.mp hkept.1, hkept.2⟩

end Rendered

/-- If the value that is shown agrees with the given one, then it is kept. -/
theorem settles_value {text : String} (h : AllPrintable text.toList) {shown : List Char}
    (hshown : render (escapeString text) = .ok shown) {close : Char} (hclose : close ≠ '\\') :
    Settles (shown.flatMap (inkOf 0) ++ [close]) (text.toList.flatMap (inkOf 0) ++ [close])
      (IsKept text.toList) := by
  have hcell : render (joined ([text.toList].map escape)) = .ok shown := by
    rw [List.map_singleton, joined_singleton]
    exact hshown
  have hsettles := settles_cell (List.cons_ne_nil text.toList [])
    (List.forall_mem_singleton.mpr (lineFeed_not_mem_of_allPrintable h)) hcell 0 hclose []
  rw [joined_singleton] at hsettles
  exact hsettles.imp fun hkept => hkept.1 _ List.mem_cons_self

/-- A text is shown as it is given exactly if it is kept. -/
theorem render_escapeString_iff {text : String} (h : AllPrintable text.toList) :
    render (escapeString text) = .ok text.toList ↔ IsKept text.toList := by
  have hjoined := render_joined_iff (List.cons_ne_nil text.toList [])
    (List.forall_mem_singleton.mpr (lineFeed_not_mem_of_allPrintable h))
  rw [List.map_singleton, joined_singleton, joined_singleton] at hjoined
  rw [escapeString, hjoined, List.forall_mem_singleton]
  exact and_iff_left (isSeparate_singleton (lineFeed_not_mem_of_allPrintable h))

/-! ## What agreement with the given texts settles -/

/-- What the rows of the table ask of the given texts is all that is asked of those of the fields. -/
theorem isShownAsGiven_of_rows {o : Outcome} (habout : o.IsAboutFields) {s : Snapshot}
    {verbose : Bool} (hbucket : o.isValid = true → IsKept s.bucket.text.toList)
    (hrows : ∀ row ∈ tableRows o verbose, (verbose = true → IsKept (givenValue s row))
      ∧ (∀ m ∈ row.2, IsKept m.toList) ∧ IsSeparate (row.2.map String.toList)) :
    IsShownAsGiven o s verbose where
  bucket := hbucket
  values := by
    rintro rfl f
    have hkept := (hrows _ (mem_tableRows_true habout f)).1 rfl
    rwa [givenValue, lookup_toEntries, Option.getD_some] at hkept
  messages := by
    intro f
    by_cases hnone : o.messagesFor f.name = []
    · rw [hnone]
      exact ⟨nofun, isSeparate_nil⟩
    · exact (hrows _ (mem_tableRows habout verbose hnone)).2

theorem ink_toList_append {a b c d : String} (h : a ++ b = c ++ d) :
    ink a.toList ++ ink b.toList = ink c.toList ++ ink d.toList := by
  rw [← ink_append, ← ink_append, ← String.toList_append, ← String.toList_append, h]

section Settled

variable {o : Outcome} {s : Snapshot} (hprintable : IsPrintableReport o s)

include hprintable

/-- If the line of a valid configuration agrees with the given bucket, then this is kept. -/
theorem settles_bucket :
    Settles (ink ("VALID bucket=" ++ String.ofList (shownMarkup (escapeString s.bucket.text))
        ++ "\n").toList)
      (ink ("VALID bucket=" ++ s.bucket.text ++ "\n").toList) (IsKept s.bucket.text.toList) := by
  have hbucket : AllPrintable s.bucket.text.toList := hprintable.values .bucket
  obtain ⟨shown, hshown, hline⟩ := exists_render_of_printable hbucket
  have hsettles := settles_value hbucket hshown (show '\n' ≠ '\\' by decide)
  rw [flatMap_inkOf (lineFeed_not_mem_of_allPrintable hline),
    flatMap_inkOf (lineFeed_not_mem_of_allPrintable hbucket)] at hsettles
  rw [shownMarkup_of_render hshown]
  simp only [String.toList_append, String.toList_ofList, ink_append, List.append_assoc]
  exact ((Settles.refl _).append hsettles).imp And.right

variable (habout : o.IsAboutFields)

include habout

/-- If a row agrees with the given texts, then these are kept and separate. -/
theorem settles_row {verbose : Bool} {row : String × List String} (hrow : row ∈ tableRows o verbose)
    (hcell : (render (messagesCell row.2)).isOk = true) :
    Settles
      (inkRow ((headColumns verbose fun row => shownMarkup (valueCell s row.1)).map (·.text row))
        (shownMarkup (messagesCell row.2)))
      (inkRow ((headColumns verbose (givenValue s)).map (·.text row)) (givenMessages row.2))
      ((verbose = true → IsKept (givenValue s row)) ∧ (∀ m ∈ row.2, IsKept m.toList)
        ∧ IsSeparate (row.2.map String.toList)) := by
  obtain ⟨f, rfl⟩ := exists_field_of_mem_tableRows habout hrow
  cases hshown : render (messagesCell (o.messagesFor f.name)) with
  | error e =>
    rw [hshown] at hcell
    cases hcell
  | ok shown =>
    -- without the column of values a row is a name and messages, with it there is one more text between
    have hmessages := settles_messages (hprintable.messages f) hshown
    rw [shownMarkup_of_render hshown]
    cases verbose with
    | false =>
      show Settles (inkRow [f.name.toList] shown)
        (inkRow [f.name.toList] (givenMessages (o.messagesFor f.name))) _
      rw [inkRow_singleton, inkRow_singleton]
      have hhidden : false = true → IsKept (givenValue s (f.name, o.messagesFor f.name)) :=
        fun hverbose => absurd hverbose (by decide)
      exact ((Settles.refl _).append (hmessages 1)).imp fun hkept => ⟨hhidden, hkept.2⟩
    | true =>
      obtain ⟨value, hvalue, hline⟩ := exists_render_of_printable (hprintable.values f)
      have hgiven : givenValue s (f.name, o.messagesFor f.name) = (s.text f).toList := by
        rw [givenValue, lookup_toEntries, Option.getD_some]
      have hshownvalue : shownMarkup (valueCell s f.name) = value := by
        rw [valueCell, lookup_toEntries, Option.getD_some, shownMarkup_of_render hvalue]
      show Settles (inkRow [f.name.toList, shownMarkup (valueCell s f.name)] shown)
        (inkRow [f.name.toList, givenValue s (f.name, o.messagesFor f.name)]
          (givenMessages (o.messagesFor f.name))) _
      have hsettles := settles_value (hprintable.values f) hvalue
        (show '│' ≠ '\\' by decide)
      rw [flatMap_inkOf (lineFeed_not_mem_of_allPrintable hline),
        flatMap_inkOf (lineFeed_not_mem_of_allPrintable (hprintable.values f))] at hsettles
      rw [hgiven, hshownvalue, inkRow_pair, inkRow_pair]
      exact ((Settles.refl _).append (hsettles.append (hmessages 2))).imp
        fun hkept => ⟨fun _ => hkept.2.1, hkept.2.2⟩

/-- If the table of an outcome agrees with the given texts, then those of every row are kept and
separate. -/
theorem settles_fieldLines {verbose : Bool}
    (hcells : ∀ row ∈ tableRows o verbose, (render (messagesCell row.2)).isOk = true) :
    Settles
      (ink (printLines (fieldLines (tableRows o verbose) verbose
        (fun row => shownMarkup (valueCell s row.1)) fun ms => shownMarkup (messagesCell ms))).toList)
      (ink (printLines (fieldLines (tableRows o verbose) verbose (givenValue s)
        givenMessages)).toList)
      (∀ row ∈ tableRows o verbose, (verbose = true → IsKept (givenValue s row))
        ∧ (∀ m ∈ row.2, IsKept m.toList) ∧ IsSeparate (row.2.map String.toList)) := by
  have hshown : ∀ row ∈ tableRows o verbose, '\n' ∉ shownMarkup (valueCell s row.1) := by
    intro row hrow
    obtain ⟨f, rfl⟩ := exists_field_of_mem_tableRows habout hrow
    obtain ⟨value, hvalue, hline⟩ := exists_render_of_printable (hprintable.values f)
    rw [valueCell, lookup_toEntries, Option.getD_some, shownMarkup_of_render hvalue]
    exact lineFeed_not_mem_of_allPrintable hline
  have hgiven : ∀ row ∈ tableRows o verbose, '\n' ∉ givenValue s row := by
    intro row hrow
    obtain ⟨f, rfl⟩ := exists_field_of_mem_tableRows habout hrow
    rw [givenValue, lookup_toEntries, Option.getD_some]
    exact lineFeed_not_mem_of_allPrintable (hprintable.values f)
  rw [ink_fieldLines habout hshown, ink_fieldLines habout hgiven]
  -- heads and feet of both tables are the same; so the rows settle it, one after the other
  have hrows := settles_flatMap fun row hrow =>
    settles_row hprintable habout hrow (hcells row hrow)
  exact ((Settles.refl _).append (hrows.append (Settles.refl _))).imp fun hkept => hkept.2.1

/-- A report agrees with the given texts only if they are kept and separate. -/
theorem isShownAsGiven_of_eq {verbose : Bool}
    (hcells : ∀ row ∈ tableRows o verbose, (render (messagesCell row.2)).isOk = true)
    (heq : reportText o verbose (shownMarkup (escapeString s.bucket.text))
      (fun row => shownMarkup (valueCell s row.1)) (fun ms => shownMarkup (messagesCell ms))
        = verbatimText o s verbose) : IsShownAsGiven o s verbose := by
  have hbucket := settles_bucket hprintable
  have hfields := settles_fieldLines hprintable habout hcells
  rw [verbatimText, reportText, reportText, String.ofList_toList] at heq
  -- which of the bucket and the table are shown depends on the verdict
  cases hvalid : o.isValid with
  | true =>
    simp only [hvalid, if_true, Bool.true_and, String.append_empty] at heq
    cases verbose with
    | true =>
      simp only [Bool.not_true, Bool.false_eq_true, if_false] at heq
      obtain ⟨hkept, hrows⟩ := (hbucket.append hfields).of_eq (ink_toList_append heq)
      exact isShownAsGiven_of_rows habout (fun _ => hkept) hrows
    | false =>
      simp only [Bool.not_false, if_true, String.append_empty] at heq
      have hkept := hbucket.of_eq (congrArg (ink ·.toList) heq)
      refine isShownAsGiven_of_rows habout (fun _ => hkept) ?_
      rw [tableRows_of_isValid hvalid]
      exact List.forall_mem_nil _
  | false =>
    simp only [hvalid, Bool.false_and, Bool.false_eq_true, if_false, String.empty_append] at heq
    obtain ⟨hrows, -⟩ := (hfields.append (Settles.refl _)).of_eq (ink_toList_append heq)
    exact isShownAsGiven_of_rows habout (fun htrue => absurd htrue (by rw [hvalid]; decide)) hrows

end Settled

/-! ## Reports -/

/-- A report is printed with its texts as they are given exactly if each is kept, and no tag spans two
messages of a field. -/
theorem outcomeText_eq_verbatimText_iff {o : Outcome} (habout : o.IsAboutFields) {s : Snapshot}
    (hprintable : IsPrintableReport o s) (verbose : Bool) :
    outcomeText o s verbose = ⟨verbatimText o s verbose, none⟩ ↔ IsShownAsGiven o s verbose := by
  constructor
  -- no error was met, so that the report is made of what its texts are shown as, and can be compared
  · intro heq
    have hcells := (error_outcomeText_eq_none_iff habout s verbose).mp (by rw [heq])
    rw [outcomeText_eq_reportText hprintable habout hcells, Printed.mk.injEq] at heq
    exact isShownAsGiven_of_eq hprintable habout hcells heq.1
  -- every text is shown as it was given, so that the two reports have the same cells
  · intro hgiven
    have hmessages : ∀ row ∈ tableRows o verbose,
        render (messagesCell row.2) = .ok (givenMessages row.2) := by
      intro row hrow
      obtain ⟨f, rfl⟩ := exists_field_of_mem_tableRows habout hrow
      obtain ⟨hkept, hseparate⟩ := hgiven.messages f
      exact render_messagesCell_of_kept (hprintable.messages f) hkept hseparate
    have hvalues : verbose = true → ∀ row ∈ tableRows o verbose,
        shownMarkup (valueCell s row.1) = givenValue s row := by
      intro hverbose row hrow
      obtain ⟨f, rfl⟩ := exists_field_of_mem_tableRows habout hrow
      rw [valueCell, givenValue, lookup_toEntries, Option.getD_some]
      exact shownMarkup_of_render
        ((render_escapeString_iff (hprintable.values f)).mpr (hgiven.values hverbose f))
    have hlines := fieldLines_congr hvalues (fun ms => shownMarkup (messagesCell ms)) givenMessages
      fun row hrow => shownMarkup_of_render (hmessages row hrow)
    rw [outcomeText_eq_reportText hprintable habout fun row hrow => by rw [hmessages row hrow]; rfl,
      verbatimText, reportText, reportText, hlines]
    cases hvalid : o.isValid with
    | false => rfl
    | true =>
      have hbucket : AllPrintable s.bucket.text.toList := hprintable.values .bucket
      rw [shownMarkup_of_render ((render_escapeString_iff hbucket).mpr (hgiven.bucket hvalid))]

/-- Texts without backslashes are shown as they are given, if no field has more than one message. -/
theorem isShownAsGiven_of_no_slashes {o : Outcome} {s : Snapshot} (hprintable : IsPrintableReport o s)
    (hmessages : ∀ f : Field, (o.messagesFor f.name).length ≤ 1
      ∧ ∀ m ∈ o.messagesFor f.name, '\\' ∉ m.toList)
    (hvalues : ∀ f : Field, '\\' ∉ (s.text f).toList) (verbose : Bool) :
    IsShownAsGiven o s verbose where
  bucket _ := isKept_of_not_mem (hvalues .bucket)
  values _ f := isKept_of_not_mem (hvalues f)
  messages f := by
    obtain ⟨hlength, hslash⟩ := hmessages f
    refine ⟨fun m hm => isKept_of_not_mem (hslash m hm), ?_⟩
    have hline := hprintable.messages f
    cases hfield : o.messagesFor f.name with
    | nil => exact isSeparate_nil
    | cons m rest =>
      rw [hfield] at hlength hline
      -- with one message at most nothing is joined
      have hrest : rest = [] := by
        rw [← List.length_eq_zero_iff]
        simpa using hlength
      rw [hrest]
      exact isSeparate_singleton (lineFeed_not_mem_of_allPrintable (hline m List.mem_cons_self))

/-! ## Given texts stand whole -/

/-- The texts that a report shows of an outcome and a snapshot. -/
inductive Shows (o : Outcome) (s : Snapshot) (verbose : Bool) : String → Prop
  | bucket (h : o.isValid = true) : Shows o s verbose s.bucket.text
  | value (h : verbose = true) (f : Field) : Shows o s verbose (s.text f)
  | message (f : Field) {m : String} (h : m ∈ o.messagesFor f.name) : Shows o s verbose m

/-- Every text that a report shows stands whole in the report with the texts as they are given. -/
theorem isInfix_verbatimText {o : Outcome} (habout : o.IsAboutFields) {s : Snapshot}
    (hprintable : IsPrintableReport o s) {verbose : Bool} {text : String}
    (h : Shows o s verbose text) : text.toList <:+: (verbatimText o s verbose).toList := by
  -- what stands in the table stands in the report, if the table is part of it
  have htable : ∀ {line : List Char}, ¬ (o.isValid && !verbose) = true →
      line <:+: (printLines (fieldLines (tableRows o verbose) verbose (givenValue s)
        givenMessages)).toList →
      line <:+: (verbatimText o s verbose).toList := by
    intro line hshown hline
    rw [verbatimText, reportText, if_neg hshown, String.toList_append, String.toList_append]
    exact hline.trans ((List.suffix_append _ _).isInfix.trans (List.prefix_append _ _).isInfix)
  cases h with
  | bucket hvalid =>
    rw [verbatimText, reportText, if_pos hvalid, String.ofList_toList]
    simp only [String.toList_append, List.append_assoc]
    exact List.infix_append' _ _ _
  | value hverbose f =>
    subst hverbose
    refine htable (by simp) (isInfix_fieldLines (mem_tableRows_true habout f)
      (List.mem_append_left _ (List.mem_cons_of_mem _ List.mem_cons_self)) ?_)
    show (s.text f).toList ∈ lines (givenValue s (f.name, o.messagesFor f.name))
    rw [givenValue, lookup_toEntries, Option.getD_some, lines,
      List.splitOn_eq_singleton (lineFeed_not_mem_of_allPrintable (hprintable.values f))]
    exact List.mem_singleton_self _
  | message f hm =>
    have hne : o.messagesFor f.name ≠ [] := List.ne_nil_of_mem hm
    have hrow := mem_tableRows habout verbose hne
    have hshown : ¬ (o.isValid && !verbose) = true := by
      intro hhidden
      rw [Bool.and_eq_true, Bool.not_eq_true'] at hhidden
      rw [hhidden.2, tableRows_of_isValid hhidden.1] at hrow
      cases hrow
    refine htable hshown (isInfix_fieldLines hrow (List.mem_append_right _ List.mem_cons_self) ?_)
    show text.toList ∈ lines (givenMessages (o.messagesFor f.name))
    rw [givenMessages_of_ne_nil hne, lines, joined, List.splitOn_intercalate _
      (lines_of_printable (hprintable.messages f)) (by simpa using hne)]
    exact List.mem_map_of_mem hm

/-! ## Failures -/

theorem shown_ofString (text : String) : Text.shown (Text.ofString text) = text := by
  rw [Text.shown, Text.ofString, List.flatMap_map]
  show String.ofList (text.toList.flatMap fun c => [c]) = text
  rw [List.flatMap_singleton', String.ofList_toList]

/-- The line of a failure whose text is printable shows the text as it is given exactly if it is
kept. -/
theorem failureText_eq_iff {f : Failure} {text : String} (hmessage : f.message = Text.ofString text)
    (hprintable : AllPrintable text.toList) :
    failureText f = ⟨"Error: " ++ text ++ "\n", none⟩ ↔ IsKept text.toList := by
  obtain ⟨shown, hshown, hline⟩ := exists_render_of_printable hprintable
  have hhead : AllPrintable "Error: ".toList := by decide +kernel
  have hprinted : paragraph (failureLine f)
      = .ok (String.ofList ("Error: ".toList ++ shown ++ ['\n'])) := by
    unfold failureLine
    rw [hmessage, shown_ofString,
      paragraph_eq_of_render (hhead.append hline) (render_failureLine hshown)]
  have hfailure : failureText f = ⟨"Error: " ++ String.ofList shown ++ "\n", none⟩ := by
    rw [failureText, Printed.blocks_wide, List.map_singleton, Block.text_paragraph, hprinted]
    simp only [Printed.all, String.ofList_append, String.ofList_toList, String.append_empty]
  -- the head of the line and its end are the same, so the texts in between are compared
  rw [hfailure, ← render_escapeString_iff hprintable, hshown]
  constructor
  · intro heq
    rw [Printed.mk.injEq, String.append_left_inj, String.append_right_inj] at heq
    rw [← heq.1, String.toList_ofList]
  · intro heq
    rw [Except.ok.inj heq, String.ofList_toList]

/-! ## Reports and failures together -/

/-- A report and the line of a failure show their texts as they are given, each whole and in its place,
exactly if every text is kept and no tag spans two messages of a field. -/
theorem printed_as_given_iff {o : Outcome} (habout : o.IsAboutFields) {s : Snapshot}
    (hprintable : IsPrintableReport o s) (verbose : Bool) {f : Failure} {text : String}
    (hmessage : f.message = Text.ofString text) (htext : AllPrintable text.toList) :
    (outcomeText o s verbose = ⟨verbatimText o s verbose, none⟩ ↔ IsShownAsGiven o s verbose)
      ∧ (∀ shown, Shows o s verbose shown → shown.toList <:+: (verbatimText o s verbose).toList)
      ∧ (failureText f = ⟨"Error: " ++ text ++ "\n", none⟩ ↔ IsKept text.toList) :=
  ⟨outcomeText_eq_verbatimText_iff habout hprintable verbose,
    fun _ hshown => isInfix_verbatimText habout hprintable hshown,
    failureText_eq_iff hmessage htext⟩

/-- A sink whose texts look like tags. -/
def taggedSink : Snapshot where
  dataFormat := ⟨"[bold]", by decide, by decide⟩
  storeKeys := true
  keysFormat := ⟨"\\\\[/]\\x", by decide, by decide⟩
  storeHeaders := false
  headersFormat := ⟨"a[0]", by decide, by decide⟩
  codec := .gzip
  bucket := ⟨"b [link=x", by decide, by decide⟩

/-- Messages that look like tags, two of them about one field. -/
def taggedOutcome : Outcome :=
  ((Outcome.empty.add Field.dataFormat.name "no class '[bold]'").add Field.compression.name
    "[/] is open [").add Field.compression.name "[red]\\\\"

theorem isAboutFields_taggedOutcome : taggedOutcome.IsAboutFields :=
  ((Outcome.isAboutFields_empty.add _ _).add _ _).add _ _

theorem isPrintableReport_taggedOutcome : IsPrintableReport taggedOutcome taggedSink where
  messages f := by cases f <;> decide +kernel
  values f := by cases f <;> decide +kernel

/-- A failure whose text looks like a tag and ends in two backslashes. -/
def taggedFailure : Failure := .foreign .invalidValue "[/red] \\\\"

/-- They are all shown as they are given. -/
theorem printed_as_given_taggedOutcome :
    outcomeText taggedOutcome taggedSink true = ⟨verbatimText taggedOutcome taggedSink true, none⟩
      ∧ failureText taggedFailure = ⟨"Error: [/red] \\\\\n", none⟩ := by
  have hmessage : taggedFailure.message = Text.ofString "[/red] \\\\" := rfl
  obtain ⟨hreport, -, hfailure⟩ := printed_as_given_iff isAboutFields_taggedOutcome
    isPrintableReport_taggedOutcome true hmessage (by decide +kernel)
  have hgiven : IsShownAsGiven taggedOutcome taggedSink true := {
    bucket := fun _ => by decide +kernel
    values := fun _ f => by cases f <;> decide +kernel
    messages := fun f => by cases f <;> decide +kernel }
  exact ⟨hreport.mpr hgiven, hfailure.mpr (by decide +kernel)⟩

/-- Two messages about a field, of which the first leaves a bracket open that the second closes. -/
def tornOutcome (first second : String) : Outcome :=
  (Outcome.empty.add Field.dataFormat.name first).add Field.dataFormat.name second

/-- Printable texts that are not shown as they are given. Two messages with one tag that closes nothing
keep the report from being printed, and what stands in a tag that opens a style is lost. A single
backslash at the end of a text is doubled, and one before a bracket that begins no tag is dropped. -/
theorem not_printed_as_given :
    (tornOutcome "[/x" "]").IsAboutFields
      ∧ IsPrintableReport (tornOutcome "[/x" "]") taggedSink
      ∧ (outcomeText (tornOutcome "[/x" "]") taggedSink false).error ≠ none
      ∧ (tornOutcome "[a" "b]").IsAboutFields
      ∧ IsPrintableReport (tornOutcome "[a" "b]") taggedSink
      ∧ (outcomeText (tornOutcome "[a" "b]") taggedSink false).error = none
      ∧ outcomeText (tornOutcome "[a" "b]") taggedSink false
        ≠ ⟨verbatimText (tornOutcome "[a" "b]") taggedSink false, none⟩
      ∧ (failureText (.foreign .invalidValue "back\\")).text = "Error: back\\\\\n"
      ∧ (failureText (.foreign .invalidValue "a\\[B]")).text = "Error: a[B]\n" := by
  have habout : ∀ first second, (tornOutcome first second).IsAboutFields := fun _ _ =>
    (Outcome.isAboutFields_empty.add _ _).add _ _
  have hclosing : IsPrintableReport (tornOutcome "[/x" "]") taggedSink :=
    ⟨fun f => by cases f <;> decide +kernel, fun f => by cases f <;> decide +kernel⟩
  have hopening : IsPrintableReport (tornOutcome "[a" "b]") taggedSink :=
    ⟨fun f => by cases f <;> decide +kernel, fun f => by cases f <;> decide +kernel⟩
  refine ⟨habout _ _, hclosing, by decide +kernel, habout _ _, hopening, by decide +kernel,
    fun heq => ?_, by decide +kernel, by decide +kernel⟩
  have hgiven := (outcomeText_eq_verbatimText_iff (habout "[a" "b]") hopening false).mp heq
  have htag : ¬ IsSeparate [['[', 'a'], ['b', ']']] := by decide +kernel
  exact htag (hgiven.messages .dataFormat).2

end SinkAudit
