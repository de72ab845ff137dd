import SinkAudit.Proofs.Json.RoundTrip
import SinkAudit.Proofs.Outcome
import SinkAudit.Proofs.Snapshot.RoundTrip
import SinkAudit.Proofs.Terminal.Printing
import SinkAudit.Proofs.Terminal.Shown
import SinkAudit.Report

/-!
# Which reports can be printed

Texts of the user are escaped, so that nearly everything can be printed. What cannot is a cell
with several messages: each is escaped on its own, and a bracket that one leaves open may be
closed by another.

`MarkupError` is no exception that a command expects, so that a report which cannot be printed ends the
command with the exit code three in the place of its verdict. Whether that happens is decided by the markup
alone and not by the console, which is why these results need no assumption about consoles.

- `exists_failureText_eq`: the line of a failure is always printed.
- `isOk_messagesCell_of_length_le_one`, `isOk_messagesCell_of_firstBracket`: the cell of a single
  message is printed, and that of several if none of the later ones closes a bracket.
- `error_outcomeText_eq_none_iff`: an outcome is printed exactly if the cells of messages are;
  `outcomeText_error_eq_none_iff`: exactly if that of the compression is, if no other field has more
  than one message.
- `error_formatsText`: the formats of a policy are always printed.
- `value_outcomeTree`, `parse_outcomeJson_eq_value`: what a JSON report of any outcome says, and that
  it is read back; `parse_outcomeJson`: an outcome about fields is read back whole.
-/

namespace SinkAudit

open Markup Terminal

/-! ## Lines of the program -/

/-- The styles of the program are styles, and no actions or closing tags. -/
theorem isStyle_of_mem {style : String} (h : style ∈ ["bold red", "bold green", "dim"]) :
    IsStyle style.toList := by
  -- the program opens three styles of its own, so that they can be checked by evaluation
  have hchecked : ∀ s ∈ ["bold red", "bold green", "dim"],
      (s.toList.head?.any isTagStart && s.toList.tail.all isInner && s.toList.all (· != '=')
        && s.toList.head? != some '/' && (styleName s.toList).isOk) = true := by
    decide +kernel
  have hstyle := hchecked style h
  simp only [Bool.and_eq_true, bne_iff_ne] at hstyle
  obtain ⟨⟨⟨⟨hstart, hinner⟩, hparameters⟩, hopening⟩, hknown⟩ := hstyle
  constructor
  · cases hcs : style.toList with
    | nil =>
      rw [hcs] at hstart
      cases hstart
    | cons c inner =>
      rw [hcs] at hstart hinner
      exact ⟨c, inner, rfl, hstart, List.all_eq_true.mp hinner⟩
  · exact List.all_eq_true.mp hparameters
  · exact hopening
  · cases hname : styleName style.toList with
    | error e =>
      rw [hname] at hknown
      cases hknown
    | ok name => exact ⟨name, rfl⟩

theorem isStyle_boldRed : IsStyle "bold red".toList := isStyle_of_mem (by simp)

theorem isStyle_boldGreen : IsStyle "bold green".toList := isStyle_of_mem (by simp)

theorem isStyle_dim : IsStyle "dim".toList := isStyle_of_mem (by simp)

/-- Escaped text is shown alike wherever it stands. -/
theorem renderFrom_escapeString {s : String} {shown : List Char}
    (h : render (escapeString s) = .ok shown) (position : Nat) (styles : List OpenStyle) :
    renderFrom position styles (pieces (escapeString s)) = .ok shown := by
  obtain ⟨ps, hinert, hpieces⟩ := exists_pieces_escape s.toList
  have hps : pieces (escapeString s) = ps := by
    have := hpieces [] detached_nil
    rwa [List.append_nil, pieces_nil, List.append_nil] at this
  rw [render, hps, renderFrom_of_inert hinert] at h
  rw [hps, renderFrom_of_inert hinert, h]

/-- A word in a style, then a text without markup, then escaped text. -/
theorem render_headed {style word plain : List Char} (hstyle : IsStyle style) (hword : IsPlain word)
    (hplain : IsPlain plain) {s : String} {shown : List Char}
    (h : render (escapeString s) = .ok shown) :
    render (bracketed style ++ (word ++ (bracketed ['/'] ++ (plain ++ escapeString s))))
      = .ok (word ++ (plain ++ shown)) := by
  obtain ⟨next, hnext⟩ := renderFrom_styled hstyle hword (plain ++ escapeString s) 0 []
  obtain ⟨last, hlast⟩ := renderFrom_plain hplain (escapeString s) next []
  rw [render, hnext, hlast, renderFrom_escapeString h]
  rfl

/-- Escaped text is shown as some text. -/
theorem exists_render_escapeString (s : String) : ∃ shown, render (escapeString s) = .ok shown :=
  exists_renderFrom_escape s.toList 0 []

/-- A text without markup is shown as it is. -/
theorem render_plain {text : List Char} (h : IsPlain text) : render text = .ok text := by
  obtain ⟨next, hnext⟩ := renderFrom_plain h [] 0 []
  rw [List.append_nil, pieces_nil, renderFrom, Except.map, List.append_nil] at hnext
  exact hnext

/-- A text without markup can be rendered. -/
theorem isOk_render_plain {text : List Char} (h : IsPlain text) : (render text).isOk = true := by
  rw [render_plain h]
  rfl

/-- The line of a failure is the word for an error and the text as it is shown. -/
theorem render_failureLine {s : String} {shown : List Char}
    (h : render (escapeString s) = .ok shown) :
    render ("[bold red]Error:[/] ".toList ++ escapeString s) = .ok ("Error: ".toList ++ shown) := by
  have hhead : "[bold red]Error:[/] ".toList = bracketed "bold red".toList
      ++ ("Error:".toList ++ (bracketed ['/'] ++ " ".toList)) := by decide
  have hword : IsPlain "Error:".toList := by decide
  have hplain : IsPlain " ".toList := by decide
  have hline := render_headed isStyle_boldRed hword hplain h
  simp only [← List.append_assoc] at hline hhead
  rw [hhead, hline]
  rfl

/-! ## Blocks on a console -/

namespace Printed

/-- On the wide console blocks are printed with their texts. -/
theorem blocks_wide (bs : List Block) : blocks .wide bs = all (bs.map Block.text) := by
  rw [blocks, List.map_congr_left fun b _ => Console.print_wide b]

/-- Whether blocks can be printed, and what keeps them from it, does not depend on the console. -/
theorem error_blocks (console : Console) (bs : List Block) :
    (blocks console bs).error = (blocks .wide bs).error := by
  rw [blocks_wide]
  unfold blocks
  induction bs with
  | nil => rfl
  | cons b rest ih =>
    rw [List.map_cons, List.map_cons, Console.print]
    cases b.text with
    | error e => rfl
    | ok text => exact ih

end Printed

/-- The line of a failure is printed, and says that there is an error. -/
theorem exists_failureText_eq (f : Failure) :
    ∃ rest, failureText f = ⟨"Error: " ++ rest, none⟩ := by
  obtain ⟨shown, hshown⟩ := exists_render_escapeString (Text.shown f.message)
  have hsteady : "Error: ".toList.all (decide <| IsSteady ·) = true := by decide
  obtain ⟨rest, hrest⟩ := exists_paragraph_eq
    (fun c hc => of_decide_eq_true (List.all_eq_true.mp hsteady c hc)) (render_failureLine hshown)
  have hline : paragraph (failureLine f) = .ok (String.ofList "Error: ".toList ++ rest) := hrest
  refine ⟨rest, ?_⟩
  rw [failureText, Printed.blocks_wide, List.map_singleton, Block.text_paragraph, hline]
  simp only [Printed.all, String.ofList_toList, String.append_empty]

/-- The line of a valid configuration names its bucket as it is shown. -/
theorem render_validLine {s : Snapshot} {shown : List Char}
    (h : render (escapeString s.bucket.text) = .ok shown) :
    render (validLine s) = .ok ("VALID bucket=".toList ++ shown) := by
  have hhead : "[bold green]VALID[/] bucket=".toList = bracketed "bold green".toList
      ++ ("VALID".toList ++ (bracketed ['/'] ++ " bucket=".toList)) := by decide
  have hword : IsPlain "VALID".toList := by decide
  have hplain : IsPlain " bucket=".toList := by decide
  have hline := render_headed isStyle_boldGreen hword hplain h
  simp only [← List.append_assoc] at hline hhead
  unfold validLine
  rw [hhead, hline]
  rfl

theorem isOk_validLine (s : Snapshot) : (paragraph (validLine s)).isOk = true := by
  obtain ⟨shown, hshown⟩ := exists_render_escapeString s.bucket.text
  rw [isOk_paragraph, render_validLine hshown]
  rfl

/-- The digits of a number hold no markup. -/
theorem isPlain_toString (n : Nat) : IsPlain (toString n).toList := by
  intro c hc
  rw [Nat.toString_eq_repr, Nat.toList_repr] at hc
  have hdigit : c.isDigit = true := Nat.isDigit_of_mem_toDigits (by decide) (by decide) hc
  constructor
  · rintro rfl
    exact absurd hdigit (by decide)
  · rintro rfl
    exact absurd hdigit (by decide)

/-- The line that counts the violations is shown without its style. -/
theorem render_invalidLine (o : Outcome) :
    render (invalidLine o) = .ok ("INVALID " ++ toString o.violationCount ++ " violation(s) on "
      ++ toString o.invalidFields.length ++ " field(s)").toList := by
  -- the line is one word between two tags, and plain text from there on
  have hhead : "[bold red]INVALID[/] ".toList = bracketed "bold red".toList
      ++ ("INVALID".toList ++ (bracketed ['/'] ++ " ".toList)) := by decide
  have hspace : IsPlain " ".toList := by decide
  have hviolations : IsPlain " violation(s) on ".toList := by decide
  have hfields : IsPlain " field(s)".toList := by decide
  have hplain : IsPlain (" ".toList ++ ((toString o.violationCount).toList
      ++ (" violation(s) on ".toList ++ ((toString o.invalidFields.length).toList
        ++ " field(s)".toList)))) :=
    hspace.append ((isPlain_toString _).append
      (hviolations.append ((isPlain_toString _).append hfields)))
  have hword : IsPlain "INVALID".toList := by decide
  obtain ⟨next, hnext⟩ := renderFrom_styled isStyle_boldRed hword _ 0 []
  obtain ⟨last, hlast⟩ := renderFrom_plain hplain [] next []
  have hstart : "INVALID ".toList = "INVALID".toList ++ " ".toList := by decide
  rw [List.append_nil] at hlast
  rw [invalidLine, render]
  simp only [String.toList_append, hhead, hstart, List.append_assoc] at hlast ⊢
  rw [hnext, hlast, pieces_nil]
  simp only [renderFrom, Except.map, List.append_nil]

theorem isOk_invalidLine (o : Outcome) : (paragraph (invalidLine o)).isOk = true := by
  rw [isOk_paragraph, render_invalidLine]
  rfl

/-! ## Cells of messages -/

/-- Several messages, each behind a line feed. -/
def furtherMessages (messages : List String) : List Char :=
  messages.flatMap fun m => '\n' :: escapeString m

theorem messagesCell_cons (m : String) (messages : List String) :
    messagesCell (m :: messages) = escapeString m ++ furtherMessages messages := by
  show List.intercalate ['\n'] ((m :: messages).map escapeString) = _
  induction messages generalizing m with
  | nil => simp [furtherMessages]
  | cons m' rest ih =>
    rw [List.map_cons, List.map_cons, List.intercalate_cons_cons, ← List.map_cons, ih,
      List.append_assoc]
    rfl

theorem isOk_messagesCell_nil : (render (messagesCell [])).isOk = true := by
  have hcell : messagesCell [] = bracketed "dim".toList
      ++ ("ok".toList ++ (bracketed ['/'] ++ [])) := by decide
  have hword : IsPlain "ok".toList := by decide
  obtain ⟨next, hnext⟩ := renderFrom_styled isStyle_dim hword [] 0 []
  rw [render, hcell, hnext, pieces_nil]
  rfl

/-- Messages none of which closes a bracket are detached from what stands before them. -/
theorem detached_furtherMessages {messages : List String}
    (h : ∀ m ∈ messages, firstBracket? m.toList ≠ some ']') :
    Detached (furtherMessages messages) := by
  induction messages with
  | nil => exact detached_nil
  | cons m rest ih =>
    obtain ⟨hm, hrest⟩ := List.forall_mem_cons.mp h
    refine ⟨?_, rfl⟩
    rw [furtherMessages, List.flatMap_cons, List.cons_append,
      firstBracket?_cons_of_inner (by decide), firstBracket?_append, escapeString, firstBracket?_escape]
    -- a message without brackets leaves it to those behind it
    cases hfirst : firstBracket? m.toList with
    | none =>
      rw [Option.none_or]
      exact (ih hrest).1
    | some c =>
      rw [Option.some_or]
      exact hfirst ▸ hm

/-- A cell is printed if none of its later messages closes a bracket. -/
theorem isOk_messagesCell_of_firstBracket {m : String} {messages : List String}
    (h : ∀ m' ∈ messages, firstBracket? m'.toList ≠ some ']') :
    (render (messagesCell (m :: messages))).isOk = true := by
  -- behind the first message each line feed is a piece of its own, and each message is detached
  have hfurther : ∀ (rest : List String) position styles,
      (∀ m' ∈ rest, firstBracket? m'.toList ≠ some ']') →
      (renderFrom position styles (pieces (furtherMessages rest))).isOk = true := by
    intro rest
    induction rest with
    | nil =>
      intro position styles _
      rw [furtherMessages, List.flatMap_nil, pieces_nil]
      rfl
    | cons m' rest ih =>
      intro position styles hrest
      obtain ⟨-, hlater⟩ := List.forall_mem_cons.mp hrest
      obtain ⟨next, shown, hshown⟩ := renderFrom_escape m'.toList (detached_furtherMessages hlater)
        (position + 1) styles
      rw [furtherMessages, List.flatMap_cons, List.cons_append, pieces_cons (by decide) (by decide),
        renderFrom, isOk_map, escapeString]
      rw [furtherMessages] at hshown
      rw [hshown, isOk_map]
      exact ih next styles hlater
  obtain ⟨next, shown, hshown⟩ := renderFrom_escape m.toList (detached_furtherMessages h) 0 []
  rw [messagesCell_cons, render, escapeString, hshown, isOk_map]
  exact hfurther messages next [] h

/-- A cell with at most one message is printed. -/
theorem isOk_messagesCell_of_length_le_one {messages : List String} (h : messages.length ≤ 1) :
    (render (messagesCell messages)).isOk = true := by
  match messages, h with
  | [], _ => exact isOk_messagesCell_nil
  | [m], _ => exact isOk_messagesCell_of_firstBracket (by simp)

/-! ## Outcomes -/

/-- Parts are printed without an error exactly if each of them is. -/
theorem error_all_eq_none_iff (parts : List (Except Markup.Error String)) :
    (Printed.all parts).error = none ↔ ∀ p ∈ parts, p.isOk = true := by
  induction parts with
  | nil => simp [Printed.all]
  | cons p rest ih =>
    rw [List.forall_mem_cons, ← ih]
    cases p with
    | error e => simp [Printed.all, Except.isOk, Except.toBool]
    | ok s => simp [Printed.all, Except.isOk, Except.toBool]

/-- The rows of an outcome's table. -/
def tableRows (o : Outcome) (verbose : Bool) : List (String × List String) :=
  (if verbose then o.report else o.violations).toList

/-- A row of the table is about a field, and holds the messages of the field. -/
theorem exists_field_of_mem_tableRows {o : Outcome} (h : o.IsAboutFields) {verbose : Bool}
    {row : String × List String} (hrow : row ∈ tableRows o verbose) :
    ∃ f : Field, row = (f.name, o.messagesFor f.name) := by
  unfold tableRows at hrow
  cases verbose with
  | true =>
    rw [if_pos rfl, Outcome.toList_report h] at hrow
    obtain ⟨f, -, rfl⟩ := List.mem_map.mp hrow
    exact ⟨f, rfl⟩
  | false =>
    rw [if_neg (by decide)] at hrow
    have hmem : row ∈ o.errors.toList := (List.mem_filter.mp hrow).1
    obtain ⟨f, hf⟩ := h row.1 (List.mem_map_of_mem hmem)
    have hget : o.errors.get? row.1 = some row.2 :=
      OrderedMap.get?_of_mem (beq_self_eq_true _) hmem
    refine ⟨f, ?_⟩
    rw [hf, Outcome.messagesFor, hget]
    rfl

/-- Every field has a row in the table of all fields. -/
theorem mem_tableRows_true {o : Outcome} (h : o.IsAboutFields) (f : Field) :
    (f.name, o.messagesFor f.name) ∈ tableRows o true := by
  rw [tableRows, if_pos rfl, Outcome.toList_report h]
  exact List.mem_map.mpr ⟨f, f.mem_all, rfl⟩

/-- A field with messages has a row in the table. -/
theorem mem_tableRows {o : Outcome} (h : o.IsAboutFields) (verbose : Bool) {f : Field}
    (hf : o.messagesFor f.name ≠ []) : (f.name, o.messagesFor f.name) ∈ tableRows o verbose := by
  cases verbose with
  | true => exact mem_tableRows_true h f
  | false =>
    rw [tableRows, if_neg (by decide)]
    cases hget : o.errors.get? f.name with
    | none =>
      rw [Outcome.messagesFor, hget] at hf
      exact absurd rfl hf
    | some messages =>
      have hmessages : o.messagesFor f.name = messages := by
        rw [Outcome.messagesFor, hget]
        rfl
      rw [hmessages] at hf ⊢
      exact List.mem_filter.mpr ⟨OrderedMap.mem_of_get? hget, by simpa using hf⟩

/-- A valid outcome has no rows of fields with messages. -/
theorem tableRows_of_isValid {o : Outcome} (h : o.isValid = true) : tableRows o false = [] := by
  refine List.filter_eq_nil_iff.mpr fun e he => ?_
  have := List.all_eq_true.mp h e he
  simpa using this

theorem isPlain_name (f : Field) : IsPlain f.name.toList := by cases f <;> decide

section Columns

variable (rows : List (String × List String))

/-- The column of the names of fields. -/
def fieldColumn : Column := ⟨"Field", rows.map (·.1.toList), false⟩

/-- The column of the values. -/
def valueColumn (s : Snapshot) : Column := ⟨"Value", rows.map (valueCell s ·.1), true⟩

/-- The column of the messages. -/
def messagesColumn : Column := ⟨"Errors", rows.map (messagesCell ·.2), true⟩

end Columns

theorem columns_outcomeTable (o : Outcome) (s : Snapshot) (verbose : Bool) :
    (outcomeTable o s verbose).columns = [fieldColumn (tableRows o verbose)]
      ++ (if verbose then [valueColumn (tableRows o verbose) s] else [])
      ++ [messagesColumn (tableRows o verbose)] := rfl

/-- Every column of the table is one of the three. -/
theorem eq_of_mem_columns_outcomeTable {o : Outcome} {s : Snapshot} {verbose : Bool} {c : Column}
    (h : c ∈ (outcomeTable o s verbose).columns) : c = fieldColumn (tableRows o verbose)
      ∨ c = valueColumn (tableRows o verbose) s ∨ c = messagesColumn (tableRows o verbose) := by
  rw [columns_outcomeTable] at h
  rcases List.mem_append.mp h with h | h
  · rcases List.mem_append.mp h with h | h
    · exact .inl (List.mem_singleton.mp h)
    · cases verbose with
      | false => cases h
      | true => exact .inr (.inl (List.mem_singleton.mp h))
  · exact .inr (.inr (List.mem_singleton.mp h))

/-- The table of an outcome is printed exactly if the messages of every row are. -/
theorem isOk_outcomeTable_iff {o : Outcome} (h : o.IsAboutFields) (s : Snapshot) (verbose : Bool) :
    (outcomeTable o s verbose).print.isOk = true
      ↔ ∀ row ∈ tableRows o verbose, (render (messagesCell row.2)).isOk = true := by
  -- names of fields are plain and values are escaped, so that only the last column can fail
  rw [isOk_print_iff]
  constructor
  · intro hall row hrow
    refine hall (messagesColumn (tableRows o verbose)) ?_ _ (List.mem_map_of_mem hrow)
    rw [columns_outcomeTable]
    exact List.mem_append_right _ List.mem_cons_self
  · intro hrows c hc cell hcell
    rcases eq_of_mem_columns_outcomeTable hc with rfl | rfl | rfl
    · obtain ⟨row, hrow, rfl⟩ := List.mem_map.mp hcell
      obtain ⟨f, rfl⟩ := exists_field_of_mem_tableRows h hrow
      exact isOk_render_plain (isPlain_name f)
    · obtain ⟨row, -, rfl⟩ := List.mem_map.mp hcell
      exact isOk_render_escape _
    · obtain ⟨row, hrow, rfl⟩ := List.mem_map.mp hcell
      exact hrows row hrow

/-- An outcome is printed exactly if the messages of every row are, with all fields or with only those
at fault. -/
theorem error_outcomeText_eq_none_iff {o : Outcome} (h : o.IsAboutFields) (s : Snapshot)
    (verbose : Bool) :
    (outcomeText o s verbose).error = none
      ↔ ∀ row ∈ tableRows o verbose, (render (messagesCell row.2)).isOk = true := by
  rw [← isOk_outcomeTable_iff h s verbose, outcomeText, Printed.blocks_wide, error_all_eq_none_iff]
  unfold outcomeBlocks
  cases hvalid : o.isValid with
  | false =>
    simp [isOk_invalidLine]
  | true =>
    cases verbose with
    | true => simp [isOk_validLine]
    | false =>
      -- a valid outcome has no table, and its rows would be none
      have htable : (outcomeTable o s false).print.isOk = true := by
        rw [isOk_outcomeTable_iff h, tableRows_of_isValid hvalid]
        simp
      simp [isOk_validLine, htable]

/-- An outcome in which only the compression may have several messages is printed exactly if these
are, with all fields or with only those at fault. -/
theorem outcomeText_error_eq_none_iff {o : Outcome} (h : o.IsAboutFields)
    (hsingle : ∀ f : Field, f ≠ .compression → (o.messagesFor f.name).length ≤ 1) (s : Snapshot)
    (verbose : Bool) :
    (outcomeText o s verbose).error = none
      ↔ (render (messagesCell (o.messagesFor Field.compression.name))).isOk = true := by
  rw [error_outcomeText_eq_none_iff h]
  -- rows of other fields hold one message at most; a field without messages may have no row
  constructor
  · intro hall
    by_cases hnone : o.messagesFor Field.compression.name = []
    · rw [hnone]
      exact isOk_messagesCell_nil
    · exact hall _ (mem_tableRows h verbose hnone)
  · intro hcell row hrow
    obtain ⟨f, rfl⟩ := exists_field_of_mem_tableRows h hrow
    by_cases hf : f = .compression
    · rw [hf]
      exact hcell
    · exact isOk_messagesCell_of_length_le_one (hsingle f hf)

/-! ## Policies -/

/-- The names of the fields hold no markup, nor does the line that lists them. -/
theorem isPlain_fieldNames : IsPlain (", ".intercalate (Field.all.map Field.name)).toList := by
  rw [String.toList_intercalate, List.map_map]
  refine IsPlain.intercalate (by decide) fun name hname => ?_
  obtain ⟨f, -, rfl⟩ := List.mem_map.mp hname
  exact isPlain_name f

theorem isOk_fieldsLine :
    (paragraph ("[dim]Checked fields: " ++ ", ".intercalate (Field.all.map Field.name)
      ++ "[/]").toList).isOk = true := by
  have hhead : "[dim]Checked fields: ".toList
      = bracketed "dim".toList ++ "Checked fields: ".toList := by decide
  have hend : "[/]".toList = bracketed ['/'] ++ [] := by decide
  have hword : IsPlain "Checked fields: ".toList := by decide
  obtain ⟨next, hnext⟩ := renderFrom_styled isStyle_dim (hword.append isPlain_fieldNames) [] 0 []
  rw [isOk_paragraph, render, String.toList_append, String.toList_append, hhead, hend,
    List.append_assoc, List.append_assoc, ← List.append_assoc "Checked fields: ".toList, hnext,
    pieces_nil]
  rfl

/-- The formats of a policy are printed on every console, whatever their names hold. -/
theorem error_formatsText (p : Policy) (console : Console) :
    (formatsText p console).error = none := by
  have htable : (formatsTable p).print.isOk = true := by
    refine (isOk_print_iff _).mpr fun column hcolumn cell hcell => ?_
    -- of all cells only the list of names can hold brackets, and it is escaped
    have hcolumns : column = ⟨"Compression", Codec.all.map (·.name.toList), true⟩
        ∨ column = ⟨"Allowed format classes", ["any".toList, Markup.escapeString p.supported],
          true⟩ := by
      simpa [formatsTable, Codec.all] using hcolumn
    rcases hcolumns with rfl | rfl
    · obtain ⟨codec, -, rfl⟩ := List.mem_map.mp hcell
      have hplain : IsPlain codec.name.toList := by cases codec <;> decide
      exact isOk_render_plain hplain
    · rcases List.mem_cons.mp hcell with rfl | hcell
      · exact isOk_render_plain (by decide)
      · rw [List.mem_singleton.mp hcell]
        exact isOk_render_escape _
  rw [formatsText, Printed.error_blocks, Printed.blocks_wide, error_all_eq_none_iff, formatsBlocks,
    List.map_cons, List.map_singleton, List.forall_mem_cons, List.forall_mem_singleton]
  exact ⟨htable, isOk_fieldsLine⟩

/-! ## Outcomes as JSON -/

/-- The messages that a JSON report lists, under the names of all fields and of whatever else the
outcome mentions. -/
def messagesTree (o : Outcome) : Json.Tree :=
  .object (o.report.toList.map fun e => (e.1, .list (e.2.map .text)))

/-- A JSON report of any outcome says whether it is valid, and holds the configuration and the
messages. -/
theorem value_outcomeTree (o : Outcome) (s : Snapshot) :
    (outcomeTree o s).value = .mapping [
      ("valid", .scalar (.bool o.isValid)),
      ("config", .mapping s.toProperties.toList),
      ("errors", (messagesTree o).value)] := by
  have hconfig : (Json.Tree.object (s.toEntries.map fun e => (e.1, .text e.2))).value
      = .mapping s.toProperties.toList := by
    rw [Json.Tree.value, Json.Tree.entryValues_eq_map, Snapshot.toProperties, List.map_map]
    rfl
  -- the three names of a report differ, so that each keeps its entry
  have hkeys : ∀ a b c : Value, ([(("valid" : Scalar), a), (("config" : Scalar), b),
      (("errors" : Scalar), c)]).Pairwise OrderedMap.KeysDiffer := by
    intro a b c
    simp [OrderedMap.KeysDiffer, Scalar.beq_ofString]
  rw [outcomeTree, Json.Tree.value, Json.Tree.entryValues_eq_map]
  simp only [List.map_cons, List.map_nil, hconfig]
  rw [OrderedMap.toList_ofList (hkeys _ _ _), Json.Tree.value]
  rfl

/-- What a JSON report says of an outcome about fields: whether it is valid, the configuration, and the
messages of all fields in report order. -/
def reportValue (s : Snapshot) (o : Outcome) : Value :=
  .mapping [
    ("valid", .scalar (.bool o.isValid)),
    ("config", .mapping s.toProperties.toList),
    ("errors", .mapping (Field.all.map fun f =>
      ((f.name : Scalar), .list ((o.messagesFor f.name).map .ofString))))]

theorem outcomeTree_value {o : Outcome} (h : o.IsAboutFields) (s : Snapshot) :
    (outcomeTree o s).value = reportValue s o := by
  have hentries : Json.Tree.entryValues (o.report.toList.map fun e => (e.1, .list (e.2.map .text)))
      = Field.all.map fun f =>
        ((f.name : Scalar), .list ((o.messagesFor f.name).map .ofString)) := by
    rw [Json.Tree.entryValues_eq_map, Outcome.toList_report h, List.map_map, List.map_map]
    refine List.map_congr_left fun f _ => ?_
    show ((f.name : Scalar), (Json.Tree.list ((o.messagesFor f.name).map .text)).value) = _
    rw [Json.Tree.value, Json.Tree.values_eq_map, List.map_map]
    rfl
  have herrors : (messagesTree o).value = .mapping (Field.all.map fun f =>
      ((f.name : Scalar), .list ((o.messagesFor f.name).map .ofString))) := by
    rw [messagesTree, Json.Tree.value, hentries, OrderedMap.toList_ofList (Field.pairwise_name _)]
  rw [value_outcomeTree, herrors, reportValue]

theorem height_outcomeTree_le (o : Outcome) (s : Snapshot) : (outcomeTree o s).height ≤ 3 := by
  -- the entries of the configuration are leaves, those of the report are lists of leaves
  have hconfig : Json.Tree.entryHeights (s.toEntries.map fun e => (e.1, .text e.2)) ≤ 0 := by
    refine Json.Tree.entryHeights_le fun e he => ?_
    obtain ⟨e', -, rfl⟩ := List.mem_map.mp he
    simp [Json.Tree.height]
  have herrors : Json.Tree.entryHeights (o.report.toList.map fun e => (e.1, .list (e.2.map .text)))
      ≤ 1 := by
    refine Json.Tree.entryHeights_le fun e he => ?_
    obtain ⟨e', -, rfl⟩ := List.mem_map.mp he
    have hmessages : Json.Tree.heights (e'.2.map .text) ≤ 0 := by
      refine Json.Tree.heights_le fun t ht => ?_
      obtain ⟨m, -, rfl⟩ := List.mem_map.mp ht
      simp [Json.Tree.height]
    simp only [Json.Tree.height]
    omega
  simp only [outcomeTree, Json.Tree.height, Json.Tree.entryHeights]
  omega

/-- A printed JSON report of any outcome is read back as one document. -/
theorem parse_outcomeJson_eq_value (o : Outcome) (s : Snapshot) :
    Json.parse (outcomeJson o s).toList = .ok (outcomeTree o s).value :=
  Json.parse_write (Nat.le_trans (height_outcomeTree_le o s) (by decide))

/-- An outcome printed as JSON is one document, which says all of it. -/
theorem parse_outcomeJson {o : Outcome} (h : o.IsAboutFields) (s : Snapshot) :
    Json.parse (outcomeJson o s).toList = .ok (reportValue s o) := by
  rw [parse_outcomeJson_eq_value, outcomeTree_value h]

end SinkAudit
