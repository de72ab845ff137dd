import Mathlib.Data.List.Fold
import Mathlib.Data.List.MinMax
import SinkAudit.Proofs.Terminal.Line
import SinkAudit.Proofs.Terminal.Printing

/-!
# Tables of legible text

A legible text is one of printable characters, in lines. A table of such texts is laid out plainly: every
column is as wide as its widest line, so that no line is broken, cut or changed, and each stands in its
column with blanks behind it.

Legible texts are what the layout is proved for. Control characters, tabs and characters that take no column
of their own are printable to a terminal only in part, and a table that holds them may be cut.

- `IsLegible`: a text of printable lines.
- `plainFrame`: the plain layout of a table.
- `linesOf_of_isLegible`: the lines of a legible cell are its own, filled up to the column.
- `frame_eq_plainFrame`: a table of legible texts is laid out plainly.
- `exists_isInfix_plainFrame`: each line of a cell stands whole in the plain layout.
- `display_eq_of_render`, `paragraph_eq_of_render`: a legible text is printed as it is rendered.
-/

namespace SinkAudit.Terminal

open Text

/-- Is a text made of printable lines? -/
def IsLegible (cs : List Char) : Prop := ∀ c ∈ cs, c = '\n' ∨ isPrintable c = true

instance (cs : List Char) : Decidable (IsLegible cs) :=
  List.decidableBAll (fun c => c = '\n' ∨ isPrintable c = true) cs

/-! ## Printable lines -/

section Printable

variable {cs : List Char} (h : AllPrintable cs)

include h

theorem isUnjoined_of_printable : IsUnjoined cs := by
  intro c hc hjoiner
  have hprintable := h c hc
  rw [hjoiner] at hprintable
  exact absurd hprintable (by decide +kernel)

theorem isLegible_of_printable : IsLegible cs := fun c hc => .inr (h c hc)

theorem expandTabs_of_printable : expandTabs cs = cs := by
  refine expandTabs_of_not_mem fun hmem => ?_
  exact absurd (h '\t' hmem) (by decide +kernel)

/-- A printable line that fits is filled up to its column, whether its column breaks lines or not. -/
theorem fit_lines_of_printable {n : Nat} (hfits : width cs ≤ n) (wraps : Bool) :
    ((if wraps then wrap n (expandTabs cs) else [expandTabs cs]).map fun line =>
      fit n (abbreviate n (trimExcess n line))) = [padTo n cs] := by
  have hunjoined := isUnjoined_of_printable h
  have hline : (if wraps then wrap n cs else [cs]) = [cs] := by
    cases wraps with
    | false => rfl
    | true => exact wrap_eq_singleton hunjoined hfits
  rw [expandTabs_of_printable h, hline]
  exact wrap_map_eq hunjoined (fun c hc => eq_space_of_isBlank (h c hc)) hfits

end Printable

theorem allPrintable_of_mem_lines {cs : List Char} (h : IsLegible cs) :
    ∀ line ∈ lines cs, AllPrintable line := by
  intro line hline c hc
  refine (h c (subset_of_mem_lines hline hc)).resolve_left ?_
  rintro rfl
  exact not_mem_of_mem_splitOn line hline hc

/-! ## Widths of columns -/

theorem le_foldl_max {n : Nat} {ns : List Nat} (h : n ∈ ns) : n ≤ ns.foldl max 0 := by
  rw [List.foldl_eq_foldr]
  exact List.le_max_of_le' 0 h (Nat.le_refl n)

/-- The greatest number in several lists is the greatest of their greatest numbers. -/
theorem foldl_max_flatMap {α : Type} (f : α → List Nat) (xs : List α) :
    (xs.flatMap f).foldl max 0 = (xs.map fun x => (f x).foldl max 0).foldl max 0 := by
  have hgeneral : ∀ n, (xs.flatMap f).foldl max n
      = (xs.map fun x => (f x).foldl max 0).foldl max n := by
    induction xs with
    | nil => exact fun n => rfl
    | cons x xs ih =>
      intro n
      have hfirst : (f x).foldl max (max n 0) = max n ((f x).foldl max 0) := List.foldl_assoc
      rw [Nat.max_zero] at hfirst
      rw [List.flatMap_cons, List.foldl_append, ih, List.map_cons, List.foldl_cons, hfirst]
  exact hgeneral 0

/-- A legible text has no other line ends than line feeds. -/
theorem splitOnP_isLineEnd {cs : List Char} (h : IsLegible cs) :
    cs.splitOnP isLineEnd = lines cs := by
  induction cs with
  | nil => rfl
  | cons c cs ih =>
    obtain ⟨hc, hcs⟩ := List.forall_mem_cons.mp h
    -- of the characters that end a line only the line feed can stand in a legible text
    have hend : isLineEnd c = (c == '\n') := by
      rcases hc with rfl | hprintable
      · rfl
      · have hother : c.toNat ∉ [0xA, 0x1C, 0x1D, 0x1E, 0x85, 0x2028, 0x2029] :=
          toNat_not_mem_of_isPrintable hprintable (by decide +kernel)
        have hfeed : c ≠ '\n' := by
          rintro rfl
          exact absurd hprintable (by decide +kernel)
        rw [isLineEnd, beq_false_of_ne hfeed, ← Bool.not_eq_true, List.contains_iff_mem]
        exact hother
    rw [lines, List.splitOnP_cons_eq_if_modifyHead, List.splitOn_cons_eq_if_modifyHead, hend,
      ih hcs, lines]

/-! ## The plain layout -/

namespace ShownColumn

/-- How wide the widest line of a column is. -/
def plainWidth (c : ShownColumn) : Nat :=
  (((c.heading :: c.cells).flatMap lines).map Terminal.width).foldl max 0

/-- The lines of a row's cell as they are. -/
def plainLines (c : ShownColumn) (row : Nat) : List (List Char) := (c.cells[row]?.map lines).getD []

/-- Is everything in the column legible? -/
def IsLegible (c : ShownColumn) : Prop := ∀ text ∈ c.heading :: c.cells, Terminal.IsLegible text

end ShownColumn

/-- The lines of a row of cells, each of which has its own lines. -/
def plainRow (cells : List (Nat × List (List Char))) : List (List Char) :=
  (List.range ((cells.map (·.2.length)).foldl max 0)).map fun line =>
    cellLine '│' (cells.map fun (w, ls) => (w, ls.getD line []))

/-- A table in its frame, the lines of whose cells are shown as they are. -/
def plainFrame (title : List Char) (columns : List ShownColumn) : List (List Char) :=
  let widths := columns.map ShownColumn.plainWidth
  let height := (columns.map fun c => c.cells.length).foldl max 0
  centered (widths.foldr (fun w n => w + 3 + n) 1) title
    :: stroke '┏' '┳' '┓' '━' widths
    :: cellLine '┃' (columns.map fun c => (c.plainWidth, c.heading))
    :: stroke '┡' '╇' '┩' '━' widths
    :: (List.range height).flatMap
      (fun row => plainRow (columns.map fun c => (c.plainWidth, c.plainLines row)))
    ++ [stroke '└' '┴' '┘' '─' widths]

variable {c : ShownColumn}

theorem width_le_plainWidth {text line : List Char} (htext : text ∈ c.cells)
    (hline : line ∈ lines text) : Terminal.width line ≤ c.plainWidth :=
  le_foldl_max (List.mem_map_of_mem
    (List.mem_flatMap.mpr ⟨text, List.mem_cons_of_mem _ htext, hline⟩))

section Plain

variable (h : c.IsLegible)

include h

theorem width_eq_plainWidth : c.width = c.plainWidth := by
  rw [ShownColumn.width, ShownColumn.plainWidth, List.map_flatMap, foldl_max_flatMap]
  congr 1
  refine List.map_congr_left fun text htext => ?_
  rw [textWidth, splitOnP_isLineEnd (h text htext)]

/-- The lines of a legible cell are its own, filled up to the column. -/
theorem linesOf_of_isLegible {text : List Char} (htext : text ∈ c.cells) :
    c.linesOf text = (lines text).map (padTo c.plainWidth) := by
  have hprintable := allPrintable_of_mem_lines (h text (List.mem_cons_of_mem _ htext))
  rw [ShownColumn.linesOf, width_eq_plainWidth h, List.map_eq_flatMap]
  refine List.flatMap_congr fun line hline => ?_
  exact fit_lines_of_printable (hprintable line hline) (width_le_plainWidth htext hline) c.wraps

/-- The lines of a cell are its own, filled up to the column. -/
theorem cellLines_of_isLegible (row : Nat) :
    c.cellLines row = (c.plainLines row).map (padTo c.plainWidth) := by
  rw [ShownColumn.cellLines, ShownColumn.plainLines]
  cases hcell : c.cells[row]? with
  | none => rfl
  | some text => exact linesOf_of_isLegible h (List.mem_of_getElem? hcell)

theorem padTo_getD_cellLines (row line : Nat) :
    padTo c.plainWidth ((c.cellLines row).getD line [])
      = padTo c.plainWidth ((c.plainLines row).getD line []) := by
  rw [cellLines_of_isLegible h, List.getD_eq_getElem?_getD, List.getD_eq_getElem?_getD,
    List.getElem?_map]
  cases hshown : (c.plainLines row)[line]? with
  | none => rfl
  | some shown =>
    have hmem := List.mem_of_getElem? hshown
    rw [ShownColumn.plainLines] at hmem
    cases hcell : c.cells[row]? with
    | none =>
      rw [hcell] at hmem
      cases hmem
    -- a line of the cell is no wider than the column, so filling it up twice is filling it up once
    | some text =>
      rw [hcell] at hmem
      have htext := List.mem_of_getElem? hcell
      have hprintable := allPrintable_of_mem_lines (h text (List.mem_cons_of_mem _ htext)) _ hmem
      exact padTo_padTo (isUnjoined_of_printable hprintable) (width_le_plainWidth htext hmem)

end Plain

/-- The row of a table of legible texts is laid out plainly. -/
theorem rowLines_eq_plainRow {columns : List ShownColumn} (h : ∀ c ∈ columns, c.IsLegible)
    (row : Nat) :
    rowLines columns row = plainRow (columns.map fun c => (c.plainWidth, c.plainLines row)) := by
  -- a legible cell has as many lines as its text, each as wide as it is long
  have hheights : (columns.map fun c => (c.cellLines row).length)
      = columns.map fun c => (c.plainLines row).length := by
    refine List.map_congr_left fun c hc => ?_
    rw [cellLines_of_isLegible (h c hc), List.length_map]
  have hcells : ∀ line, cellLine '│' (columns.map fun c => (c.width, (c.cellLines row).getD line []))
      = cellLine '│' (columns.map fun c => (c.plainWidth, (c.plainLines row).getD line [])) := by
    intro line
    rw [cellLine, cellLine, List.map_map, List.map_map]
    congr 1
    refine List.map_congr_left fun c hc => ?_
    show ' ' :: padTo c.width _ ++ [' '] = ' ' :: padTo c.plainWidth _ ++ [' ']
    rw [width_eq_plainWidth (h c hc), padTo_getD_cellLines (h c hc)]
  simp only [rowLines, plainRow, List.map_map, Function.comp_def, hheights, hcells]

/-- A table of legible texts is laid out plainly. -/
theorem frame_eq_plainFrame (title : List Char) {columns : List ShownColumn}
    (h : ∀ c ∈ columns, c.IsLegible) : frame title columns = plainFrame title columns := by
  have hwidths : columns.map ShownColumn.width = columns.map ShownColumn.plainWidth :=
    List.map_congr_left fun c hc => width_eq_plainWidth (h c hc)
  have hheadings : (columns.map fun c => (c.width, c.heading))
      = columns.map fun c => (c.plainWidth, c.heading) :=
    List.map_congr_left fun c hc => by rw [width_eq_plainWidth (h c hc)]
  rw [frame, plainFrame, hwidths, hheadings, funext (rowLines_eq_plainRow h)]

/-! ## Lines stand whole -/

/-- What stands in a line of cells stands whole in it. -/
theorem isInfix_cellLine {bar : Char} {cells : List (Nat × List Char)} {w : Nat} {line : List Char}
    (h : (w, line) ∈ cells) : line <:+: cellLine bar cells := by
  have hpart : ' ' :: padTo w line ++ [' ']
      ∈ cells.map fun cell => ' ' :: padTo cell.1 cell.2 ++ [' '] := List.mem_map_of_mem h
  obtain ⟨before, after, hline, -⟩ := intercalate_eq_of_mem hpart
  refine ⟨bar :: before ++ [' '], blanks (w - width line) ++ [' '] ++ after ++ [bar], ?_⟩
  rw [cellLine, framed, hline, padTo]
  simp only [List.append_assoc, List.cons_append, List.nil_append]

/-- Every line of a cell stands whole in a line of its row. -/
theorem exists_isInfix_plainRow {cells : List (Nat × List (List Char))} {w : Nat}
    {ls : List (List Char)} (hcell : (w, ls) ∈ cells) {line : List Char} (hline : line ∈ ls) :
    ∃ shown ∈ plainRow cells, line <:+: shown := by
  obtain ⟨k, hk⟩ := List.getElem?_of_mem hline
  have hheight : k < (cells.map (·.2.length)).foldl max 0 :=
    Nat.lt_of_lt_of_le (List.getElem?_eq_some_iff.mp hk).1
      (le_foldl_max (List.mem_map_of_mem hcell))
  have hshown : (w, line) ∈ cells.map fun (w, ls) => (w, ls.getD k []) := by
    refine List.mem_map.mpr ⟨(w, ls), hcell, ?_⟩
    show (w, ls.getD k []) = (w, line)
    rw [List.getD_eq_getElem?_getD, hk, Option.getD_some]
  exact ⟨_, List.mem_map.mpr ⟨k, List.mem_range.mpr hheight, rfl⟩, isInfix_cellLine hshown⟩

/-- Every line of every cell stands whole in a line of the plain layout. -/
theorem exists_isInfix_plainFrame (title : List Char) {columns : List ShownColumn}
    {c : ShownColumn} (hc : c ∈ columns) {text line : List Char} (htext : text ∈ c.cells)
    (hline : line ∈ lines text) : ∃ shown ∈ plainFrame title columns, line <:+: shown := by
  obtain ⟨row, hrow⟩ := List.getElem?_of_mem htext
  have hheight : row < (columns.map fun c => c.cells.length).foldl max 0 :=
    Nat.lt_of_lt_of_le (List.getElem?_eq_some_iff.mp hrow).1
      (le_foldl_max (List.mem_map_of_mem hc))
  have hcell : (c.plainWidth, lines text)
      ∈ columns.map fun c => (c.plainWidth, c.plainLines row) := by
    refine List.mem_map.mpr ⟨c, hc, ?_⟩
    rw [ShownColumn.plainLines, hrow]
    rfl
  obtain ⟨shown, hshown, hinfix⟩ := exists_isInfix_plainRow hcell hline
  refine ⟨shown, ?_, hinfix⟩
  -- the rows stand behind the title, the headings and the strokes around them
  rw [plainFrame]
  refine List.mem_append_left _ (List.mem_cons_of_mem _ (List.mem_cons_of_mem _
    (List.mem_cons_of_mem _ (List.mem_cons_of_mem _ ?_))))
  exact List.mem_flatMap.mpr ⟨row, List.mem_range.mpr hheight, hshown⟩

/-! ## Legible text that is printed -/

/-- A legible text is shown as it is rendered. -/
theorem display_eq_of_render {markup cs : List Char} (h : IsLegible cs)
    (hrender : Markup.render markup = .ok cs) : display markup = .ok cs := by
  have hkept : cs.filter (!isDropped ·) = cs := by
    refine List.filter_eq_self.mpr fun c hc => ?_
    rcases h c hc with rfl | hprintable
    · rfl
    · have hother : c.toNat ∉ [7, 8, 11, 12, 13] :=
        toNat_not_mem_of_isPrintable hprintable (by decide +kernel)
      rwa [isDropped, Bool.not_eq_true', ← Bool.not_eq_true, List.contains_iff_mem]
  rw [display, hrender]
  exact congrArg Except.ok hkept

/-- A printable text is printed as it is rendered, on a line of its own. -/
theorem paragraph_eq_of_render {markup cs : List Char} (h : AllPrintable cs)
    (hrender : Markup.render markup = .ok cs) :
    paragraph markup = .ok (String.ofList (cs ++ ['\n'])) := by
  rw [paragraph, display_eq_of_render (isLegible_of_printable h) hrender]
  show Except.ok (printLines ((lines cs).map expandTabs)) = _
  rw [lines, List.splitOn_eq_singleton (lineFeed_not_mem_of_allPrintable h), List.map_singleton,
    expandTabs_of_printable h, printLines, List.flatMap_singleton]

/-- What markup is shown as, if it can be rendered. -/
def shownMarkup (markup : List Char) : List Char :=
  match Markup.render markup with
  | .ok cs => cs
  | .error _ => []

theorem shownMarkup_of_render {markup cs : List Char} (h : Markup.render markup = .ok cs) :
    shownMarkup markup = cs := by
  rw [shownMarkup, h]

theorem collect_eq_ok {α β ε : Type} {f : α → Except ε β} {g : α → β} {xs : List α}
    (h : ∀ a ∈ xs, f a = .ok (g a)) : collect f xs = .ok (xs.map g) := by
  induction xs with
  | nil => rfl
  | cons a rest ih =>
    obtain ⟨ha, hrest⟩ := List.forall_mem_cons.mp h
    rw [collect, ha, ih hrest]
    rfl

/-- A column as it is shown, if all its cells can be rendered. -/
def Column.shown (c : Column) : ShownColumn :=
  ⟨c.heading.toList, c.cells.map shownMarkup, c.wraps⟩

/-- A table whose headings are legible, as are all cells once they are rendered, is printed in the plain
layout. -/
theorem print_eq_plainFrame {t : Table} (hheadings : ∀ c ∈ t.columns, IsLegible c.heading.toList)
    (hcells : ∀ c ∈ t.columns, ∀ cell ∈ c.cells,
      ∃ cs, Markup.render cell = .ok cs ∧ IsLegible cs) :
    t.print = .ok (printLines (plainFrame t.title.toList (t.columns.map Column.shown))) := by
  -- every cell is rendered, so that the columns are collected without an error
  have hcolumns : collect ShownColumn.ofMarkup t.columns = .ok (t.columns.map Column.shown) := by
    refine collect_eq_ok fun c hc => ?_
    have hshown : ∀ cell ∈ c.cells, display cell = .ok (shownMarkup cell) := by
      intro cell hcell
      obtain ⟨cs, hrender, hlegible⟩ := hcells c hc cell hcell
      rw [shownMarkup_of_render hrender]
      exact display_eq_of_render hlegible hrender
    rw [ShownColumn.ofMarkup, collect_eq_ok hshown]
    rfl
  have hlegible : ∀ c ∈ t.columns.map Column.shown, c.IsLegible := by
    intro c hc
    obtain ⟨column, hcolumn, rfl⟩ := List.mem_map.mp hc
    refine List.forall_mem_cons.mpr ⟨hheadings column hcolumn, fun text htext => ?_⟩
    obtain ⟨cell, hcell, rfl⟩ := List.mem_map.mp htext
    obtain ⟨cs, hrender, hlegible⟩ := hcells column hcolumn cell hcell
    rwa [shownMarkup_of_render hrender]
  rw [Table.print, hcolumns, ← frame_eq_plainFrame _ hlegible]
  rfl

end SinkAudit.Terminal
