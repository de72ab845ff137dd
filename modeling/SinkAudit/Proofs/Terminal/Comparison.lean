import SinkAudit.Proofs.Terminal.Deviation
import SinkAudit.Proofs.Terminal.Layout

/-!
# Tables compared

How many blanks stand behind a line and how long the strokes of a frame are depends on all the lines of
a column. Without them a table is its texts between bars, row after row. Such tables can be compared
from the left, so that what a cell differs by is not made good by the cells behind it.

The comparison serves the converse of a result about reports: if the printed report is the one with all
texts as they are given, then each text is shown as it was given. From equal tables one has to get to equal
cells, although the width of a column, and with it every line, may depend on the very text in question.

- `ink`: a text without blanks and strokes; `ink_plainFrame`: a table without them.
- `Settles`: if one text agrees with another, then something holds; `Settles.append`, `settles_flatMap`:
  texts that settle something one after the other.
- `settles_cell`: what a cell of escaped texts settles if it agrees with the given texts.
-/

namespace SinkAudit.Terminal

open Text Markup

/-! ## Ink -/

/-- Is the character neither a blank nor a stroke of a frame? -/
def isInk (c : Char) : Bool := c != ' ' && c != '━' && c != '─'

/-- A text without blanks and strokes. -/
def ink (cs : List Char) : List Char := cs.filter isInk

theorem ink_append (cs rest : List Char) : ink (cs ++ rest) = ink cs ++ ink rest :=
  List.filter_append ..

theorem ink_cons {c : Char} (h : isInk c = true) (cs : List Char) : ink (c :: cs) = c :: ink cs :=
  List.filter_cons_of_pos h

theorem ink_replicate {c : Char} (h : isInk c = false) (n : Nat) : ink (List.replicate n c) = [] :=
  List.filter_replicate_of_neg (by rw [h]; decide)

theorem ink_padTo (n : Nat) (cs : List Char) : ink (padTo n cs) = ink cs := by
  rw [padTo, ink_append, blanks, ink_replicate (by decide), List.append_nil]

theorem ink_centered (n : Nat) (cs : List Char) : ink (centered n cs) = ink cs := by
  rw [centered, ink_append, ink_append, blanks, blanks, ink_replicate (by decide),
    ink_replicate (by decide), List.nil_append, List.append_nil]

theorem ink_framed {left separator right : Char} (hleft : isInk left = true)
    (hseparator : isInk separator = true) (hright : isInk right = true) (parts : List (List Char)) :
    ink (framed left separator right parts) = framed left separator right (parts.map ink) := by
  -- the induction is on the parts, with a separator between two of them
  have hparts : ink ([separator].intercalate parts) = [separator].intercalate (parts.map ink) := by
    induction parts with
    | nil => rfl
    | cons part rest ih =>
      cases rest with
      | nil => rw [List.map_singleton, List.intercalate_singleton, List.intercalate_singleton]
      | cons next rest =>
        rw [List.map_cons] at ih
        rw [List.map_cons, List.map_cons, List.intercalate_cons_cons, List.intercalate_cons_cons,
          ink_append, ink_append, ih, ink_cons hseparator]
        rfl
  rw [framed, framed, ink_append, ink_cons hleft, hparts, ink_cons hright]
  rfl

theorem ink_stroke {left separator right fill : Char} (hleft : isInk left = true)
    (hseparator : isInk separator = true) (hright : isInk right = true) (hfill : isInk fill = false)
    (widths : List Nat) :
    ink (stroke left separator right fill widths)
      = framed left separator right (widths.map fun _ => []) := by
  rw [stroke, ink_framed hleft hseparator hright, List.map_map]
  congr 1
  exact List.map_congr_left fun w _ => ink_replicate hfill (w + 2)

theorem ink_cellLine {bar : Char} (hbar : isInk bar = true) (cells : List (Nat × List Char)) :
    ink (cellLine bar cells) = framed bar bar bar (cells.map fun cell => ink cell.2) := by
  rw [cellLine, ink_framed hbar hbar hbar, List.map_map]
  congr 1
  refine List.map_congr_left fun cell _ => ?_
  show ink (' ' :: (padTo cell.1 cell.2 ++ [' '])) = ink cell.2
  have hblank : ink [' '] = [] := ink_replicate (by decide) 1
  rw [← List.singleton_append, ink_append, ink_append, ink_padTo, hblank, List.nil_append,
    List.append_nil]

/-! ## Rows -/

/-- Parts between bars, and a bar at the end. -/
theorem framed_eq_flatMap (bar : Char) {parts : List (List Char)} (h : parts ≠ []) :
    framed bar bar bar parts = parts.flatMap (bar :: ·) ++ [bar] := by
  induction parts with
  | nil => exact absurd rfl h
  | cons part rest ih =>
    cases rest with
    | nil =>
      rw [framed, List.intercalate_singleton, List.flatMap_singleton]
    | cons next rest =>
      have hnext := ih (List.cons_ne_nil next rest)
      rw [framed] at hnext
      rw [List.flatMap_cons, List.append_assoc, ← hnext, framed, List.intercalate_cons_cons]
      simp only [List.cons_append, List.append_assoc, List.nil_append]

/-- What stands in the places of a list one after the other. -/
theorem flatMap_range_getElem? {α β : Type} (f : Option α → List β) (xs : List α) :
    (List.range xs.length).flatMap (fun i => f xs[i]?) = xs.flatMap fun x => f (some x) := by
  induction xs with
  | nil => rfl
  | cons x xs ih =>
    rw [List.length_cons, List.range_succ_eq_map, List.flatMap_cons, List.flatMap_map,
      List.flatMap_cons, ← ih]
    rfl

/-- A character without blanks and strokes, in the last column behind some others: between two lines
there are the bars of these. -/
def inkOf (columns : Nat) (c : Char) : List Char :=
  if c = '\n' then '│' :: '\n' :: List.replicate (columns + 1) '│' else ink [c]

/-- A row without blanks and strokes: texts of one line, and a text of the last column. -/
def inkRow (heads : List (List Char)) (text : List Char) : List Char :=
  heads.flatMap (fun head => '│' :: ink head)
    ++ '│' :: (text.flatMap (inkOf heads.length) ++ ['│', '\n'])

/-- A row begins with its first text, and the bars on both sides of it. -/
theorem inkRow_singleton (head text : List Char) :
    inkRow [head] text = ('│' :: (ink head ++ ['│'])) ++ (text.flatMap (inkOf 1) ++ ['│', '\n']) := by
  rw [inkRow, List.flatMap_singleton]
  simp only [List.length_singleton, List.cons_append, List.append_assoc, List.nil_append]

theorem inkRow_pair (head value text : List Char) :
    inkRow [head, value] text = ('│' :: (ink head ++ ['│']))
      ++ ((ink value ++ ['│']) ++ (text.flatMap (inkOf 2) ++ ['│', '\n'])) := by
  rw [inkRow, List.flatMap_cons, List.flatMap_singleton]
  simp only [List.length_cons, List.length_nil, List.cons_append, List.append_assoc,
    List.nil_append]

theorem flatMap_inkOf {line : List Char} (h : '\n' ∉ line) (columns : Nat) :
    line.flatMap (inkOf columns) = ink line := by
  induction line with
  | nil => rfl
  | cons c line ih =>
    have hc : c ≠ '\n' := fun heq => h (heq ▸ List.mem_cons_self)
    rw [List.flatMap_cons, ih fun hmem => h (List.mem_cons_of_mem _ hmem), inkOf, if_neg hc,
      ← ink_append, List.singleton_append]

/-- The lines of the last column, each behind the bars of the others. -/
theorem flatMap_inkOf_intercalate (columns : Nat) {more : List (List Char)} :
    ∀ {first : List Char}, (∀ line ∈ first :: more, '\n' ∉ line) →
      (['\n'].intercalate (first :: more)).flatMap (inkOf columns) ++ ['│', '\n']
        = ink first ++ ['│', '\n'] ++ more.flatMap fun line =>
          List.replicate (columns + 1) '│' ++ ink line ++ ['│', '\n'] := by
  induction more with
  | nil =>
    intro first h
    rw [List.intercalate_singleton, List.flatMap_nil, List.append_nil,
      flatMap_inkOf (h first List.mem_cons_self)]
  | cons next more ih =>
    intro first h
    obtain ⟨hfirst, hmore⟩ := List.forall_mem_cons.mp h
    have hfeed : inkOf columns '\n' = ['│', '\n'] ++ List.replicate (columns + 1) '│' := rfl
    rw [List.intercalate_cons_cons, List.flatMap_append, List.flatMap_append, List.append_assoc,
      ih hmore, flatMap_inkOf hfirst, List.flatMap_singleton, hfeed, List.flatMap_cons]
    simp only [List.append_assoc]

/-- A line of a row: what stands in the columns before the last, and in the last. -/
theorem ink_cellLine_concat (cells : List (Nat × List Char)) (w : Nat) (line : List Char) :
    ink (cellLine '│' (cells ++ [(w, line)]) ++ ['\n'])
      = cells.flatMap (fun cell => '│' :: ink cell.2) ++ '│' :: (ink line ++ ['│', '\n']) := by
  have hfeed : ink ['\n'] = ['\n'] := by decide
  rw [ink_append, ink_cellLine (by decide), framed_eq_flatMap _ (by simp), List.flatMap_map,
    List.flatMap_append, List.flatMap_singleton, hfeed]
  simp only [List.append_assoc, List.cons_append, List.nil_append]

/-- The greatest of equal numbers and of one that is no less is that one. -/
theorem foldl_max_concat {α : Type} {m n : Nat} (h : m ≤ n) (xs : List α) :
    ((xs.map fun _ => m) ++ [n]).foldl max 0 = n := by
  have hle : ∀ k ≤ m, (xs.map fun _ => m).foldl max k ≤ m := by
    induction xs with
    | nil => exact fun k hk => hk
    | cons x xs ih => exact fun k hk => ih (max k m) (Nat.max_le.mpr ⟨hk, Nat.le_refl m⟩)
  rw [List.foldl_append]
  exact Nat.max_eq_right (Nat.le_trans (hle 0 (Nat.zero_le m)) h)

/-- A row without blanks and strokes. -/
theorem ink_plainRow (heads : List (Nat × List Char)) (w : Nat) (text : List Char) :
    (plainRow (heads.map (fun head => (head.1, [head.2])) ++ [(w, lines text)])).flatMap
        (fun line => ink (line ++ ['\n']))
      = inkRow (heads.map (·.2)) text := by
  obtain ⟨first, more, hlines⟩ := List.exists_cons_of_ne_nil (List.splitOn_ne_nil '\n' text)
  have hlast := flatMap_inkOf_intercalate heads.length (hlines ▸ not_mem_of_mem_splitOn)
  rw [← hlines, List.intercalate_splitOn] at hlast
  -- the first line shows the cells of one line, and the others leave them blank
  have hfirst : (heads.map (fun head => (head.1, [head.2])) ++ [(w, first :: more)]).map
      (fun cell => (cell.1, cell.2.getD 0 [])) = heads ++ [(w, first)] := by
    rw [List.map_append, List.map_map]
    exact congrArg (· ++ [(w, first)]) (List.map_id heads)
  have hlater : ∀ k, (heads.map (fun head => (head.1, [head.2])) ++ [(w, first :: more)]).map
      (fun cell => (cell.1, cell.2.getD (k + 1) []))
        = heads.map (fun head => (head.1, [])) ++ [(w, more[k]?.getD [])] := by
    intro k
    rw [List.map_append, List.map_map]
    rfl
  have hbars : (heads.map (fun head => (head.1, ([] : List Char)))).flatMap
      (fun cell => '│' :: ink cell.2) = List.replicate heads.length '│' := by
    rw [List.flatMap_map]
    show heads.flatMap (fun _ => ['│']) = _
    rw [← List.map_eq_flatMap, List.map_const']
  have hheight : ((heads.map (fun head => (head.1, [head.2])) ++ [(w, first :: more)]).map
      (·.2.length)).foldl max 0 = more.length + 1 := by
    rw [List.map_append, List.map_map]
    exact foldl_max_concat (Nat.le_add_left 1 _) heads
  rw [lines, hlines, plainRow, hheight, List.range_succ_eq_map, List.map_cons,
    List.map_map, List.flatMap_cons, List.flatMap_map]
  simp only [Function.comp_def, Nat.succ_eq_add_one, hfirst, hlater, ink_cellLine_concat, hbars]
  rw [flatMap_range_getElem? (fun line => List.replicate heads.length '│'
    ++ '│' :: (ink (line.getD []) ++ ['│', '\n'])) more]
  rw [inkRow, List.flatMap_map, List.length_map, hlast]
  simp only [List.replicate_succ', List.append_assoc, List.cons_append, List.nil_append,
    Option.getD_some]

/-! ## Tables -/

/-- A column of a table that has a row for each of some things. -/
structure RowColumn (ρ : Type) where
  heading : List Char
  text : ρ → List Char
  wraps : Bool

/-- The column as it is shown over the rows. -/
def RowColumn.over {ρ : Type} (rows : List ρ) (c : RowColumn ρ) : ShownColumn :=
  ⟨c.heading, rows.map c.text, c.wraps⟩

/-- The title and the headings of a table without blanks and strokes. -/
def inkTop (title : List Char) (headings : List (List Char)) : List Char :=
  ink title ++ '\n' :: (framed '┏' '┳' '┓' (headings.map fun _ => [])
    ++ '\n' :: (framed '┃' '┃' '┃' (headings.map ink)
      ++ '\n' :: (framed '┡' '╇' '┩' (headings.map fun _ => []) ++ ['\n'])))

/-- The end of a table without blanks and strokes. -/
def inkBottom (headings : List (List Char)) : List Char :=
  framed '└' '┴' '┘' (headings.map fun _ => []) ++ ['\n']

section Table

variable {ρ : Type} {rows : List ρ} {heads : List (RowColumn ρ)}
  (hheads : ∀ c ∈ heads, ∀ row ∈ rows, '\n' ∉ c.text row) (last : RowColumn ρ)

include hheads

/-- The rows of a table without blanks and strokes. -/
theorem ink_rows :
    ((List.range rows.length).flatMap (fun i => plainRow (((heads ++ [last]).map (·.over rows)).map
        fun c => (c.plainWidth, c.plainLines i)))).flatMap (fun line => ink (line ++ ['\n']))
      = rows.flatMap fun row => inkRow (heads.map (·.text row)) (last.text row) := by
  have hcells : ∀ i, (((heads ++ [last]).map (·.over rows)).map
      fun c => (c.plainWidth, c.plainLines i))
        = (heads ++ [last]).map fun c =>
          ((c.over rows).plainWidth, ((rows[i]?.map c.text).map lines).getD []) := by
    intro i
    rw [List.map_map]
    refine List.map_congr_left fun c _ => ?_
    show (_, (((rows.map c.text)[i]?).map lines).getD []) = _
    rw [List.getElem?_map]
  simp only [List.flatMap_assoc, hcells]
  rw [flatMap_range_getElem? (fun row => (plainRow ((heads ++ [last]).map fun c =>
    ((c.over rows).plainWidth, ((row.map c.text).map lines).getD []))).flatMap
      fun line => ink (line ++ ['\n'])) rows]
  refine List.flatMap_congr fun row hrow => ?_
  -- only the last column breaks its texts into lines
  have hsingle : (heads.map fun c => ((c.over rows).plainWidth, lines (c.text row)))
      = (heads.map fun c => ((c.over rows).plainWidth, c.text row)).map
        fun head => (head.1, [head.2]) := by
    rw [List.map_map]
    refine List.map_congr_left fun c hc => ?_
    rw [lines, List.splitOn_eq_singleton (hheads c hc row hrow)]
    rfl
  have hrow := ink_plainRow (heads.map fun c => ((c.over rows).plainWidth, c.text row))
    (last.over rows).plainWidth (last.text row)
  rw [← hsingle, List.map_map] at hrow
  rw [List.map_append]
  exact hrow

/-- A table without blanks and strokes: its rows stand between its headings and its end. -/
theorem ink_plainFrame (title : List Char) :
    ink ((plainFrame title ((heads ++ [last]).map (·.over rows))).flatMap (· ++ ['\n']))
      = inkTop title ((heads ++ [last]).map (·.heading))
        ++ (rows.flatMap (fun row => inkRow (heads.map (·.text row)) (last.text row))
          ++ inkBottom ((heads ++ [last]).map (·.heading))) := by
  -- all columns have a cell for every row, so that the table is as high as there are rows
  have hheight : (((heads ++ [last]).map (·.over rows)).map fun c => c.cells.length).foldl max 0
      = rows.length := by
    have hlengths : (((heads ++ [last]).map (·.over rows)).map fun c => c.cells.length)
        = (heads.map fun _ => rows.length) ++ [rows.length] := by
      simp only [List.map_map, List.map_append, List.map_singleton, Function.comp_def,
        RowColumn.over, List.length_map]
    rw [hlengths]
    exact foldl_max_concat (Nat.le_refl _) heads
  have hrows := ink_rows hheads last
  have hfeed : ink ['\n'] = ['\n'] := by decide
  have htop : ∀ widths, ink (stroke '┏' '┳' '┓' '━' widths)
      = framed '┏' '┳' '┓' (widths.map fun _ => []) :=
    ink_stroke (by decide) (by decide) (by decide) (by decide)
  have hmiddle : ∀ widths, ink (stroke '┡' '╇' '┩' '━' widths)
      = framed '┡' '╇' '┩' (widths.map fun _ => []) :=
    ink_stroke (by decide) (by decide) (by decide) (by decide)
  have hbottom : ∀ widths, ink (stroke '└' '┴' '┘' '─' widths)
      = framed '└' '┴' '┘' (widths.map fun _ => []) :=
    ink_stroke (by decide) (by decide) (by decide) (by decide)
  have hheadings : ∀ cells, ink (cellLine '┃' cells)
      = framed '┃' '┃' '┃' (cells.map fun cell => ink cell.2) := ink_cellLine (by decide)
  rw [plainFrame, hheight, ink, List.filter_flatMap]
  show List.flatMap (fun line => ink (line ++ ['\n'])) _ = _
  rw [List.flatMap_append, List.flatMap_cons, List.flatMap_cons, List.flatMap_cons,
    List.flatMap_cons, List.flatMap_singleton, hrows, inkTop, inkBottom]
  simp only [ink_append, hfeed, ink_centered, htop, hmiddle, hbottom, hheadings, List.map_map,
    Function.comp_def, RowColumn.over, List.append_assoc, List.cons_append, List.nil_append]

end Table

/-! ## What agreement settles -/

/-- A text has no more brackets than another, and if it has as many and what begins with it agrees with
what begins with the other, then the two are the same and something holds. -/
structure Settles (shown given : List Char) (P : Prop) : Prop where
  count_le : shown.count '[' ≤ given.count '['
  settled : shown.count '[' = given.count '[' → ∀ {after after'},
    shown ++ after = given ++ after' → shown = given ∧ P

namespace Settles

variable {shown given more more' : List Char} {P Q : Prop}

/-- Two texts that are the same settle nothing. -/
theorem refl (cs : List Char) : Settles cs cs True :=
  ⟨Nat.le_refl _, fun _ _ _ _ => ⟨rfl, trivial⟩⟩

theorem imp (h : Settles shown given P) (hPQ : P → Q) : Settles shown given Q :=
  ⟨h.count_le, fun hcount _ _ heq => (h.settled hcount heq).imp_right hPQ⟩

/-- Texts settle one after the other what each of them settles. -/
theorem append (h : Settles shown given P) (h' : Settles more more' Q) :
    Settles (shown ++ more) (given ++ more') (P ∧ Q) := by
  obtain ⟨hle, hsettled⟩ := h
  obtain ⟨hle', hsettled'⟩ := h'
  constructor
  · rw [List.count_append, List.count_append]
    exact Nat.add_le_add hle hle'
  · intro hcount after after' heq
    rw [List.count_append, List.count_append] at hcount
    rw [List.append_assoc, List.append_assoc] at heq
    obtain ⟨rfl, hP⟩ := hsettled (by omega) heq
    obtain ⟨rfl, hQ⟩ := hsettled' (by omega) (List.append_cancel_left heq)
    exact ⟨rfl, hP, hQ⟩

/-- Two texts that are the same after all have settled it. -/
theorem of_eq (h : Settles shown given P) (heq : shown = given) : P :=
  (h.settled (congrArg _ heq) (congrArg (· ++ []) heq)).2

end Settles

/-- Rows settle one after the other what each of them settles. -/
theorem settles_flatMap {ρ : Type} {f g : ρ → List Char} {P : ρ → Prop} {rows : List ρ}
    (h : ∀ row ∈ rows, Settles (f row) (g row) (P row)) :
    Settles (rows.flatMap f) (rows.flatMap g) (∀ row ∈ rows, P row) := by
  induction rows with
  | nil => exact ⟨Nat.le_refl _, fun _ _ _ _ => ⟨rfl, nofun⟩⟩
  | cons row rows ih =>
    obtain ⟨hrow, hrows⟩ := List.forall_mem_cons.mp h
    obtain ⟨hle, hsettled⟩ := hrow.append (ih hrows)
    refine ⟨hle, fun hcount _ _ heq => ?_⟩
    obtain ⟨hsame, hfirst, hrest⟩ := hsettled hcount heq
    exact ⟨hsame, List.forall_mem_cons.mpr ⟨hfirst, hrest⟩⟩

/-- A deviation is seen without blanks and strokes too, if the texts are followed by something that is
no backslash. -/
theorem flatMap_inkOf_ne_of_deviates {shown given : List Char} (h : Deviates shown given)
    (columns : Nat) {close : Char} (hclose : close ≠ '\\') (after after' : List Char) :
    shown.flatMap (inkOf columns) ++ close :: after
      ≠ given.flatMap (inkOf columns) ++ close :: after' := by
  have hopen : inkOf columns '[' = ['['] := rfl
  have hslash : inkOf columns '\\' = ['\\'] := rfl
  intro heq
  -- after what both have in common stand a bracket and a backslash, or a backslash and the end
  cases h with
  | dropped start shown given =>
    rw [List.flatMap_append, List.flatMap_append, List.append_assoc, List.append_assoc,
      List.append_cancel_left_eq, List.flatMap_cons, List.flatMap_cons, hopen, hslash] at heq
    exact absurd (List.cons.inj heq).1 (by decide)
  | @doubled start shown given hline =>
    rw [List.flatMap_append, List.flatMap_append, List.append_assoc, List.append_assoc,
      List.append_cancel_left_eq, List.flatMap_cons, hslash] at heq
    cases given with
    | nil => exact hclose (List.cons.inj heq).1.symm
    | cons c given =>
      cases hline c rfl
      exact absurd (List.cons.inj heq).1 (by decide)

theorem count_flatMap_inkOf (columns : Nat) (cs : List Char) :
    (cs.flatMap (inkOf columns)).count '[' = cs.count '[' := by
  -- a line feed becomes bars, which are no brackets, and blanks are left out
  have hchar : ∀ c, (inkOf columns c).count '[' = [c].count '[' := by
    intro c
    by_cases hfeed : c = '\n'
    · subst hfeed
      have hbars : (List.replicate (columns + 1) '│').count '[' = 0 :=
        List.count_replicate.trans (if_neg (by decide))
      rw [inkOf, if_pos rfl, List.count_cons, List.count_cons, hbars]
      rfl
    · rw [inkOf, if_neg hfeed]
      by_cases hink : isInk c = true
      · rw [ink_cons hink]
        rfl
      · have hbracket : '[' ≠ c := by
          rintro rfl
          exact hink (by decide)
        rw [ink, List.filter_cons_of_neg hink]
        exact (List.count_eq_zero.mpr (by simpa using hbracket)).symm
  induction cs with
  | nil => rfl
  | cons c cs ih =>
    rw [List.flatMap_cons, List.count_append, hchar, ih, ← List.count_append]
    rfl

/-- If a cell of escaped texts agrees with the given texts, then each of these is kept, and no tag spans
two of them. -/
theorem settles_cell {texts : List (List Char)} (hne : texts ≠ [])
    (hlines : ∀ text ∈ texts, '\n' ∉ text) {shown : List Char}
    (h : render (joined (texts.map escape)) = .ok shown) (columns : Nat) {close : Char}
    (hclose : close ≠ '\\') (rest : List Char) :
    Settles (shown.flatMap (inkOf columns) ++ close :: rest)
      ((joined texts).flatMap (inkOf columns) ++ close :: rest)
      ((∀ text ∈ texts, IsKept text) ∧ IsSeparate texts) := by
  obtain ⟨hle, hcases⟩ := eq_or_deviates_of_render hne hlines h
  rw [← count_flatMap_inkOf columns shown, ← count_flatMap_inkOf columns (joined texts)] at hle hcases
  -- brackets that are missing are never made good, and with all of them the texts deviate or are kept
  constructor
  · rw [List.count_append, List.count_append]
    exact Nat.add_le_add_right hle _
  · intro hcount after after' heq
    rw [List.count_append, List.count_append, Nat.add_right_cancel_iff] at hcount
    rcases hcases hcount with hdeviates | ⟨rfl, hkept⟩
    · rw [List.append_assoc, List.append_assoc, List.cons_append, List.cons_append] at heq
      exact absurd heq (flatMap_inkOf_ne_of_deviates hdeviates columns hclose _ _)
    · exact ⟨rfl, hkept⟩

end SinkAudit.Terminal
