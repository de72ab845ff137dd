import SinkAudit.Proofs.Text.Lines
import SinkAudit.PropertiesFile

/-!
# Property files are read back

An entry is written as its key, an equals sign and its value, where a backslash is written twice and a
line break as a backslash with a letter. Such lines, ended in any of the three ways, are read back as
the entries.

The inverse of the reader is not part of the program. It is written here as the format is specified
(`java.util.Properties`): what a tool that follows the specification writes is read back, whichever line
ending it uses and whether or not it ends the last line.

- `escape`, `writeEntry`, `writeLines`: values, entries and files as they are written.
- `splitLines_normalizeBreaks`, `splitLines_writeLines`: the natural lines of a file.
- `isContinued_writeEntry`, `logicalLines_writeEntry`: each of them is a logical line.
- `splitEntry_writeEntry`, `unescape_escape`: key and value of an entry.
- `parse_writeLines`: all entries.
-/

namespace SinkAudit.PropertiesFile

/-! ## Writing -/

/-- A character of a value as it is written. -/
def escapeChar (c : Char) : List Char :=
  if c = '\\' then ['\\', '\\'] else if c = '\n' then ['\\', 'n']
  else if c = '\r' then ['\\', 'r'] else [c]

/-- A value as it is written. -/
def escape (value : List Char) : List Char := value.flatMap escapeChar

/-- The line of a key and a value. -/
def writeEntry (e : List Char × List Char) : List Char := e.1 ++ '=' :: escape e.2

/-- What may end a line. -/
def lineEndings : List (List Char) := [['\n'], ['\r', '\n'], ['\r']]

/-- Lines with the same ending, which the last one may go without. -/
def writeLines (ending : List Char) (closed : Bool) (lines : List (List Char)) : List Char :=
  ending.intercalate lines ++ if closed then ending else []

/-- May a character stand in a key as it is? -/
def isPlain (c : Char) : Bool :=
  c != '\\' && !isBlank c && c != '=' && c != ':' && c != '\n' && c != '\r'

/-- May a key be written as it is? It is not empty and does not look like a comment. -/
structure IsPlainKey (key : List Char) : Prop where
  loud : isSilent key = false
  plain : key.all isPlain = true

/-- May an entry be written? Its value begins with no blank. -/
structure IsWritable (e : List Char × List Char) : Prop where
  key : IsPlainKey e.1
  value : ∀ c ∈ e.2.head?, isBlank c = false

theorem isPlain_iff {c : Char} : isPlain c = true
    ↔ c ≠ '\\' ∧ isBlank c = false ∧ c ≠ '=' ∧ c ≠ ':' ∧ c ≠ '\n' ∧ c ≠ '\r' := by
  simp [isPlain, and_assoc]

namespace IsPlainKey

variable {key : List Char}

theorem isPlain_of_mem (h : IsPlainKey key) {c : Char} (hc : c ∈ key) : isPlain c = true :=
  List.all_eq_true.mp h.plain c hc

theorem ne_nil (h : IsPlainKey key) : key ≠ [] := by
  rintro rfl
  exact absurd h.loud (by decide)

end IsPlainKey

/-- What a character is written as, by what it is. -/
theorem escapeChar_cases (c : Char) :
    c = '\\' ∧ escapeChar c = ['\\', '\\'] ∨ c = '\n' ∧ escapeChar c = ['\\', 'n']
      ∨ c = '\r' ∧ escapeChar c = ['\\', 'r']
      ∨ (c ≠ '\\' ∧ c ≠ '\n' ∧ c ≠ '\r') ∧ escapeChar c = [c] := by
  unfold escapeChar
  split
  · next hslash => exact .inl ⟨hslash, rfl⟩
  split
  · next hfeed => exact .inr (.inl ⟨hfeed, rfl⟩)
  split
  · next hreturn => exact .inr (.inr (.inl ⟨hreturn, rfl⟩))
  · next hslash hfeed hreturn => exact .inr (.inr (.inr ⟨⟨hslash, hfeed, hreturn⟩, rfl⟩))

theorem escape_cons (c : Char) (value : List Char) :
    escape (c :: value) = escapeChar c ++ escape value :=
  List.flatMap_cons

/-- No line break is written. -/
theorem unbroken_escapeChar (c : Char) : ∀ w ∈ escapeChar c, w ≠ '\n' ∧ w ≠ '\r' := by
  rcases escapeChar_cases c with ⟨-, h⟩ | ⟨-, h⟩ | ⟨-, h⟩ | ⟨⟨-, hfeed, hreturn⟩, h⟩
  · simp [h]
  · simp [h]
  · simp [h]
  · rw [h, List.forall_mem_singleton]
    exact ⟨hfeed, hreturn⟩

theorem unbroken_escape (value : List Char) : ∀ w ∈ escape value, w ≠ '\n' ∧ w ≠ '\r' := by
  intro w hw
  obtain ⟨c, -, hc⟩ := List.mem_flatMap.mp hw
  exact unbroken_escapeChar c w hc

/-- The line of an entry is one line. -/
theorem IsWritable.unbroken {e : List Char × List Char} (h : IsWritable e) :
    ∀ c ∈ writeEntry e, c ≠ '\n' ∧ c ≠ '\r' := by
  intro c hc
  rcases List.mem_append.mp hc with hkey | hrest
  · exact (isPlain_iff.mp (h.key.isPlain_of_mem hkey)).2.2.2.2
  rcases List.mem_cons.mp hrest with rfl | hvalue
  · decide
  · exact unbroken_escape e.2 c hvalue

/-! ## Natural lines -/

/-- A character that ends no line stands in the first line. -/
theorem splitLines_cons {c : Char} (hc : c ≠ '\n' ∧ c ≠ '\r') {rest first : List Char}
    {more : List (List Char)} (hrest : splitLines rest = first :: more) :
    splitLines (c :: rest) = (c :: first) :: more := by
  rw [splitLines, hrest]
  · exact hc.1
  · exact fun _ hreturn _ => hc.2 hreturn
  · exact hc.2

/-- Every text has a first line. -/
theorem exists_splitLines_eq (cs : List Char) : ∃ first more, splitLines cs = first :: more := by
  fun_induction splitLines cs with
  | case1 => exact ⟨[], [], rfl⟩
  | case2 rest => exact ⟨[], _, rfl⟩
  | case3 rest => exact ⟨[], _, rfl⟩
  | case4 rest => exact ⟨[], _, rfl⟩
  | case5 => exact ⟨_, _, rfl⟩
  | case6 => exact ⟨_, _, rfl⟩

/-- The lines of a text are the same when it is read from a file. -/
theorem splitLines_normalizeBreaks (cs : List Char) :
    splitLines (Text.normalizeBreaks cs) = splitLines cs := by
  fun_induction Text.normalizeBreaks cs with
  | case1 => rfl
  | case2 rest ih => rw [splitLines, splitLines, ih]
  | case3 rest hfeed ih =>
    rw [splitLines, splitLines, ih]
    exact hfeed
  | case4 c rest hpair hreturn ih =>
    by_cases hfeed : c = '\n'
    · rw [hfeed, splitLines, splitLines, ih]
    · obtain ⟨first, more, hrest⟩ := exists_splitLines_eq rest
      rw [splitLines_cons ⟨hfeed, hreturn⟩ (ih.trans hrest),
        splitLines_cons ⟨hfeed, hreturn⟩ hrest]

/-- Characters that end no line stand in the first line. -/
theorem splitLines_append {cs rest first : List Char} {more : List (List Char)}
    (hcs : ∀ c ∈ cs, c ≠ '\n' ∧ c ≠ '\r') (hrest : splitLines rest = first :: more) :
    splitLines (cs ++ rest) = (cs ++ first) :: more := by
  induction cs with
  | nil => exact hrest
  | cons c cs ih =>
    obtain ⟨hc, hcs⟩ := List.forall_mem_cons.mp hcs
    rw [List.cons_append, splitLines_cons hc (ih hcs), List.cons_append]

/-- A text without line breaks is one line. -/
theorem splitLines_of_unbroken {cs : List Char} (hcs : ∀ c ∈ cs, c ≠ '\n' ∧ c ≠ '\r') :
    splitLines cs = [cs] := by
  have hline : splitLines (cs ++ []) = [cs ++ []] := splitLines_append hcs rfl
  rwa [List.append_nil] at hline

/-- An ending ends a line, if no line feed comes after it. -/
theorem splitLines_ending {ending : List Char} (h : ending ∈ lineEndings) {rest : List Char}
    (hrest : ∀ c ∈ rest.head?, c ≠ '\n') : splitLines (ending ++ rest) = [] :: splitLines rest := by
  simp only [lineEndings, List.mem_cons, List.not_mem_nil, or_false] at h
  rcases h with rfl | rfl | rfl
  · rfl
  · rfl
  · rw [List.singleton_append, splitLines]
    rintro rest' rfl
    exact hrest '\n' rfl rfl

/-- The lines of a file are those it is written with, and an empty one if the last of them is ended. -/
theorem splitLines_writeLines {ending : List Char} (h : ending ∈ lineEndings) (closed : Bool)
    {lines : List (List Char)} (hnonempty : lines ≠ [])
    (hlines : ∀ line ∈ lines, line ≠ [] ∧ ∀ c ∈ line, c ≠ '\n' ∧ c ≠ '\r') :
    splitLines (writeLines ending closed lines) = lines ++ if closed then [[]] else [] := by
  unfold writeLines
  induction lines with
  | nil => exact absurd rfl hnonempty
  | cons line rest ih =>
    obtain ⟨⟨-, hline⟩, hrest⟩ := List.forall_mem_cons.mp hlines
    cases rest with
    | nil =>
      rw [List.intercalate_singleton]
      cases closed with
      | false =>
        rw [if_neg Bool.false_ne_true, List.append_nil, splitLines_of_unbroken hline]
        rfl
      | true =>
        have hend : splitLines (ending ++ []) = [[], []] := splitLines_ending h nofun
        rw [List.append_nil] at hend
        rw [if_pos rfl, splitLines_append hline hend, List.append_nil]
        rfl
    | cons next rest =>
      have ih := ih (List.cons_ne_nil next rest) hrest
      -- the next line is not empty, so what comes after the ending is its first character
      have hnext : ∀ c ∈ (ending.intercalate (next :: rest)
          ++ if closed then ending else []).head?, c ≠ '\n' := by
        obtain ⟨⟨hfull, hnext⟩, -⟩ := List.forall_mem_cons.mp hrest
        obtain ⟨c, cs, rfl⟩ := List.exists_cons_of_ne_nil hfull
        have hhead : ((ending.intercalate ((c :: cs) :: rest)
            ++ if closed then ending else []) : List Char).head? = some c := by
          cases rest <;> rfl
        rw [hhead]
        rintro _ ⟨⟩
        exact (hnext c List.mem_cons_self).1
      have hend := splitLines_ending h hnext
      rw [List.intercalate_cons_cons, List.append_assoc, List.append_assoc,
        splitLines_append hline hend, List.append_nil, ih]
      rfl

/-! ## Logical lines -/

/-- A written character leaves the number of backslashes at the end even. -/
theorem isContinued_append_escapeChar {start : List Char} (h : isContinued start = false) (c : Char) :
    isContinued (start ++ escapeChar c) = false := by
  unfold isContinued at h ⊢
  rcases escapeChar_cases c with ⟨-, hc⟩ | ⟨-, hc⟩ | ⟨-, hc⟩ | ⟨⟨hslash, -⟩, hc⟩
  · -- two more backslashes leave the number as even as it was, and any other character ends the row
    rw [hc, List.reverse_append]
    show (((start.reverse.takeWhile (· == '\\')).length + 2) % 2 == 1) = false
    rw [Nat.add_mod_right]
    exact h
  · rw [hc, List.reverse_append]
    rfl
  · rw [hc, List.reverse_append]
    rfl
  · have hstop : (c == '\\') = false := beq_eq_false_iff_ne.mpr hslash
    rw [hc, List.reverse_append, List.reverse_singleton, List.singleton_append,
      List.takeWhile_cons, hstop]
    rfl

/-- So does a written value. -/
theorem isContinued_append_escape {start : List Char} (h : isContinued start = false)
    (value : List Char) : isContinued (start ++ escape value) = false := by
  induction value generalizing start with
  | nil =>
    show isContinued (start ++ []) = false
    rw [List.append_nil]
    exact h
  | cons c value ih =>
    rw [escape_cons, ← List.append_assoc]
    exact ih (isContinued_append_escapeChar h c)

/-- The line of an entry does not go on in the next. -/
theorem isContinued_writeEntry (e : List Char × List Char) : isContinued (writeEntry e) = false := by
  have hstart : isContinued (e.1 ++ ['=']) = false := by
    rw [isContinued, List.reverse_append]
    rfl
  have hline := isContinued_append_escape hstart e.2
  rwa [List.append_assoc, List.singleton_append] at hline

namespace IsWritable

variable {e : List Char × List Char}

theorem writeEntry_ne_nil (h : IsWritable e) : writeEntry e ≠ [] :=
  List.append_ne_nil_of_left_ne_nil h.key.ne_nil _

/-- No blank stands before an entry, and it is no comment. -/
theorem dropWhile_writeEntry (h : IsWritable e) :
    (writeEntry e).dropWhile isBlank = writeEntry e ∧ isSilent (writeEntry e) = false := by
  obtain ⟨c, key, hkey⟩ := List.exists_cons_of_ne_nil h.key.ne_nil
  have hloud : isSilent e.1 = false := h.key.loud
  have hc : isPlain c = true := h.key.isPlain_of_mem (hkey ▸ List.mem_cons_self)
  have hblank : isBlank c = false := (isPlain_iff.mp hc).2.1
  unfold writeEntry
  rw [hkey] at hloud ⊢
  rw [List.cons_append, List.dropWhile_cons, hblank]
  exact ⟨rfl, hloud⟩

end IsWritable

/-- The line of an entry is a logical line. -/
theorem logicalLines_writeEntry {e : List Char × List Char} (h : IsWritable e)
    (rest : List (List Char)) :
    logicalLines none (writeEntry e :: rest) = writeEntry e :: logicalLines none rest := by
  obtain ⟨hblank, hloud⟩ := h.dropWhile_writeEntry
  rw [logicalLines, hblank, hloud, isContinued_writeEntry]
  rfl

/-- So are those of many entries, and an empty line after them is none. -/
theorem logicalLines_writeEntries {entries : List (List Char × List Char)}
    (h : ∀ e ∈ entries, IsWritable e) (closed : Bool) :
    logicalLines none (entries.map writeEntry ++ if closed then [[]] else [])
      = entries.map writeEntry := by
  induction entries with
  | nil => cases closed <;> rfl
  | cons e rest ih =>
    obtain ⟨he, hrest⟩ := List.forall_mem_cons.mp h
    rw [List.map_cons, List.cons_append, logicalLines_writeEntry he, ih hrest]

/-! ## Keys and values -/

/-- A plain key ends where a separator stands. -/
theorem splitKey_append {key : List Char} (h : ∀ c ∈ key, isPlain c = true) (rest : List Char) :
    splitKey (key ++ '=' :: rest) = (key, '=' :: rest) := by
  induction key with
  | nil => rfl
  | cons c key ih =>
    obtain ⟨hc, hkey⟩ := List.forall_mem_cons.mp h
    obtain ⟨hslash, hblank, hequals, hcolon, -⟩ := isPlain_iff.mp hc
    have hplain : ¬ (isBlank c || c == '=' || c == ':') = true := by
      simp [hblank, hequals, hcolon]
    rw [List.cons_append, splitKey, if_neg hplain, ih hkey]
    exact fun _ _ hc => absurd hc hslash

/-- A written character begins with a blank only if it is one. -/
theorem isBlank_head_escape {value : List Char} (h : ∀ c ∈ value.head?, isBlank c = false) :
    ∀ c ∈ (escape value).head?, isBlank c = false := by
  cases value with
  | nil => exact nofun
  | cons c value =>
    rw [escape_cons]
    rcases escapeChar_cases c with ⟨-, hc⟩ | ⟨-, hc⟩ | ⟨-, hc⟩ | ⟨-, hc⟩
    · rw [hc]
      rintro _ ⟨⟩
      decide
    · rw [hc]
      rintro _ ⟨⟩
      decide
    · rw [hc]
      rintro _ ⟨⟩
      decide
    · rw [hc]
      rintro _ ⟨⟩
      exact h c rfl

/-- An equals sign is taken off, and nothing of what follows if that begins with no blank. -/
theorem dropSeparator_cons {rest : List Char} (h : ∀ c ∈ rest.head?, isBlank c = false) :
    dropSeparator ('=' :: rest) = rest := by
  show rest.dropWhile isBlank = rest
  cases rest with
  | nil => rfl
  | cons c rest => rw [List.dropWhile_cons, h c rfl]; rfl

/-- The line of an entry is split into its key and its value. -/
theorem splitEntry_writeEntry {e : List Char × List Char} (h : IsWritable e) :
    splitEntry (writeEntry e) = (e.1, escape e.2) := by
  rw [splitEntry, writeEntry, splitKey_append fun _ => h.key.isPlain_of_mem]
  dsimp only
  rw [dropSeparator_cons (isBlank_head_escape h.value)]

/-- A character but a backslash spells itself. -/
theorem unescapeUnits_cons {c : Char} (h : c ≠ '\\') (rest : List Char) :
    unescapeUnits (c :: rest) = (unescapeUnits rest).map (.scalar c :: ·) := by
  rw [unescapeUnits]
  · exact fun _ _ _ _ _ hc _ => absurd hc h
  · exact fun _ hc _ => absurd hc h
  · exact fun _ _ hc _ => absurd hc h

/-- A written character spells the character. -/
theorem unescapeUnits_escapeChar (c : Char) (rest : List Char) :
    unescapeUnits (escapeChar c ++ rest) = (unescapeUnits rest).map (.scalar c :: ·) := by
  rcases escapeChar_cases c with ⟨rfl, hc⟩ | ⟨rfl, hc⟩ | ⟨rfl, hc⟩ | ⟨⟨hslash, -⟩, hc⟩
  · rw [hc]
    rfl
  · rw [hc]
    rfl
  · rw [hc]
    rfl
  · rw [hc, List.singleton_append, unescapeUnits_cons hslash]

/-- Characters have no halves to be joined. -/
theorem joinPairs_map_scalar (cs : List Char) :
    Text.joinPairs (cs.map CodePoint.scalar) = cs.map CodePoint.scalar := by
  induction cs with
  | nil => rfl
  | cons c cs ih =>
    rw [List.map_cons, Text.joinPairs, ih]
    exact nofun

/-- A written value spells the value. -/
theorem unescape_escape (value : List Char) :
    unescape (escape value) = .ok (value.map CodePoint.scalar) := by
  have hunits : unescapeUnits (escape value) = .ok (value.map CodePoint.scalar) := by
    induction value with
    | nil => rfl
    | cons c value ih =>
      rw [escape_cons, unescapeUnits_escapeChar, ih]
      rfl
  rw [unescape, hunits, Except.map, joinPairs_map_scalar]

/-- A key is written as it is, so it spells itself. -/
theorem IsPlainKey.unescape_eq {key : List Char} (h : IsPlainKey key) :
    unescape key = .ok (key.map CodePoint.scalar) := by
  have hsame : escape key = key := by
    have hchars : ∀ c ∈ key, escapeChar c = [c] := by
      intro c hc
      obtain ⟨hslash, -, -, -, hfeed, hreturn⟩ := isPlain_iff.mp (h.isPlain_of_mem hc)
      rw [escapeChar, if_neg hslash, if_neg hfeed, if_neg hreturn]
    rw [escape, List.flatMap_congr hchars, List.flatMap_singleton']
  have hkey := unescape_escape key
  rwa [hsame] at hkey

/-- The line of an entry spells its key and its value. -/
theorem readEntry_writeEntry {e : List Char × List Char} (h : IsWritable e) :
    readEntry (writeEntry e)
      = .ok (e.1.map CodePoint.scalar, e.2.map CodePoint.scalar) := by
  rw [readEntry, splitEntry_writeEntry h]
  dsimp only
  rw [h.key.unescape_eq, unescape_escape]
  rfl

/-! ## Files -/

/-- Lines that are all read make the list of what is read. -/
theorem mapM_readEntry_writeEntry {entries : List (List Char × List Char)}
    (h : ∀ e ∈ entries, IsWritable e) :
    (entries.map writeEntry).mapM readEntry
      = .ok (entries.map fun e => (e.1.map CodePoint.scalar, e.2.map CodePoint.scalar)) := by
  induction entries with
  | nil => rfl
  | cons e rest ih =>
    obtain ⟨he, hrest⟩ := List.forall_mem_cons.mp h
    rw [List.map_cons, List.mapM_cons, readEntry_writeEntry he, ih hrest]
    rfl

/-- Entries that are written on lines of a file are read back in order. -/
theorem parse_writeLines {ending : List Char} (hending : ending ∈ lineEndings) (closed : Bool)
    {entries : List (List Char × List Char)} (hnonempty : entries ≠ [])
    (h : ∀ e ∈ entries, IsWritable e) :
    parse (Text.normalizeBreaks (writeLines ending closed (entries.map writeEntry)))
      = .ok (.ofList (entries.map fun e =>
          (e.1.map CodePoint.scalar, e.2.map CodePoint.scalar))) := by
  have hlines : ∀ line ∈ entries.map writeEntry,
      line ≠ [] ∧ ∀ c ∈ line, c ≠ '\n' ∧ c ≠ '\r' := by
    intro line hline
    obtain ⟨e, he, rfl⟩ := List.mem_map.mp hline
    exact ⟨(h e he).writeEntry_ne_nil, (h e he).unbroken⟩
  -- only an empty line would be left out
  have hfull : (entries.map writeEntry).filter (!·.isEmpty) = entries.map writeEntry := by
    refine List.filter_eq_self.mpr fun line hline => ?_
    simpa using (hlines line hline).1
  rw [parse, splitLines_normalizeBreaks,
    splitLines_writeLines hending closed (by simpa using hnonempty) hlines,
    logicalLines_writeEntries h, hfull, mapM_readEntry_writeEntry h]
  rfl

end SinkAudit.PropertiesFile
