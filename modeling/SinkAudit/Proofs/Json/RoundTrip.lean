import SinkAudit.Proofs.Json.Strings

/-!
# Written documents are read back

A document that is not too deep is read back as its value, whatever blanks were written between
its parts. The readers count their steps down from a number that twice the length of what they
read is enough for.

The induction is on the document and not on the steps of the reader. What carries it is that each reader
takes exactly the text of its part from the front and leaves the rest, for any rest that may follow such a
part; numbers are not among the documents that are written, so nothing has to be said of where a part ends.

- `Tree.value`: the value that a document stands for; `Tree.height`: how deep it is.
- `readValue_writeAt`: one document is read from the front of a text, and the rest is left.
- `parse_write`: a whole document.
-/

namespace SinkAudit.Json

namespace Tree

mutual

/-- The value that a document stands for. -/
def value : Tree → Value
  | flag b => .scalar (.bool b)
  | text s => .ofString s
  | list items => .list (values items)
  | object entries => .mapping (OrderedMap.ofList (entryValues entries)).toList

/-- The values of items. -/
def values : List Tree → List Value
  | [] => []
  | t :: rest => t.value :: values rest

/-- The values of entries, under their names. -/
def entryValues : List (String × Tree) → List (Scalar × Value)
  | [] => []
  | (k, t) :: rest => ((k : Scalar), t.value) :: entryValues rest

end

mutual

/-- How many lists and objects lie inside each other. -/
def height : Tree → Nat
  | flag _ => 0
  | text _ => 0
  | list items => heights items + 1
  | object entries => entryHeights entries + 1

/-- The largest height of an item. -/
def heights : List Tree → Nat
  | [] => 0
  | t :: rest => max t.height (heights rest)

/-- The largest height of an entry. -/
def entryHeights : List (String × Tree) → Nat
  | [] => 0
  | (_, t) :: rest => max t.height (entryHeights rest)

end

theorem values_eq_map (ts : List Tree) : values ts = ts.map value := by
  induction ts with
  | nil => rfl
  | cons t rest ih => rw [values, ih, List.map_cons]

theorem entryValues_eq_map (es : List (String × Tree)) :
    entryValues es = es.map fun e => ((e.1 : Scalar), e.2.value) := by
  induction es with
  | nil => rfl
  | cons e rest ih =>
    obtain ⟨k, t⟩ := e
    rw [entryValues, ih, List.map_cons]

theorem heights_le {ts : List Tree} {n : Nat} (h : ∀ t ∈ ts, t.height ≤ n) : heights ts ≤ n := by
  induction ts with
  | nil => exact Nat.zero_le n
  | cons t rest ih =>
    obtain ⟨ht, hrest⟩ := List.forall_mem_cons.mp h
    rw [heights]
    exact Nat.max_le.mpr ⟨ht, ih hrest⟩

theorem entryHeights_le {es : List (String × Tree)} {n : Nat} (h : ∀ e ∈ es, e.2.height ≤ n) :
    entryHeights es ≤ n := by
  induction es with
  | nil => exact Nat.zero_le n
  | cons e rest ih =>
    obtain ⟨ht, hrest⟩ := List.forall_mem_cons.mp h
    rw [entryHeights]
    exact Nat.max_le.mpr ⟨ht, ih hrest⟩

end Tree

/-! ## Blanks -/

theorem skipBlanks_newLine (level : Nat) (cs : List Char) :
    skipBlanks (newLine level ++ cs) = skipBlanks cs := by
  have hblanks : ∀ c ∈ newLine level, isBlank c = true := by
    intro c hc
    rcases List.mem_cons.mp hc with rfl | hc
    · decide
    · rw [List.eq_of_mem_replicate hc]
      decide
  exact List.dropWhile_append_of_pos hblanks

theorem skipBlanks_space (cs : List Char) : skipBlanks (' ' :: cs) = skipBlanks cs := rfl

theorem skipBlanks_cons {c : Char} (h : isBlank c = false) (cs : List Char) :
    skipBlanks (c :: cs) = c :: cs :=
  List.dropWhile_cons_of_neg (by simp [h])

/-- The first character of a document is neither a blank nor a closing bracket nor a byte order
mark. -/
theorem exists_writeAt_eq_cons (t : Tree) (level : Nat) :
    ∃ c cs, t.writeAt level = c :: cs ∧ isBlank c = false ∧ c ≠ ']' ∧ c ≠ '\ufeff' := by
  -- what is written never starts as the reader would skip it or take it for an end
  cases t with
  | flag b =>
    rw [Tree.writeAt]
    cases b with
    | true => exact ⟨'t', ['r', 'u', 'e'], by decide, by decide, by decide, by decide⟩
    | false => exact ⟨'f', ['a', 'l', 's', 'e'], by decide, by decide, by decide, by decide⟩
  | text s =>
    rw [Tree.writeAt]
    exact ⟨'"', _, rfl, by decide, by decide, by decide⟩
  | list items =>
    rw [Tree.writeAt, bracketed]
    split
    · exact ⟨'[', _, rfl, by decide, by decide, by decide⟩
    · exact ⟨'[', _, rfl, by decide, by decide, by decide⟩
  | object entries =>
    rw [Tree.writeAt, bracketed]
    split
    · exact ⟨'\x7b', _, rfl, by decide, by decide, by decide⟩
    · exact ⟨'\x7b', _, rfl, by decide, by decide, by decide⟩

/-! ## Scalars -/

/-- The words for truth values are read. -/
theorem readScalar_flag (b : Bool) (rest : List Char) :
    readScalar ((if b then "true" else "false").toList ++ rest) = .ok (.bool b, rest) := by
  cases b with
  | true =>
    have hlength : "true".length = 4 := rfl
    simp [readScalar, words, afterWord?, hlength]
  | false =>
    have hlength : "false".length = 5 := rfl
    simp [readScalar, words, afterWord?, hlength]

/-! ## Lists and objects -/

/-- What stands behind the entries inside brackets. -/
def closing (right : Char) (level : Nat) (rest : List Char) : List Char :=
  newLine level ++ right :: rest

/-- Entries that stand on lines of their own. -/
def onLines (level : Nat) (entries : List (List Char)) : List Char :=
  List.intercalate (',' :: newLine level) entries

theorem bracketed_append (left right : Char) (level : Nat) {entries : List (List Char)}
    (h : entries ≠ []) (rest : List Char) :
    bracketed left right level entries ++ rest
      = left :: (newLine (level + 1)
        ++ (onLines (level + 1) entries ++ closing right level rest)) := by
  rw [bracketed, if_neg (by simpa using h), closing, onLines]
  simp only [List.cons_append, List.append_assoc, List.nil_append]

theorem onLines_cons_cons (level : Nat) (e e' : List Char) (entries : List (List Char))
    (rest : List Char) :
    onLines level (e :: e' :: entries) ++ rest
      = e ++ (',' :: (newLine level ++ (onLines level (e' :: entries) ++ rest))) := by
  rw [onLines, List.intercalate_cons_cons, onLines]
  simp only [List.cons_append, List.append_assoc]

theorem skipBlanks_closing {right : Char} (h : isBlank right = false) (level : Nat)
    (rest : List Char) : skipBlanks (closing right level rest) = right :: rest := by
  rw [closing, skipBlanks_newLine, skipBlanks_cons h]

theorem exists_onLines_eq (level : Nat) (e : List Char) (entries : List (List Char))
    (rest : List Char) : ∃ more, onLines level (e :: entries) ++ rest = e ++ more := by
  cases entries with
  | nil => exact ⟨rest, by rw [onLines, List.intercalate_singleton]⟩
  | cons e' entries => exact ⟨_, onLines_cons_cons level e e' entries rest⟩

/-- The first character of items is neither a blank nor a closing bracket. -/
theorem exists_onLines_items_eq_cons (level : Nat) (t : Tree) (ts : List Tree) (rest : List Char) :
    ∃ c cs, onLines level (Tree.writeItems level (t :: ts)) ++ rest = c :: cs
      ∧ isBlank c = false ∧ c ≠ ']' := by
  rw [Tree.writeItems]
  obtain ⟨more, hmore⟩ := exists_onLines_eq level (t.writeAt level) (Tree.writeItems level ts) rest
  obtain ⟨c, cs, heq, hblank, hclose, -⟩ := exists_writeAt_eq_cons t level
  exact ⟨c, cs ++ more, by rw [hmore, heq, List.cons_append], hblank, hclose⟩

/-- The characters of an entry, behind its first quote. -/
def entryTail (level : Nat) (k : String) (t : Tree) (rest : List Char) : List Char :=
  k.toList.flatMap quotedChar ++ '"' :: ':' :: ' ' :: (t.writeAt level ++ rest)

theorem quoted_append (level : Nat) (k : String) (t : Tree) (rest : List Char) :
    (quoted k ++ ':' :: ' ' :: t.writeAt level) ++ rest = '"' :: entryTail level k t rest := by
  rw [quoted, entryTail]
  simp only [List.cons_append, List.append_assoc, List.nil_append]

/-- The first character of entries is a quote. -/
theorem exists_onLines_entries_eq_cons (level : Nat) (e : String × Tree)
    (es : List (String × Tree)) (rest : List Char) :
    ∃ cs, onLines level (Tree.writeEntries level (e :: es)) ++ rest = '"' :: cs := by
  obtain ⟨k, t⟩ := e
  rw [Tree.writeEntries]
  obtain ⟨more, hmore⟩ := exists_onLines_eq level (quoted k ++ ':' :: ' ' :: t.writeAt level)
    (Tree.writeEntries level es) rest
  exact ⟨_, by rw [hmore, quoted_append]⟩

theorem length_onLines_cons_cons (level : Nat) (e e' : List Char) (entries : List (List Char)) :
    e.length + (onLines level (e' :: entries)).length
      < (onLines level (e :: e' :: entries)).length := by
  have h := congrArg List.length (onLines_cons_cons level e e' entries [])
  simp only [List.append_nil, List.length_append, List.length_cons] at h
  omega

theorem length_bracketed (left right : Char) (level : Nat) {entries : List (List Char)}
    (h : entries ≠ []) :
    (onLines (level + 1) entries).length + 2 ≤ (bracketed left right level entries).length := by
  have h := congrArg List.length (bracketed_append left right level h [])
  simp only [List.append_nil, List.length_append, List.length_cons, closing] at h
  omega

theorem length_entry (k : String) (value : List Char) :
    value.length + 2 ≤ (quoted k ++ ':' :: ' ' :: value).length := by
  simp only [List.length_append, List.length_cons]
  omega

theorem writeItems_ne_nil (level : Nat) (t : Tree) (ts : List Tree) :
    Tree.writeItems level (t :: ts) ≠ [] := by
  rw [Tree.writeItems]
  exact List.cons_ne_nil _ _

theorem writeEntries_ne_nil (level : Nat) (e : String × Tree) (es : List (String × Tree)) :
    Tree.writeEntries level (e :: es) ≠ [] := by
  obtain ⟨k, t⟩ := e
  rw [Tree.writeEntries]
  exact List.cons_ne_nil _ _

/-! ## Documents -/

-- All three readers call each other with one step less, so the recursion is on the steps. The
-- brackets of a list or an object pay for the step to its items, and the comma between two items for
-- the next.
mutual

/-- A written document is read from the front of a text. -/
theorem readValue_writeAt (depth level : Nat) (rest : List Char) : ∀ (t : Tree) (fuel : Nat),
    2 * (t.writeAt level).length ≤ fuel → depth + t.height ≤ depthLimit →
      readValue depth fuel (t.writeAt level ++ rest) = .ok (t.value, rest)
  | .flag b, fuel, hfuel, _ => by
    rw [Tree.writeAt] at hfuel ⊢
    obtain ⟨fuel, rfl⟩ : ∃ n, fuel = n + 1 := by
      refine ⟨fuel - 1, ?_⟩
      cases b <;> simp at hfuel <;> omega
    have hword := readScalar_flag b rest
    cases b with
    | true =>
      rw [readValue]
      · rw [hword]
        rfl
      all_goals simp
    | false =>
      rw [readValue]
      · rw [hword]
        rfl
      all_goals simp
  | .text s, fuel, hfuel, _ => by
    rw [Tree.writeAt, quoted] at hfuel ⊢
    obtain ⟨fuel, rfl⟩ : ∃ n, fuel = n + 1 := ⟨fuel - 1, by simp at hfuel; omega⟩
    simp only [List.cons_append, List.append_assoc, List.nil_append]
    rw [readValue, readString_quoted]
    rfl
  | .list [], fuel, hfuel, hdepth => by
    obtain ⟨fuel, rfl⟩ : ∃ n, fuel = n + 1 :=
      ⟨fuel - 1, by simp [Tree.writeAt, Tree.writeItems, bracketed] at hfuel; omega⟩
    have hroom : ¬ depth ≥ depthLimit := by
      rw [Tree.height] at hdepth
      omega
    simp [Tree.writeAt, Tree.writeItems, bracketed, readValue, hroom, skipBlanks_cons, isBlank,
      Tree.value, Tree.values]
  | .list (t :: ts), fuel, hfuel, hdepth => by
    have hlen := length_bracketed '[' ']' level (writeItems_ne_nil (level + 1) t ts)
    rw [Tree.writeAt] at hfuel ⊢
    rw [Tree.height] at hdepth
    obtain ⟨fuel, rfl⟩ : ∃ n, fuel = n + 1 := ⟨fuel - 1, by omega⟩
    have hroom : ¬ depth ≥ depthLimit := by omega
    have hitems := readItems_onLines (depth + 1) (level + 1) level rest t ts fuel (by omega)
      (by omega)
    obtain ⟨c, cs, heq, hblank, hclose⟩ :=
      exists_onLines_items_eq_cons (level + 1) t ts (closing ']' level rest)
    rw [heq] at hitems
    rw [bracketed_append _ _ _ (writeItems_ne_nil _ t ts), heq, readValue, if_neg hroom,
      skipBlanks_newLine, skipBlanks_cons hblank]
    simp only
    split
    -- an opening bracket right before a closing one would be an empty list
    · next hcons => exact absurd (List.cons.inj hcons).1 hclose
    · rw [hitems]
      rfl
  | .object [], fuel, hfuel, hdepth => by
    obtain ⟨fuel, rfl⟩ : ∃ n, fuel = n + 1 :=
      ⟨fuel - 1, by simp [Tree.writeAt, Tree.writeEntries, bracketed] at hfuel; omega⟩
    have hroom : ¬ depth ≥ depthLimit := by
      rw [Tree.height] at hdepth
      omega
    simp [Tree.writeAt, Tree.writeEntries, bracketed, readValue, hroom, skipBlanks_cons, isBlank,
      Tree.value, Tree.entryValues]
    rfl
  | .object ((k, t) :: es), fuel, hfuel, hdepth => by
    have hlen := length_bracketed '\x7b' '\x7d' level (writeEntries_ne_nil (level + 1) (k, t) es)
    rw [Tree.writeAt] at hfuel ⊢
    rw [Tree.height] at hdepth
    obtain ⟨fuel, rfl⟩ : ∃ n, fuel = n + 1 := ⟨fuel - 1, by omega⟩
    have hroom : ¬ depth ≥ depthLimit := by omega
    have hentries := readMembers_onLines (depth + 1) (level + 1) level rest k t es fuel (by omega)
      (by omega)
    obtain ⟨cs, heq⟩ :=
      exists_onLines_entries_eq_cons (level + 1) (k, t) es (closing '\x7d' level rest)
    rw [heq] at hentries
    rw [bracketed_append _ _ _ (writeEntries_ne_nil _ (k, t) es), heq, readValue, if_neg hroom,
      skipBlanks_newLine, skipBlanks_cons (by decide)]
    simp only
    rw [hentries]
    rfl

termination_by _ fuel => fuel

/-- Written items are read up to the end of their list. -/
theorem readItems_onLines (depth level outer : Nat) (rest : List Char) :
    ∀ (t : Tree) (ts : List Tree) (fuel : Nat),
      2 * (onLines level (Tree.writeItems level (t :: ts))).length + 1 ≤ fuel →
      depth + Tree.heights (t :: ts) ≤ depthLimit →
      readItems depth fuel
          (onLines level (Tree.writeItems level (t :: ts)) ++ closing ']' outer rest)
        = .ok (Tree.values (t :: ts), rest)
  | t, [], fuel, hfuel, hdepth => by
    rw [Tree.writeItems, Tree.writeItems, onLines, List.intercalate_singleton] at hfuel ⊢
    rw [Tree.heights, Tree.heights] at hdepth
    obtain ⟨fuel, rfl⟩ : ∃ n, fuel = n + 1 := ⟨fuel - 1, by omega⟩
    have hvalue := readValue_writeAt depth level (closing ']' outer rest) t fuel (by omega)
      (by omega)
    rw [readItems, hvalue]
    simp only [bind, Except.bind, skipBlanks_closing (show isBlank ']' = false by decide)]
    rfl
  | t, t' :: ts, fuel, hfuel, hdepth => by
    -- the recursion of the reader: the first item with its comma, and the others with less fuel
    have hlen : (t.writeAt level).length + (onLines level (Tree.writeItems level (t' :: ts))).length
        < (onLines level (Tree.writeItems level (t :: t' :: ts))).length :=
      length_onLines_cons_cons level _ _ _
    rw [Tree.heights] at hdepth
    obtain ⟨fuel, rfl⟩ : ∃ n, fuel = n + 1 := ⟨fuel - 1, by omega⟩
    have hsplit : onLines level (Tree.writeItems level (t :: t' :: ts)) ++ closing ']' outer rest
        = t.writeAt level ++ (',' :: (newLine level
          ++ (onLines level (Tree.writeItems level (t' :: ts)) ++ closing ']' outer rest))) :=
      onLines_cons_cons level _ _ _ _
    have hvalue := readValue_writeAt depth level
      (',' :: (newLine level ++ (onLines level (Tree.writeItems level (t' :: ts))
        ++ closing ']' outer rest))) t fuel (by omega) (by omega)
    have hitems := readItems_onLines depth level outer rest t' ts fuel (by omega) (by omega)
    obtain ⟨c, cs, heq, hblank, -⟩ :=
      exists_onLines_items_eq_cons level t' ts (closing ']' outer rest)
    rw [hsplit, readItems, hvalue]
    rw [heq] at hitems ⊢
    simp only [bind, Except.bind, skipBlanks_cons (c := ',') (by decide), skipBlanks_newLine,
      skipBlanks_cons hblank, hitems]
    rfl
termination_by _ _ fuel => fuel

/-- Written entries are read up to the end of their object. -/
theorem readMembers_onLines (depth level outer : Nat) (rest : List Char) :
    ∀ (k : String) (t : Tree) (es : List (String × Tree)) (fuel : Nat),
      2 * (onLines level (Tree.writeEntries level ((k, t) :: es))).length + 1 ≤ fuel →
      depth + Tree.entryHeights ((k, t) :: es) ≤ depthLimit →
      readMembers depth fuel
          (onLines level (Tree.writeEntries level ((k, t) :: es)) ++ closing '\x7d' outer rest)
        = .ok (Tree.entryValues ((k, t) :: es), rest)
  | k, t, [], fuel, hfuel, hdepth => by
    rw [Tree.writeEntries, Tree.writeEntries, onLines, List.intercalate_singleton] at hfuel ⊢
    rw [Tree.entryHeights, Tree.entryHeights] at hdepth
    have hlen := length_entry k (t.writeAt level)
    obtain ⟨fuel, rfl⟩ : ∃ n, fuel = n + 1 := ⟨fuel - 1, by omega⟩
    have hvalue := readValue_writeAt depth level (closing '\x7d' outer rest) t fuel (by omega)
      (by omega)
    obtain ⟨c, cs, heq, hblank, -⟩ := exists_writeAt_eq_cons t level
    rw [quoted_append, readMembers, entryTail, readString_quoted]
    -- blanks are skipped before the colon and before the value, of which only the second are there
    rw [heq] at hvalue ⊢
    simp only [bind, Except.bind, skipBlanks_cons (c := ':') (by decide), skipBlanks_space,
      List.cons_append, skipBlanks_cons hblank] at hvalue ⊢
    rw [hvalue]
    simp only [skipBlanks_closing (show isBlank '\x7d' = false by decide)]
    rfl
  | k, t, (k', t') :: es, fuel, hfuel, hdepth => by
    have hlen : (quoted k ++ ':' :: ' ' :: t.writeAt level).length
          + (onLines level (Tree.writeEntries level ((k', t') :: es))).length
        < (onLines level (Tree.writeEntries level ((k, t) :: (k', t') :: es))).length :=
      length_onLines_cons_cons level _ _ _
    have hentry := length_entry k (t.writeAt level)
    rw [Tree.entryHeights] at hdepth
    obtain ⟨fuel, rfl⟩ : ∃ n, fuel = n + 1 := ⟨fuel - 1, by omega⟩
    have hsplit : onLines level (Tree.writeEntries level ((k, t) :: (k', t') :: es))
          ++ closing '\x7d' outer rest
        = (quoted k ++ ':' :: ' ' :: t.writeAt level) ++ (',' :: (newLine level
          ++ (onLines level (Tree.writeEntries level ((k', t') :: es))
            ++ closing '\x7d' outer rest))) :=
      onLines_cons_cons level _ _ _ _
    have hvalue := readValue_writeAt depth level
      (',' :: (newLine level ++ (onLines level (Tree.writeEntries level ((k', t') :: es))
        ++ closing '\x7d' outer rest))) t fuel (by omega) (by omega)
    have hentries := readMembers_onLines depth level outer rest k' t' es fuel (by omega) (by omega)
    obtain ⟨cs, hcs⟩ :=
      exists_onLines_entries_eq_cons level (k', t') es (closing '\x7d' outer rest)
    obtain ⟨c, ds, heq, hblank, -⟩ := exists_writeAt_eq_cons t level
    rw [hsplit, quoted_append, readMembers, entryTail, readString_quoted]
    rw [hcs] at hentries hvalue ⊢
    rw [heq] at hvalue ⊢
    simp only [bind, Except.bind, skipBlanks_cons (c := ':') (by decide), skipBlanks_space,
      List.cons_append, skipBlanks_cons hblank] at hvalue ⊢
    rw [hvalue]
    simp only [skipBlanks_cons (c := ',') (by decide), skipBlanks_newLine,
      skipBlanks_cons (c := '"') (by decide), hentries]
    rfl
termination_by _ _ _ fuel => fuel

end

/-- A written document is read back as its value, unless it is too deep. -/
theorem parse_write {t : Tree} (h : t.height ≤ depthLimit) :
    parse (t.write ++ "\n").toList = .ok t.value := by
  have htext : (t.write ++ "\n").toList = t.writeAt 0 ++ ['\n'] := by
    rw [String.toList_append, Tree.write, String.toList_ofList]
    rfl
  -- the document begins with none of the characters that are skipped or refused at the start of a text
  obtain ⟨c, cs, heq, hblank, -, hmark⟩ := exists_writeAt_eq_cons t 0
  have hvalue := readValue_writeAt 0 0 ['\n'] t (2 * (t.writeAt 0 ++ ['\n']).length + 2)
    (by simp only [List.length_append]; omega) (by omega)
  have hall : readAll (t.writeAt 0 ++ ['\n']) = .ok t.value := by
    rw [heq] at hvalue ⊢
    rw [List.cons_append] at hvalue ⊢
    rw [readAll]
    · simp only [skipBlanks_cons hblank, hvalue, bind, Except.bind]
      rfl
    · exact fun _ h => hmark (List.cons.inj h).1
  rw [htext, parse, hall]

end SinkAudit.Json
