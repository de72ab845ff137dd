import SinkAudit.Json.Reader

/-!
# How deep a document is that is refused for its depth

Every reader leaves an end of what it was given. A value is refused for its depth only behind as
many brackets as the limit allows, so that a document with fewer is never refused for it.

The result is needed in one direction: to say for which files loading is not in an unforeseen state, without
running the reader. Counting opening brackets, those inside of strings included, is coarse but can be done by
eye.

- `Reads`: what a reader leaves, and when it finds something too deep; `Reads.map`, `Reads.bind`.
- `reads_units`, `reads_number`, `reads_scalar`: the leaves are never too deep.
- `reads_value`, `reads_items`, `reads_members`: nor is a value, unless there are brackets.
- `depthLimit_lt_of_tooDeep`: a document that is too deep has more brackets than the limit.
- `parse_replicate`: that many brackets, if none is closed, are too deep.
-/

namespace SinkAudit.Json

open Text

variable {α β : Type} {cs cs' rest : List Char} {deep deep' : Prop}
  {r : Except Fault (α × List Char)}

/-! ## Readers -/

/-- A reader that was given `cs` leaves an end of it, and finds something too deep only under a
condition. -/
structure Reads (cs : List Char) (deep : Prop) (r : Except Fault (α × List Char)) : Prop where
  suffix : ∀ {a rest}, r = .ok (a, rest) → rest <:+ cs
  tooDeep : ∀ {object}, r = .error (.tooDeep object) → deep

namespace Reads

theorem ok {a : α} (h : rest <:+ cs) : Reads cs deep (.ok (a, rest)) := by
  refine ⟨fun heq => ?_, nofun⟩
  cases heq
  exact h

theorem problem {p : Problem} : Reads cs deep (.error (.problem p rest) : Except Fault (α × _)) :=
  ⟨nofun, nofun⟩

theorem longInteger {n : Nat} : Reads cs deep (.error (.longInteger n) : Except Fault (α × _)) :=
  ⟨nofun, nofun⟩

theorem mono (h : Reads cs' deep' r) (hsuffix : cs' <:+ cs) (hdeep : deep' → deep) :
    Reads cs deep r :=
  ⟨fun heq => (h.suffix heq).trans hsuffix, fun heq => hdeep (h.tooDeep heq)⟩

theorem bind {k : α × List Char → Except Fault (β × List Char)} (h : Reads cs deep r)
    (hk : ∀ a rest, rest <:+ cs → Reads cs deep (k (a, rest))) : Reads cs deep (r >>= k) := by
  cases hr : r with
  | error e =>
    refine ⟨nofun, fun heq => ?_⟩
    cases heq
    exact h.tooDeep hr
  | ok found =>
    obtain ⟨a, rest⟩ := found
    exact hk a rest (h.suffix hr)

theorem map (f : α → β) (h : Reads cs deep r) :
    Reads cs deep (r.map fun (a, rest) => (f a, rest)) := by
  cases hr : r with
  | error e =>
    refine ⟨nofun, fun heq => ?_⟩
    cases heq
    exact h.tooDeep hr
  | ok found =>
    obtain ⟨a, rest⟩ := found
    exact .ok (h.suffix hr)

end Reads

/-! ## Leaves -/

theorem reads_units (start cs : List Char) : Reads cs False (readUnits start cs) := by
  fun_induction readUnits start cs with
  | case1 => exact .problem
  | case2 rest => exact .ok (List.suffix_cons _ _)
  | case3 a b c d e rest p _ ih =>
    exact (ih.mono ⟨['\\', 'u', a, b, c, d], rfl⟩ id).map (p :: ·)
  | case4 => exact .problem
  | case5 => exact .problem
  | case6 c rest _ _ c' _ ih =>
    exact (ih.mono ⟨['\\', c], rfl⟩ id).map (.scalar c' :: ·)
  | case7 => exact .problem
  | case8 => exact .problem
  | case9 => exact .problem
  | case10 c rest _ _ _ _ _ _ ih =>
    exact (ih.mono (List.suffix_cons _ _) id).map (.scalar c :: ·)

theorem reads_string (cs : List Char) : Reads cs False (readString cs) :=
  (reads_units _ cs).map joinPairs

theorem wholePart?_suffix {whole : List Char} (h : wholePart? cs = some (whole, rest)) :
    rest <:+ cs := by
  unfold wholePart? at h
  split at h
  · cases h
    exact List.suffix_cons _ _
  · split at h
    · cases h
      exact List.dropWhile_suffix _
    · cases h
  · cases h

theorem fractionPart_suffix (cs : List Char) : (fractionPart cs).2 <:+ cs := by
  unfold fractionPart
  split
  · split
    · exact (List.dropWhile_suffix _).trans (List.suffix_cons _ _)
    · exact List.suffix_rfl
  · exact List.suffix_rfl

theorem splitSign_suffix (cs : List Char) : (Number.splitSign cs).2 <:+ cs := by
  unfold Number.splitSign
  split
  · exact List.suffix_cons _ _
  · exact List.suffix_cons _ _
  · exact List.suffix_rfl

theorem exponentPart_suffix (cs : List Char) : (exponentPart cs).2 <:+ cs := by
  unfold exponentPart
  split
  · next c rest =>
    split
    · dsimp only
      split
      · exact List.suffix_rfl
      · next ds after _ hspan =>
        have hafter : after = (spanDigits (Number.splitSign rest).2).2 := by rw [hspan]
        rw [hafter]
        exact (List.dropWhile_suffix _).trans ((splitSign_suffix rest).trans (List.suffix_cons _ _))
    · exact List.suffix_rfl
  · exact List.suffix_rfl

theorem reads_number (cs : List Char) : Reads cs False (readNumber cs) := by
  unfold readNumber
  dsimp only
  split
  · exact .problem
  · next whole rest hwhole =>
    have hrest : rest <:+ cs := by
      have hbody := wholePart?_suffix hwhole
      -- with a sign the whole part is read behind it
      split at hbody
      · exact hbody.trans (List.suffix_cons _ _)
      · exact hbody
    have hlast : (exponentPart (fractionPart rest).2).2 <:+ cs :=
      (exponentPart_suffix _).trans ((fractionPart_suffix _).trans hrest)
    split
    · next after _ hexponent =>
      rw [hexponent] at hlast
      split
      · exact .longInteger
      · exact .ok hlast
    · next exponent after hexponent _ =>
      rw [hexponent] at hlast
      exact .ok hlast

theorem afterWord?_suffix {word : String} (h : afterWord? word cs = some rest) : rest <:+ cs := by
  unfold afterWord? at h
  split at h
  · cases h
    exact List.drop_suffix _ _
  · cases h

theorem reads_scalar (cs : List Char) : Reads cs False (readScalar cs) := by
  unfold readScalar
  split
  · next found hfound =>
    obtain ⟨⟨word, s⟩, -, hword⟩ := List.exists_of_findSome?_eq_some hfound
    obtain ⟨rest, hrest, rfl⟩ := Option.map_eq_some_iff.mp hword
    exact .ok (afterWord?_suffix hrest)
  · exact reads_number cs

/-! ## Values -/

/-- An opening bracket of an array or an object. -/
def isOpening (c : Char) : Bool := c == '[' || c == '\x7b'

/-- How many opening brackets a text has. -/
def openings (cs : List Char) : Nat := cs.countP isOpening

theorem openings_le_of_suffix (h : cs' <:+ cs) : openings cs' ≤ openings cs :=
  h.sublist.countP_le

theorem skipBlanks_suffix (cs : List Char) : skipBlanks cs <:+ cs := List.dropWhile_suffix _

/-- A reader inside `depth` brackets finds something too deep only if the text has more brackets
than the limit leaves room for. -/
def IsShallow (depth : Nat) (cs : List Char) (r : Except Fault (α × List Char)) : Prop :=
  Reads cs (depthLimit < depth + openings cs) r

namespace IsShallow

variable {depth : Nat}

theorem of_leaf (h : Reads cs' False r) (hsuffix : cs' <:+ cs) : IsShallow depth cs r :=
  h.mono hsuffix False.elim

theorem of_suffix (h : IsShallow depth cs' r) (hsuffix : cs' <:+ cs) : IsShallow depth cs r := by
  have := openings_le_of_suffix hsuffix
  exact h.mono hsuffix (by omega)

/-- What is read behind an opening bracket is one bracket deeper. -/
theorem of_inside {c : Char} (hc : isOpening c = true) (h : IsShallow (depth + 1) cs' r)
    (hsuffix : cs' <:+ cs) : IsShallow depth (c :: cs) r := by
  have hle := openings_le_of_suffix hsuffix
  have hcons : openings (c :: cs) = openings cs + 1 := List.countP_cons_of_pos hc
  exact h.mono (hsuffix.trans (List.suffix_cons _ _)) (by omega)

/-- Behind the last bracket that fits, another one is too deep. -/
theorem of_depth {c : Char} (hc : isOpening c = true) (h : depth ≥ depthLimit) (object : Bool) :
    IsShallow depth (c :: cs) (.error (.tooDeep object) : Except Fault (α × _)) := by
  have hcons : openings (c :: cs) = openings cs + 1 := List.countP_cons_of_pos hc
  exact ⟨nofun, fun _ => by omega⟩

end IsShallow

/-- What remains behind a character that is found behind blanks. -/
theorem suffix_of_skipBlanks {c : Char} (h : skipBlanks cs = c :: rest) : rest <:+ cs :=
  (List.suffix_cons c rest).trans (h ▸ skipBlanks_suffix cs)

section Step

variable {depth fuel : Nat}
  (hvalue : ∀ depth cs, IsShallow depth cs (readValue depth fuel cs))
  (hitems : ∀ depth cs, IsShallow depth cs (readItems depth fuel cs))
  (hmembers : ∀ depth cs, IsShallow depth cs (readMembers depth fuel cs))

include hitems hmembers in
theorem isShallow_value (cs : List Char) : IsShallow depth cs (readValue depth (fuel + 1) cs) := by
  -- texts and scalars are leaves; a bracket or brace enters one level, if there is one left
  unfold readValue
  split
  · next rest =>
    exact .of_leaf ((reads_string rest).map fun t => Value.scalar (.text t)) (List.suffix_cons _ _)
  · next rest =>
    split
    · next hdepth => exact .of_depth (by decide) hdepth _
    · dsimp only
      split
      · next after hafter => exact .ok ((suffix_of_skipBlanks hafter).trans (List.suffix_cons _ _))
      · exact .of_inside (by decide) ((hitems _ _).map _) (skipBlanks_suffix rest)
  · next rest =>
    split
    · next hdepth => exact .of_depth (by decide) hdepth _
    · dsimp only
      split
      · next after hafter => exact .ok ((suffix_of_skipBlanks hafter).trans (List.suffix_cons _ _))
      · exact .of_inside (by decide)
          ((hmembers _ _).map fun es => Value.mapping (OrderedMap.ofList es).toList)
          (skipBlanks_suffix rest)
  · exact .of_leaf ((reads_scalar cs).map _) List.suffix_rfl

include hvalue hitems in
theorem isShallow_items (cs : List Char) : IsShallow depth cs (readItems depth (fuel + 1) cs) := by
  unfold readItems
  refine (hvalue depth cs).bind fun v rest hrest => ?_
  dsimp only
  split
  · next after hafter => exact .ok ((suffix_of_skipBlanks hafter).trans hrest)
  · next after hafter =>
    have hmore : skipBlanks after <:+ cs :=
      (skipBlanks_suffix after).trans ((suffix_of_skipBlanks hafter).trans hrest)
    exact ((hitems depth _).of_suffix hmore).bind fun vs last hlast => .ok hlast
  · exact .problem

include hvalue hmembers in
theorem isShallow_members (cs : List Char) :
    IsShallow depth cs (readMembers depth (fuel + 1) cs) := by
  unfold readMembers
  split
  · next rest =>
    have hname : IsShallow depth ('"' :: rest) (readString rest) :=
      .of_leaf (reads_string rest) (List.suffix_cons _ _)
    -- after the name a colon, then the value one level down, then the end or the next member
    refine hname.bind fun k after hafter => ?_
    dsimp only
    split
    · next body hbody =>
      have hsuffix : skipBlanks body <:+ '"' :: rest :=
        (skipBlanks_suffix body).trans ((suffix_of_skipBlanks hbody).trans hafter)
      refine ((hvalue depth _).of_suffix hsuffix).bind fun v rest' hrest' => ?_
      dsimp only
      split
      · next last hlast => exact .ok ((suffix_of_skipBlanks hlast).trans hrest')
      · next more hmore =>
        have hmembers' : skipBlanks more <:+ '"' :: rest :=
          (skipBlanks_suffix more).trans ((suffix_of_skipBlanks hmore).trans hrest')
        exact ((hmembers depth _).of_suffix hmembers').bind fun es last hlast => .ok hlast
      · exact .problem
    · exact .problem
  · exact .problem

end Step

/-- Values, items and members are refused for their depth only if there are brackets enough. -/
theorem isShallow_read (fuel : Nat) :
    (∀ depth cs, IsShallow depth cs (readValue depth fuel cs))
      ∧ (∀ depth cs, IsShallow depth cs (readItems depth fuel cs))
      ∧ ∀ depth cs, IsShallow depth cs (readMembers depth fuel cs) := by
  induction fuel with
  | zero =>
    refine ⟨fun depth cs => ?_, fun depth cs => ?_, fun depth cs => ?_⟩
    · unfold readValue
      exact .problem
    · unfold readItems
      exact .problem
    · unfold readMembers
      exact .problem
  | succ fuel ih =>
    obtain ⟨hvalue, hitems, hmembers⟩ := ih
    exact ⟨fun _ => isShallow_value hitems hmembers, fun _ => isShallow_items hvalue hitems,
      fun _ => isShallow_members hvalue hmembers⟩

/-! ## Documents -/

/-- A document that is refused for its depth has more opening brackets than the limit. -/
theorem depthLimit_lt_of_tooDeep {object : Bool} (h : parse cs = .error (.tooDeep object)) :
    depthLimit < openings cs := by
  have hfault : readAll cs = .error (.tooDeep object) := by
    unfold parse at h
    split at h
    · cases h
    · cases h
    · cases h
    · next hfault =>
      cases h
      exact hfault
  -- outside of all brackets the depth is zero, so that the whole limit has to come from this text
  have hread : IsShallow 0 cs (readValue 0 (2 * cs.length + 2) (skipBlanks cs)) :=
    ((isShallow_read _).1 0 _).of_suffix (skipBlanks_suffix cs)
  unfold readAll at hfault
  split at hfault
  · cases hfault
  · cases hvalue : readValue 0 (2 * cs.length + 2) (skipBlanks cs) with
    | error e =>
      rw [hvalue] at hfault
      cases hfault
      have := Reads.tooDeep hread hvalue
      omega
    | ok found =>
      rw [hvalue] at hfault
      dsimp only [bind, Except.bind] at hfault
      split at hfault <;> cases hfault

/-- Brackets up to the limit are read, and the next one is refused. -/
theorem readValue_replicate {depth fuel n : Nat} (hn : depthLimit ≤ depth + n)
    (hfuel : 2 * n + 1 ≤ fuel) :
    readValue depth fuel (List.replicate (n + 1) '[') = .error (.tooDeep false) := by
  -- each bracket takes two steps: one to read a value, and one to read the first item
  induction n generalizing depth fuel with
  | zero =>
    obtain ⟨fuel, rfl⟩ : ∃ k, fuel = k + 1 := ⟨fuel - 1, by omega⟩
    have hdepth : depth ≥ depthLimit := hn
    rw [List.replicate_succ, readValue, if_pos hdepth]
  | succ n ih =>
    obtain ⟨fuel, rfl⟩ : ∃ k, fuel = k + 2 := ⟨fuel - 2, by omega⟩
    rw [List.replicate_succ, readValue]
    split
    · rfl
    · have hitems : readItems (depth + 1) (fuel + 1) (List.replicate (n + 1) '[')
          = .error (.tooDeep false) := by
        rw [readItems, ih (by omega) (by omega)]
        rfl
      rw [List.replicate_succ] at hitems
      show Except.map _ (readItems (depth + 1) (fuel + 1) ('[' :: List.replicate n '[')) = _
      rw [hitems]
      rfl

/-- Brackets that are opened and not closed are too deep if there are more than the limit. -/
theorem parse_replicate {n : Nat} (h : depthLimit < n) :
    parse (List.replicate n '[') = .error (.tooDeep false) := by
  obtain ⟨n, rfl⟩ : ∃ k, n = k + 1 := ⟨n - 1, by omega⟩
  have hread : readValue 0 (2 * (List.replicate (n + 1) '[').length + 2)
      (skipBlanks (List.replicate (n + 1) '[')) = .error (.tooDeep false) := by
    rw [List.length_replicate]
    exact readValue_replicate (by omega) (by omega)
  have hall : readAll (List.replicate (n + 1) '[') = .error (.tooDeep false) := by
    show (readValue 0 (2 * (List.replicate (n + 1) '[').length + 2)
      (skipBlanks (List.replicate (n + 1) '[')) >>= _) = _
    rw [hread]
    rfl
  rw [parse, hall]

end SinkAudit.Json
