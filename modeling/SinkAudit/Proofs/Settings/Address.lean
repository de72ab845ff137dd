import Mathlib.Data.List.TakeWhile
import SinkAudit.Settings.Basic

/-!
# Addresses of services

The grammar of addresses, and that exactly its texts are taken for addresses. A host is as long as it
can be, and neither ports nor paths begin with a character of hosts, so a text is parted in one way
only.

The source checks addresses by a regular expression, and the model by a reader that takes the address apart
from the left. The grammar here is stated as the existence of parts, so that it can be compared with the
expression by reading the two side by side.

- `IsPort`, `IsPath`, `IsServiceAddress`: the grammar.
- `afterScheme?_eq_some_iff`, `isPath_iff`, `isPath_dropPort_iff`: the parts.
- `isAddress_iff`: the addresses; `isEndpoint_iff`: these, or one of these with a line feed after it.
-/

namespace SinkAudit

/-! ## The grammar -/

/-- A port: a colon with digits after it, or nothing. -/
def IsPort (cs : List Char) : Prop :=
  cs = [] ∨ ∃ digits, digits ≠ [] ∧ (∀ c ∈ digits, c.isDigit = true) ∧ cs = ':' :: digits

/-- A path: a slash with any text but line feeds after it, or nothing. -/
def IsPath (cs : List Char) : Prop := cs = [] ∨ ∃ text, '\n' ∉ text ∧ cs = '/' :: text

/-- An address: a scheme, a host of letters, digits, dots and hyphens, perhaps a port, and perhaps a
path. -/
def IsServiceAddress (cs : List Char) : Prop :=
  ∃ (scheme : String) (host port path : List Char),
    cs = scheme.toList ++ (host ++ (port ++ path))
      ∧ (scheme = "http://" ∨ scheme = "https://")
      ∧ host ≠ [] ∧ (∀ c ∈ host, c.isAlphanum = true ∨ c = '.' ∨ c = '-')
      ∧ IsPort port ∧ IsPath path

theorem isHostChar_iff {c : Char} :
    isHostChar c = true ↔ c.isAlphanum = true ∨ c = '.' ∨ c = '-' := by
  simp [isHostChar, or_assoc]

/-! ## The parts -/

/-- A row of characters of a class ends where one stands that is not. -/
theorem span_of_stop {p : Char → Bool} {xs ys : List Char} (hxs : ∀ c ∈ xs, p c = true)
    (hys : ∀ c ∈ ys.head?, p c = false) :
    (xs ++ ys).takeWhile p = xs ∧ (xs ++ ys).dropWhile p = ys := by
  rw [List.takeWhile_append_of_pos hxs, List.dropWhile_append_of_pos hxs]
  cases ys with
  | nil => exact ⟨List.append_nil _, rfl⟩
  | cons c ys =>
    have hc : ¬ p c = true := by simp [hys c rfl]
    rw [List.takeWhile_cons_of_neg hc, List.dropWhile_cons_of_neg hc, List.append_nil]
    exact ⟨rfl, rfl⟩

theorem afterScheme?_eq_some_iff {cs rest : List Char} :
    afterScheme? cs = some rest
      ↔ ∃ scheme, (scheme = "http://" ∨ scheme = "https://") ∧ cs = scheme.toList ++ rest := by
  constructor
  · intro h
    unfold afterScheme? at h
    split at h
    · cases h
      exact ⟨"http://", .inl rfl, rfl⟩
    · cases h
      exact ⟨"https://", .inr rfl, rfl⟩
    · cases h
  · rintro ⟨scheme, rfl | rfl, rfl⟩
    · rfl
    · rfl

theorem isPath_iff {cs : List Char} : isPath cs = true ↔ IsPath cs := by
  unfold isPath
  split
  · exact iff_of_true rfl (.inl rfl)
  · next text =>
    rw [Bool.not_eq_true', List.contains_eq_mem, decide_eq_false_iff_not]
    constructor
    · exact fun h => .inr ⟨text, h, rfl⟩
    · rintro (h | ⟨text', htext, h⟩)
      · cases h
      · cases h
        exact htext
  · next hnil hslash =>
    refine iff_of_false nofun ?_
    rintro (rfl | ⟨text, -, rfl⟩)
    · exact hnil rfl
    · exact hslash text rfl

/-- Neither the digits of a port nor the host before it go on into a path. -/
theorem IsPath.head?_ne {p : Char → Bool} (hslash : p '/' = false) {cs : List Char}
    (h : IsPath cs) : ∀ c ∈ cs.head?, p c = false := by
  rcases h with rfl | ⟨text, -, rfl⟩
  · exact nofun
  · rintro c ⟨⟩
    exact hslash

/-- Nor does a host go on into a port. -/
theorem head?_port_append {port path : List Char} (hport : IsPort port) (hpath : IsPath path) :
    ∀ c ∈ (port ++ path).head?, isHostChar c = false := by
  rcases hport with rfl | ⟨digits, -, -, rfl⟩
  · exact hpath.head?_ne (by decide)
  · rintro c ⟨⟩
    decide

/-- What is left after a port is dropped is a path exactly if the text is a port and a path. -/
theorem isPath_dropPort_iff {cs : List Char} :
    isPath (dropPort cs) = true ↔ ∃ port path, cs = port ++ path ∧ IsPort port ∧ IsPath path := by
  constructor
  · intro h
    unfold dropPort at h
    split at h
    · next rest =>
      split at h
      · cases h
      · next hdigits =>
        have hnonempty : rest.takeWhile Char.isDigit ≠ [] := by simpa using hdigits
        have hport : IsPort (':' :: rest.takeWhile Char.isDigit) :=
          .inr ⟨_, hnonempty, fun c hc => List.mem_takeWhile_imp hc, rfl⟩
        refine ⟨_, _, ?_, hport, isPath_iff.mp h⟩
        rw [List.cons_append, List.takeWhile_append_dropWhile]
    · exact ⟨[], cs, rfl, .inl rfl, isPath_iff.mp h⟩
  · rintro ⟨port, path, rfl, rfl | ⟨digits, hnonempty, hdigits, rfl⟩, hpath⟩
    · -- a path begins with no colon, so there is nothing to drop
      have hdrop : dropPort path = path := by
        rcases hpath with rfl | ⟨text, -, rfl⟩ <;> rfl
      rw [List.nil_append, hdrop]
      exact isPath_iff.mpr hpath
    · obtain ⟨htake, hrest⟩ := span_of_stop hdigits (hpath.head?_ne (p := Char.isDigit) (by decide))
      have hempty : ¬ digits.isEmpty = true := by simpa using hnonempty
      rw [List.cons_append, dropPort, htake, if_neg hempty, hrest]
      exact isPath_iff.mpr hpath

/-! ## Addresses -/

/-- Exactly the texts of the grammar are taken for addresses. -/
theorem isAddress_iff {cs : List Char} : isAddress cs = true ↔ IsServiceAddress cs := by
  unfold isAddress
  constructor
  · intro h
    cases hscheme : afterScheme? cs with
    | none =>
      rw [hscheme] at h
      cases h
    | some rest =>
      rw [hscheme] at h
      obtain ⟨hhost, htail⟩ := Bool.and_eq_true_iff.mp h
      obtain ⟨scheme, hnamed, rfl⟩ := afterScheme?_eq_some_iff.mp hscheme
      obtain ⟨port, path, hrest, hport, hpath⟩ := isPath_dropPort_iff.mp htail
      refine ⟨scheme, rest.takeWhile isHostChar, port, path, ?_, hnamed, by simpa using hhost,
        fun c hc => isHostChar_iff.mp (List.mem_takeWhile_imp hc), hport, hpath⟩
      rw [← hrest, List.takeWhile_append_dropWhile]
  -- the host is read as far as its characters go, and nothing behind it begins with one of them
  · rintro ⟨scheme, host, port, path, rfl, hnamed, hnonempty, hhost, hport, hpath⟩
    have hscheme : afterScheme? (scheme.toList ++ (host ++ (port ++ path)))
        = some (host ++ (port ++ path)) := afterScheme?_eq_some_iff.mpr ⟨scheme, hnamed, rfl⟩
    obtain ⟨htake, hdrop⟩ := span_of_stop (fun c hc => isHostChar_iff.mpr (hhost c hc))
      (head?_port_append hport hpath)
    rw [hscheme]
    dsimp only
    rw [htake, hdrop, Bool.and_eq_true_iff]
    exact ⟨by simpa using hnonempty, isPath_dropPort_iff.mpr ⟨port, path, rfl, hport, hpath⟩⟩

/-- No address holds a line feed. -/
theorem IsServiceAddress.not_mem_lineFeed {cs : List Char} (h : IsServiceAddress cs) :
    '\n' ∉ cs := by
  obtain ⟨scheme, host, port, path, rfl, hnamed, -, hhost, hport, hpath⟩ := h
  have hinScheme : '\n' ∉ scheme.toList := by
    rcases hnamed with rfl | rfl <;> decide
  have hinHost : '\n' ∉ host := fun hmem => absurd (hhost _ hmem) (by decide)
  have hinPort : '\n' ∉ port := by
    rcases hport with rfl | ⟨digits, -, hdigits, rfl⟩
    · exact List.not_mem_nil
    · exact List.not_mem_cons_of_ne_of_not_mem (by decide)
        fun hmem => absurd (hdigits _ hmem) (by decide)
  have hinPath : '\n' ∉ path := by
    rcases hpath with rfl | ⟨text, htext, rfl⟩
    · exact List.not_mem_nil
    · exact List.not_mem_cons_of_ne_of_not_mem (by decide) htext
  simp only [List.mem_append, not_or]
  exact ⟨hinScheme, hinHost, hinPort, hinPath⟩

/-- A text is accepted as an address exactly if it is one, or one with a line feed after it. -/
theorem isEndpoint_iff {s : String} :
    isEndpoint s = true
      ↔ IsServiceAddress s.toList ∨ ∃ cs, IsServiceAddress cs ∧ s.toList = cs ++ ['\n'] := by
  unfold isEndpoint Text.dropFinalBreak
  rw [isAddress_iff]
  -- the pattern ends before a final line feed, which no address has by itself
  by_cases hlast : s.toList.getLast? = some '\n'
  · obtain ⟨cs, hcs⟩ := List.getLast?_eq_some_iff.mp hlast
    rw [if_pos (by simpa using hlast), hcs, List.dropLast_concat]
    constructor
    · exact fun h => .inr ⟨cs, h, rfl⟩
    · rintro (h | ⟨cs', h, hcs'⟩)
      · exact absurd (List.mem_append_right cs List.mem_cons_self) h.not_mem_lineFeed
      · rwa [List.append_cancel_right hcs']
  · rw [if_neg (by simpa using hlast)]
    constructor
    · exact .inl
    · rintro (h | ⟨cs, -, hcs⟩)
      · exact h
      · refine absurd ?_ hlast
        rw [hcs, List.getLast?_concat]

end SinkAudit
