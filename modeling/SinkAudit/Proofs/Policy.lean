import Mathlib.Data.List.Sort
import SinkAudit.Identifier
import SinkAudit.Policy

/-!
# Policies of formats and of names

A policy is made either of a set of formats, as it is, or of names as a person writes them. The
two differ by the blanks around names and by blank names, and by nothing else.

`CompressionPolicy.of` strips names and drops blank ones; `validate` makes its set of the names as they
come. Both are policies, and the last result says for which names they are the same one.

- `eq_of_isSafe_iff`: a policy is known by what is safe under it.
- `isSafe_of_ofSet?`, `isSafe_of_ofNames?`: what is safe under the policy of a set, and of names.
- `ofNames?_eq_ofSet?_iff`: names make the policy of their set exactly if they have no blanks at
  their ends and none is empty.
-/

namespace SinkAudit

theorem Text.stripString_stripString (s : String) : stripString (stripString s) = stripString s := by
  simp only [stripString, String.toList_ofList, trimBy_trimBy]

namespace Policy

variable {p q : Policy} {names : List String}

/-! ## Policies as sets -/

theorem isSafe_iff {format : String} : p.isSafe format = true ↔ format ∈ p.formats :=
  List.contains_iff_mem

/-- A policy is known by the formats that are safe under it. -/
theorem eq_of_isSafe_iff (h : ∀ format, p.isSafe format = true ↔ q.isSafe format = true) :
    p = q := by
  have hformats : p.formats = q.formats := by
    refine p.increasing.eq_of_mem_iff q.increasing fun format => ?_
    rw [← isSafe_iff, h, isSafe_iff]
  cases p
  cases q
  cases hformats
  rfl

/-- Only the empty set makes no policy. -/
theorem ofSet?_eq_none_iff : ofSet? names = none ↔ names = [] := by
  unfold ofSet?
  split
  · next h =>
    refine iff_of_true rfl (List.eq_nil_iff_forall_not_mem.mpr fun name hname => ?_)
    rw [← mem_sortedSet, h] at hname
    cases hname
  · next h =>
    refine iff_of_false nofun fun hnil => h ?_
    rw [hnil]
    rfl

/-- Under the policy of a set its members are safe. -/
theorem isSafe_of_ofSet? (h : ofSet? names = some p) (format : String) :
    p.isSafe format = true ↔ format ∈ names := by
  unfold ofSet? at h
  split at h
  · cases h
  · cases h
    rw [isSafe_iff, mem_sortedSet]

/-! ## Names as a person writes them -/

theorem mem_cleanNames {format : String} :
    format ∈ cleanNames names ↔ format ≠ "" ∧ ∃ name ∈ names, Text.stripString name = format := by
  rw [cleanNames, List.mem_filter, List.mem_map, decide_eq_true_eq, and_comm]

/-- Names make no policy exactly if all of them are blank. -/
theorem ofNames?_eq_none_iff :
    ofNames? names = none ↔ ∀ name ∈ names, Text.stripString name = "" := by
  rw [ofNames?, ofSet?_eq_none_iff, List.eq_nil_iff_forall_not_mem]
  constructor
  · intro hnone name hname
    by_contra hfull
    exact hnone _ (mem_cleanNames.mpr ⟨hfull, name, hname, rfl⟩)
  · intro hblank format hformat
    obtain ⟨hfull, name, hname, rfl⟩ := mem_cleanNames.mp hformat
    exact hfull (hblank name hname)

/-- Under the policy of names each name without the blanks around it is safe. -/
theorem isSafe_of_ofNames? (h : ofNames? names = some p) (format : String) :
    p.isSafe format = true
      ↔ format ≠ "" ∧ ∃ name ∈ names, Text.stripString name = format := by
  rw [isSafe_of_ofSet? h, mem_cleanNames]

/-- A name that is written as the format it stands for. -/
def IsClean (name : String) : Prop := name ≠ "" ∧ Text.stripString name = name

/-- Names are the formats that they stand for exactly if each is written so. -/
theorem mem_cleanNames_iff_mem_iff :
    (∀ format, format ∈ cleanNames names ↔ format ∈ names) ↔ ∀ name ∈ names, IsClean name := by
  constructor
  · intro hsame name hname
    obtain ⟨hfull, written, -, rfl⟩ := mem_cleanNames.mp ((hsame name).mpr hname)
    exact ⟨hfull, Text.stripString_stripString written⟩
  · intro hclean format
    rw [mem_cleanNames]
    constructor
    · rintro ⟨-, name, hname, rfl⟩
      rwa [(hclean name hname).2]
    · intro hformat
      exact ⟨(hclean format hformat).1, format, hformat, (hclean format hformat).2⟩

/-- Names make the policy of their set exactly if each is written as the format it stands for. -/
theorem ofNames?_eq_ofSet?_iff (h : ofSet? names = some p) :
    ofNames? names = some p ↔ ∀ name ∈ names, IsClean name := by
  rw [← mem_cleanNames_iff_mem_iff]
  constructor
  · intro hnames format
    rw [← isSafe_of_ofSet? h, ← isSafe_of_ofSet? hnames]
  · intro hsame
    cases hnames : ofNames? names with
    -- if nothing is left of the names then there were none, and then there was no policy of their set
    | none =>
      have hnil : cleanNames names = [] := ofSet?_eq_none_iff.mp hnames
      have hempty : names = [] := by
        refine List.eq_nil_iff_forall_not_mem.mpr fun name hname => ?_
        rw [← hsame, hnil] at hname
        cases hname
      rw [ofSet?_eq_none_iff.mpr hempty] at h
      cases h
    | some q =>
      refine congrArg some (eq_of_isSafe_iff fun format => ?_)
      rw [isSafe_of_ofSet? hnames, isSafe_of_ofSet? h, hsame]

end Policy

end SinkAudit
