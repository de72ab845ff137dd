import SinkAudit.Compatibility
import SinkAudit.Proofs.Policy
import SinkAudit.Proofs.Text.Spelling

/-!
# The canonical text of a policy

A set has no order of its own. A policy lists its formats by their code points, each once, so that
the text that every message ends in is known from what the names stand for: neither their order nor
repetitions, blanks around them or blank names are seen in a report.

The source makes a `frozenset` of the names and sorts it for messages. Code points decide the order, not
an alphabet: `Z` stands before `a`. The order of strings here is the same one, which is what `codePoints_lt`
says.

- `codePoints`, `codePoints_lt`: the order of texts.
- `Policy.Denotes`: what names stand for; `Policy.ofNames?_eq_none_iff_blank`: names that stand for
  nothing.
- `Policy.exists_canonical`: the text of a policy.
- `Policy.ofNames?_canonical`: names that stand for the same formats lead to the same reports.
-/

namespace SinkAudit

/-! ## Texts -/

/-- The numbers of the characters of a text. -/
def codePoints (s : String) : List Nat := s.toList.map Char.toNat

/-- Texts are ordered by their code points. -/
theorem codePoints_lt {s t : String} (h : s < t) : codePoints s < codePoints t := by
  have hlist : s.toList < t.toList := h
  exact List.map_lt (fun _ _ hchar => hchar) hlist

/-- Nothing is left of a text without the blanks at its ends exactly if it is blank throughout. -/
theorem Text.stripString_eq_empty_iff {s : String} :
    stripString s = "" ↔ ∀ c ∈ s.toList, isBlank c = true := by
  constructor
  · intro hempty c hc
    by_contra hfull
    have hkept : c ∈ trimBy isBlank s.toList := (mem_trimBy_iff (by simpa using hfull)).mpr hc
    have hnil : trimBy isBlank s.toList = [] := by
      rw [← String.toList_ofList (l := trimBy isBlank s.toList)]
      show (stripString s).toList = []
      rw [hempty]
      rfl
    rw [hnil] at hkept
    cases hkept
  · intro hblank
    rw [stripString, trimBy, List.dropWhile_eq_nil_iff.mpr hblank]
    rfl

namespace Policy

variable {names others : List String} {p q : Policy}

/-! ## Names -/

/-- Do names stand for a format? One of them is the format, with blanks around it. -/
def Denotes (names : List String) (format : String) : Prop :=
  format ≠ "" ∧ ∃ name ∈ names, Text.stripString name = format

/-- Names make no policy exactly if every name is blank. -/
theorem ofNames?_eq_none_iff_blank :
    ofNames? names = none ↔ ∀ name ∈ names, ∀ c ∈ name.toList, Text.isBlank c = true := by
  rw [ofNames?_eq_none_iff]
  exact forall₂_congr fun name _ => Text.stripString_eq_empty_iff

/-- The text of a policy joins what its names stand for, each format once and in the order of code
points. -/
theorem exists_canonical (h : ofNames? names = some p) :
    ∃ formats : List String, p.supported = ", ".intercalate formats
      ∧ (formats.map codePoints).Pairwise (· < ·)
      ∧ ∀ format, format ∈ formats ↔ Denotes names format := by
  refine ⟨p.formats, rfl, ?_, fun format => ?_⟩
  · rw [List.pairwise_map]
    exact p.increasing.imp codePoints_lt
  · rw [← isSafe_iff, isSafe_of_ofNames? h, Denotes]

/-- Names that stand for the same formats make the same policy. -/
theorem eq_of_denotes_iff (hp : ofNames? names = some p) (hq : ofNames? others = some q)
    (h : ∀ format, Denotes names format ↔ Denotes others format) : p = q := by
  refine eq_of_isSafe_iff fun format => ?_
  rw [isSafe_of_ofNames? hp, isSafe_of_ofNames? hq]
  exact h format

/-- A policy of names has a canonical text. Names make no policy exactly if all of them are blank.
Otherwise the text joins the formats that they stand for, each once, by increasing code points. So
names that stand for the same formats make one policy, and every snapshot has the same errors
under it, to the letter. -/
theorem ofNames?_canonical (names : List String) :
    (ofNames? names = none ↔ ∀ name ∈ names, ∀ c ∈ name.toList, Text.isBlank c = true)
    ∧ (∀ p, ofNames? names = some p → ∃ formats : List String,
        p.supported = ", ".intercalate formats
          ∧ (formats.map codePoints).Pairwise (· < ·)
          ∧ ∀ format, format ∈ formats ↔ Denotes names format)
    ∧ ∀ others p q, ofNames? names = some p → ofNames? others = some q →
        (∀ format, Denotes names format ↔ Denotes others format) →
        p = q ∧ ∀ s, (evaluate p s).errors = (evaluate q s).errors := by
  refine ⟨ofNames?_eq_none_iff_blank, fun p hp => exists_canonical hp, ?_⟩
  intro others p q hp hq h
  have heq : p = q := eq_of_denotes_iff hp hq h
  refine ⟨heq, fun s => ?_⟩
  rw [heq]

/-- Names as they come from a command line. -/
def givenNames : List String := ["json", " avro\t", "", "json"]

/-- The same two formats, in another order and once each. -/
def tidyNames : List String := ["avro", "json"]

theorem ofNames?_canonical_givenNames :
    ∃ p q, ofNames? givenNames = some p ∧ ofNames? tidyNames = some q
      ∧ (∀ format, Denotes givenNames format ↔ Denotes tidyNames format)
      ∧ p.supported = "avro, json"
      ∧ p = q ∧ ∀ s, (evaluate p s).errors = (evaluate q s).errors := by
  have hgiven : ofNames? givenNames = some ⟨["avro", "json"], by decide, by decide⟩ := by rfl
  have htidy : ofNames? tidyNames = some ⟨["avro", "json"], by decide, by decide⟩ := by rfl
  have hsame : ∀ format, Denotes givenNames format ↔ Denotes tidyNames format := by
    intro format
    rw [Denotes, Denotes, ← isSafe_of_ofNames? hgiven, ← isSafe_of_ofNames? htidy]
  exact ⟨_, _, hgiven, htidy, hsame, rfl,
    (ofNames?_canonical givenNames).2.2 tidyNames _ _ hgiven htidy hsame⟩

end Policy

end SinkAudit
