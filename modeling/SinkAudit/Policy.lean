import SinkAudit.Text.Blank

/-!
# Compression policies

A policy is the set of formats that stay readable when an object is compressed as a whole
(`CompressionPolicy`). Membership is equality of texts; no format is assumed to be safe.

A set is kept as its strictly increasing list, which makes two policies with the same members equal and
gives the text of a policy an order that does not depend on how it was written down. There are two ways to
make one. `ofSet?` takes the formats as they are; `ofNames?` is for names as people write them. They differ
in blanks alone, and both refuse to make a policy without formats: under that every compression would be
wrong, which nobody asks for.

- `Policy`: the set, as a strictly increasing list, never empty.
- `Policy.ofSet?`, `Policy.ofNames?`: the policy of a set of formats, and of names as a person writes
  them, blanks around them and blank names being ignored.
- `Policy.supported`: the formats in one line.
-/

namespace SinkAudit

/-- Insert a text into an increasing list, unless it is there. The list stays increasing, which is how a
policy keeps its invariant. -/
def insertSorted (s : String) : List String → List String
  | [] => [s]
  | t :: rest => if s < t then s :: t :: rest else if s = t then t :: rest else t :: insertSorted s rest

/-- The texts of a list in increasing order of their code points, each once. -/
def sortedSet (names : List String) : List String := names.foldr insertSorted []

/-- Inserting adds the text and nothing else. -/
theorem mem_insertSorted {s t : String} {names : List String} :
    t ∈ insertSorted s names ↔ t = s ∨ t ∈ names := by
  induction names with
  | nil => simp [insertSorted]
  | cons u rest ih =>
    simp only [insertSorted]
    split
    · simp
    · split
      · next h => subst h; simp
      · simp [ih]; grind

theorem mem_sortedSet {t : String} {names : List String} : t ∈ sortedSet names ↔ t ∈ names := by
  induction names with
  | nil => simp [sortedSet]
  | cons s rest ih => rw [sortedSet, List.foldr_cons, mem_insertSorted, ← sortedSet, ih]; simp

/-- Inserting keeps the list increasing, each text once. -/
theorem pairwise_insertSorted {s : String} {names : List String} (h : names.Pairwise (· < ·)) :
    (insertSorted s names).Pairwise (· < ·) := by
  induction names with
  | nil => simp [insertSorted]
  | cons u rest ih =>
    obtain ⟨hhead, htail⟩ := List.pairwise_cons.1 h
    simp only [insertSorted]
    split
    · next hs =>
      refine List.pairwise_cons.2 ⟨fun t ht => ?_, h⟩
      rcases List.mem_cons.1 ht with rfl | ht
      · exact hs
      · exact String.lt_trans hs (hhead t ht)
    · next hs =>
      split
      · exact h
      · next hne =>
        refine List.pairwise_cons.2 ⟨fun t ht => ?_, ih htail⟩
        rcases mem_insertSorted.1 ht with rfl | ht
        · rcases Std.lt_trichotomy t u with h | h | h
          · exact absurd h hs
          · exact absurd h hne
          · exact h
        · exact hhead t ht

theorem pairwise_sortedSet (names : List String) : (sortedSet names).Pairwise (· < ·) := by
  induction names with
  | nil => simp [sortedSet]
  | cons s rest ih => exact pairwise_insertSorted ih

/-- The formats that may be compressed as a whole. -/
structure Policy where
  formats : List String
  nonempty : formats ≠ []
  increasing : formats.Pairwise (· < ·)
  deriving DecidableEq

namespace Policy

/-- The policy of a set of formats (`CompressionPolicy`), unless it is empty. The formats are taken as they
are: a name with a blank before it is another format. -/
def ofSet? (formats : List String) : Option Policy :=
  if h : sortedSet formats = [] then none else some ⟨sortedSet formats, h, pairwise_sortedSet formats⟩

/-- Names without the blanks around them; blank names are dropped. What is trimmed are the blanks of
`str.strip`, of which there are more than white space. -/
def cleanNames (names : List String) : List String :=
  (names.map Text.stripString).filter (· ≠ "")

/-- The policy of names as a person writes them (`CompressionPolicy.of`). -/
def ofNames? (names : List String) : Option Policy := ofSet? (cleanNames names)

/-- The formats that are safe unless others are chosen (`DEFAULT_SAFE_FORMATS`). -/
def defaultFormats : List String := ["bytearray", "json"]

/-- The policy of the default formats. -/
def default : Policy := ⟨defaultFormats, by decide, by decide⟩

instance : Inhabited Policy := ⟨default⟩

/-- Is a format safe (`is_compression_safe`)? -/
def isSafe (p : Policy) (format : String) : Bool := p.formats.contains format

/-- The formats in increasing order, in one line (`supported`). Every violation ends in it. -/
def supported (p : Policy) : String := ", ".intercalate p.formats

/-- Why there is no policy without formats. -/
def emptyMessage : String := "CompressionPolicy requires at least one compression-safe format"

end Policy

end SinkAudit
