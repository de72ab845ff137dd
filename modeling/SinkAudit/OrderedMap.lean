/-!
# Mappings that remember insertion order

A mapping of the program keeps its keys in the order in which they were first set, and that order shows: in
the order in which conflicts are found, fields are reported and documents are written. So mappings are
lists of entries with a proof that no key stands twice, and not functions.

Keys are compared by `==`, which need not be equality: `1` and `1.0` are one key of a document. The key that
was set first stays then, with the value that was set last. What takes lawful equality says so.

- `OrderedMap κ ν`: entries in the order their keys were first inserted, no two keys equal.
- `insert`: replaces the value of an equal key where it stands, and appends a new one.
- `get?`, `keys`, `toList`: the views of a map.
- `ofList`: the map left by inserting pairs one by one.
-/

namespace SinkAudit

/-- A mapping whose entries keep the order in which their keys were first inserted. That no key is listed
twice is part of the structure, so that no lemma has to assume it. -/
structure OrderedMap (κ ν : Type) [BEq κ] where
  /-- The entries in order. -/
  toList : List (κ × ν)
  /-- No key stands twice. -/
  distinct : toList.Pairwise fun a b => (a.1 == b.1) = false

namespace OrderedMap

variable {κ ν μ : Type} [BEq κ]

/-- The map without entries. -/
def empty : OrderedMap κ ν := ⟨[], .nil⟩

/-- Set a key in a list of entries: in its place if it is there, else at the end. The key that is there
stays, even if an equal one is written differently. -/
def insertEntry (k : κ) (v : ν) : List (κ × ν) → List (κ × ν)
  | [] => [(k, v)]
  | (k', v') :: rest =>
    if k' == k then (k', v) :: rest else (k', v') :: insertEntry k v rest

/-- Setting a key brings in no other key. -/
theorem mem_insertEntry_key {k : κ} {v : ν} {es : List (κ × ν)} {e : κ × ν}
    (h : e ∈ insertEntry k v es) : e.1 = k ∨ ∃ e' ∈ es, e'.1 = e.1 := by
  induction es with
  | nil => simp [insertEntry] at h; exact .inl (by simp [h])
  | cons a rest ih =>
    obtain ⟨k', v'⟩ := a
    simp only [insertEntry] at h
    split at h
    · rcases List.mem_cons.1 h with rfl | h
      · exact .inr ⟨_, List.mem_cons_self, rfl⟩
      · exact .inr ⟨e, List.mem_cons_of_mem _ h, rfl⟩
    · rcases List.mem_cons.1 h with rfl | h
      · exact .inr ⟨_, List.mem_cons_self, rfl⟩
      · rcases ih h with hk | ⟨e', he', hk⟩
        · exact .inl hk
        · exact .inr ⟨e', List.mem_cons_of_mem _ he', hk⟩

/-- Setting a key keeps the keys apart. -/
theorem pairwise_insertEntry {k : κ} {v : ν} {es : List (κ × ν)}
    (h : es.Pairwise fun a b => (a.1 == b.1) = false) :
    (insertEntry k v es).Pairwise fun a b => (a.1 == b.1) = false := by
  induction es with
  | nil => simp [insertEntry]
  | cons a rest ih =>
    obtain ⟨k', v'⟩ := a
    obtain ⟨hhead, htail⟩ := List.pairwise_cons.1 h
    simp only [insertEntry]
    split
    · exact List.pairwise_cons.2 ⟨fun b hb => hhead b hb, htail⟩
    · next hne =>
      refine List.pairwise_cons.2 ⟨fun b hb => ?_, ih htail⟩
      rcases mem_insertEntry_key hb with hk | ⟨e', he', hk⟩
      · simpa [hk] using hne
      · simpa [hk] using hhead e' he'

/-- Set a key: in its place if it is there, else at the end. -/
def insert (m : OrderedMap κ ν) (k : κ) (v : ν) : OrderedMap κ ν :=
  ⟨insertEntry k v m.toList, pairwise_insertEntry m.distinct⟩

/-- The value of a key in a list of entries. -/
def lookup (k : κ) : List (κ × ν) → Option ν
  | [] => none
  | (k', v) :: rest => if k' == k then some v else lookup k rest

/-- The value of a key. -/
def get? (m : OrderedMap κ ν) (k : κ) : Option ν := lookup k m.toList

/-- The keys in order. -/
def keys (m : OrderedMap κ ν) : List κ := m.toList.map Prod.fst

/-- The map left by inserting the pairs one by one. Of pairs with one key, the first has the place and the
last the value. -/
def ofList (pairs : List (κ × ν)) : OrderedMap κ ν :=
  pairs.foldl (fun m e => m.insert e.1 e.2) empty

/-- The same keys, each with the image of its value. -/
def mapValues (f : ν → μ) (m : OrderedMap κ ν) : OrderedMap κ μ :=
  ⟨m.toList.map fun e => (e.1, f e.2), List.pairwise_map.2 m.distinct⟩

/-- The entries that satisfy a test. -/
def filter (p : κ × ν → Bool) (m : OrderedMap κ ν) : OrderedMap κ ν :=
  ⟨m.toList.filter p, m.distinct.filter p⟩

instance : Inhabited (OrderedMap κ ν) := ⟨empty⟩

@[simp] theorem toList_empty : (empty : OrderedMap κ ν).toList = [] := rfl

@[simp] theorem toList_insert (m : OrderedMap κ ν) (k : κ) (v : ν) :
    (m.insert k v).toList = insertEntry k v m.toList := rfl

@[ext] theorem ext {a b : OrderedMap κ ν} (h : a.toList = b.toList) : a = b := by
  cases a; cases b; simp at h; subst h; rfl

/-- What is found after a key was set: its value under the key, and what was there under every other. -/
theorem lookup_insertEntry [LawfulBEq κ] (k k' : κ) (v : ν) (es : List (κ × ν)) :
    lookup k' (insertEntry k v es) = if k == k' then some v else lookup k' es := by
  induction es with
  | nil => simp [insertEntry, lookup]
  | cons a rest ih =>
    obtain ⟨j, w⟩ := a
    simp only [insertEntry, lookup]
    split
    · next hj => rw [eq_of_beq hj]; simp only [lookup]; split <;> rfl
    · next hj =>
      simp only [lookup, ih]
      by_cases hk : j == k'
      · rw [if_pos hk, if_pos hk, if_neg]
        intro hc
        exact hj (by rw [eq_of_beq hc, eq_of_beq hk]; exact beq_self_eq_true _)
      · rw [if_neg hk, if_neg hk]

@[simp] theorem get?_insert [LawfulBEq κ] (m : OrderedMap κ ν) (k k' : κ) (v : ν) :
    (m.insert k v).get? k' = if k == k' then some v else m.get? k' :=
  lookup_insertEntry k k' v m.toList

end OrderedMap

end SinkAudit
