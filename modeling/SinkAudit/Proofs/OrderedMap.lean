import SinkAudit.OrderedMap

/-!
# Ordered maps built from lists

What these maps model is the insertion order of dictionaries: a key that is inserted again keeps its place
and changes its value. The lemmas are stated about `toList`, which is what is printed and compared.

- `toList_ofList`: pairs without repeated keys are kept as they are.
- `get?_of_mem`, `mem_of_get?`: the value of a key is the one that stands beside it.
- `get?_filter`: the values that a test leaves.
- `get?_eq_of_perm`: values do not depend on the order of the entries.
- `toList_eq_map_keys`: a map is its keys with their values.
- `get?_foldl_insert`, `keys_foldl_insert`: what inserting many pairs does to values and keys.
- `insert_insert_self`, `mem_insertEntry`: what inserting one pair, or a key twice, does.
-/

namespace SinkAudit.OrderedMap

variable {κ ν : Type} [BEq κ]

/-- Two entries with different keys. -/
def KeysDiffer (a b : κ × ν) : Prop := (a.1 == b.1) = false

/-- A key that is not there is appended. -/
theorem insertEntry_of_new {k : κ} {v : ν} {es : List (κ × ν)}
    (h : ∀ e ∈ es, (e.1 == k) = false) : insertEntry k v es = es ++ [(k, v)] := by
  induction es with
  | nil => rfl
  | cons e es ih =>
    have hhead : (e.1 == k) = false := h e List.mem_cons_self
    have htail := ih fun e' he' => h e' (List.mem_cons_of_mem _ he')
    obtain ⟨k', v'⟩ := e
    simp only [insertEntry, hhead, Bool.false_eq_true, if_false, htail, List.cons_append]

/-- An entry after inserting one has the value inserted, or was there before. -/
theorem mem_insertEntry {k : κ} {v : ν} {es : List (κ × ν)} {e : κ × ν}
    (h : e ∈ insertEntry k v es) : e.2 = v ∨ e ∈ es := by
  induction es with
  | nil =>
    rw [List.mem_singleton.mp h]
    exact .inl rfl
  | cons a rest ih =>
    obtain ⟨k', v'⟩ := a
    rw [insertEntry] at h
    split at h
    · rcases List.mem_cons.mp h with rfl | h
      · exact .inl rfl
      · exact .inr (List.mem_cons_of_mem _ h)
    · rcases List.mem_cons.mp h with rfl | h
      · exact .inr List.mem_cons_self
      · exact (ih h).imp_right (List.mem_cons_of_mem _)

/-- Of two values inserted under a key, the second stands in the place of the first. -/
theorem insert_insert_self {k : κ} (hk : (k == k) = true) (m : OrderedMap κ ν) (v w : ν) :
    (m.insert k v).insert k w = m.insert k w := by
  ext1
  rw [toList_insert, toList_insert, toList_insert]
  induction m.toList with
  | nil => simp [insertEntry, hk]
  | cons e rest ih =>
    obtain ⟨k', v'⟩ := e
    by_cases hkey : (k' == k) = true
    · simp [insertEntry, hkey]
    · simp [insertEntry, hkey, ih]

/-- Inserting pairs whose keys are new and differ from each other appends them. -/
theorem toList_foldl_insert {pairs : List (κ × ν)} :
    ∀ {m : OrderedMap κ ν}, (m.toList ++ pairs).Pairwise KeysDiffer →
      (pairs.foldl (fun m e => m.insert e.1 e.2) m).toList = m.toList ++ pairs := by
  induction pairs with
  | nil => intro m _; simp
  | cons e rest ih =>
    intro m h
    obtain ⟨-, -, hcross⟩ := List.pairwise_append.mp h
    have hnew : ∀ e' ∈ m.toList, (e'.1 == e.1) = false :=
      fun e' he' => hcross e' he' e List.mem_cons_self
    -- the map has grown by the first pair, so what is left to insert is new to it still
    have hins : (m.insert e.1 e.2).toList = m.toList ++ [e] := by
      rw [toList_insert, insertEntry_of_new hnew]
    rw [List.foldl_cons, ih, hins, List.append_assoc, List.singleton_append]
    rwa [hins, List.append_assoc, List.singleton_append]

/-- Pairs without repeated keys are the entries of the map that they make. -/
theorem toList_ofList {pairs : List (κ × ν)} (h : pairs.Pairwise KeysDiffer) :
    (ofList pairs).toList = pairs := by
  rw [ofList, toList_foldl_insert (by simpa using h)]
  rfl

/-- The entries of a map make the map. -/
theorem ofList_toList (m : OrderedMap κ ν) : ofList m.toList = m := ext (toList_ofList m.distinct)

/-- Among entries without repeated keys, the value of a key is that of its entry. -/
theorem lookup_of_mem {k : κ} {v : ν} (hk : (k == k) = true) {es : List (κ × ν)}
    (hes : es.Pairwise KeysDiffer) (hmem : (k, v) ∈ es) : lookup k es = some v := by
  induction es with
  | nil => cases hmem
  | cons e rest ih =>
    obtain ⟨hhead, htail⟩ := List.pairwise_cons.mp hes
    obtain ⟨k', v'⟩ := e
    rcases List.mem_cons.mp hmem with heq | hrest
    · cases heq
      rw [lookup, if_pos hk]
    · have hne : (k' == k) = false := hhead (k, v) hrest
      rw [lookup, hne]
      exact ih htail hrest

/-- The value of a key that stands in a map. -/
theorem get?_of_mem {m : OrderedMap κ ν} {k : κ} {v : ν} (hk : (k == k) = true)
    (hmem : (k, v) ∈ m.toList) : m.get? k = some v :=
  lookup_of_mem hk m.distinct hmem

/-- A key without an entry has no value. -/
theorem lookup_eq_none {k : κ} {es : List (κ × ν)} (h : ∀ e ∈ es, (e.1 == k) = false) :
    lookup k es = none := by
  induction es with
  | nil => rfl
  | cons e rest ih =>
    obtain ⟨hhead, hrest⟩ := List.forall_mem_cons.mp h
    obtain ⟨k', v⟩ := e
    rw [lookup, hhead]
    exact ih hrest

/-- A value that is found stands in an entry. -/
theorem exists_mem_of_lookup {k : κ} {v : ν} {es : List (κ × ν)} (h : lookup k es = some v) :
    ∃ k', (k', v) ∈ es := by
  induction es with
  | nil => cases h
  | cons e rest ih =>
    obtain ⟨k', w⟩ := e
    rw [lookup] at h
    split at h
    · cases h
      exact ⟨k', List.mem_cons_self⟩
    · obtain ⟨k'', hmem⟩ := ih h
      exact ⟨k'', List.mem_cons_of_mem _ hmem⟩

theorem mem_keys_insert {m : OrderedMap κ ν} {k k' : κ} {v : ν}
    (h : k' ∈ (m.insert k v).keys) : k' = k ∨ k' ∈ m.keys := by
  obtain ⟨e, he, rfl⟩ := List.mem_map.mp h
  rcases mem_insertEntry_key he with hk | ⟨e', he', hk⟩
  · exact .inl hk
  · exact .inr (List.mem_map.mpr ⟨e', he', hk⟩)

/-! ## Keys that are equal only to themselves -/

section Lawful

variable [LawfulBEq κ]

theorem mem_of_lookup {k : κ} {v : ν} {es : List (κ × ν)} (h : lookup k es = some v) :
    (k, v) ∈ es := by
  induction es with
  | nil => cases h
  | cons e rest ih =>
    obtain ⟨k', v'⟩ := e
    rw [lookup] at h
    split at h
    · next hk =>
      cases h
      rw [eq_of_beq hk]
      exact List.mem_cons_self
    · exact List.mem_cons_of_mem _ (ih h)

theorem mem_of_get? {m : OrderedMap κ ν} {k : κ} {v : ν} (h : m.get? k = some v) :
    (k, v) ∈ m.toList :=
  mem_of_lookup h

/-- The value of a key is what stands beside it. -/
theorem get?_eq_some_iff {m : OrderedMap κ ν} {k : κ} {v : ν} :
    m.get? k = some v ↔ (k, v) ∈ m.toList :=
  ⟨mem_of_get?, get?_of_mem (beq_self_eq_true k)⟩

/-- Of the values, those remain that pass the test with their key. -/
theorem get?_filter (m : OrderedMap κ ν) (p : κ × ν → Bool) (k : κ) :
    (m.filter p).get? k = (m.get? k).filter fun v => p (k, v) := by
  refine Option.ext fun v => ?_
  rw [get?_eq_some_iff, Option.filter_eq_some_iff, get?_eq_some_iff]
  exact List.mem_filter

/-- No entry stands twice. -/
theorem nodup_toList (m : OrderedMap κ ν) : m.toList.Nodup := by
  refine m.distinct.imp fun {a b} hdiffer => ?_
  rintro rfl
  rw [beq_self_eq_true] at hdiffer
  cases hdiffer

/-- The values of keys do not depend on the order of the entries. -/
theorem get?_eq_of_perm {a b : OrderedMap κ ν} (h : a.toList.Perm b.toList) (k : κ) :
    a.get? k = b.get? k := by
  refine Option.ext fun v => ?_
  rw [get?_eq_some_iff, get?_eq_some_iff, h.mem_iff]

/-- A map is its keys, each with its value. -/
theorem toList_eq_map_keys (m : OrderedMap κ ν) (default : ν) :
    m.toList = m.keys.map fun k => (k, (m.get? k).getD default) := by
  have hentry : ∀ e ∈ m.toList,
      id e = ((fun k => (k, (m.get? k).getD default)) ∘ Prod.fst) e := by
    intro e he
    have hget : m.get? e.1 = some e.2 := get?_of_mem (beq_self_eq_true _) he
    simp only [id, Function.comp_apply, hget, Option.getD_some]
  rw [keys, List.map_map, ← List.map_congr_left hentry, List.map_id]

/-- The key of the first entry has no value among the others. -/
theorem lookup_eq_none_of_pairwise {k : κ} {v : ν} {rest : List (κ × ν)}
    (h : ((k, v) :: rest).Pairwise KeysDiffer) : lookup k rest = none := by
  refine lookup_eq_none fun e he => ?_
  have hdiffer : (k == e.1) = false := (List.pairwise_cons.mp h).1 e he
  rw [BEq.comm]
  exact hdiffer

/-- Inserting pairs without repeated keys replaces the values of their keys. -/
theorem get?_foldl_insert {pairs : List (κ × ν)} (h : pairs.Pairwise KeysDiffer) (k : κ) :
    ∀ m : OrderedMap κ ν, (pairs.foldl (fun m e => m.insert e.1 e.2) m).get? k
      = (lookup k pairs).or (m.get? k) := by
  induction pairs with
  | nil => intro m; rfl
  | cons e rest ih =>
    intro m
    obtain ⟨k', v⟩ := e
    rw [List.foldl_cons, ih (List.pairwise_cons.mp h).2, get?_insert, lookup]
    by_cases hk : (k' == k) = true
    -- the key does not come again, so that what was inserted first stays
    · have hnone : lookup k rest = none := by
        rw [← eq_of_beq hk]
        exact lookup_eq_none_of_pairwise h
      rw [if_pos hk, if_pos hk, hnone, Option.none_or, Option.some_or]
    · rw [if_neg hk, if_neg hk]

theorem map_fst_insertEntry {k : κ} {es : List (κ × ν)} (h : k ∈ es.map Prod.fst) (v : ν) :
    (insertEntry k v es).map Prod.fst = es.map Prod.fst := by
  induction es with
  | nil => cases h
  | cons e rest ih =>
    obtain ⟨k', v'⟩ := e
    rw [insertEntry]
    by_cases hk : (k' == k) = true
    · rw [if_pos hk]
      rfl
    · rw [if_neg hk, List.map_cons, List.map_cons]
      have hrest : k ∈ rest.map Prod.fst := by
        rcases List.mem_cons.mp h with heq | hrest
        · exact absurd (by rw [heq]; exact beq_self_eq_true _) hk
        · exact hrest
      rw [ih hrest]

/-- A key that is there keeps its place. -/
theorem keys_insert_of_mem {m : OrderedMap κ ν} {k : κ} (h : k ∈ m.keys) (v : ν) :
    (m.insert k v).keys = m.keys :=
  map_fst_insertEntry h v

/-- A key that is not there goes to the end. -/
theorem keys_insert_of_notMem {m : OrderedMap κ ν} {k : κ} (h : k ∉ m.keys) (v : ν) :
    (m.insert k v).keys = m.keys ++ [k] := by
  have hnew : ∀ e ∈ m.toList, (e.1 == k) = false := by
    intro e he
    rw [beq_eq_false_iff_ne]
    rintro rfl
    exact h (List.mem_map_of_mem he)
  rw [keys, toList_insert, insertEntry_of_new hnew, List.map_append]
  rfl

/-- A key comes behind those that are there, if it is not one of them. -/
theorem keys_insert (m : OrderedMap κ ν) (k : κ) (v : ν) :
    (m.insert k v).keys = m.keys ++ [k].filter (· ∉ m.keys) := by
  by_cases hk : k ∈ m.keys
  · rw [keys_insert_of_mem hk]
    simp [hk]
  · rw [keys_insert_of_notMem hk]
    simp [hk]

/-- What is new behind a key that has just come is what was new before, but for the key. -/
theorem filter_new_cons {known rest : List κ} {k : κ} (h : k ∉ rest) :
    [k].filter (· ∉ known) ++ rest.filter (· ∉ known ++ [k].filter (· ∉ known))
      = (k :: rest).filter (· ∉ known) := by
  have hrest : rest.filter (· ∉ known ++ [k].filter (· ∉ known)) = rest.filter (· ∉ known) := by
    refine List.filter_congr fun k' hk' => ?_
    have hne : k' ≠ k := fun heq => h (heq ▸ hk')
    simp [hne]
  rw [hrest, ← List.filter_append, List.singleton_append]

/-- The key of the first entry is none of the others'. -/
theorem notMem_keys_of_pairwise {e : κ × ν} {rest : List (κ × ν)}
    (h : (e :: rest).Pairwise KeysDiffer) : e.1 ∉ rest.map Prod.fst := by
  intro hmem
  obtain ⟨e', he', hkey⟩ := List.mem_map.mp hmem
  have hdiffer : (e.1 == e'.1) = false := (List.pairwise_cons.mp h).1 e' he'
  rw [hkey, beq_self_eq_true] at hdiffer
  cases hdiffer

/-- Inserting pairs without repeated keys lists the new keys behind those that are there. -/
theorem keys_foldl_insert {pairs : List (κ × ν)} (h : pairs.Pairwise KeysDiffer) :
    ∀ m : OrderedMap κ ν, (pairs.foldl (fun m e => m.insert e.1 e.2) m).keys
      = m.keys ++ (pairs.map Prod.fst).filter (· ∉ m.keys) := by
  induction pairs with
  | nil => intro m; simp
  | cons e rest ih =>
    intro m
    rw [List.foldl_cons, ih (List.pairwise_cons.mp h).2, keys_insert, List.append_assoc,
      filter_new_cons (notMem_keys_of_pairwise h), List.map_cons]

end Lawful

end SinkAudit.OrderedMap
