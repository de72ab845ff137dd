import Mathlib.Data.List.Induction
import Mathlib.Data.List.Perm.Subperm
import SinkAudit.Outcome
import SinkAudit.Proofs.OrderedMap

/-!
# Messages of outcomes

An outcome is known by the messages of each field. Every operation is described by what it does to
them.

An outcome is a mapping from fields to lists of messages, in the order in which fields came up. Fields
without messages may be in it, as a list that was handed over and is empty stays there, and most of the care
below is about these: they count for nothing in any view, but they hold a place in the order.

- `messagesFor_add`, `messagesFor_addAll`, `messagesFor_merge`: the operations.
- `isValid_iff`, `mem_invalidFields_iff`: an outcome is valid if no field has a message, and the
  invalid fields are those that have some.
- `same_iff_perm`: two outcomes are the same if they have the same entries in any order.
- `toList_report_eq_append`: a report lists the known fields and then the others, in order.
- `IsAboutFields`: only known fields have messages; `toList_report`: then a report lists these alone.
- `addEach`: messages appended one by one; `messagesFor_addEach`, `keys_addEach`,
  `violationCount_addEach`: what they leave.
- `ofPosts`, `gathered`: messages appended to none, and gathered by field; `toList_ofPosts`: these are
  the same, and `violationCount_ofPosts` counts them.
- `HasNoEmptyField`: every field that is listed has messages; `toList_merge`: then outcomes about
  different fields are merged by listing one after the other.
-/

namespace SinkAudit.Outcome

open OrderedMap

@[simp] theorem messagesFor_empty (f : String) : empty.messagesFor f = [] := rfl

theorem messagesFor_add (o : Outcome) (field message f : String) :
    (o.add field message).messagesFor f
      = o.messagesFor f ++ if field = f then [message] else [] := by
  rw [messagesFor, add, get?_insert]
  by_cases hf : field = f
  · subst hf
    simp
  · simp [hf, messagesFor]

theorem messagesFor_addAll (field f : String) (messages : List String) : ∀ o : Outcome,
    (o.addAll field messages).messagesFor f
      = o.messagesFor f ++ if field = f then messages else [] := by
  induction messages with
  | nil => intro o; simp [addAll]
  | cons m rest ih =>
    intro o
    have hrest := ih (o.add field m)
    rw [addAll] at hrest ⊢
    rw [List.foldl_cons, hrest, messagesFor_add, List.append_assoc]
    split <;> rfl

/-- Absorbing the messages of several fields appends those of each. -/
theorem messagesFor_foldl_addAll {es : List (String × List String)} (h : es.Pairwise KeysDiffer)
    (f : String) : ∀ o : Outcome,
    (es.foldl (fun o e => o.addAll e.1 e.2) o).messagesFor f
      = o.messagesFor f ++ (lookup f es).getD [] := by
  induction es with
  | nil => intro o; simp [lookup]
  | cons e rest ih =>
    intro o
    obtain ⟨k, messages⟩ := e
    rw [List.foldl_cons, ih (List.pairwise_cons.mp h).2, messagesFor_addAll, lookup]
    by_cases hk : k = f
    -- the names differ, so that the rest has no more messages for this field
    · have hnone : lookup f rest = none := by
        rw [← hk]
        exact lookup_eq_none_of_pairwise h
      simp [hk, hnone]
    · simp [hk]

theorem messagesFor_absorb (o other : Outcome) (f : String) :
    (o.absorb other).messagesFor f = o.messagesFor f ++ other.messagesFor f :=
  messagesFor_foldl_addAll other.errors.distinct f o

/-- In every field the messages of the first outcome come before those of the second. -/
theorem messagesFor_merge (a b : Outcome) (f : String) :
    (a.merge b).messagesFor f = a.messagesFor f ++ b.messagesFor f := by
  rw [merge, messagesFor_absorb, messagesFor_absorb, messagesFor_empty, List.nil_append]

/-- An outcome is valid if no field has a message. -/
theorem isValid_iff (o : Outcome) : o.isValid = true ↔ ∀ f, o.messagesFor f = [] := by
  rw [isValid, List.all_eq_true]
  constructor
  · intro h f
    rw [messagesFor]
    cases hget : o.errors.get? f with
    | none => rfl
    | some messages =>
      have := h _ (mem_of_get? hget)
      simpa using this
  · intro h e he
    have hget : o.errors.get? e.1 = some e.2 := get?_of_mem (beq_self_eq_true _) he
    have := h e.1
    rw [messagesFor, hget, Option.getD_some] at this
    rw [this]
    rfl

/-- The invalid fields are those with messages. -/
theorem mem_invalidFields_iff {o : Outcome} {f : String} :
    f ∈ o.invalidFields ↔ o.messagesFor f ≠ [] := by
  rw [invalidFields, List.mem_map, messagesFor]
  constructor
  · rintro ⟨e, he, rfl⟩
    obtain ⟨hmem, hfull⟩ := List.mem_filter.mp he
    rw [get?_eq_some_iff.mpr hmem, Option.getD_some]
    simpa using hfull
  · intro hfull
    cases hget : o.errors.get? f with
    | none =>
      rw [hget] at hfull
      exact absurd rfl hfull
    | some messages =>
      rw [hget, Option.getD_some] at hfull
      refine ⟨(f, messages), List.mem_filter.mpr ⟨mem_of_get? hget, ?_⟩, rfl⟩
      simpa using hfull

/-! ## Equality in any order -/

/-- Two outcomes list the same exactly if they have the same entries in some order. -/
theorem same_iff_perm {a b : Outcome} :
    a.same b = true ↔ a.errors.toList.Perm b.errors.toList := by
  rw [same, Bool.and_eq_true, beq_iff_eq, List.all_eq_true]
  constructor
  · rintro ⟨hlength, hentries⟩
    have hsubset : a.errors.toList ⊆ b.errors.toList :=
      fun e he => mem_of_get? (beq_iff_eq.mp (hentries e he))
    exact (a.errors.nodup_toList.subperm hsubset).perm_of_length_le (Nat.le_of_eq hlength.symm)
  · intro h
    exact ⟨h.length_eq, fun e he => beq_iff_eq.mpr (get?_eq_some_iff.mpr (h.mem_iff.mp he))⟩

theorem same_self (a : Outcome) : a.same a = true := same_iff_perm.mpr (.refl _)

theorem messagesFor_eq_of_same {a b : Outcome} (h : a.same b = true) (f : String) :
    a.messagesFor f = b.messagesFor f := by
  rw [messagesFor, messagesFor, get?_eq_of_perm (same_iff_perm.mp h)]

/-! ## Message by message -/

/-- A message that is appended to those of a key is counted. -/
theorem count_insertEntry_concat (field message : String) (es : List (String × List String)) :
    (insertEntry field ((lookup field es).getD [] ++ [message]) es).foldr
        (fun e n => e.2.length + n) 0
      = es.foldr (fun e n => e.2.length + n) 0 + 1 := by
  induction es with
  | nil => rfl
  | cons e rest ih =>
    obtain ⟨k, messages⟩ := e
    rw [insertEntry, lookup]
    by_cases hk : (k == field) = true
    · rw [if_pos hk, if_pos hk, List.foldr_cons, List.foldr_cons, Option.getD_some,
        List.length_append, List.length_singleton, Nat.add_right_comm]
    · rw [if_neg hk, if_neg hk, List.foldr_cons, List.foldr_cons, ih]
      omega

theorem violationCount_add (o : Outcome) (field message : String) :
    (o.add field message).violationCount = o.violationCount + 1 :=
  count_insertEntry_concat field message o.errors.toList

/-- Append messages one by one, each to a field. -/
def addEach (o : Outcome) (posts : List (String × String)) : Outcome :=
  posts.foldl (fun o e => o.add e.1 e.2) o

theorem addEach_concat (o : Outcome) (posts : List (String × String)) (e : String × String) :
    o.addEach (posts ++ [e]) = (o.addEach posts).add e.1 e.2 := by
  rw [addEach, List.foldl_append]
  rfl

/-- The messages of a field are those that it had, then those that were appended to it. -/
theorem messagesFor_addEach (o : Outcome) (posts : List (String × String)) (f : String) :
    (o.addEach posts).messagesFor f
      = o.messagesFor f ++ (posts.filter (·.1 == f)).map Prod.snd := by
  induction posts using List.reverseRecOn with
  | nil => exact (List.append_nil _).symm
  | append_singleton posts e ih =>
    rw [addEach_concat, messagesFor_add, ih, List.filter_append, List.map_append, List.append_assoc]
    by_cases hf : e.1 = f
    · simp [hf]
    · simp [hf]

/-- The fields that were there are followed by those that got a message, in the order of the first
messages. -/
theorem keys_addEach (o : Outcome) (posts : List (String × String)) :
    (o.addEach posts).errors.keys
      = o.errors.keys ++ ((posts.map Prod.fst).filter (· ∉ o.errors.keys)).eraseDups := by
  -- from the end, as the last message decides only whether one more field comes up
  induction posts using List.reverseRecOn with
  | nil => exact (List.append_nil _).symm
  | append_singleton posts e ih =>
    have hadd : ((o.addEach posts).add e.1 e.2).errors.keys
        = (o.addEach posts).errors.keys ++ [e.1].filter (· ∉ (o.addEach posts).errors.keys) :=
      keys_insert _ _ _
    rw [addEach_concat, hadd, ih, List.map_append, List.filter_append, List.eraseDups_append,
      List.append_assoc, List.map_singleton]
    by_cases hknown : e.1 ∈ o.errors.keys
    · simp [hknown, List.removeAll]
    · by_cases hposted : e.1 ∈ posts.map Prod.fst
      · simp [hknown, hposted, List.removeAll]
      · simp [hknown, hposted, List.removeAll, List.eraseDups_cons]

/-- Every message is counted. -/
theorem violationCount_addEach (o : Outcome) (posts : List (String × String)) :
    (o.addEach posts).violationCount = o.violationCount + posts.length := by
  induction posts using List.reverseRecOn with
  | nil => rfl
  | append_singleton posts e ih =>
    rw [addEach_concat, violationCount_add, ih, List.length_append, List.length_singleton,
      Nat.add_assoc]

/-- The outcome of messages that are appended one by one, each to a field. -/
def ofPosts (posts : List (String × String)) : Outcome :=
  posts.foldl (fun o e => o.add e.1 e.2) empty

/-- Messages gathered by field, the fields in the order of their first messages. -/
def gathered (posts : List (String × String)) : List (String × List String) :=
  (posts.map Prod.fst).eraseDups.map fun f => (f, (posts.filter (·.1 == f)).map Prod.snd)

/-- The messages of a field are those that were appended to it. -/
theorem messagesFor_ofPosts (posts : List (String × String)) (f : String) :
    (ofPosts posts).messagesFor f = (posts.filter (·.1 == f)).map Prod.snd :=
  messagesFor_addEach empty posts f

/-- Every field that got a message is listed, in the order of the first messages. -/
theorem keys_ofPosts (posts : List (String × String)) :
    (ofPosts posts).errors.keys = (posts.map Prod.fst).eraseDups := by
  have hnew : (posts.map Prod.fst).filter (· ∉ empty.errors.keys) = posts.map Prod.fst :=
    List.filter_eq_self.mpr fun _ _ => rfl
  have hkeys := keys_addEach empty posts
  rw [hnew] at hkeys
  exact hkeys

/-- Messages that are appended one by one are gathered by field. -/
theorem toList_ofPosts (posts : List (String × String)) :
    (ofPosts posts).errors.toList = gathered posts := by
  rw [toList_eq_map_keys _ [], keys_ofPosts, gathered]
  refine List.map_congr_left fun f _ => ?_
  rw [← messagesFor_ofPosts]
  rfl

/-- There are as many violations as messages. -/
theorem violationCount_ofPosts (posts : List (String × String)) :
    (ofPosts posts).violationCount = posts.length :=
  (violationCount_addEach empty posts).trans (Nat.zero_add _)

/-! ## Known fields -/

/-- Only known fields have messages. -/
def IsAboutFields (o : Outcome) : Prop := ∀ k ∈ o.errors.keys, ∃ f : Field, f.name = k

theorem isAboutFields_empty : empty.IsAboutFields := by
  intro k hk
  cases hk

theorem IsAboutFields.add {o : Outcome} (h : o.IsAboutFields) (f : Field) (message : String) :
    (o.add f.name message).IsAboutFields := by
  intro k hk
  rcases mem_keys_insert hk with rfl | hk
  · exact ⟨f, rfl⟩
  · exact h k hk

theorem IsAboutFields.addAll (f : Field) (messages : List String) :
    ∀ {o : Outcome}, o.IsAboutFields → (o.addAll f.name messages).IsAboutFields := by
  induction messages with
  | nil => exact fun h => h
  | cons m rest ih => exact fun h => ih (h.add f m)

theorem IsAboutFields.absorb {o other : Outcome} (h : o.IsAboutFields)
    (hother : other.IsAboutFields) : (o.absorb other).IsAboutFields := by
  have hentries : ∀ e ∈ other.errors.toList, ∃ f : Field, f.name = e.1 :=
    fun e he => hother e.1 (List.mem_map_of_mem he)
  rw [Outcome.absorb]
  -- the other outcome is only its entries now, and the induction goes over these
  generalize other.errors.toList = es at hentries
  induction es generalizing o with
  | nil => exact h
  | cons e rest ih =>
    obtain ⟨⟨f, hf⟩, hrest⟩ := List.forall_mem_cons.mp hentries
    rw [List.foldl_cons, ← hf]
    exact ih (h.addAll f e.2) hrest

theorem IsAboutFields.merge {a b : Outcome} (ha : a.IsAboutFields) (hb : b.IsAboutFields) :
    (a.merge b).IsAboutFields :=
  (isAboutFields_empty.absorb ha).absorb hb

/-- A name is that of a known field, or has no messages. -/
theorem IsAboutFields.name_or_none {o : Outcome} (h : o.IsAboutFields) (k : String) :
    (∃ f : Field, f.name = k) ∨ o.messagesFor k = [] := by
  cases hget : o.errors.get? k with
  | none =>
    rw [messagesFor, hget]
    exact .inr rfl
  | some messages => exact .inl (h k (List.mem_map_of_mem (mem_of_get? hget)))

/-- An outcome about known fields is valid if none of these has a message. -/
theorem IsAboutFields.isValid_iff {o : Outcome} (h : o.IsAboutFields) :
    o.isValid = true ↔ ∀ f : Field, o.messagesFor f.name = [] := by
  rw [Outcome.isValid_iff]
  constructor
  · exact fun hall f => hall f.name
  · intro hall k
    rcases h.name_or_none k with ⟨f, rfl⟩ | hnone
    · exact hall f
    · exact hnone

/-- The names of the fields differ. -/
theorem keysDiffer_names {ν : Type} {v : ν} :
    (Field.all.map fun f => (f.name, v)).Pairwise KeysDiffer := by
  rw [List.pairwise_map]
  refine Field.pairwise_all.imp fun {f g} hne => ?_
  show (f.name == g.name) = false
  rw [beq_eq_false_iff_ne]
  exact fun h => hne (Field.name_inj.mp h)

/-- The messages of a field in the report are those of the outcome. -/
theorem getD_report (o : Outcome) (f : String) :
    (o.report.get? f).getD [] = o.messagesFor f := by
  rw [report, get?_foldl_insert o.errors.distinct, messagesFor]
  show ((o.errors.get? f).or _).getD [] = (o.errors.get? f).getD []
  cases o.errors.get? f with
  | some messages => rfl
  | none =>
    -- before the messages are there, no field of the report has any
    rw [Option.none_or]
    cases hbase : (ofList (Field.all.map fun f => (f.name, ([] : List String)))).get? f with
    | none => rfl
    | some messages =>
      have hmem := mem_of_get? hbase
      rw [toList_ofList keysDiffer_names] at hmem
      obtain ⟨g, -, hg⟩ := List.mem_map.mp hmem
      cases hg
      rfl

/-- The report lists the known fields in order and then the other fields, each with its messages. -/
theorem toList_report_eq_append (o : Outcome) :
    o.report.toList
      = (Field.all.map fun f => (f.name, o.messagesFor f.name))
        ++ (o.errors.keys.filter (· ∉ Field.all.map Field.name)).map
          fun k => (k, o.messagesFor k) := by
  have hknown : (ofList (Field.all.map fun f => (f.name, ([] : List String)))).keys
      = Field.all.map Field.name := by
    rw [keys, toList_ofList keysDiffer_names, List.map_map]
    rfl
  -- the report starts from all fields, each with no messages: inserting leaves these in their places and
  -- puts other names behind them
  have hkeys : o.report.keys
      = Field.all.map Field.name ++ o.errors.keys.filter (· ∉ Field.all.map Field.name) := by
    rw [report, keys_foldl_insert o.errors.distinct, hknown]
    rfl
  rw [toList_eq_map_keys o.report [], hkeys, List.map_append, List.map_map]
  simp only [getD_report]
  rfl

/-- The report of an outcome about known fields lists these alone. -/
theorem toList_report {o : Outcome} (h : o.IsAboutFields) :
    o.report.toList = Field.all.map fun f => (f.name, o.messagesFor f.name) := by
  have hnone : o.errors.keys.filter (· ∉ Field.all.map Field.name) = [] := by
    refine List.filter_eq_nil_iff.mpr fun k hk => ?_
    obtain ⟨f, rfl⟩ := h k hk
    simpa using f.mem_all
  rw [toList_report_eq_append, hnone]
  exact List.append_nil _

/-! ## Entries -/

/-- Every field that is listed has messages. -/
def HasNoEmptyField (o : Outcome) : Prop := ∀ e ∈ o.errors.toList, e.2 ≠ []

theorem hasNoEmptyField_empty : empty.HasNoEmptyField := by
  intro e he
  cases he

theorem HasNoEmptyField.add {o : Outcome} (h : o.HasNoEmptyField) (field message : String) :
    (o.add field message).HasNoEmptyField := by
  intro e he
  rcases mem_insertEntry he with hvalue | hmem
  · rw [hvalue]
    exact List.append_ne_nil_of_right_ne_nil _ (List.cons_ne_nil _ _)
  · exact h e hmem

/-- Then a field without messages is not listed. -/
theorem HasNoEmptyField.not_listed {o : Outcome} (h : o.HasNoEmptyField) {f : String}
    (hf : o.messagesFor f = []) : ∀ e ∈ o.errors.toList, (e.1 == f) = false := by
  intro e he
  rw [beq_eq_false_iff_ne]
  rintro rfl
  have hget : o.errors.get? e.1 = some e.2 := get?_of_mem (beq_self_eq_true _) he
  rw [messagesFor, hget] at hf
  exact h e he hf

/-- Some messages appended one by one are appended at once. -/
theorem errors_addAll {messages : List String} (h : messages ≠ []) (field : String) :
    ∀ o : Outcome, (o.addAll field messages).errors
      = o.errors.insert field (o.messagesFor field ++ messages) := by
  induction messages with
  | nil => exact absurd rfl h
  | cons m rest ih =>
    intro o
    have hstep : o.addAll field (m :: rest) = (o.add field m).addAll field rest := rfl
    rw [hstep]
    -- to add nothing inserts nothing, so that the last message is a case of its own
    by_cases hrest : rest = []
    · rw [hrest]
      rfl
    · have hsofar : (o.add field m).messagesFor field = o.messagesFor field ++ [m] := by
        rw [messagesFor_add, if_pos rfl]
      rw [ih hrest, hsofar, List.append_assoc, add, insert_insert_self (beq_self_eq_true _)]
      rfl

/-- Absorbing fields that are not listed lists them after the others. -/
theorem toList_foldl_addAll {es : List (String × List String)} (hes : ∀ e ∈ es, e.2 ≠ []) :
    ∀ {o : Outcome}, (o.errors.toList ++ es).Pairwise KeysDiffer →
      (es.foldl (fun o e => o.addAll e.1 e.2) o).errors.toList = o.errors.toList ++ es := by
  induction es with
  | nil => intro o _; simp
  | cons e rest ih =>
    intro o h
    obtain ⟨hmessages, hrest⟩ := List.forall_mem_cons.mp hes
    obtain ⟨-, -, hcross⟩ := List.pairwise_append.mp h
    have hnew : ∀ e' ∈ o.errors.toList, (e'.1 == e.1) = false :=
      fun e' he' => hcross e' he' e List.mem_cons_self
    have hnone : o.messagesFor e.1 = [] := by
      rw [messagesFor, get?, lookup_eq_none hnew]
      rfl
    have hadded : (o.addAll e.1 e.2).errors.toList = o.errors.toList ++ [e] := by
      rw [errors_addAll hmessages, hnone, toList_insert, insertEntry_of_new hnew]
      rfl
    -- the outcome has grown by the first field, so the other fields are new to it still
    rw [List.foldl_cons, ih hrest, hadded, List.append_assoc, List.singleton_append]
    rwa [hadded, List.append_assoc, List.singleton_append]

/-- Merging outcomes that list different fields, each with messages, loses, reorders and repeats
nothing. -/
theorem toList_merge {a b : Outcome} (ha : a.HasNoEmptyField) (hb : b.HasNoEmptyField)
    (hnew : ∀ e ∈ b.errors.toList, a.messagesFor e.1 = []) :
    (a.merge b).errors.toList = a.errors.toList ++ b.errors.toList := by
  have hdiffer : (a.errors.toList ++ b.errors.toList).Pairwise KeysDiffer := by
    refine List.pairwise_append.mpr ⟨a.errors.distinct, b.errors.distinct, fun e he e' he' => ?_⟩
    exact ha.not_listed (hnew e' he') e he
  have hfirst : (empty.absorb a).errors.toList = a.errors.toList :=
    toList_foldl_addAll ha (o := empty) a.errors.distinct
  rw [merge, absorb, toList_foldl_addAll hb (by rwa [hfirst]), hfirst]

end SinkAudit.Outcome
