import SinkAudit.Proofs.Outcome

/-!
# Merging outcomes

Merging appends the messages of a second outcome to those of a first, field by field. Only fields
with messages survive it, those of the first outcome before the new ones of the second, so that a
merged outcome is known by its invalid fields and their messages.

`merge` makes a new outcome and adds to it, message by message, what the first and then the second one
holds. So fields without messages vanish, and the first law of a neutral element fails for them by design:
merging with the empty outcome is `withoutEmpty`.

Merging in place concerns aliasing. Outcomes are kept in a list and named by their places, so that the two
sides of a merge may be one object; `mergeAt` adds to a fresh one, and no outcome of the list is changed.

- `ext_keys`: an outcome is its fields, in order, and their messages.
- `keys_absorb`, `invalidFields_merge`: which fields there are after messages are absorbed.
- `violationCount_absorb`, `violationCount_merge`: nothing is lost or counted twice.
- `merge_assoc`, `merge_empty`, `empty_merge`: merging is associative, and the outcome without messages
  only takes away fields without messages.
- `mergeAt_eq`: merging in place, message by message, leaves what is merged as it is.
- `merge_laws`: all of this.
-/

namespace SinkAudit.Outcome

open OrderedMap

variable {a b c o : Outcome}

/-- An outcome is its fields, in order, and their messages. -/
theorem ext_keys (hkeys : a.errors.keys = b.errors.keys)
    (h : ∀ f, a.messagesFor f = b.messagesFor f) : a = b := by
  have herrors : a.errors = b.errors := by
    ext1
    rw [toList_eq_map_keys a.errors [], toList_eq_map_keys b.errors [], hkeys]
    exact List.map_congr_left fun f _ => congrArg (f, ·) (h f)
  cases a
  cases b
  exact congrArg Outcome.mk herrors

/-! ## Fields -/

/-- Fields with messages are listed behind those that are there, in order. -/
theorem keys_foldl_addAll {es : List (String × List String)} (h : es.Pairwise KeysDiffer) :
    ∀ o : Outcome, (es.foldl (fun o e => o.addAll e.1 e.2) o).errors.keys
      = o.errors.keys
        ++ ((es.filter fun e => !e.2.isEmpty).map Prod.fst).filter (· ∉ o.errors.keys) := by
  induction es with
  | nil => intro o; simp
  | cons e rest ih =>
    intro o
    rw [List.foldl_cons, ih (List.pairwise_cons.mp h).2]
    by_cases hempty : e.2 = []
    -- no message is added, so that the field does not come up
    · rw [hempty, List.filter_cons_of_neg (by simp [hempty])]
      rfl
    · have hlisted : (e :: rest).filter (fun e => !e.2.isEmpty)
          = e :: rest.filter fun e => !e.2.isEmpty :=
        List.filter_cons_of_pos (by simpa using hempty)
      have hnew : e.1 ∉ (rest.filter fun e => !e.2.isEmpty).map Prod.fst := fun hmem =>
        notMem_keys_of_pairwise h ((List.filter_sublist.map Prod.fst).subset hmem)
      rw [errors_addAll hempty, keys_insert, hlisted, List.append_assoc, filter_new_cons hnew,
        List.map_cons]

/-- The fields after absorbing an outcome: those that were there, then the new ones with messages. -/
theorem keys_absorb (o other : Outcome) :
    (o.absorb other).errors.keys
      = o.errors.keys ++ other.invalidFields.filter (· ∉ o.errors.keys) :=
  keys_foldl_addAll other.errors.distinct o

/-- A merged outcome lists the invalid fields of the first outcome, then those of the second that are
new. -/
theorem keys_merge (a b : Outcome) :
    (a.merge b).errors.keys
      = a.invalidFields ++ b.invalidFields.filter (· ∉ a.invalidFields) := by
  have hfirst : (empty.absorb a).errors.keys = a.invalidFields := by
    rw [keys_absorb]
    simp [empty, keys]
  rw [merge, keys_absorb, hfirst]

theorem HasNoEmptyField.addAll (field : String) (messages : List String) :
    ∀ {o : Outcome}, o.HasNoEmptyField → (o.addAll field messages).HasNoEmptyField := by
  induction messages with
  | nil => exact fun h => h
  | cons m rest ih => exact fun h => ih (h.add field m)

theorem HasNoEmptyField.absorb (h : o.HasNoEmptyField) (other : Outcome) :
    (o.absorb other).HasNoEmptyField := by
  rw [Outcome.absorb]
  generalize other.errors.toList = es
  induction es generalizing o with
  | nil => exact h
  | cons e rest ih => exact ih (h.addAll e.1 e.2)

theorem hasNoEmptyField_merge (a b : Outcome) : (a.merge b).HasNoEmptyField :=
  (hasNoEmptyField_empty.absorb a).absorb b

/-- Where every field that is listed has messages, the fields are the invalid fields. -/
theorem HasNoEmptyField.invalidFields_eq (h : o.HasNoEmptyField) :
    o.invalidFields = o.errors.keys := by
  rw [invalidFields, List.filter_eq_self.mpr fun e he => by simpa using h e he]
  rfl

/-- The invalid fields of the first outcome, then those of the second that are valid in the first. -/
theorem invalidFields_merge (a b : Outcome) :
    (a.merge b).invalidFields
      = a.invalidFields ++ b.invalidFields.filter (· ∉ a.invalidFields) := by
  rw [(hasNoEmptyField_merge a b).invalidFields_eq, keys_merge]

/-! ## Messages -/

theorem violationCount_addAll (field : String) (messages : List String) : ∀ o : Outcome,
    (o.addAll field messages).violationCount = o.violationCount + messages.length := by
  induction messages with
  | nil => exact fun o => rfl
  | cons m rest ih =>
    intro o
    have hstep : o.addAll field (m :: rest) = (o.add field m).addAll field rest := rfl
    rw [hstep, ih, violationCount_add, List.length_cons]
    omega

theorem violationCount_absorb (o other : Outcome) :
    (o.absorb other).violationCount = o.violationCount + other.violationCount := by
  rw [absorb, violationCount.eq_1 other]
  generalize other.errors.toList = es
  induction es generalizing o with
  | nil => rfl
  | cons e rest ih =>
    rw [List.foldl_cons, ih, violationCount_addAll, List.foldr_cons, Nat.add_assoc]

theorem violationCount_merge (a b : Outcome) :
    (a.merge b).violationCount = a.violationCount + b.violationCount := by
  rw [merge, violationCount_absorb, violationCount_absorb]
  exact congrArg (· + _) (Nat.zero_add _)

/-! ## Laws -/

theorem merge_assoc (a b c : Outcome) : (a.merge b).merge c = a.merge (b.merge c) := by
  refine ext_keys ?_ fun f => ?_
  · rw [keys_merge, keys_merge, invalidFields_merge, invalidFields_merge, List.append_assoc,
      List.filter_append, List.filter_filter]
    -- what is new to both outcomes is new to the second and new to the first
    refine congrArg _ (congrArg _ (List.filter_congr fun k _ => ?_))
    by_cases ha : k ∈ a.invalidFields <;> simp [ha]
  · simp only [messagesFor_merge, List.append_assoc]

/-- An outcome without the fields that have no messages. -/
def withoutEmpty (o : Outcome) : Outcome := ⟨o.violations⟩

theorem keys_withoutEmpty (o : Outcome) : o.withoutEmpty.errors.keys = o.invalidFields := rfl

theorem messagesFor_withoutEmpty (o : Outcome) (f : String) :
    o.withoutEmpty.messagesFor f = o.messagesFor f := by
  rw [messagesFor, messagesFor, withoutEmpty, violations, get?_filter]
  cases o.errors.get? f with
  | none => rfl
  | some messages => cases messages <;> rfl

theorem merge_empty (a : Outcome) : a.merge empty = a.withoutEmpty := by
  refine ext_keys ?_ fun f => ?_
  · rw [keys_merge, keys_withoutEmpty]
    exact List.append_nil _
  · rw [messagesFor_merge, messagesFor_withoutEmpty, messagesFor_empty, List.append_nil]

theorem empty_merge (a : Outcome) : empty.merge a = a.withoutEmpty := by
  refine ext_keys ?_ fun f => ?_
  · rw [keys_merge, keys_withoutEmpty]
    exact List.filter_eq_self.mpr fun k _ => rfl
  · rw [messagesFor_merge, messagesFor_withoutEmpty, messagesFor_empty, List.nil_append]

theorem isValid_merge_iff (a b : Outcome) :
    (a.merge b).isValid = true ↔ a.isValid = true ∧ b.isValid = true := by
  simp only [isValid_iff, messagesFor_merge, List.append_eq_nil_iff, forall_and]

/-! ## In place -/

/-- Append a message to the outcome in a place. -/
def addAt (place : Nat) (os : List Outcome) (field message : String) : List Outcome :=
  os.modify place (·.add field message)

/-- Append the messages of the outcome in a second place to the one in a first, one by one. -/
def absorbAt (place : Nat) (os : List Outcome) (other : Nat) : List Outcome :=
  (os.getD other empty).errors.toList.foldl
    (fun os e => e.2.foldl (fun os m => addAt place os e.1 m) os) os

/-- Merge the outcomes in two places into a new outcome behind all others. -/
def mergeAt (os : List Outcome) (i j : Fin os.length) : List Outcome :=
  absorbAt os.length (absorbAt os.length (os ++ [empty]) i) j

theorem addAt_last (os : List Outcome) (o : Outcome) (field message : String) :
    addAt os.length (os ++ [o]) field message = os ++ [o.add field message] := by
  induction os with
  | nil => rfl
  | cons first rest ih => exact congrArg (first :: ·) ih

/-- What is appended to the last outcome leaves all others as they are. -/
theorem absorbAt_last (os : List Outcome) (o : Outcome) (i : Fin os.length) :
    absorbAt os.length (os ++ [o]) i = os ++ [o.absorb os[i]] := by
  have hread : (os ++ [o]).getD i empty = os[i] := by
    rw [List.getD_eq_getElem?_getD, List.getElem?_append_left i.isLt,
      List.getElem?_eq_getElem i.isLt]
    rfl
  rw [absorbAt, hread, absorb]
  refine List.foldl_hom (os ++ [·]) fun o e => ?_
  exact List.foldl_hom (os ++ [·]) fun o m => addAt_last os o e.1 m

/-- All outcomes stay as they are, and the new one is the two of them merged. -/
theorem mergeAt_eq (os : List Outcome) (i j : Fin os.length) :
    mergeAt os i j = os ++ [os[i].merge os[j]] := by
  rw [mergeAt, absorbAt_last, absorbAt_last, merge]

/-- Merging loses nothing. The messages of each field are those of the first outcome, then those of
the second; merging is associative, and the outcome without messages is neutral but for fields without
messages. Violations are added up, the merged outcome is valid exactly if both are, and its invalid
fields are those of the first, then the others of the second. Outcomes that are merged in place, even
one with itself, stay as they are. -/
theorem merge_laws (a b c : Outcome) :
    (∀ f, (a.merge b).messagesFor f = a.messagesFor f ++ b.messagesFor f)
      ∧ (a.merge b).merge c = a.merge (b.merge c)
      ∧ a.merge empty = a.withoutEmpty
      ∧ empty.merge a = a.withoutEmpty
      ∧ (a.merge b).violationCount = a.violationCount + b.violationCount
      ∧ ((a.merge b).isValid = true ↔ a.isValid = true ∧ b.isValid = true)
      ∧ (a.merge b).invalidFields
        = a.invalidFields ++ b.invalidFields.filter (· ∉ a.invalidFields)
      ∧ ∀ (os : List Outcome) (i j : Fin os.length), mergeAt os i j = os ++ [os[i].merge os[j]] :=
  ⟨messagesFor_merge a b, merge_assoc a b c, merge_empty a, empty_merge a, violationCount_merge a b,
    isValid_merge_iff a b, invalidFields_merge a b, mergeAt_eq⟩

end SinkAudit.Outcome
