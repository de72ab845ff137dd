import SinkAudit.Proofs.Snapshot.Conflict
import SinkAudit.Proofs.Snapshot.Fault
import SinkAudit.Proofs.Snapshot.Rejection

/-!
# Fields on their own

When the comparison of its mentions has nothing to report, a configuration is judged field by field. A
field is judged by its own entries, and of these the last decides, so that nothing that is done to one
field changes what is said of another.

A person who corrects a rejected configuration wants all errors at once, and wants a correction to one
field to leave the verdicts on the others alone. Both are proved, for configurations without a dispute; a
disputed one stops before any field is judged (`SinkAudit.Proofs.Snapshot.Conflict`).

- `Properties.entriesOf`, `Field.said?`: the entries of a field, and what they say of it in the end.
- `Properties.givenIn_mentions`: that is the raw value that is read.
- `Properties.IsBad`: something is wrong with it.
- `Snapshot.ofProperties_fieldwise`: a configuration is rejected exactly for its bad fields, each with
  its own error.
-/

namespace SinkAudit

/-! ## The entries of a field -/

namespace Field

/-- Is the key one of the two names of the field? -/
def isNamedBy (f : Field) (key : Scalar) : Bool :=
  key == (f.name : Scalar) || key == (f.nativeName : Scalar)

/-- The mention that an entry of the field is. -/
def mentionOf (f : Field) (e : Scalar × Value) : Mention :=
  let s : Spelling := if e.1 == (f.nativeName : Scalar) then .native else .stable
  ⟨f, s, f.meaning s e.2⟩

/-- What entries of the field say of it in the end, if there are any. -/
def said? (f : Field) (es : List (Scalar × Value)) : Option Value :=
  es.getLast?.map fun e => (f.mentionOf e).value

/-- An entry mentions the field exactly if its key is one of the field's names. -/
theorem filter_ofEntry? (f : Field) (e : Scalar × Value) :
    (Mention.ofEntry? e).filter (·.field = f)
      = if f.isNamedBy e.1 then some (f.mentionOf e) else none := by
  by_cases hnative : (e.1 == (f.nativeName : Scalar)) = true
  · have hmention : Mention.ofEntry? e = some ⟨f, .native, f.meaning .native e.2⟩ :=
      Mention.ofEntry?_of_key (Scalar.beq_text_iff.mp hnative)
    simp [hmention, isNamedBy, mentionOf, hnative]
  · by_cases hstable : (e.1 == (f.name : Scalar)) = true
    · have hmention : Mention.ofEntry? e = some ⟨f, .stable, f.meaning .stable e.2⟩ :=
        Mention.ofEntry?_of_key (Scalar.beq_text_iff.mp hstable)
      simp [hmention, isNamedBy, mentionOf, hnative, hstable]
    -- a mention of the field would have one of the two names as its key
    · have hother : f.isNamedBy e.1 = false := by simp [isNamedBy, hnative, hstable]
      rw [hother, if_neg Bool.false_ne_true, Option.filter_eq_none_iff]
      rintro ⟨g, s, v⟩ hm hfield
      obtain rfl : g = f := of_decide_eq_true hfield
      have hkey := Scalar.beq_text_iff.mpr (Mention.ofEntry?_eq_some_iff.mp hm).1
      cases s with
      | stable => exact hstable hkey
      | native => exact hnative hkey

end Field

namespace Properties

/-- The entries under the names of a field, in order. -/
def entriesOf (p : Properties) (f : Field) : List (Scalar × Value) :=
  p.toList.filter fun e => f.isNamedBy e.1

theorem filter_mentions (p : Properties) (f : Field) :
    p.mentions.filter (·.field = f) = (p.entriesOf f).map f.mentionOf := by
  rw [mentions, entriesOf, List.filter_filterMap, ← List.filterMap_eq_map, List.filterMap_filter]
  exact congrArg (List.filterMap · p.toList) (funext f.filter_ofEntry?)

/-- A field is given what its entries say in the end. -/
theorem givenIn_mentions (p : Properties) (f : Field) :
    givenIn p.mentions.reverse f = (f.said? (p.entriesOf f)).map (⟨f.name, ·⟩) := by
  rw [givenIn, ← List.head?_filter, List.filter_reverse, List.head?_reverse, filter_mentions,
    List.getLast?_map, Field.said?, Option.map_map, Option.map_map]
  rfl

/-- Something is wrong with what is said of the field, or with nothing being said. -/
def IsBad (p : Properties) (f : Field) : Prop :=
  ∃ problem, f.Fault (f.said? (p.entriesOf f)) problem

end Properties

/-! ## What is made of a configuration -/

/-- The errors of one field in a result. -/
def errorsOf (f : Field) : Except SnapshotError Snapshot → List FieldError
  | .error (.rejected r) => r.errors.filter (·.field = f)
  | _ => []

namespace Snapshot

open Properties

variable {p q : Properties} {s : Snapshot} {r : Rejection} {f : Field}

/-- A configuration without disputes is judged by what its fields are given. -/
theorem ofProperties_of_undisputed (h : ∀ f, ¬ p.IsDisputed f) :
    ofProperties p = (ofGiven (givenIn p.mentions.reverse)).mapError .rejected :=
  ofProperties_of_compatible (pairwise_compatible_iff_forall.mpr h)

theorem ofProperties_eq_ok_iff_of_undisputed (h : ∀ f, ¬ p.IsDisputed f) :
    ofProperties p = .ok s ↔ ofGiven (givenIn p.mentions.reverse) = .ok s := by
  rw [ofProperties_of_undisputed h, mapError_eq_ok_iff]

theorem ofProperties_eq_rejected_iff (h : ∀ f, ¬ p.IsDisputed f) :
    ofProperties p = .error (.rejected r) ↔ ofGiven (givenIn p.mentions.reverse) = .error r := by
  rw [ofProperties_of_undisputed h, mapError_eq_error_iff]
  simp only [SnapshotError.rejected.injEq, exists_eq_right]

/-- The errors of a configuration are what is wrong with its fields. -/
theorem mem_fieldErrors_givenIn_iff {e : FieldError} :
    e ∈ fieldErrors (givenIn p.mentions.reverse)
      ↔ e.location = e.field.name ∧ e.field.Fault (e.field.said? (p.entriesOf e.field)) e.problem := by
  rw [mem_fieldErrors_iff, givenIn_mentions, Field.judge_eq_error_iff]
  constructor
  · rintro ⟨problem, hfault, he⟩
    rw [he] at hfault ⊢
    exact ⟨rfl, hfault⟩
  · rintro ⟨hlocation, hfault⟩
    exact ⟨e.problem, hfault, by rw [← hlocation]⟩

/-- A field has an error exactly if it is bad. -/
theorem mem_map_fieldErrors_iff :
    f ∈ (fieldErrors (givenIn p.mentions.reverse)).map FieldError.field ↔ p.IsBad f := by
  rw [List.mem_map]
  constructor
  · rintro ⟨e, he, rfl⟩
    exact ⟨e.problem, (mem_fieldErrors_givenIn_iff.mp he).2⟩
  · rintro ⟨problem, hfault⟩
    exact ⟨⟨f, f.name, problem⟩, mem_fieldErrors_givenIn_iff.mpr ⟨rfl, hfault⟩, rfl⟩

theorem fieldErrors_eq_nil_iff_forall :
    fieldErrors (givenIn p.mentions.reverse) = [] ↔ ∀ f, ¬ p.IsBad f := by
  simp only [← mem_map_fieldErrors_iff, ← List.eq_nil_iff_forall_not_mem, List.map_eq_nil_iff]

/-- The errors of a field are what the field is judged to be by what it is given. -/
theorem errorsOf_ofProperties (h : ∀ f, ¬ p.IsDisputed f) (f : Field) :
    errorsOf f (ofProperties p) = errorOf (f.judge (givenIn p.mentions.reverse f)) := by
  rw [← filter_fieldErrors, ofProperties_of_undisputed h]
  cases hgiven : ofGiven (givenIn p.mentions.reverse) with
  | ok s =>
    rw [fieldErrors_eq_nil_iff.mpr ⟨s, hgiven⟩]
    rfl
  | error r =>
    rw [← errors_of_ofGiven_eq_error hgiven]
    rfl

/-- Fields are judged on their own, and all of them are. When no field is disputed, a configuration is
rejected exactly if some field is bad. The rejection has one error for every bad field, in the order
of the fields, and it says what is wrong with the field's own entries. What is said of a field, or what
it is read to, is the same in every other configuration with the same entries of that field. -/
theorem ofProperties_fieldwise (p : Properties) (h : ∀ f, ¬ p.IsDisputed f) :
    ((∃ r, ofProperties p = .error (.rejected r)) ↔ ∃ f, p.IsBad f)
    ∧ ((∃ s, ofProperties p = .ok s) ↔ ∀ f, ¬ p.IsBad f)
    ∧ (∀ r, ofProperties p = .error (.rejected r) →
      (r.errors.map FieldError.field).Sublist Field.all
      ∧ (∀ f, f ∈ r.errors.map FieldError.field ↔ p.IsBad f)
      ∧ ∀ e, e ∈ r.errors ↔ e.location = e.field.name
        ∧ e.field.Fault (e.field.said? (p.entriesOf e.field)) e.problem)
    ∧ ∀ q : Properties, (∀ f, ¬ q.IsDisputed f) → ∀ f, q.entriesOf f = p.entriesOf f →
      errorsOf f (ofProperties q) = errorsOf f (ofProperties p)
      ∧ ∀ s t, ofProperties p = .ok s → ofProperties q = .ok t → t.text f = s.text f := by
  have haccepted : (∃ s, ofProperties p = .ok s) ↔ ∀ f, ¬ p.IsBad f := by
    simp only [ofProperties_eq_ok_iff_of_undisputed h]
    rw [← fieldErrors_eq_nil_iff, fieldErrors_eq_nil_iff_forall]
  refine ⟨?_, haccepted, fun r hr => ?_, fun q hq f hentries => ?_⟩
  · constructor
    · rintro ⟨r, hr⟩
      by_contra hgood
      obtain ⟨s, hs⟩ := haccepted.mpr (not_exists.mp hgood)
      rw [hr] at hs
      cases hs
    · rintro ⟨f, hbad⟩
      cases hgiven : ofGiven (givenIn p.mentions.reverse) with
      | ok s =>
        have hs := (ofProperties_eq_ok_iff_of_undisputed h).mpr hgiven
        exact absurd hbad (haccepted.mp ⟨s, hs⟩ f)
      | error r => exact ⟨r, (ofProperties_eq_rejected_iff h).mpr hgiven⟩
  · rw [errors_of_ofGiven_eq_error ((ofProperties_eq_rejected_iff h).mp hr)]
    exact ⟨map_field_fieldErrors_sublist _, fun f => mem_map_fieldErrors_iff,
      fun e => mem_fieldErrors_givenIn_iff⟩
  -- a field sees nothing of another configuration but its own raw value
  · have hsame : givenIn q.mentions.reverse f = givenIn p.mentions.reverse f := by
      rw [givenIn_mentions, givenIn_mentions, hentries]
    refine ⟨by rw [errorsOf_ofProperties hq, errorsOf_ofProperties h, hsame], fun s t hs ht => ?_⟩
    have hp := ofGiven_eq_ok_iff.mp ((ofProperties_eq_ok_iff_of_undisputed h).mp hs) f
    have hq := ofGiven_eq_ok_iff.mp ((ofProperties_eq_ok_iff_of_undisputed hq).mp ht) f
    rw [hsame, hp] at hq
    exact (Option.some.inj hq).symm

/-- A format of blanks, a flag that is no word, an unknown codec under both names, and no bucket. -/
def faultySink : Properties :=
  .ofList [("format.class", .ofString " \t"), ("store-keys", .ofString "maybe"),
    ("compression-type", .ofString "lz4"), ("s3.compression.type", .ofString " LZ4")]

theorem ofProperties_faultySink :
    (∀ f, ¬ faultySink.IsDisputed f)
      ∧ (∃ r, ofProperties faultySink = .error (.rejected r))
      ∧ ∀ f, faultySink.IsBad f ↔ f ∈ [Field.dataFormat, .storeKeys, .compression, .bucket] := by
  have hsettled : (settleAll [] faultySink.mentions).toOption.isSome = true := by decide +kernel
  have herrors : (match ofProperties faultySink with
      | .error (.rejected r) => some (r.errors.map FieldError.field)
      | _ => none) = some [.dataFormat, .storeKeys, .compression, .bucket] := by
    decide +kernel
  have hundisputed : ∀ f, ¬ faultySink.IsDisputed f := by
    obtain ⟨out, hout⟩ := Option.isSome_iff_exists.mp hsettled
    exact pairwise_compatible_iff_forall.mp (settleAll_eq_ok_iff.mp (toOption_eq_some_iff.mp hout)).2
  obtain ⟨-, -, hrejected, -⟩ := ofProperties_fieldwise faultySink hundisputed
  split at herrors
  · next r hr =>
    refine ⟨hundisputed, ⟨r, hr⟩, fun f => ?_⟩
    rw [← (hrejected r hr).2.1 f, Option.some.inj herrors]
  · cases herrors

/-- An integer that does not fit into 64 bits is no flag. -/
theorem flagFault_of_fitsWord_eq_false {n : Int} (h : fitsWord n = false) :
    FlagFault (.scalar (.int n)) .notFlag := by
  have hzero : n ≠ 0 := by
    rintro rfl
    cases h
  have hone : n ≠ 1 := by
    rintro rfl
    cases h
  rw [← readFlag_eq_error_iff, readFlag, flagOfNumber, if_neg hzero, if_neg hone, h,
    if_neg Bool.false_ne_true]

/-- The flag is no truth value, and it is not contradicted, but there is no rejection. -/
theorem longFlag_no_rejection :
    (∀ (f : Field) v w, longFlag.get? (f.name : Scalar) = some v →
        longFlag.get? (f.nativeName : Scalar) = some w → v = w)
      ∧ (¬ ∃ c, ofProperties longFlag = .error (.conflict c))
      ∧ longFlag.IsBad .storeKeys
      ∧ ¬ ∃ r, ofProperties longFlag = .error (.rejected r) := by
  rw [ofProperties_longFlag]
  refine ⟨fun f v w hv hw => ?_, by simp, ⟨.notFlag, ?_⟩, by simp⟩
  · -- no other field is given twice
    cases f <;> cases hv
    cases hw
    rfl
  · have hsaid : Field.storeKeys.said? (longFlag.entriesOf .storeKeys)
        = some (.scalar (.int (Nat.pow 16 3600))) := rfl
    rw [hsaid]
    exact flagFault_of_fitsWord_eq_false (by decide +kernel)

end Snapshot

end SinkAudit
