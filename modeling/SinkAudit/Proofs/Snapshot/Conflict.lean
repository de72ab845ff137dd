import SinkAudit.Failure
import SinkAudit.Proofs.Snapshot.Mentions
import SinkAudit.Proofs.Snapshot.Resolution

/-!
# Conflicts

Before anything is read, the mentions of a configuration are compared one by one. The first that does
not agree with an earlier one of its field ends the comparison. There is a conflict then, unless one
of the two values cannot be written: it has no normal form, and that is the error.

A conflict is found before anything else is looked at. A bad codec, a missing bucket or an empty name is
not reported beside it, and which of several conflicts is reported depends on the order of the entries
alone. `FirstDispute` says which one without running the comparison: the first mention that does not agree
with an earlier one, and that earlier one, which is the only mention of its field before it.

- `settle_eq_error_iff`, `settleAll_eq_error_iff`: where the comparison ends, and with which error.
- `Properties.FirstDispute`: the first mention that does not agree with an earlier one.
- `Properties.IsDisputed`: a field under whose two names different things are said.
- `Properties.settleAll_mentions_eq_error_iff`, `Properties.exists_firstDispute_iff`: the comparison
  ends at the first dispute, and there is one exactly if a field is disputed.
- `Snapshot.ofProperties_disputed`: when there is a conflict, and which one.
- `Snapshot.ofProperties_longFlag`: a field that is given twice by a number that is too long.

A set lists its members in an order that is the host's (`SetOrder`). The order is a parameter of reading a
file, so that a `Properties` holds its sets listed already, and what is said here holds for every order.
-/

namespace SinkAudit

open Mention

/-! ## Where the comparison ends -/

namespace Conflict

/-- Can both values be written? -/
def IsWritten (c : Conflict) : Prop :=
  c.earlier.value.isTooLong = false ∧ c.later.value.isTooLong = false

instance (c : Conflict) : Decidable c.IsWritten := inferInstanceAs (Decidable (_ ∧ _))

/-- What the comparison of the two ends with. -/
def error (c : Conflict) : SnapshotError := if c.IsWritten then .conflict c else .longValue

theorem error_eq_conflict_iff {c d : Conflict} : c.error = .conflict d ↔ c.IsWritten ∧ c = d := by
  unfold error
  split <;> simp [*]

theorem error_eq_longValue_iff {c : Conflict} : c.error = .longValue ↔ ¬ c.IsWritten := by
  unfold error
  split <;> simp [*]

end Conflict

/-- A mention is not added if it does not agree with the one of its field that was seen last. -/
theorem settle_eq_error_iff {seen : List Mention} {m : Mention} {e : SnapshotError} :
    settle seen m = .error e ↔
      ∃ a, seen.find? (·.field = m.field) = some a ∧ ¬ a.Agrees m
        ∧ (Conflict.mk a m).error = e := by
  unfold settle
  -- values that are too long come first: they have no normal form to be compared
  cases hfind : seen.find? (·.field = m.field) with
  | none => simp
  | some a =>
    simp only [Option.some.injEq, exists_eq_left']
    by_cases hlong : (a.value.isTooLong || m.value.isTooLong) = true
    · have hwritten : ¬ (Conflict.mk a m).IsWritten := by
        rintro ⟨ha, hm⟩
        rw [ha, hm] at hlong
        cases hlong
      have hdispute : ¬ a.Agrees m := fun h => hwritten ⟨h.1, h.2.1⟩
      rw [if_pos hlong, Conflict.error, if_neg hwritten]
      simp [hdispute]
    · have hwritten : (Conflict.mk a m).IsWritten := by simpa [Conflict.IsWritten] using hlong
      rw [if_neg hlong, Conflict.error, if_pos hwritten]
      by_cases hform : a.normalForm = m.normalForm
      · have hagrees : a.Agrees m := ⟨hwritten.1, hwritten.2, hform⟩
        simp [hform, hagrees]
      · have hdispute : ¬ a.Agrees m := fun h => hform h.2.2
        simp [hform, hdispute]

/-- The comparison ends with the first mention that is not added, and what follows is not looked
at. -/
theorem settleAll_eq_error_iff {ms : List Mention} {e : SnapshotError} :
    ∀ {seen : List Mention}, settleAll seen ms = .error e ↔
      ∃ before m after out, ms = before ++ m :: after
        ∧ settleAll seen before = .ok out ∧ settle out m = .error e := by
  induction ms with
  | nil => simp [settleAll]
  | cons m rest ih =>
    intro seen
    rw [settleAll]
    -- either the comparison ends here, with nothing before it, or it goes on with one more mention
    cases hsettle : settle seen m with
    | error e' =>
      constructor
      · intro h
        cases h
        exact ⟨[], m, rest, seen, rfl, rfl, hsettle⟩
      · rintro ⟨before, m', after, out, hms, hbefore, hm'⟩
        cases before with
        | nil =>
          cases hms
          cases hbefore
          rw [hsettle] at hm'
          exact hm'
        | cons b before =>
          cases hms
          rw [settleAll, hsettle] at hbefore
          cases hbefore
    | ok seen' =>
      dsimp only
      rw [ih]
      constructor
      · rintro ⟨before, m', after, out, rfl, hbefore, hm'⟩
        refine ⟨m :: before, m', after, out, rfl, ?_, hm'⟩
        rw [settleAll, hsettle]
        exact hbefore
      · rintro ⟨before, m', after, out, hms, hbefore, hm'⟩
        cases before with
        | nil =>
          cases hms
          cases hbefore
          rw [hsettle] at hm'
          cases hm'
        | cons b before =>
          cases hms
          rw [settleAll, hsettle] at hbefore
          exact ⟨before, m', after, out, rfl, hbefore, hm'⟩

/-! ## Disputes -/

namespace Properties

variable {p : Properties}

/-- The later mention is the first in the configuration that does not agree with an earlier one of its
field, and that is the earlier mention. -/
def FirstDispute (p : Properties) (c : Conflict) : Prop :=
  ∃ before after, p.mentions = before ++ c.later :: after ∧ before.Pairwise Compatible
    ∧ c.earlier ∈ before ∧ c.earlier.field = c.later.field ∧ ¬ c.earlier.Agrees c.later

/-- The field is given under both of its names, and what is said under the one does not agree with
what is said under the other: the normal forms differ, or a value cannot be written. -/
def IsDisputed (p : Properties) (f : Field) : Prop :=
  ∃ v w, p.get? (f.name : Scalar) = some v ∧ p.get? (f.nativeName : Scalar) = some w
    ∧ ¬ (Mention.mk f .stable v).Agrees ⟨f, .native, f.meaning .native w⟩

/-- A mention before another one of its field is under the other name. -/
theorem spelling_ne_of_before {before after : List Mention} {a m : Mention}
    (h : p.mentions = before ++ m :: after) (ha : a ∈ before) (hfield : a.field = m.field) :
    a.spelling ≠ m.spelling := by
  intro hspelling
  have hkeys := p.nodup_keys_mentions
  rw [h, List.map_append] at hkeys
  have hkey : a.key = m.key := Field.spelled_inj.mpr ⟨hfield, hspelling⟩
  refine List.disjoint_of_nodup_append hkeys (List.mem_map_of_mem ha) ?_
  rw [hkey]
  exact List.mem_map_of_mem List.mem_cons_self

/-- Before a mention stands at most one other of its field. -/
theorem eq_of_before {before after : List Mention} {a b m : Mention}
    (h : p.mentions = before ++ m :: after) (ha : a ∈ before) (hb : b ∈ before)
    (hafield : a.field = m.field) (hbfield : b.field = m.field) : a = b := by
  have hmem : ∀ {x}, x ∈ before → x ∈ p.mentions := fun hx => h ▸ List.mem_append_left _ hx
  have haspelling := spelling_ne_of_before h ha hafield
  have hbspelling := spelling_ne_of_before h hb hbfield
  refine eq_of_mem_mentions (hmem ha) (hmem hb) (hafield.trans hbfield.symm) ?_
  -- there are only two names
  cases hm : m.spelling <;> cases has : a.spelling <;> cases hbs : b.spelling <;> simp_all

/-- The comparison of a configuration's mentions ends with the first dispute. -/
theorem settleAll_mentions_eq_error_iff {e : SnapshotError} :
    settleAll [] p.mentions = .error e ↔ ∃ c, p.FirstDispute c ∧ c.error = e := by
  rw [settleAll_eq_error_iff]
  constructor
  · rintro ⟨before, m, after, out, hms, hbefore, hm⟩
    obtain ⟨rfl, hcompat⟩ := settleAll_eq_ok_iff.mp hbefore
    obtain ⟨a, hfind, hdispute, herror⟩ := settle_eq_error_iff.mp hm
    obtain ⟨ha, hfield⟩ := mem_of_lastMention? hfind
    exact ⟨⟨a, m⟩, ⟨before, after, hms, hcompat, ha, hfield, hdispute⟩, herror⟩
  · rintro ⟨⟨a, m⟩, ⟨before, after, hms, hcompat, ha, hfield, hdispute⟩, herror⟩
    -- a field is mentioned twice at most, so that the earlier mention is the last one before
    have hfind : lastMention? ([] ++ before) a.field = some a :=
      lastMention?_append ha fun b hb hbfield =>
        eq_of_before hms hb ha (hbfield.trans hfield) hfield
    refine ⟨before, m, after, before.reverse, hms, settleAll_eq_ok_iff.mpr ⟨rfl, hcompat⟩, ?_⟩
    exact settle_eq_error_iff.mpr ⟨a, hfield ▸ hfind, hdispute, herror⟩

/-- Mentions are compatible exactly if no field is disputed. -/
theorem pairwise_compatible_iff_forall :
    p.mentions.Pairwise Compatible ↔ ∀ f, ¬ p.IsDisputed f := by
  -- two mentions of a field are under its two names, for no name is mentioned twice
  constructor
  · rintro hcompat f ⟨v, w, hv, hw, hdispute⟩
    have hstable : (⟨f, .stable, v⟩ : Mention) ∈ p.mentions :=
      mem_mentions_iff.mpr ⟨v, hv, rfl⟩
    have hnative : (⟨f, .native, f.meaning .native w⟩ : Mention) ∈ p.mentions :=
      mem_mentions_iff.mpr ⟨w, hw, rfl⟩
    exact hdispute (hcompat.forall hstable hnative (by simp) rfl)
  · intro hnone
    refine (List.pairwise_map.mp p.nodup_keys_mentions).imp_of_mem ?_
    rintro ⟨f, s, v⟩ ⟨g, t, w⟩ ha hb hkey (rfl : f = g)
    obtain ⟨v', hv', hv⟩ : ∃ v', p.get? (f.spelled s : Scalar) = some v' ∧ v = f.meaning s v' :=
      mem_mentions_iff.mp ha
    obtain ⟨w', hw', hw⟩ : ∃ w', p.get? (f.spelled t : Scalar) = some w' ∧ w = f.meaning t w' :=
      mem_mentions_iff.mp hb
    subst hv hw
    by_contra hdispute
    cases s <;> cases t
    · exact hkey rfl
    · exact hnone f ⟨v', w', hv', hw', hdispute⟩
    · exact hnone f ⟨w', v', hw', hv', fun h => hdispute h.symm⟩
    · exact hkey rfl

/-- There is a first dispute exactly if a field is disputed. -/
theorem exists_firstDispute_iff : (∃ c, p.FirstDispute c) ↔ ∃ f, p.IsDisputed f := by
  -- the loop ends with an error exactly if two mentions contradict each other
  have hends : (∃ c, p.FirstDispute c) ↔ ¬ p.mentions.Pairwise Compatible := by
    constructor
    · rintro ⟨c, hc⟩ hcompat
      have herror := settleAll_mentions_eq_error_iff.mpr ⟨c, hc, rfl⟩
      rw [settleAll_eq_ok_iff.mpr ⟨rfl, hcompat⟩] at herror
      cases herror
    · intro hcompat
      cases hsettle : settleAll [] p.mentions with
      | ok out => exact absurd (settleAll_eq_ok_iff.mp hsettle).2 hcompat
      | error e =>
        obtain ⟨c, hc, -⟩ := settleAll_mentions_eq_error_iff.mp hsettle
        exact ⟨c, hc⟩
  rw [hends, pairwise_compatible_iff_forall, not_forall]
  simp only [not_not]

end Properties

namespace Snapshot

variable {p : Properties}

/-- Only the comparison ends with anything but a rejection. -/
theorem ofProperties_eq_error_iff {e : SnapshotError} (h : ∀ r, e ≠ .rejected r) :
    ofProperties p = .error e ↔ settleAll [] p.mentions = .error e := by
  unfold ofProperties
  -- after the loop there are only rejections, which are excluded
  cases settleAll [] p.mentions with
  | error e' =>
    dsimp only
    rw [Except.error.injEq, Except.error.injEq]
  | ok out =>
    refine iff_of_false (fun hread => ?_) nofun
    dsimp only at hread
    split at hread
    · cases hread
    · next r _ =>
      cases hread
      exact h r rfl

/-- The comparison of a configuration's fields. There is something to report exactly if a field is
disputed, and then it is the first dispute, whatever else is wrong with the configuration. If both
values can be written it is a conflict, and the message names the field, the two keys and the two
values in the order in which they stand; if not, it is that a value is too long. -/
theorem ofProperties_disputed (p : Properties) :
    ((∃ c, p.FirstDispute c) ↔ ∃ f, p.IsDisputed f)
    ∧ (∀ c, ofProperties p = .error (.conflict c) ↔ p.FirstDispute c ∧ c.IsWritten)
    ∧ (ofProperties p = .error .longValue ↔ ∃ c, p.FirstDispute c ∧ ¬ c.IsWritten)
    ∧ ∀ c : Conflict, (Failure.snapshot (.conflict c)).kind = .invalidValue
      ∧ (Failure.snapshot (.conflict c)).message
        = Text.ofString ("Conflicting values for " ++ c.later.field.name ++ ": "
          ++ (c.earlier.key ++ "=" ++ c.earlier.value.literal) ++ ", "
          ++ (c.later.key ++ "=" ++ c.later.value.literal)) := by
  refine ⟨Properties.exists_firstDispute_iff, fun c => ?_, ?_, fun c => ⟨rfl, rfl⟩⟩
  · rw [ofProperties_eq_error_iff (by simp), Properties.settleAll_mentions_eq_error_iff]
    simp only [Conflict.error_eq_conflict_iff]
    constructor
    · rintro ⟨d, hd, hwritten, rfl⟩
      exact ⟨hd, hwritten⟩
    · rintro ⟨hc, hwritten⟩
      exact ⟨c, hc, hwritten, rfl⟩
  · rw [ofProperties_eq_error_iff (by simp), Properties.settleAll_mentions_eq_error_iff]
    simp only [Conflict.error_eq_longValue_iff]

/-- A flag that is given twice, by a number that is too long to be written, before a format that is
given twice. -/
def longFlagTwice : Properties :=
  .ofList [("store-keys", .scalar (.int (Nat.pow 16 3600))),
    ("store.kafka.keys", .scalar (.int (Nat.pow 16 3600))),
    ("format.class", .ofString "json"), ("data-format-class", .ofString "avro"),
    ("s3.bucket.name", .ofString "b")]

/-- The two formats contradict each other, but no conflict is reported. -/
theorem longFlagTwice_no_conflict :
    (∃ f v w, longFlagTwice.get? (f.name : Scalar) = some v
        ∧ longFlagTwice.get? (f.nativeName : Scalar) = some w
        ∧ (Mention.mk f .stable v).normalForm
          ≠ (Mention.mk f .native (f.meaning .native w)).normalForm)
      ∧ ¬ ∃ c, ofProperties longFlagTwice = .error (.conflict c) := by
  constructor
  · refine ⟨.dataFormat, .ofString "avro", .ofString "json", rfl, rfl, ?_⟩
    decide +kernel
  · have hlong : (match ofProperties longFlagTwice with
        | .error .longValue => true
        | _ => false) = true := by
      decide +kernel
    rintro ⟨c, hc⟩
    rw [hc] at hlong
    cases hlong

/-- A flag that is given twice, by a number that is too long to be written, and no other fault. -/
def longFlag : Properties :=
  .ofList [("store-keys", .scalar (.int (Nat.pow 16 3600))),
    ("store.kafka.keys", .scalar (.int (Nat.pow 16 3600))),
    ("format.class", .ofString "json"), ("s3.bucket.name", .ofString "b")]

theorem ofProperties_longFlag : ofProperties longFlag = .error .longValue := by
  have hlong : ∀ x : Except SnapshotError Snapshot, (match x with
      | .error .longValue => true
      | _ => false) = true → x = .error .longValue := by
    intro x hx
    split at hx
    · rfl
    · cases hx
  refine hlong _ ?_
  decide +kernel

end Snapshot

end SinkAudit
