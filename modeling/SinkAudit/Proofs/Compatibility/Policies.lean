import SinkAudit.Proofs.Compatibility
import SinkAudit.Proofs.Policy
import SinkAudit.Snapshot.Coercion

/-!
# Violations under several policies

The texts of the messages and the order of the fields change with the policy, so the violations under
two policies are compared by the roles that fail. The more formats are safe, the fewer roles fail.

A maintainer who adds a safe format expects that no configuration gets worse by it. That is what
monotonicity says, field by field and for the counts. The intersection of two policies is a policy only if
they share a format, as a policy without formats cannot be made; in the result its existence is a
conclusion and not an assumption.

- `failingRoles_sublist_of_subset`: the roles that fail under a policy fail under every smaller one.
- `length_messagesFor_evaluate_le_of_subset`: more safe formats leave no field more messages.
- `isValid_evaluate_common_iff`: what is valid under the formats that two policies share.
- `evaluate_policies`: all of this, and what it says of invalid fields and validity.
-/

namespace SinkAudit

open Outcome

variable {p q common : Policy} {s : Snapshot}

/-! ## More safe formats -/

/-- A role that fails under a policy fails under every policy that it contains. -/
theorem Snapshot.fails_of_subset (h : ∀ format ∈ p.formats, format ∈ q.formats) {r : Role}
    (hfails : s.fails q r = true) : s.fails p r = true := by
  rw [Snapshot.fails, Bool.and_eq_true, Bool.not_eq_true'] at hfails ⊢
  refine ⟨hfails.1, ?_⟩
  by_contra hsafe
  rw [Bool.not_eq_false, Policy.isSafe_iff] at hsafe
  have hlarger : q.isSafe (s.format r) = true := Policy.isSafe_iff.mpr (h _ hsafe)
  rw [hfails.2] at hlarger
  cases hlarger

/-- The roles that fail under a policy are, in order, among those that fail under a smaller one. -/
theorem failingRoles_sublist_of_subset (h : ∀ format ∈ p.formats, format ∈ q.formats)
    (s : Snapshot) : (failingRoles q s).Sublist (failingRoles p s) := by
  unfold failingRoles
  cases s.codec with
  | none => exact List.nil_sublist _
  | gzip => exact List.monotone_filter_right _ fun r => s.fails_of_subset h

/-- More safe formats leave no field more messages. -/
theorem length_messagesFor_evaluate_le_of_subset (h : ∀ format ∈ p.formats, format ∈ q.formats)
    (s : Snapshot) (field : String) :
    ((evaluate q s).messagesFor field).length ≤ ((evaluate p s).messagesFor field).length := by
  rcases (isAboutFields_evaluate q s).name_or_none field with ⟨f, rfl⟩ | hnone
  · rw [messagesFor_evaluate, messagesFor_evaluate, List.length_map, List.length_map]
    exact ((failingRoles_sublist_of_subset h s).filter _).length_le
  · rw [hnone]
    exact Nat.zero_le _

/-- More safe formats leave no other field invalid. -/
theorem invalidFields_evaluate_subset (h : ∀ format ∈ p.formats, format ∈ q.formats)
    (s : Snapshot) : (evaluate q s).invalidFields ⊆ (evaluate p s).invalidFields := by
  intro field hfield
  rw [mem_invalidFields_iff, ← List.length_pos_iff] at hfield ⊢
  exact Nat.lt_of_lt_of_le hfield (length_messagesFor_evaluate_le_of_subset h s field)

/-! ## Shared formats -/

/-- A role fails under no policy exactly if it fails neither under the one nor under the other. -/
theorem isValid_evaluate_common_iff
    (h : ∀ format, common.isSafe format = true ↔ p.isSafe format = true ∧ q.isSafe format = true) :
    (evaluate common s).isValid = true
      ↔ (evaluate p s).isValid = true ∧ (evaluate q s).isValid = true := by
  simp only [isValid_evaluate_iff, failingRoles_eq_nil_iff, h]
  constructor
  · rintro (hcodec | hsafe)
    · exact ⟨.inl hcodec, .inl hcodec⟩
    · exact ⟨.inr fun r hr => (hsafe r hr).1, .inr fun r hr => (hsafe r hr).2⟩
  · rintro ⟨hcodec | hp, hq⟩
    · exact .inl hcodec
    · exact hq.imp_right fun hq r hr => ⟨hp r hr, hq r hr⟩

/-- Policies that share a format have a policy of the formats that they share. -/
theorem Policy.exists_common (h : ∃ format ∈ p.formats, format ∈ q.formats) :
    ∃ common, Policy.ofSet? (p.formats.filter (· ∈ q.formats)) = some common
      ∧ ∀ format, common.isSafe format = true ↔ p.isSafe format = true ∧ q.isSafe format = true := by
  obtain ⟨format, hp, hq⟩ := h
  have hshared : format ∈ p.formats.filter (· ∈ q.formats) :=
    List.mem_filter.mpr ⟨hp, decide_eq_true hq⟩
  cases hcommon : Policy.ofSet? (p.formats.filter (· ∈ q.formats)) with
  | none =>
    rw [Policy.ofSet?_eq_none_iff.mp hcommon] at hshared
    cases hshared
  | some common =>
    refine ⟨common, rfl, fun format => ?_⟩
    rw [Policy.isSafe_of_ofSet? hcommon, List.mem_filter, decide_eq_true_iff, Policy.isSafe_iff,
      Policy.isSafe_iff]

/-- More safe formats never add a violation: no field has more messages, no other field is invalid,
and what is valid stays valid. If two policies share a format, then what is valid under the formats
that they share is what is valid under both. -/
theorem evaluate_policies (p q : Policy) (s : Snapshot) :
    ((∀ format ∈ p.formats, format ∈ q.formats) →
      (∀ field, ((evaluate q s).messagesFor field).length
          ≤ ((evaluate p s).messagesFor field).length)
        ∧ (evaluate q s).invalidFields ⊆ (evaluate p s).invalidFields
        ∧ ((evaluate p s).isValid = true → (evaluate q s).isValid = true))
    ∧ ((∃ format ∈ p.formats, format ∈ q.formats) →
      ∃ common, Policy.ofSet? (p.formats.filter (· ∈ q.formats)) = some common
        ∧ ((evaluate common s).isValid = true
          ↔ (evaluate p s).isValid = true ∧ (evaluate q s).isValid = true)) := by
  refine ⟨fun h => ⟨length_messagesFor_evaluate_le_of_subset h s,
    invalidFields_evaluate_subset h s, fun hvalid => ?_⟩, fun h => ?_⟩
  -- valid means that no role fails, and under the larger policy no other roles fail
  · rw [isValid_evaluate_iff] at hvalid ⊢
    exact List.sublist_nil.mp (hvalid ▸ failingRoles_sublist_of_subset h s)
  · obtain ⟨common, hcommon, hsafe⟩ := Policy.exists_common h
    exact ⟨common, hcommon, isValid_evaluate_common_iff hsafe⟩

/-- Nothing but JSON is safe. -/
def jsonOnly : Policy := ⟨["json"], by decide, by decide⟩

/-- Compressed records in Avro, with keys as byte arrays. -/
def keyedSink : Snapshot where
  dataFormat := .avro
  storeKeys := true
  keysFormat := ⟨"bytearray", by decide, by decide⟩
  storeHeaders := false
  headersFormat := .avro
  codec := .gzip
  bucket := ⟨"b", by decide, by decide⟩

theorem evaluate_keyedSink :
    (∀ format ∈ jsonOnly.formats, format ∈ Policy.default.formats)
      ∧ (∃ format ∈ jsonOnly.formats, format ∈ Policy.default.formats)
      ∧ (evaluate jsonOnly keyedSink).violationCount = 5
      ∧ (evaluate .default keyedSink).invalidFields ⊆ (evaluate jsonOnly keyedSink).invalidFields
      ∧ ∃ common, Policy.ofSet? (jsonOnly.formats.filter (· ∈ Policy.default.formats)) = some common
        ∧ ((evaluate common keyedSink).isValid = true ↔ (evaluate jsonOnly keyedSink).isValid = true
          ∧ (evaluate .default keyedSink).isValid = true) := by
  have hsubset : ∀ format ∈ jsonOnly.formats, format ∈ Policy.default.formats := by decide
  have hshared : ∃ format ∈ jsonOnly.formats, format ∈ Policy.default.formats := by decide
  obtain ⟨hlarger, hcommon⟩ := evaluate_policies jsonOnly .default keyedSink
  exact ⟨hsubset, hshared, by decide +kernel, (hlarger hsubset).2.1, hcommon hshared⟩

end SinkAudit
