import SinkAudit.Proofs.Snapshot.Mentions
import SinkAudit.Proofs.Snapshot.Resolution

/-!
# Snapshots as configurations

A snapshot written as a configuration is read back as itself. Its entries are the stable names
with texts, one for each field, so that no two mentions are compared and no class name is
translated.

`to_properties` is what a JSON report carries, what is stored and what is compared, so it has to be
faithful: nothing of a snapshot may be lost in it, and two snapshots may look alike in it only if they are
the same. That it can be read back is less plain than it seems, because reading trims, folds case and
translates class names. What saves it is that a snapshot carries the proofs of its own well-formedness
(`Snapshot`): its identifiers are trimmed and not empty, and its codec is a member of a list.

- `Snapshot.toList_toProperties`: the entries, in report order.
- `Snapshot.mentions_toProperties`: each of them mentions its own field, under the stable name.
- `Snapshot.toProperties_faithful`: the round trip, and what it says of snapshots with equal
  entries.
-/

namespace SinkAudit

open Mention

/-- The stable names of the fields are different keys. -/
theorem Field.pairwise_name (v : Field → Value) :
    (Field.all.map fun f => ((f.name : Scalar), v f)).Pairwise OrderedMap.KeysDiffer := by
  rw [List.pairwise_map]
  exact Field.pairwise_all.imp Field.name_beq_name_of_ne

namespace Snapshot

variable (s : Snapshot)

/-- The entry of a field. -/
def entry (f : Field) : Scalar × Value := ((f.name : Scalar), .ofString (s.text f))

/-- The mention that the entry of a field is. -/
def mention (f : Field) : Mention := ⟨f, .stable, .ofString (s.text f)⟩

theorem pairwise_entry : (Field.all.map s.entry).Pairwise OrderedMap.KeysDiffer :=
  Field.pairwise_name fun f => .ofString (s.text f)

/-- The entries of a snapshot, in report order. -/
@[simp] theorem toList_toProperties : s.toProperties.toList = Field.all.map s.entry := by
  have hentries : s.toEntries.map (fun e => ((e.1 : Scalar), Value.ofString e.2))
      = Field.all.map s.entry := by
    rw [toEntries, List.map_map]
    rfl
  rw [toProperties, hentries, OrderedMap.toList_ofList s.pairwise_entry]

/-- Under a stable name a value stands for itself. -/
theorem ofEntry?_entry (f : Field) : Mention.ofEntry? (s.entry f) = some (s.mention f) :=
  Mention.ofEntry?_stable f _

/-- Every field is mentioned once, under its stable name. -/
theorem mentions_toProperties : s.toProperties.mentions = Field.all.map s.mention := by
  have hentry : Mention.ofEntry? ∘ s.entry = some ∘ s.mention := funext s.ofEntry?_entry
  rw [Properties.mentions, toList_toProperties, List.filterMap_map, hentry, List.filterMap_eq_map]

theorem nodup_fields_mention : ((Field.all.map s.mention).map Mention.field).Nodup := by
  rw [List.map_map]
  show (Field.all.map id).Nodup
  rw [List.map_id]
  exact Field.pairwise_all

theorem mentionedText?_mention (f : Field) :
    mentionedText? (Field.all.map s.mention) f = some (s.text f) := by
  have hlast : lastMention? (Field.all.map s.mention) f = some (s.mention f) :=
    (lastMention?_eq_some_iff s.nodup_fields_mention).mpr ⟨List.mem_map_of_mem f.mem_all, rfl⟩
  rw [mentionedText?, hlast]
  exact s.reading?_text f

/-- A snapshot written as a configuration is read back as itself. -/
theorem ofProperties_toProperties : ofProperties s.toProperties = .ok s := by
  rw [ofProperties_eq_ok_iff, mentions_toProperties]
  exact ⟨pairwise_compatible_of_nodup s.nodup_fields_mention, s.mentionedText?_mention⟩

/-- The value that the configuration of a snapshot gives the stable name of a field. -/
theorem get?_toProperties (f : Field) :
    s.toProperties.get? (f.name : Scalar) = some (.ofString (s.text f)) := by
  refine OrderedMap.get?_of_mem ?_ ?_
  · rw [Scalar.beq_ofString, beq_self_eq_true]
  · rw [toList_toProperties]
    exact List.mem_map_of_mem (f := s.entry) f.mem_all

/-- Snapshots whose configurations give every key the same value are equal. -/
theorem eq_of_get?_toProperties {s t : Snapshot}
    (h : ∀ k, t.toProperties.get? k = s.toProperties.get? k) : t = s := by
  refine ext_text fun f => ?_
  have hvalue := h (f.name : Scalar)
  rw [get?_toProperties, get?_toProperties] at hvalue
  have htext : Text.ofString (t.text f) = Text.ofString (s.text f) := by
    injection hvalue with hvalue
    injection hvalue with hvalue
    injection hvalue
  exact Text.ofString_injective htext

/-- The configuration of a snapshot names every field once, under its stable name and in report
order. It is read back as the snapshot, and two snapshots whose configurations give every key the
same value are the same. -/
theorem toProperties_faithful (s : Snapshot) :
    s.toProperties.keys = Field.all.map (fun f => (f.name : Scalar))
      ∧ ofProperties s.toProperties = .ok s
      ∧ ∀ t : Snapshot,
          (∀ k, t.toProperties.get? k = s.toProperties.get? k) ↔ t = s := by
  refine ⟨?_, s.ofProperties_toProperties, fun t => ⟨eq_of_get?_toProperties, ?_⟩⟩
  · rw [OrderedMap.keys, toList_toProperties, List.map_map]
    rfl
  · rintro rfl k
    rfl

end Snapshot

end SinkAudit
