import Mathlib.Data.List.Nodup
import SinkAudit.Proofs.OrderedMap
import SinkAudit.Snapshot.Resolution

/-!
# The entries behind mentions

An entry mentions a field if its key is one of the two names of the field. No key has two entries, so
a configuration mentions a field at most twice, once under each name.

What is compared and read of a configuration is its mentions, and a mention keeps its key as a text. The
statements about configurations speak of the values under given keys instead; here the one is turned into
the other.

- `Field.ofKey?_eq_some_iff`, `Field.spelled_inj`: names of fields are told apart.
- `Field.meaning`: what a value says under a name of a field.
- `Properties.mem_mentions_iff`: the mentions of a configuration, by the values of its keys.
- `Properties.nodup_keys_mentions`, `Properties.eq_of_mem_mentions`: no name is mentioned twice.
-/

namespace SinkAudit

/-! ## Keys -/

namespace Scalar

/-- Only a text is the same key as a text, and only if it is equal. -/
theorem beq_text_iff {a : Scalar} {t : Text} : (a == text t) = true ↔ a = text t := by
  show sameKey a (text t) = true ↔ _
  cases a <;> simp [sameKey, whole?]

/-- Two strings are the same key only if they are equal. -/
theorem beq_ofString {a b : String} : ((a : Scalar) == (b : Scalar)) = (a == b) := by
  show (Text.ofString a == Text.ofString b) = (a == b)
  rw [Bool.eq_iff_iff, beq_iff_eq, beq_iff_eq]
  exact Text.ofString_injective.eq_iff

end Scalar

namespace Field

variable {f g : Field} {s t : Spelling}

/-- A key stands for a field if it is one of the field's names. -/
theorem ofKey?_eq_some_iff {key : String} : ofKey? key = some (f, s) ↔ key = f.spelled s := by
  constructor
  · intro h
    unfold ofKey? at h
    cases hstable : all.find? (·.name == key) with
    | some g =>
      rw [hstable] at h
      cases h
      have hname := List.find?_some hstable
      exact (eq_of_beq hname).symm
    | none =>
      rw [hstable] at h
      obtain ⟨g, hnative, hg⟩ := Option.map_eq_some_iff.mp h
      cases hg
      have hname := List.find?_some hnative
      exact (eq_of_beq hname).symm
  · rintro rfl
    exact ofKey?_spelled f s

/-- The fourteen names differ. -/
theorem spelled_inj : f.spelled s = g.spelled t ↔ f = g ∧ s = t := by
  constructor
  · intro h
    have hkey := ofKey?_eq_some_iff.mpr h.symm
    rw [ofKey?_spelled] at hkey
    cases hkey
    exact ⟨rfl, rfl⟩
  · rintro ⟨rfl, rfl⟩
    rfl

/-- The stable names of two fields are different keys. -/
theorem name_beq_name_of_ne (h : f ≠ g) : ((f.name : Scalar) == (g.name : Scalar)) = false := by
  rw [Scalar.beq_ofString, beq_eq_false_iff_ne]
  exact fun hname => h (name_inj.mp hname)

/-- What a value says under a name of a field. Under the native name of a format, a class name of the
connector says the identifier of its format. -/
def meaning (f : Field) (s : Spelling) (v : Value) : Value :=
  if s = .native ∧ f.isFormat then translateClass v else v

end Field

/-! ## Entries and mentions -/

namespace Mention

variable {e : Scalar × Value} {m : Mention}

/-- An entry mentions a field if its key is a name of the field. -/
theorem ofEntry?_eq_some_iff :
    ofEntry? e = some m ↔ e.1 = (m.key : Scalar) ∧ m.value = m.field.meaning m.spelling e.2 := by
  obtain ⟨key, v⟩ := e
  constructor
  · intro h
    cases key with
    -- only a text that is a string can be the name of a field
    | text t =>
      obtain ⟨⟨f, s⟩, hname, rfl⟩ := Option.map_eq_some_iff.mp h
      obtain ⟨name, hstring, hkey⟩ := Option.bind_eq_some_iff.mp hname
      have ht : t = Text.ofString (f.spelled s) := by
        rw [Text.toString?_eq_some_iff.mp hstring, Field.ofKey?_eq_some_iff.mp hkey]
      exact ⟨congrArg Scalar.text ht, rfl⟩
    | _ => cases h
  · rintro ⟨rfl, hvalue⟩
    obtain ⟨f, s, w⟩ := m
    dsimp only at hvalue
    subst hvalue
    simp only [key, ofEntry?, Text.toString?_ofString, Option.bind_some, Field.ofKey?_spelled,
      Option.map_some]
    rfl

/-- An entry under a name of a field is a mention of it. -/
theorem ofEntry?_of_key {f : Field} {s : Spelling} (h : e.1 = (f.spelled s : Scalar)) :
    ofEntry? e = some ⟨f, s, f.meaning s e.2⟩ :=
  ofEntry?_eq_some_iff.mpr ⟨h, rfl⟩

theorem ofEntry?_stable (f : Field) (v : Value) :
    ofEntry? ((f.name : Scalar), v) = some ⟨f, .stable, v⟩ :=
  ofEntry?_of_key rfl

end Mention

namespace Properties

variable {p : Properties}

/-- The value of a key that is a text is what stands beside it. -/
theorem get?_text_eq_some_iff {t : Text} {v : Value} :
    p.get? (.text t) = some v ↔ (.text t, v) ∈ p.toList := by
  constructor
  · rw [OrderedMap.get?]
    -- a text equals no key of another type, so that the entry found has this very key
    induction p.toList with
    | nil => exact nofun
    | cons e rest ih =>
      obtain ⟨k, w⟩ := e
      rw [OrderedMap.lookup]
      intro h
      split at h
      · next hk =>
        cases h
        rw [Scalar.beq_text_iff.mp hk]
        exact List.mem_cons_self
      · exact List.mem_cons_of_mem _ (ih h)
  · exact OrderedMap.get?_of_mem (Scalar.beq_text_iff.mpr rfl)

/-- What a configuration mentions is what it gives under the names of fields. -/
theorem mem_mentions_iff {m : Mention} :
    m ∈ p.mentions
      ↔ ∃ v, p.get? (m.key : Scalar) = some v ∧ m.value = m.field.meaning m.spelling v := by
  rw [mentions, List.mem_filterMap]
  simp only [Mention.ofEntry?_eq_some_iff, get?_text_eq_some_iff]
  constructor
  · rintro ⟨⟨key, v⟩, he, rfl, hvalue⟩
    exact ⟨v, he, hvalue⟩
  · rintro ⟨v, he, hvalue⟩
    exact ⟨_, he, rfl, hvalue⟩

/-- No name is mentioned twice. -/
theorem nodup_keys_mentions (p : Properties) : (p.mentions.map Mention.key).Nodup := by
  rw [List.Nodup, List.pairwise_map, mentions, List.pairwise_filterMap]
  refine p.distinct.imp fun {e e'} hdiffer m hm m' hm' hkey => ?_
  have he := (Mention.ofEntry?_eq_some_iff.mp hm).1
  have he' := (Mention.ofEntry?_eq_some_iff.mp hm').1
  rw [he, he', hkey, Scalar.beq_ofString, beq_self_eq_true] at hdiffer
  cases hdiffer

/-- Mentions of one field under one name are the same. -/
theorem eq_of_mem_mentions {a b : Mention} (ha : a ∈ p.mentions) (hb : b ∈ p.mentions)
    (hfield : a.field = b.field) (hspelling : a.spelling = b.spelling) : a = b :=
  List.inj_on_of_nodup_map p.nodup_keys_mentions ha hb
    (Field.spelled_inj.mpr ⟨hfield, hspelling⟩)

end Properties

end SinkAudit
