import SinkAudit.Proofs.Snapshot.Mentions
import SinkAudit.Proofs.Snapshot.Resolution

/-!
# Configurations under stable names

Both vocabularies say the same. A configuration that names every field at most once may be restated
under the stable names alone, with the identifiers of formats in the place of the connector's class
names, without what names no field, and in any order.

The connector's own configuration uses the native keys and names classes; an audit's own uses stable names
and identifiers. `identifierOf` reads the translation off the list of the formats and their classes
(`FORMAT_CLASS_ALIASES`), so that the result is about that list, and not about the function which translates.

That each field is named once is a hypothesis. With two names for one field the configuration may be in
dispute, and the restated one could not have both entries, as its keys are the stable names.

- `identifierOf`: what a value under the native name of a format says, read off the list of classes.
- `restate?`, `Properties.restated`: an entry, and all entries, under stable names.
- `restate?_eq_map`: what is restated is what is mentioned.
- `Properties.NamesOnce`, `Properties.nodup_fields_mentions`: no field is named twice.
- `Snapshot.ofProperties_restated`: what is restated is the same snapshot, or is rejected for the same
  problems.
-/

namespace SinkAudit

open Mention

/-! ## Entries under stable names -/

/-- What a value says as a format of the connector's: the identifier beside its text in the list of format
classes, if the text without the blanks around it is there, and otherwise the value itself. -/
def identifierOf (v : Value) : Value :=
  match (v.text?.bind fun t => (Text.strip t).toString?).bind (formatClasses.lookup ·) with
  | some identifier => .ofString identifier
  | none => v

/-- To look a text up in a list of pairs is to find the first pair that begins with it. -/
theorem find?_ofString_eq_lookup (s : String) (pairs : List (String × String)) :
    (pairs.find? fun c => Text.ofString s == Text.ofString c.1).map Prod.snd = pairs.lookup s := by
  induction pairs with
  | nil => rfl
  | cons c rest ih =>
    by_cases hname : s = c.1
    · have htext : (Text.ofString s == Text.ofString c.1) = true := beq_iff_eq.mpr (hname ▸ rfl)
      rw [List.find?_cons, htext, List.lookup_cons, beq_iff_eq.mpr hname]
      rfl
    · have htext : (Text.ofString s == Text.ofString c.1) = false :=
        beq_false_of_ne fun h => hname (Text.ofString_injective h)
      rw [List.find?_cons, htext, List.lookup_cons, beq_false_of_ne hname]
      exact ih

/-- Class names are translated to their identifiers, and nothing else is. -/
theorem translateClass_eq_identifierOf (v : Value) : translateClass v = identifierOf v := by
  unfold translateClass identifierOf
  cases htext : v.text? with
  | none => rfl
  | some t =>
    rw [Option.bind_some]
    dsimp only
    cases hstring : (Text.strip t).toString? with
    -- a text with a lone surrogate names no class
    | none =>
      have hnone : (formatClasses.find? fun c => Text.strip t == Text.ofString c.1) = none := by
        rw [List.find?_eq_none]
        intro c _ hname
        rw [beq_iff_eq.mp hname, Text.toString?_ofString] at hstring
        cases hstring
      rw [hnone]
      rfl
    | some s =>
      rw [Option.bind_some, Text.toString?_eq_some_iff.mp hstring, ← find?_ofString_eq_lookup]
      cases formatClasses.find? fun c => Text.ofString s == Text.ofString c.1 <;> rfl

/-- An entry under the stable name of the field that it names. Under the native name of a format, a
class name of the connector is replaced by the identifier of its format. An entry that names no field
is left out, whatever its key is. -/
def restate? (e : Scalar × Value) : Option (Scalar × Value) :=
  Field.all.findSome? fun f =>
    if e.1 == (f.name : Scalar) then some ((f.name : Scalar), e.2)
    else if e.1 == (f.nativeName : Scalar) then
      some ((f.name : Scalar), if f.isFormat then identifierOf e.2 else e.2)
    else none

/-- The entry under a stable name that says what a mention says. -/
def Mention.entry (m : Mention) : Scalar × Value := ((m.field.name : Scalar), m.value)

/-- The mention that says the same under the stable name. -/
def Mention.restated (m : Mention) : Mention := { m with spelling := .stable }

/-- What is restated is what is mentioned. -/
theorem restate?_eq_map : restate? = Option.map Mention.entry ∘ Mention.ofEntry? := by
  funext e
  rw [Function.comp_apply]
  cases hrestate : restate? e with
  | none =>
    rw [restate?, List.findSome?_eq_none_iff] at hrestate
    cases hmention : Mention.ofEntry? e with
    | none => rfl
    | some m =>
      -- the key of the mention is one of the names that were tried
      have hkey := (Mention.ofEntry?_eq_some_iff.mp hmention).1
      have htried := hrestate m.field m.field.mem_all
      rw [hkey, Mention.key] at htried
      cases hspelling : m.spelling with
      | stable =>
        rw [hspelling, Field.spelled, Scalar.beq_ofString, beq_self_eq_true, if_pos rfl] at htried
        cases htried
      | native =>
        rw [hspelling, Field.spelled] at htried
        simp only [Scalar.beq_ofString, beq_self_eq_true, if_true] at htried
        split at htried <;> cases htried
  | some e' =>
    obtain ⟨f, -, hf⟩ := List.exists_of_findSome?_eq_some hrestate
    split at hf
    · next hstable =>
      cases hf
      have hmention : Mention.ofEntry? e = some ⟨f, .stable, e.2⟩ :=
        Mention.ofEntry?_eq_some_iff.mpr ⟨Scalar.beq_text_iff.mp hstable, rfl⟩
      rw [hmention]
      rfl
    · split at hf
      · next hnative =>
        cases hf
        have hmention : Mention.ofEntry? e = some ⟨f, .native, f.meaning .native e.2⟩ :=
          Mention.ofEntry?_eq_some_iff.mpr ⟨Scalar.beq_text_iff.mp hnative, rfl⟩
        rw [hmention, Option.map_some, Mention.entry, Field.meaning]
        simp only [true_and, translateClass_eq_identifierOf]
      · cases hf

namespace Properties

variable {p q : Properties}

/-- The entries under stable names. -/
def restated (p : Properties) : List (Scalar × Value) := p.toList.filterMap restate?

theorem restated_eq_map (p : Properties) : p.restated = p.mentions.map Mention.entry := by
  rw [restated, mentions, List.map_filterMap, restate?_eq_map]
  rfl

/-- Restated entries are mentions under the stable names. -/
theorem mentions_of_perm_restated (h : q.toList.Perm p.restated) :
    q.mentions.Perm (p.mentions.map Mention.restated) := by
  have hentry : Mention.ofEntry? ∘ Mention.entry = some ∘ Mention.restated :=
    funext fun m => Mention.ofEntry?_stable m.field m.value
  have hmentions : p.restated.filterMap Mention.ofEntry? = p.mentions.map Mention.restated := by
    rw [restated_eq_map, List.filterMap_map, hentry, ← List.filterMap_map, List.filterMap_some]
  exact hmentions ▸ h.filterMap Mention.ofEntry?

/-! ## Fields that are named once -/

/-- No field is given both under its stable and under its native name. -/
def NamesOnce (p : Properties) : Prop :=
  ∀ f : Field, p.get? (f.name : Scalar) = none ∨ p.get? (f.nativeName : Scalar) = none

/-- Then mentions of one field are the same. -/
theorem NamesOnce.eq_of_field_eq (h : p.NamesOnce) {a b : Mention} (ha : a ∈ p.mentions)
    (hb : b ∈ p.mentions) (hfield : a.field = b.field) : a = b := by
  refine eq_of_mem_mentions ha hb hfield ?_
  obtain ⟨v, hv, -⟩ := mem_mentions_iff.mp ha
  obtain ⟨w, hw, -⟩ := mem_mentions_iff.mp hb
  rw [Mention.key, hfield] at hv
  rw [Mention.key] at hw
  have honce := h b.field
  cases hspelling : a.spelling <;> cases hspelling' : b.spelling <;>
    simp_all [Field.spelled]

theorem NamesOnce.nodup_fields_mentions (h : p.NamesOnce) : (p.mentions.map Mention.field).Nodup :=
  (List.Nodup.of_map _ p.nodup_keys_mentions).map_on fun _ ha _ hb => h.eq_of_field_eq ha hb

/-- The entries under stable names are a configuration. -/
theorem NamesOnce.exists_restated (h : p.NamesOnce) : ∃ q : Properties, q.toList = p.restated := by
  have hkeys : p.restated.Pairwise OrderedMap.KeysDiffer := by
    rw [restated_eq_map, List.pairwise_map]
    refine (List.pairwise_map.mp h.nodup_fields_mentions).imp fun {a b} hne => ?_
    exact Field.name_beq_name_of_ne hne
  exact ⟨⟨p.restated, hkeys⟩, rfl⟩

end Properties

/-! ## What is read -/

namespace Snapshot

variable {p q : Properties}

open Properties

/-- Restated mentions of different fields give every field the same value. -/
theorem givenIn_of_restated (hp : (p.mentions.map Mention.field).Nodup)
    (hq : (q.mentions.map Mention.field).Nodup)
    (h : q.mentions.Perm (p.mentions.map Mention.restated)) (f : Field) :
    givenIn q.mentions.reverse f = givenIn p.mentions.reverse f := by
  -- each field has one mention, so that it does not matter which one is the last
  have hlast : lastMention? q.mentions f = (lastMention? p.mentions f).map Mention.restated := by
    refine Option.ext fun m => ?_
    rw [lastMention?_eq_some_iff hq, h.mem_iff, List.mem_map, Option.map_eq_some_iff]
    constructor
    · rintro ⟨⟨a, ha, rfl⟩, hfield⟩
      exact ⟨a, (lastMention?_eq_some_iff hp).mpr ⟨ha, hfield⟩, rfl⟩
    · rintro ⟨a, ha, rfl⟩
      obtain ⟨hmem, hfield⟩ := (lastMention?_eq_some_iff hp).mp ha
      exact ⟨⟨a, hmem, rfl⟩, hfield⟩
  unfold lastMention? at hlast
  rw [givenIn, givenIn, hlast, Option.map_map]
  rfl

/-- The two vocabularies are interchangeable. A configuration that names every field at most once may
be restated under the stable names, in any order and without all other entries: both are the same
snapshot, or both are rejected for the same problems. -/
theorem ofProperties_restated (p : Properties) (h : p.NamesOnce) :
    (∃ q : Properties, q.toList = p.restated)
    ∧ ∀ q : Properties, q.toList.Perm p.restated →
      (∃ s, ofProperties p = .ok s ∧ ofProperties q = .ok s)
        ∨ ∃ r, ofProperties p = .error (.rejected r) ∧ ofProperties q = .error (.rejected r) := by
  refine ⟨h.exists_restated, fun q hq => ?_⟩
  have hmentions := mentions_of_perm_restated hq
  have hp := h.nodup_fields_mentions
  have hq : (q.mentions.map Mention.field).Nodup := by
    rw [(hmentions.map Mention.field).nodup_iff, List.map_map]
    exact hp
  -- nothing is given twice in either map, so that both come to the fields; these see the same mentions
  rw [ofProperties_of_compatible (pairwise_compatible_of_nodup hp),
    ofProperties_of_compatible (pairwise_compatible_of_nodup hq),
    funext (givenIn_of_restated hp hq hmentions)]
  cases ofGiven (givenIn p.mentions.reverse) with
  | ok s => exact .inl ⟨s, rfl, rfl⟩
  | error r => exact .inr ⟨r, rfl, rfl⟩

/-- A configuration in the words of the connector, beside keys that name no field. -/
def nativeSink : Properties :=
  .ofList [(.int 7, .ofString "gzip"), ("s3.bucket.name", .ofString "b"),
    ("data_format", .ofString "avro"),
    ("format.class", .ofString " io.confluent.connect.s3.format.json.JsonFormat")]

theorem ofProperties_nativeSink :
    nativeSink.NamesOnce
      ∧ ∃ q s, q.toList = nativeSink.restated ∧ ofProperties nativeSink = .ok s
        ∧ ofProperties q = .ok s ∧ s.text .dataFormat = "json" := by
  have honce : nativeSink.NamesOnce := by
    intro f
    rw [← Option.isNone_iff_eq_none, ← Option.isNone_iff_eq_none]
    cases f <;> decide +kernel
  have hread : (ofProperties nativeSink).toOption.map (·.text .dataFormat) = some "json" := by
    decide +kernel
  obtain ⟨⟨q, hq⟩, hsame⟩ := ofProperties_restated nativeSink honce
  rcases hsame q (hq ▸ .refl _) with ⟨s, hs, hqs⟩ | ⟨r, hr, -⟩
  · rw [hs] at hread
    exact ⟨honce, q, s, hq, hs, hqs, Option.some.inj hread⟩
  · rw [hr] at hread
    cases hread

end Snapshot

end SinkAudit
