import SinkAudit.Snapshot.Coercion

/-!
# The fields of a snapshot as texts

A snapshot is determined by the texts of its fields, and each field reads its own raw value and
nothing else. What a configuration makes of a field is thus one text or none, whatever the type of
the field.

Most results about snapshots are proved through this view of them. A statement about seven fields of four
types becomes one about a function from fields to texts, and a case distinction over the fields is made
here once and not in every proof.

- `Field.reading?`, `Field.fallback?`: the text that a field takes from a raw value, and the one it
  has when it is not given.
- `Field.read`, `Field.judge`: the same, or what is wrong with the raw value or its absence.
- `Snapshot.ext_text`: snapshots with equal texts are equal.
- `Snapshot.ofGiven_eq_ok_iff`: raw values make a snapshot exactly if each field takes the
  snapshot's text of it.
- `Field.reading?_text`: the text of a field is read back as itself.
-/

namespace SinkAudit

/-- The text that a field takes from a raw value, if the value can be read. -/
def Field.reading? (f : Field) (v : Value) : Option String :=
  match f with
  | .dataFormat | .keysFormat | .headersFormat | .bucket =>
    (readIdentifier v).toOption.map Identifier.text
  | .storeKeys | .storeHeaders => (readFlag v).toOption.map flagText
  | .compression => (readCodec v).toOption.map Codec.name

/-- The text of a field that is not given, unless it has to be. -/
def Field.fallback? : Field → Option String
  | .dataFormat | .bucket => none
  | .keysFormat | .headersFormat => some Identifier.avro.text
  | .storeKeys | .storeHeaders => some (flagText false)
  | .compression => some Codec.none.name

/-- The text that a field ends up with, given its raw value if there is one. -/
def Field.settled? (f : Field) : Option Given → Option String
  | some g => f.reading? g.value
  | none => f.fallback?

/-- What a field makes of a raw value: a text, or a problem. -/
def Field.read (f : Field) (v : Value) : Except Problem String :=
  match f with
  | .dataFormat | .keysFormat | .headersFormat | .bucket => (readIdentifier v).map Identifier.text
  | .storeKeys | .storeHeaders => (readFlag v).map flagText
  | .compression => (readCodec v).map Codec.name

/-- What a field ends up with: a text, or an error that names the field. -/
def Field.judge (f : Field) : Option Given → Except FieldError String
  | some g => (f.read g.value).mapError (⟨f, g.name, ·⟩)
  | none => match f.fallback? with
    | some t => .ok t
    | none => .error ⟨f, f.name, .missing⟩

/-! ## Texts determine values -/

theorem flagText_injective : Function.Injective flagText := by
  intro a b h
  cases a <;> cases b <;> first | rfl | exact absurd h (by decide)

theorem Codec.name_injective : Function.Injective Codec.name := by
  intro a b h
  cases a <;> cases b <;> first | rfl | exact absurd h (by decide)

theorem Identifier.text_injective : Function.Injective Identifier.text :=
  fun _ _ h => Identifier.ext h

namespace Snapshot

/-- A snapshot is determined by the texts of its fields. -/
theorem ext_text {s t : Snapshot} (h : ∀ f, s.text f = t.text f) : s = t := by
  obtain ⟨a, b, c, d, e, f, g⟩ := s
  obtain ⟨a', b', c', d', e', f', g'⟩ := t
  have ha : a = a' := Identifier.text_injective (h .dataFormat)
  have hb : b = b' := flagText_injective (h .storeKeys)
  have hc : c = c' := Identifier.text_injective (h .keysFormat)
  have hd : d = d' := flagText_injective (h .storeHeaders)
  have he : e = e' := Identifier.text_injective (h .headersFormat)
  have hf : f = f' := Codec.name_injective (h .compression)
  have hg : g = g' := Identifier.text_injective (h .bucket)
  rw [ha, hb, hc, hd, he, hf, hg]

end Snapshot

/-! ## Fields are read on their own -/

theorem toOption_eq_some_iff {ε α : Type} {x : Except ε α} {a : α} :
    x.toOption = some a ↔ x = .ok a := by
  cases x with
  | ok b => simp [Except.toOption]
  | error e => simp [Except.toOption]

/-- With texts that tell values apart, a result is a value exactly if it has the value's text. -/
theorem toOption_map_eq_some_iff {ε α : Type} {text : α → String}
    (htext : Function.Injective text) {x : Except ε α} {a : α} :
    x.toOption.map text = some (text a) ↔ x = .ok a := by
  rw [Option.map_eq_some_iff]
  constructor
  · rintro ⟨b, hb, hab⟩
    rw [toOption_eq_some_iff.mp hb, htext hab]
  · intro h
    exact ⟨a, toOption_eq_some_iff.mpr h, rfl⟩

theorem map_eq_error_iff {ε α β : Type} {g : α → β} {x : Except ε α} {e : ε} :
    x.map g = .error e ↔ x = .error e := by
  cases x with
  | ok a => exact iff_of_false nofun nofun
  | error e' =>
    show Except.error e' = .error e ↔ _
    rw [Except.error.injEq, Except.error.injEq]

theorem mapError_eq_ok_iff {ε ε' α : Type} {g : ε → ε'} {x : Except ε α} {a : α} :
    x.mapError g = .ok a ↔ x = .ok a := by
  cases x with
  | ok b =>
    show Except.ok b = .ok a ↔ _
    rw [Except.ok.injEq, Except.ok.injEq]
  | error e => exact iff_of_false nofun nofun

theorem mapError_eq_error_iff {ε ε' α : Type} {g : ε → ε'} {x : Except ε α} {e' : ε'} :
    x.mapError g = .error e' ↔ ∃ e, x = .error e ∧ g e = e' := by
  cases x with
  | ok a => exact iff_of_false nofun nofun
  | error e =>
    show Except.error (g e) = .error e' ↔ _
    simp

theorem toOption_map {ε α β : Type} (g : α → β) (x : Except ε α) :
    (x.map g).toOption = x.toOption.map g := by
  cases x <;> rfl

theorem toOption_mapError {ε ε' α : Type} (g : ε → ε') (x : Except ε α) :
    (x.mapError g).toOption = x.toOption := by
  cases x <;> rfl

namespace Field

theorem reading?_eq (f : Field) (v : Value) : f.reading? v = (f.read v).toOption := by
  cases f <;> exact (toOption_map _ _).symm

/-- The text that a field ends up with is what it is judged to be. -/
theorem settled?_eq (f : Field) (g : Option Given) : f.settled? g = (f.judge g).toOption := by
  cases g with
  | some g => exact (f.reading?_eq g.value).trans (toOption_mapError _ _).symm
  | none =>
    rw [settled?, judge]
    cases f.fallback? <;> rfl

/-- A field is judged by what its kind makes of raw values and of none. -/
theorem judge_eq_map {α : Type} {read : Value → Except Problem α} {fallback : Option α}
    {text : α → String} {f : Field} (hread : ∀ v, f.read v = (read v).map text)
    (hfallback : f.fallback? = fallback.map text) (g : Option Given) :
    f.judge g = (readField read fallback f g).map text := by
  cases g with
  | some g =>
    simp only [judge, readField, hread]
    cases read g.value <;> rfl
  | none =>
    simp only [judge, readField, hfallback]
    cases fallback <;> rfl

end Field

/-- A statement about all fields is one about each of the seven. -/
theorem Field.forall_iff {p : Field → Prop} :
    (∀ f, p f) ↔ p .dataFormat ∧ p .storeKeys ∧ p .keysFormat ∧ p .storeHeaders
      ∧ p .headersFormat ∧ p .compression ∧ p .bucket := by
  constructor
  · intro h
    exact ⟨h _, h _, h _, h _, h _, h _, h _⟩
  · rintro ⟨ha, hb, hc, hd, he, hf, hg⟩ f
    cases f <;> assumption

namespace Snapshot

variable (given : Field → Option Given)

/-- What an identifier is read to. -/
def identifierOf (fallback : Option Identifier) (f : Field) : Except FieldError Identifier :=
  readField readIdentifier fallback f (given f)

/-- What a flag is read to. -/
def flagOf (f : Field) : Except FieldError Bool := readField readFlag (some false) f (given f)

/-- What the codec is read to. -/
def codecOf : Except FieldError Codec :=
  readField readCodec (some .none) .compression (given .compression)

variable {given} {s : Snapshot}

/-- Raw values make a snapshot exactly if each of them is read to its part of the snapshot. -/
theorem ofGiven_eq_ok_iff_parts :
    ofGiven given = .ok s ↔
      identifierOf given none .dataFormat = .ok s.dataFormat
      ∧ flagOf given .storeKeys = .ok s.storeKeys
      ∧ identifierOf given (some .avro) .keysFormat = .ok s.keysFormat
      ∧ flagOf given .storeHeaders = .ok s.storeHeaders
      ∧ identifierOf given (some .avro) .headersFormat = .ok s.headersFormat
      ∧ codecOf given = .ok s.codec
      ∧ identifierOf given none .bucket = .ok s.bucket := by
  constructor
  · intro h
    simp only [ofGiven] at h
    split at h
    · next ha hb hc hd he hf hg =>
      cases h
      exact ⟨ha, hb, hc, hd, he, hf, hg⟩
    · cases h
  · rintro ⟨ha, hb, hc, hd, he, hf, hg⟩
    unfold identifierOf at ha hc he hg
    unfold flagOf at hb hd
    unfold codecOf at hf
    simp only [ofGiven, ha, hb, hc, hd, he, hf, hg]

variable (given) in
/-- The fields are judged by what they are read to. -/
theorem judge_parts :
    Field.dataFormat.judge (given .dataFormat)
        = (identifierOf given none .dataFormat).map Identifier.text
      ∧ Field.storeKeys.judge (given .storeKeys) = (flagOf given .storeKeys).map flagText
      ∧ Field.keysFormat.judge (given .keysFormat)
        = (identifierOf given (some .avro) .keysFormat).map Identifier.text
      ∧ Field.storeHeaders.judge (given .storeHeaders) = (flagOf given .storeHeaders).map flagText
      ∧ Field.headersFormat.judge (given .headersFormat)
        = (identifierOf given (some .avro) .headersFormat).map Identifier.text
      ∧ Field.compression.judge (given .compression) = (codecOf given).map Codec.name
      ∧ Field.bucket.judge (given .bucket)
        = (identifierOf given none .bucket).map Identifier.text := by
  refine ⟨?_, ?_, ?_, ?_, ?_, ?_, ?_⟩ <;> exact Field.judge_eq_map (fun _ => rfl) rfl _

variable (given) in
/-- The texts that the fields end up with are those of what they are read to. -/
theorem settled?_parts :
    Field.dataFormat.settled? (given .dataFormat)
        = (identifierOf given none .dataFormat).toOption.map Identifier.text
      ∧ Field.storeKeys.settled? (given .storeKeys)
        = (flagOf given .storeKeys).toOption.map flagText
      ∧ Field.keysFormat.settled? (given .keysFormat)
        = (identifierOf given (some .avro) .keysFormat).toOption.map Identifier.text
      ∧ Field.storeHeaders.settled? (given .storeHeaders)
        = (flagOf given .storeHeaders).toOption.map flagText
      ∧ Field.headersFormat.settled? (given .headersFormat)
        = (identifierOf given (some .avro) .headersFormat).toOption.map Identifier.text
      ∧ Field.compression.settled? (given .compression) = (codecOf given).toOption.map Codec.name
      ∧ Field.bucket.settled? (given .bucket)
        = (identifierOf given none .bucket).toOption.map Identifier.text := by
  obtain ⟨ha, hb, hc, hd, he, hf, hg⟩ := judge_parts given
  simp only [Field.settled?_eq, ha, hb, hc, hd, he, hf, hg, toOption_map, and_self]

/-- Raw values make a snapshot exactly if every field ends up with the snapshot's text of it. -/
theorem ofGiven_eq_ok_iff : ofGiven given = .ok s ↔ ∀ f, f.settled? (given f) = some (s.text f) := by
  obtain ⟨ha, hb, hc, hd, he, hf, hg⟩ := settled?_parts given
  rw [ofGiven_eq_ok_iff_parts, Field.forall_iff, ha, hb, hc, hd, he, hf, hg]
  -- now both sides speak of the same seven results, once by value and once by text
  simp only [text, toOption_map_eq_some_iff Identifier.text_injective,
    toOption_map_eq_some_iff flagText_injective, toOption_map_eq_some_iff Codec.name_injective]

/-- Raw values make a snapshot exactly if no field is left without a text. -/
theorem exists_ofGiven_iff :
    (∃ s, ofGiven given = .ok s) ↔ ∀ f : Field, ∃ t, f.settled? (given f) = some t := by
  constructor
  · rintro ⟨s, hs⟩ f
    exact ⟨s.text f, ofGiven_eq_ok_iff.mp hs f⟩
  · intro h
    obtain ⟨ha, hb, hc, hd, he, hf, hg⟩ := settled?_parts given
    rw [Field.forall_iff, ha, hb, hc, hd, he, hf, hg] at h
    simp only [Option.map_eq_some_iff, toOption_eq_some_iff] at h
    obtain ⟨⟨_, a, ha, -⟩, ⟨_, b, hb, -⟩, ⟨_, c, hc, -⟩, ⟨_, d, hd, -⟩, ⟨_, e, he, -⟩,
      ⟨_, f, hf, -⟩, _, g, hg, -⟩ := h
    exact ⟨⟨a, b, c, d, e, f, g⟩, ofGiven_eq_ok_iff_parts.mpr ⟨ha, hb, hc, hd, he, hf, hg⟩⟩

end Snapshot

/-! ## Texts are read back -/

theorem readIdentifier_text (i : Identifier) : readIdentifier (.ofString i.text) = .ok i := by
  simp [readIdentifier, spelledChars?, Value.ofString, Value.text?]

theorem readFlag_flagText (b : Bool) : readFlag (.ofString (flagText b)) = .ok b := by
  cases b <;> rfl

/-- The name of a codec is in small letters and has no blanks around it. -/
theorem lower_strip_name (c : Codec) :
    Text.lower (Text.strip (Text.ofString c.name)) = Text.ofString c.name := by
  cases c <;> decide +kernel

theorem readCodec_name (c : Codec) : readCodec (.ofString c.name) = .ok c := by
  simp [readCodec, spelledChars?, Value.ofString, Value.text?, lower_strip_name]

namespace Snapshot

/-- The text of a field is read back as itself. -/
theorem reading?_text (s : Snapshot) (f : Field) :
    f.reading? (.ofString (s.text f)) = some (s.text f) := by
  cases f <;>
    simp [Field.reading?, text, readIdentifier_text, readFlag_flagText, readCodec_name,
      Except.toOption]

end Snapshot

end SinkAudit
