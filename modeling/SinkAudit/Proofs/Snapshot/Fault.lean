import SinkAudit.Proofs.Snapshot.Reading
import SinkAudit.Proofs.Text.Spelling

/-!
# What is wrong with a raw value

A field refuses a raw value for one reason. What the reasons are is said here of the value itself: the
string that it spells, the flag or the codec that it stands for.

The text of a rejection names an error type and a message for each field. The errors are made by readers
that try one interpretation after another, and a statement about the error in terms of those readers would
say nothing. The faults here are about the value: a float with a fraction is no flag at all (`bool_type`),
one that is a whole number of 64 bits is taken for an integer and then refused as one (`bool_parsing`), a
text is refused if it spells no flag, and so on.

- `Value.Spells`, `Value.SaysFlag`, `Value.NamesCodec`: what a value stands for.
- `ReadsAs`: a reading gives what the value stands for, or a fault of the value.
- `IdentifierFault`, `FlagFault`, `CodecFault`: the faults of the three kinds of fields, with
  `readIdentifier_eq_error_iff`, `readFlag_eq_error_iff`, `readCodec_eq_error_iff`.
- `Field.Fault`: what is wrong with the raw value of a field, or with its absence.
- `Field.judge_eq_error_iff`: a field has an error exactly if something is wrong, and for that.
-/

namespace SinkAudit

/-! ## What values stand for -/

namespace Value

/-- The value is a text, which may hold lone surrogates. -/
def IsText (v : Value) : Prop := ∃ t, v.text? = some t

/-- The value is a row of bytes. -/
def IsBytes (v : Value) : Prop := ∃ bs, v = .scalar (.bytes bs)

/-- The value is a number that is taken for an integer of at most 64 bits: an integer that fits, or a
float that is a whole number strictly between the bounds. -/
def IsWord (v : Value) : Prop :=
  (∃ n, v = .scalar (.int n) ∧ fitsWord n = true)
    ∨ ∃ x n, v = .scalar (.float x) ∧ Binary64.equalsInt x n = true ∧ fitsFloatWord n = true

/-- The value is this string, as a text or as bytes in UTF-8. -/
def Spells (v : Value) (s : String) : Prop :=
  v.text? = some (Text.ofString s) ∨ ∃ bs, v = .scalar (.bytes bs) ∧ Utf8.decode bs = .ok s.toList

/-- The value is a truth value, the number zero or one, or a word for "no" or "yes". -/
def SaysFlag (v : Value) (b : Bool) : Prop :=
  v = .scalar (.bool b) ∨ v = .scalar (.int (if b then 1 else 0))
    ∨ (∃ x, v = .scalar (.float x) ∧ Binary64.equalsInt x (if b then 1 else 0) = true)
    ∨ ∃ s, v.Spells s ∧ flagOfWord? s = some b

/-- The value is the name of a codec: a text in any case and between blanks, or exactly so as
bytes. -/
def NamesCodec (v : Value) (c : Codec) : Prop :=
  (∃ t, v.text? = some t ∧ Text.lower (Text.strip t) = Text.ofString c.name)
    ∨ ∃ bs, v = .scalar (.bytes bs) ∧ Utf8.decode bs = .ok c.name.toList

end Value

variable {v : Value} {s : String} {t : Text} {p : Problem} {b : Bool}

namespace Value

theorem isText_or_isBytes_or_neither (v : Value) :
    v.IsText ∨ v.IsBytes ∨ v.text? = none ∧ ¬ v.IsBytes := by
  cases htext : v.text? with
  | some t => exact .inl ⟨t, htext⟩
  | none =>
    by_cases hbytes : v.IsBytes
    · exact .inr (.inl hbytes)
    · exact .inr (.inr ⟨rfl, hbytes⟩)

/-- Bytes are no text. -/
theorem not_isBytes_of_text (h : v.text? = some t) : ¬ v.IsBytes := by
  rintro ⟨bs, rfl⟩
  cases h

/-- A text is a plain one or the name of a codec. -/
theorem spelled_cases (h : v.IsText ∨ v.IsBytes) :
    (∃ t, v = .scalar (.text t)) ∨ (∃ c, v = .scalar (.codec c)) ∨ ∃ bs, v = .scalar (.bytes bs) := by
  rcases h with ⟨t, ht⟩ | hbytes
  · unfold text? at ht
    split at ht
    · next t' => exact .inl ⟨t', rfl⟩
    · next c => exact .inr (.inl ⟨c, rfl⟩)
    · cases ht
  · exact .inr (.inr hbytes)

theorem spells_text_iff (h : v.text? = some t) : v.Spells s ↔ t.toString? = some s := by
  rw [Text.toString?_eq_some_iff, Spells, h, Option.some.injEq]
  exact or_iff_left fun ⟨bs, hbs, _⟩ => not_isBytes_of_text h ⟨bs, hbs⟩

theorem spells_bytes_iff {bs : List UInt8} :
    (scalar (.bytes bs)).Spells s ↔ Utf8.decode bs = .ok s.toList := by
  constructor
  · rintro (h | ⟨bs', hbs, hdecode⟩)
    · cases h
    · cases hbs
      exact hdecode
  · exact fun h => .inr ⟨bs, rfl, h⟩

/-- What is neither text nor bytes spells nothing. -/
theorem Spells.isText_or_isBytes (h : v.Spells s) : v.IsText ∨ v.IsBytes := by
  rcases h with htext | ⟨bs, rfl, -⟩
  · exact .inl ⟨_, htext⟩
  · exact .inr ⟨bs, rfl⟩

end Value

/-! ## What values spell -/

namespace Value

/-- A value spells one string at most. -/
theorem Spells.unique {s' : String} (h : v.Spells s) (h' : v.Spells s') : s = s' := by
  rcases h.isText_or_isBytes with ⟨t, htext⟩ | ⟨bs, rfl⟩
  · have heq := ((spells_text_iff htext).mp h).symm.trans ((spells_text_iff htext).mp h')
    exact Option.some.inj heq
  · have heq := (spells_bytes_iff.mp h).symm.trans (spells_bytes_iff.mp h')
    exact String.toList_injective (Except.ok.inj heq)

end Value

open Value

/-- The characters of a value are those of the string that it spells. -/
theorem spelledChars?_cases (v : Value) :
    (∃ s, v.Spells s ∧ spelledChars? v = some (.ok s))
      ∨ ((v.IsText ∨ v.IsBytes) ∧ (∀ s, ¬ v.Spells s)
        ∧ spelledChars? v = some (.error .notUnicode))
      ∨ (¬ v.IsText ∧ ¬ v.IsBytes ∧ spelledChars? v = none) := by
  rcases v.isText_or_isBytes_or_neither with ⟨t, htext⟩ | ⟨bs, rfl⟩ | ⟨htext, hbytes⟩
  · simp only [spells_text_iff htext, spelledChars?, htext]
    cases ht : t.toString? with
    | some s => exact .inl ⟨s, rfl, rfl⟩
    | none => exact .inr (.inl ⟨.inl ⟨t, htext⟩, by simp, rfl⟩)
  · simp only [spells_bytes_iff, spelledChars?, text?]
    cases hdecode : Utf8.decode bs with
    | ok cs => exact .inl ⟨String.ofList cs, by rw [String.toList_ofList], rfl⟩
    | error e => exact .inr (.inl ⟨.inr ⟨bs, rfl⟩, by simp, rfl⟩)
  · refine .inr (.inr ⟨by simp [IsText, htext], hbytes, ?_⟩)
    -- neither a text nor bytes: the two cases of the definition cannot be
    unfold spelledChars?
    split
    · next h =>
      rw [htext] at h
      cases h
    · next bs _ => exact absurd ⟨bs, rfl⟩ hbytes
    · rfl

theorem spelledChars?_eq_ok_iff : spelledChars? v = some (.ok s) ↔ v.Spells s := by
  rcases spelledChars?_cases v with ⟨s', hs', h⟩ | ⟨-, hnone, h⟩ | ⟨htext, hbytes, h⟩
  · rw [h]
    constructor
    · intro heq
      cases heq
      exact hs'
    · intro hs
      rw [hs.unique hs']
  · rw [h]
    exact iff_of_false nofun (hnone s)
  · rw [h]
    exact iff_of_false nofun fun hs => hs.isText_or_isBytes.elim htext hbytes

theorem spelledChars?_eq_error_iff :
    spelledChars? v = some (.error p)
      ↔ p = .notUnicode ∧ (v.IsText ∨ v.IsBytes) ∧ ∀ s, ¬ v.Spells s := by
  rcases spelledChars?_cases v with ⟨s, hs, h⟩ | ⟨hspelled, hnone, h⟩ | ⟨htext, hbytes, h⟩
  · rw [h]
    exact iff_of_false nofun fun hp => hp.2.2 s hs
  · rw [h]
    constructor
    · intro heq
      cases heq
      exact ⟨rfl, hspelled, hnone⟩
    · rintro ⟨rfl, -⟩
      rfl
  · rw [h]
    exact iff_of_false nofun fun hp => hp.2.1.elim htext hbytes

theorem spelledChars?_eq_none_iff : spelledChars? v = none ↔ ¬ v.IsText ∧ ¬ v.IsBytes := by
  rcases spelledChars?_cases v with ⟨s, hs, h⟩ | ⟨hspelled, -, h⟩ | ⟨htext, hbytes, h⟩
  · rw [h]
    exact iff_of_false nofun fun hneither => hs.isText_or_isBytes.elim hneither.1 hneither.2
  · rw [h]
    exact iff_of_false nofun fun hneither => hspelled.elim hneither.1 hneither.2
  · exact iff_of_true h ⟨htext, hbytes⟩

/-! ## Readings -/

/-- What is read is what is said, and an error is for a fault. -/
def ReadsAs {α : Type} (Says : α → Prop) (Fault : Problem → Prop) : Except Problem α → Prop
  | .ok a => Says a
  | .error p => Fault p

/-- If there is one fault at most, and none where something is said, then there is an error exactly for
the fault. -/
theorem ReadsAs.eq_error_iff {α : Type} {Says : α → Prop} {Fault : Problem → Prop}
    {x : Except Problem α} (h : ReadsAs Says Fault x) (hexclusive : ∀ a, Says a → ¬ Fault p)
    (hunique : ∀ p', Fault p' → Fault p → p' = p) : x = .error p ↔ Fault p := by
  cases x with
  | ok a => exact iff_of_false nofun (hexclusive a h)
  | error p' =>
    constructor
    · intro heq
      cases heq
      exact h
    · intro hp
      rw [hunique p' h hp]

/-! ## Identifiers -/

/-- What is wrong with the value of an identifier. -/
inductive IdentifierFault (v : Value) : Problem → Prop
  | notText : ¬ v.IsText → ¬ v.IsBytes → IdentifierFault v .notText
  | notUnicode : v.IsText ∨ v.IsBytes → (∀ s, ¬ v.Spells s) → IdentifierFault v .notUnicode
  | blank (s : String) : v.Spells s → Text.trimString s = "" → IdentifierFault v .tooShort

theorem readIdentifier_eq_error_iff : readIdentifier v = .error p ↔ IdentifierFault v p := by
  constructor
  · intro h
    unfold readIdentifier at h
    split at h
    · next hnone =>
      cases h
      obtain ⟨htext, hbytes⟩ := spelledChars?_eq_none_iff.mp hnone
      exact .notText htext hbytes
    · next herror =>
      cases h
      obtain ⟨rfl, hspelled, hnone⟩ := spelledChars?_eq_error_iff.mp herror
      exact .notUnicode hspelled hnone
    · next s hok =>
      by_cases hblank : Text.trimString s = ""
      · simp only [Identifier.ofString?, dif_pos hblank] at h
        cases h
        exact .blank s (spelledChars?_eq_ok_iff.mp hok) hblank
      · simp only [Identifier.ofString?, dif_neg hblank] at h
        cases h
  · rintro (⟨htext, hbytes⟩ | ⟨hspelled, hnone⟩ | ⟨s, hs, hblank⟩)
    · rw [readIdentifier, spelledChars?_eq_none_iff.mpr ⟨htext, hbytes⟩]
    · rw [readIdentifier, spelledChars?_eq_error_iff.mpr ⟨rfl, hspelled, hnone⟩]
    · rw [readIdentifier, spelledChars?_eq_ok_iff.mpr hs]
      simp only [Identifier.ofString?, dif_pos hblank]

/-! ## Flags -/

/-- What is wrong with the value of a flag. -/
inductive FlagFault (v : Value) : Problem → Prop
  | notUnicode : v.IsText → (∀ s, ¬ v.Spells s) → FlagFault v .notUnicode
  | unreadable : (∃ s, v.Spells s) ∨ v.IsBytes ∨ v.IsWord → (∀ b, ¬ v.SaysFlag b) →
      FlagFault v .unreadableFlag
  | notFlag : ¬ v.IsText → ¬ v.IsBytes → ¬ v.IsWord → (∀ b, ¬ v.SaysFlag b) →
      FlagFault v .notFlag

/-- A text or a row of bytes is a flag by the word that it spells. -/
theorem saysFlag_iff_of_spelled (h : v.IsText ∨ v.IsBytes) :
    v.SaysFlag b ↔ ∃ s, v.Spells s ∧ flagOfWord? s = some b := by
  rw [SaysFlag]
  rcases spelled_cases h with ⟨t, rfl⟩ | ⟨c, rfl⟩ | ⟨bs, rfl⟩ <;> simp

/-- What is neither text nor bytes is a flag as a truth value or as a number. -/
theorem saysFlag_iff_of_neither (htext : ¬ v.IsText) (hbytes : ¬ v.IsBytes) :
    v.SaysFlag b ↔ v = .scalar (.bool b) ∨ v = .scalar (.int (if b then 1 else 0))
      ∨ ∃ x, v = .scalar (.float x) ∧ Binary64.equalsInt x (if b then 1 else 0) = true := by
  have hnone : ¬ ∃ s, v.Spells s ∧ flagOfWord? s = some b := by
    rintro ⟨s, hs, -⟩
    exact hs.isText_or_isBytes.elim htext hbytes
  rw [SaysFlag]
  simp only [hnone, or_false]

/-- What spells a string is a flag by that. -/
theorem saysFlag_iff_of_spells (h : v.Spells s) : v.SaysFlag b ↔ flagOfWord? s = some b := by
  rw [saysFlag_iff_of_spelled h.isText_or_isBytes]
  constructor
  · rintro ⟨s', hs', hb⟩
    rw [h.unique hs']
    exact hb
  · exact fun hb => ⟨s, h, hb⟩

/-- A text, or a row of bytes, that spells no string is no flag. -/
theorem not_saysFlag_of_spelled (h : v.IsText ∨ v.IsBytes) (hnone : ∀ s, ¬ v.Spells s) (b : Bool) :
    ¬ v.SaysFlag b := by
  rw [saysFlag_iff_of_spelled h]
  rintro ⟨s, hs, -⟩
  exact hnone s hs

/-- Numbers are neither text nor bytes. -/
theorem IsWord.not_spelled (h : v.IsWord) : ¬ (v.IsText ∨ v.IsBytes) := by
  intro hspelled
  rcases h with ⟨n, rfl, -⟩ | ⟨x, n, rfl, -⟩ <;>
    rcases spelled_cases hspelled with ⟨_, heq⟩ | ⟨_, heq⟩ | ⟨_, heq⟩ <;> cases heq

/-- A number is read as the flag it is, and refused by whether it fits. -/
theorem readsAs_flagOfNumber {n : Int} {fits : Bool} {Says : Bool → Prop} {Fault : Problem → Prop}
    (hflag : ∀ b, Says b ↔ n = if b then 1 else 0)
    (hunreadable : fits = true → (∀ b, ¬ Says b) → Fault .unreadableFlag)
    (hnotFlag : fits = false → (∀ b, ¬ Says b) → Fault .notFlag) :
    ReadsAs Says Fault (flagOfNumber n fits) := by
  unfold flagOfNumber
  split
  · next hzero => exact (hflag false).mpr hzero
  · next hzero =>
    split
    · next hone => exact (hflag true).mpr hone
    · next hone =>
      have hno : ∀ b, ¬ Says b := by
        intro b
        rw [hflag]
        cases b
        · exact hzero
        · exact hone
      cases fits with
      | true => exact hunreadable rfl hno
      | false => exact hnotFlag rfl hno

/-- A flag has one fault at most. -/
theorem FlagFault.unique {p' : Problem} (h : FlagFault v p) (h' : FlagFault v p') : p = p' := by
  have hspelled : (∃ s, v.Spells s) → v.IsText ∨ v.IsBytes := fun ⟨_, hs⟩ => hs.isText_or_isBytes
  cases h <;> cases h' <;> grind [not_isBytes_of_text, IsWord.not_spelled, Value.IsText]

/-- What says a flag has no fault. -/
theorem FlagFault.not_saysFlag (h : FlagFault v p) (b : Bool) : ¬ v.SaysFlag b := by
  cases h with
  | notUnicode htext hnone => exact not_saysFlag_of_spelled (.inl htext) hnone b
  | unreadable _ hno => exact hno b
  | notFlag _ _ _ hno => exact hno b

theorem readsAs_readFlag_int (n : Int) :
    ReadsAs (scalar (.int n)).SaysFlag (FlagFault (.scalar (.int n))) (readFlag (.scalar (.int n))) := by
  have htext : ¬ (scalar (.int n)).IsText := fun ⟨_, h⟩ => nomatch h
  have hbytes : ¬ (scalar (.int n)).IsBytes := fun ⟨_, h⟩ => nomatch h
  refine readsAs_flagOfNumber (fun b => ?_) (fun hfits hno => ?_) fun hfits hno => ?_
  · rw [saysFlag_iff_of_neither htext hbytes]
    simp
  · exact .unreadable (.inr (.inr (.inl ⟨n, rfl, hfits⟩))) hno
  · refine .notFlag htext hbytes ?_ hno
    rintro (⟨_, heq, hword⟩ | ⟨_, _, heq, -⟩) <;> cases heq
    rw [hfits] at hword
    cases hword

/-- A float is a flag as the number that it is. -/
theorem saysFlag_float_iff {x : Float} :
    (scalar (.float x)).SaysFlag b ↔ Binary64.whole? x = some (if b then 1 else 0) := by
  have htext : ¬ (scalar (.float x)).IsText := fun ⟨_, h⟩ => nomatch h
  have hbytes : ¬ (scalar (.float x)).IsBytes := fun ⟨_, h⟩ => nomatch h
  rw [saysFlag_iff_of_neither htext hbytes]
  simp [Binary64.equalsInt_iff]

theorem readsAs_readFlag_float (x : Float) :
    ReadsAs (scalar (.float x)).SaysFlag (FlagFault (.scalar (.float x)))
      (readFlag (.scalar (.float x))) := by
  have htext : ¬ (scalar (.float x)).IsText := fun ⟨_, h⟩ => nomatch h
  have hbytes : ¬ (scalar (.float x)).IsBytes := fun ⟨_, h⟩ => nomatch h
  -- a float is a word exactly if the integer that it is fits
  have hword : (scalar (.float x)).IsWord ↔ ∃ n, Binary64.whole? x = some n ∧ fitsFloatWord n := by
    simp [IsWord, Binary64.equalsInt_iff]
  rw [readFlag]
  cases hwhole : Binary64.whole? x with
  | none =>
    refine FlagFault.notFlag htext hbytes ?_ fun b => ?_
    · simp [hword, hwhole]
    · simp [saysFlag_float_iff, hwhole]
  | some n =>
    refine readsAs_flagOfNumber (fun b => ?_) (fun hfits hno => ?_) fun hfits hno => ?_
    · rw [saysFlag_float_iff, hwhole, Option.some.injEq]
    · exact .unreadable (.inr (.inr (hword.mpr ⟨n, hwhole, hfits⟩))) hno
    · refine .notFlag htext hbytes ?_ hno
      simp [hword, hwhole, hfits]

/-- A flag is read as what the value says, unless something is wrong with it. -/
theorem readsAs_readFlag (v : Value) : ReadsAs v.SaysFlag (FlagFault v) (readFlag v) := by
  unfold readFlag
  split
  · exact .inl rfl
  · next n => exact readsAs_readFlag_int n
  · next x => exact readsAs_readFlag_float x
  -- the value is neither a truth value nor a number, so it can only spell a word
  · next hbool hint hfloat =>
    split
    · next hchars =>
      obtain ⟨htext, hbytes⟩ := spelledChars?_eq_none_iff.mp hchars
      have hword : ¬ v.IsWord := by
        rintro (⟨n, rfl, -⟩ | ⟨x, n, rfl, -⟩)
        · exact hint n rfl
        · exact hfloat x rfl
      refine FlagFault.notFlag htext hbytes hword fun b hflag => ?_
      rcases (saysFlag_iff_of_neither htext hbytes).mp hflag with h | h | ⟨x, h, -⟩
      · exact hbool b h
      · exact hint _ h
      · exact hfloat x h
    · next s hchars =>
      have hs := spelledChars?_eq_ok_iff.mp hchars
      split
      · next b hb => exact (saysFlag_iff_of_spells hs).mpr hb
      · next hb =>
        refine FlagFault.unreadable (.inl ⟨s, hs⟩) fun b hflag => ?_
        rw [saysFlag_iff_of_spells hs, hb] at hflag
        cases hflag
    · next t hchars htext =>
      obtain ⟨rfl, -, hnone⟩ := spelledChars?_eq_error_iff.mp hchars
      exact FlagFault.notUnicode ⟨t, htext⟩ hnone
    · next hchars htext =>
      obtain ⟨-, hspelled, hnone⟩ := spelledChars?_eq_error_iff.mp hchars
      have hbytes : v.IsBytes := by
        refine hspelled.resolve_left ?_
        rintro ⟨t, ht⟩
        rw [htext] at ht
        cases ht
      have hno := not_saysFlag_of_spelled hspelled hnone
      exact FlagFault.unreadable (.inr (.inl hbytes)) hno

theorem readFlag_eq_error_iff : readFlag v = .error p ↔ FlagFault v p :=
  (readsAs_readFlag v).eq_error_iff (fun b hflag hfault => hfault.not_saysFlag b hflag)
    fun _ => FlagFault.unique

/-! ## Codecs -/

/-- What is wrong with the value of a codec. -/
inductive CodecFault (v : Value) : Problem → Prop
  | notUnicode : v.IsText → (∀ s, ¬ v.Spells s) → CodecFault v .notUnicode
  | unknown : (v.IsText → ∃ s, v.Spells s) → (∀ c, ¬ v.NamesCodec c) → CodecFault v .unknownCodec

theorem Codec.ofName?_spec (s : String) :
    (∃ c, Codec.ofName? s = some c ∧ s = c.name)
      ∨ Codec.ofName? s = Option.none ∧ ∀ c : Codec, s ≠ c.name := by
  by_cases hname : ∃ c : Codec, s = c.name
  · obtain ⟨c, rfl⟩ := hname
    exact .inl ⟨c, Codec.ofName?_name c, rfl⟩
  · refine .inr ⟨List.find?_eq_none.mpr fun c _ hc => ?_, fun c hc => hname ⟨c, hc⟩⟩
    exact hname ⟨c, (eq_of_beq hc).symm⟩

theorem namesCodec_text_iff {c : Codec} (h : v.text? = some t) :
    v.NamesCodec c ↔ Text.lower (Text.strip t) = Text.ofString c.name := by
  rw [NamesCodec, h]
  simp only [Option.some.injEq, exists_eq_left']
  exact or_iff_left fun ⟨bs, hbs, _⟩ => not_isBytes_of_text h ⟨bs, hbs⟩

theorem namesCodec_iff_of_not_text {c : Codec} (h : v.text? = none) :
    v.NamesCodec c ↔ v.Spells c.name := by
  rw [NamesCodec, Spells, h]
  refine or_congr_left (iff_of_false ?_ nofun)
  rintro ⟨_, ht, -⟩
  cases ht

/-- A text spells a string exactly if it does so in small letters and without blanks. -/
theorem toString?_lower_strip_eq_none_iff :
    (Text.lower (Text.strip t)).toString? = none ↔ t.toString? = none := by
  simp only [Text.toString?_eq_none_iff, Text.surrogate_mem_lower_iff, Text.surrogate_mem_strip_iff]

/-- A codec has one fault at most. -/
theorem CodecFault.unique {p' : Problem} (h : CodecFault v p) (h' : CodecFault v p') : p = p' := by
  cases h <;> cases h' <;> grind

/-- What names a codec has no fault. -/
theorem CodecFault.not_namesCodec (h : CodecFault v p) (c : Codec) : ¬ v.NamesCodec c := by
  cases h with
  | unknown _ hno => exact hno c
  | notUnicode htext hnone =>
    obtain ⟨t, htext⟩ := htext
    have hstring : t.toString? = none :=
      Option.eq_none_iff_forall_ne_some.mpr fun s hs => hnone s ((spells_text_iff htext).mpr hs)
    rw [namesCodec_text_iff htext, ← Text.toString?_eq_some_iff,
      toString?_lower_strip_eq_none_iff.mpr hstring]
    exact nofun

/-- The codec of a text is the one that it names in small letters and without blanks. -/
theorem readCodec_text (h : v.text? = some t) :
    readCodec v = match (Text.lower (Text.strip t)).toString? with
      | some s => match Codec.ofName? s with
        | some c => .ok c
        | none => .error .unknownCodec
      | none => .error .notUnicode := by
  have hplain : ∀ t, spelledChars? (.scalar (.text t)) = some (match t.toString? with
      | some s => .ok s
      | none => .error .notUnicode) := fun _ => rfl
  simp only [readCodec, h, hplain]
  cases (Text.lower (Text.strip t)).toString? <;> rfl

/-- A codec is read as the one that the value names, unless something is wrong with it. -/
theorem readsAs_readCodec (v : Value) : ReadsAs v.NamesCodec (CodecFault v) (readCodec v) := by
  -- texts are trimmed and lowered before they are looked up, bytes are taken as they are
  cases htext : v.text? with
  | some t =>
    rw [readCodec_text htext]
    cases hsmall : (Text.lower (Text.strip t)).toString? with
    | none =>
      have hstring := toString?_lower_strip_eq_none_iff.mp hsmall
      refine CodecFault.notUnicode ⟨t, htext⟩ fun s hs => ?_
      rw [spells_text_iff htext, hstring] at hs
      cases hs
    | some small =>
      have hlower := Text.toString?_eq_some_iff.mp hsmall
      dsimp only
      rcases Codec.ofName?_spec small with ⟨c, hc, rfl⟩ | ⟨hc, hno⟩ <;> rw [hc]
      · exact (namesCodec_text_iff htext).mpr hlower
      -- a text that is a string in lower case is one as it is, and so it is not blamed for that
      · have hspells : ∃ s, v.Spells s := by
          simp only [spells_text_iff htext, ← Option.ne_none_iff_exists']
          intro hnone
          rw [toString?_lower_strip_eq_none_iff.mpr hnone] at hsmall
          cases hsmall
        refine CodecFault.unknown (fun _ => hspells) fun c hnames => hno c ?_
        rw [namesCodec_text_iff htext, hlower] at hnames
        exact Text.ofString_injective hnames
  | none =>
    have hnotText : ¬ v.IsText := by
      rintro ⟨t, ht⟩
      rw [htext] at ht
      cases ht
    have hnames : ∀ c : Codec, v.NamesCodec c ↔ v.Spells c.name :=
      fun c => namesCodec_iff_of_not_text htext
    have hfault : (∀ c : Codec, ¬ v.Spells c.name) → CodecFault v .unknownCodec :=
      fun hno => .unknown (absurd · hnotText) fun c hc => hno c ((hnames c).mp hc)
    simp only [readCodec, htext]
    rcases spelledChars?_cases v with ⟨s, hs, h⟩ | ⟨-, hnone, h⟩ | ⟨-, hbytes, h⟩ <;> rw [h]
    · dsimp only
      rcases Codec.ofName?_spec s with ⟨c, hc, rfl⟩ | ⟨hc, hno⟩ <;> rw [hc]
      · exact (hnames c).mpr hs
      · exact hfault fun c hc => hno c (hs.unique hc)
    · exact hfault fun c => hnone c.name
    · exact hfault fun c hc => hc.isText_or_isBytes.elim hnotText hbytes

theorem readCodec_eq_error_iff : readCodec v = .error p ↔ CodecFault v p :=
  (readsAs_readCodec v).eq_error_iff (fun c hnames hfault => hfault.not_namesCodec c hnames)
    fun _ => CodecFault.unique

/-! ## All fields -/

namespace Field

/-- Does a field have to be given? -/
def IsRequired (f : Field) : Prop := f = .dataFormat ∨ f = .bucket

/-- What is wrong with the raw value of a field, or with its absence. -/
def Fault (f : Field) : Option Value → Problem → Prop
  | none, p => f.IsRequired ∧ p = .missing
  | some v, p => match f with
    | .dataFormat | .keysFormat | .headersFormat | .bucket => IdentifierFault v p
    | .storeKeys | .storeHeaders => FlagFault v p
    | .compression => CodecFault v p

variable {f : Field}

theorem isRequired_iff : f.IsRequired ↔ f.fallback? = none := by
  cases f <;> simp [IsRequired, fallback?]

theorem read_eq_error_iff : f.read v = .error p ↔ f.Fault (some v) p := by
  cases f with
  | dataFormat | keysFormat | headersFormat | bucket =>
    exact map_eq_error_iff.trans readIdentifier_eq_error_iff
  | storeKeys | storeHeaders => exact map_eq_error_iff.trans readFlag_eq_error_iff
  | compression => exact map_eq_error_iff.trans readCodec_eq_error_iff

/-- A field that is given under its stable name, or not at all, has an error exactly if something is
wrong, and it is the error that names the field. -/
theorem judge_eq_error_iff {given : Option Value} {e : FieldError} :
    f.judge (given.map (⟨f.name, ·⟩)) = .error e
      ↔ ∃ p, f.Fault given p ∧ e = ⟨f, f.name, p⟩ := by
  cases given with
  | none =>
    rw [Option.map_none, judge]
    simp only [Fault, isRequired_iff]
    cases f.fallback? with
    | none => simp [eq_comm]
    | some t => simp
  | some v =>
    rw [Option.map_some, judge, mapError_eq_error_iff]
    refine exists_congr fun p => ?_
    rw [read_eq_error_iff, @eq_comm _ e]

end Field

end SinkAudit
