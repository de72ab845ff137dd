import SinkAudit.Proofs.Snapshot.Conflict
import SinkAudit.Proofs.Snapshot.Fault
import SinkAudit.Proofs.Snapshot.Rejection

/-!
# Respelled values

Blanks around a format, a codec or a bucket mean nothing, and neither does the case of the letters of a
codec or a flag. A mention whose value is respelled compares like the original one and is read like it,
and so the comparison of all mentions ends alike, and the same snapshot or rejection is made of them.

The proof goes through a relation on mentions (`Mention.Alike`): they compare in the same way with
anything, and are read in the same way. That is what one step of the comparison needs of them, and what is
left after it. Nothing is assumed about the configurations otherwise: they may be in dispute or be
rejected, and then both are, for the same field or the same problems. The texts of errors may differ, as
they show the values as they are spelled.

- `Field.Respelled`, `Properties.Respelled`: texts, and configurations, that are spelled differently.
- `Mention.Alike`, `Field.Respelled.alike`: mentions that compare and read alike; those of respelled
  texts do.
- `settle_alike`, `settleAll_alike`: they are added alike, one by one and all together.
- `Snapshot.ofProperties_respelled`: the same is made of respelled configurations.
-/

namespace SinkAudit

/-! ## Other spellings -/

namespace Field

/-- Do values of the field that differ only in the blanks around them mean the same? -/
def ignoresBlanks : Field → Bool
  | storeKeys | storeHeaders => false
  | _ => true

/-- The second text is the first with blanks around it, if the field ignores these, and with the case of
its letters changed, if the field ignores that. -/
def Respelled (f : Field) (t u : Text) : Prop :=
  ∃ w, (w = t ∨ f.ignoresBlanks = true ∧ t.Padded w)
    ∧ (u = w ∨ f.ignoresCase = true ∧ w.Recased u)

end Field

/-- The entries have the same key, and the same value but for the spelling of a plain text under a name
of a field. -/
def EntryRespelled (e e' : Scalar × Value) : Prop :=
  e'.1 = e.1 ∧ (e'.2 = e.2 ∨ ∃ (f : Field) (s : Spelling) (t u : Text), e.1 = (f.spelled s : Scalar)
    ∧ e.2 = .scalar (.text t) ∧ e'.2 = .scalar (.text u) ∧ f.Respelled t u)

/-- The configurations are the same but for the spelling of values. -/
def Properties.Respelled (p q : Properties) : Prop :=
  List.Forall₂ EntryRespelled p.toList q.toList

namespace Field.Respelled

variable {f : Field} {t u : Text}

/-- Trimmed and in small letters, both texts are the same. -/
theorem lower_strip_eq (h : f.Respelled t u) :
    Text.lower (Text.strip u) = Text.lower (Text.strip t) := by
  obtain ⟨w, hw, hu⟩ := h
  have hstrip : Text.strip w = Text.strip t := by
    rcases hw with rfl | ⟨-, hpadded⟩
    · rfl
    · exact hpadded.strip_eq
  rw [← hstrip]
  rcases hu with rfl | ⟨-, hrecased⟩
  · rfl
  · exact hrecased.strip.lower_eq

/-- Where case matters, only blanks may differ. -/
theorem padded (h : f.Respelled t u) (hcase : f.ignoresCase = false) : u = t ∨ t.Padded u := by
  obtain ⟨w, hw, rfl | ⟨hignores, -⟩⟩ := h
  · exact hw.imp_right And.right
  · rw [hcase] at hignores
    cases hignores

/-- Where blanks matter, only case may differ. -/
theorem recased (h : f.Respelled t u) (hblanks : f.ignoresBlanks = false) :
    u = t ∨ t.Recased u := by
  obtain ⟨w, rfl | ⟨hignores, -⟩, hu⟩ := h
  · exact hu.imp_right And.right
  · rw [hblanks] at hignores
    cases hignores

theorem strip_eq (h : f.Respelled t u) (hcase : f.ignoresCase = false) :
    Text.strip u = Text.strip t := by
  rcases h.padded hcase with rfl | hpadded
  · rfl
  · exact hpadded.strip_eq

end Field.Respelled

/-! ## What is read -/

/-- What is made of a value by its key alone is made of an optional value by its key. -/
theorem elim_congr {α β γ : Type} {key : α → β} {make : α → γ} {fallback : γ}
    (hmake : ∀ a b, key a = key b → make a = make b) {x y : Option α}
    (h : x.map key = y.map key) : x.elim fallback make = y.elim fallback make := by
  cases x <;> cases y
  · rfl
  · cases h
  · cases h
  · exact hmake _ _ (Option.some.inj h)

/-- Identifiers are read without the white space around them. -/
theorem readIdentifier_congr {t u : Text}
    (h : u.toString?.map Text.trimString = t.toString?.map Text.trimString) :
    readIdentifier (.scalar (.text u)) = readIdentifier (.scalar (.text t)) := by
  have hread : ∀ t : Text, readIdentifier (.scalar (.text t))
      = t.toString?.elim (.error .notUnicode) fun s => readIdentifier (.ofString s) := by
    intro t
    simp only [readIdentifier, spelledChars?, Value.text?, Value.ofString, Text.toString?_ofString]
    cases t.toString? <;> rfl
  rw [hread, hread]
  refine elim_congr (fun a b hab => ?_) h
  simp only [readIdentifier, spelledChars?, Value.text?, Value.ofString, Text.toString?_ofString,
    Identifier.ofString?, hab]

/-- Flags are read in small letters. -/
theorem readFlag_congr {t u : Text}
    (h : u.toString?.map (·.toList.map Char.toLower) = t.toString?.map (·.toList.map Char.toLower)) :
    readFlag (.scalar (.text u)) = readFlag (.scalar (.text t)) := by
  have hread : ∀ t : Text, readFlag (.scalar (.text t))
      = t.toString?.elim (.error .notUnicode) fun s => readFlag (.ofString s) := by
    intro t
    simp only [readFlag, spelledChars?, Value.text?, Value.ofString, Text.toString?_ofString]
    cases t.toString? <;> rfl
  rw [hread, hread]
  refine elim_congr (fun a b hab => ?_) h
  simp only [readFlag, spelledChars?, Value.text?, Value.ofString, Text.toString?_ofString,
    flagOfWord?, hab]

/-- Codecs are read in small letters and without the blanks around them. -/
theorem readCodec_congr {t u : Text}
    (h : Text.lower (Text.strip u) = Text.lower (Text.strip t)) :
    readCodec (.scalar (.text u)) = readCodec (.scalar (.text t)) := by
  rw [readCodec_text rfl, readCodec_text rfl, h]

/-- A respelled text is read like the original one. -/
theorem Field.Respelled.read_eq {f : Field} {t u : Text} (h : f.Respelled t u) :
    f.read (.scalar (.text u)) = f.read (.scalar (.text t)) := by
  -- identifiers may be padded, flags recased, and the codec both
  have hidentifier : f.ignoresCase = false →
      readIdentifier (.scalar (.text u)) = readIdentifier (.scalar (.text t)) := by
    intro hcase
    rcases h.padded hcase with rfl | hpadded
    · rfl
    · exact readIdentifier_congr hpadded.trim_toString?
  have hflag : f.ignoresBlanks = false →
      readFlag (.scalar (.text u)) = readFlag (.scalar (.text t)) := by
    intro hblanks
    rcases h.recased hblanks with rfl | hrecased
    · rfl
    · exact readFlag_congr hrecased.toString?_eq
  cases f with
  | dataFormat | keysFormat | headersFormat | bucket =>
    exact congrArg (Except.map Identifier.text) (hidentifier rfl)
  | storeKeys | storeHeaders => exact congrArg (Except.map flagText) (hflag rfl)
  | compression => exact congrArg (Except.map Codec.name) (readCodec_congr h.lower_strip_eq)

/-! ## Mentions -/

/-- The mentions are of one field, they compare alike, and they are read alike. -/
structure Mention.Alike (a b : Mention) : Prop where
  field : b.field = a.field
  isTooLong : b.value.isTooLong = a.value.isTooLong
  normalForm : b.normalForm = a.normalForm
  read : a.field.read b.value = a.field.read a.value

theorem Mention.Alike.refl (m : Mention) : m.Alike m := ⟨rfl, rfl, rfl, rfl⟩

namespace Field.Respelled

variable {f : Field} {t u : Text}

/-- Mentions of respelled texts are alike. -/
theorem alike_text (h : f.Respelled t u) (s : Spelling) :
    Mention.Alike ⟨f, s, .scalar (.text t)⟩ ⟨f, s, .scalar (.text u)⟩ := by
  refine ⟨rfl, rfl, ?_, h.read_eq⟩
  simp only [Mention.normalForm, Value.plainText, Scalar.plainText]
  split
  · exact h.lower_strip_eq
  · next hcase => exact h.strip_eq (Bool.eq_false_iff.mpr hcase)

/-- So are mentions of what the texts say under a name of the field. -/
theorem alike (h : f.Respelled t u) (s : Spelling) :
    Mention.Alike ⟨f, s, f.meaning s (.scalar (.text t))⟩ ⟨f, s, f.meaning s (.scalar (.text u))⟩ := by
  unfold Field.meaning
  split
  · next hnative =>
    -- names of classes are looked up without the blanks around them
    have hstrip : Text.strip u = Text.strip t := by
      refine h.strip_eq ?_
      cases f <;> first | rfl | cases hnative.2
    simp only [translateClass, Value.text?, hstrip]
    split
    · exact .refl _
    · exact h.alike_text s
  · exact h.alike_text s

end Field.Respelled

/-- Respelled entries are no mentions, or mentions that are alike. -/
theorem EntryRespelled.mention {e e' : Scalar × Value} (h : EntryRespelled e e') :
    Option.Rel Mention.Alike (Mention.ofEntry? e) (Mention.ofEntry? e') := by
  obtain ⟨hkey, hvalue | ⟨f, s, t, u, hname, ht, hu, hrespelled⟩⟩ := h
  · obtain rfl : e' = e := Prod.ext hkey hvalue
    cases Mention.ofEntry? e' with
    | none => exact .none
    | some m => exact .some (.refl m)
  · rw [Mention.ofEntry?_of_key hname, Mention.ofEntry?_of_key (hkey.trans hname), ht, hu]
    exact .some (hrespelled.alike s)

theorem Properties.Respelled.mentions {p q : Properties} (h : p.Respelled q) :
    List.Forall₂ Mention.Alike p.mentions q.mentions :=
  List.rel_filterMap (fun _ _ he => he.mention) h

/-! ## The comparison -/

variable {seen seen' ms ms' : List Mention} {m m' : Mention}

/-- The first mentions of a field are alike. -/
theorem find?_alike (h : List.Forall₂ Mention.Alike ms ms') (f : Field) :
    Option.Rel Mention.Alike (ms.find? (·.field = f)) (ms'.find? (·.field = f)) := by
  induction h with
  | nil => exact .none
  | @cons a b ms ms' hab _ ih =>
    rw [List.find?_cons, List.find?_cons, hab.field]
    split
    · exact .some hab
    · exact ih

/-- Two comparisons end alike: with mentions that are alike, or in the same way for the same field. -/
inductive SettledAlike :
    Except SnapshotError (List Mention) → Except SnapshotError (List Mention) → Prop
  | ok {ms ms' : List Mention} (h : List.Forall₂ Mention.Alike ms ms') :
      SettledAlike (.ok ms) (.ok ms')
  | conflict {c d : Conflict} (h : d.later.field = c.later.field) :
      SettledAlike (.error (.conflict c)) (.error (.conflict d))
  | longValue : SettledAlike (.error .longValue) (.error .longValue)

/-- Mentions that are alike are added alike. -/
theorem settle_alike (hseen : List.Forall₂ Mention.Alike seen seen') (hm : m.Alike m') :
    SettledAlike (settle seen m) (settle seen' m') := by
  unfold settle
  rw [hm.field]
  -- what was seen before is alike too, so that both runs find the same or both find nothing
  have hfind := find?_alike hseen m.field
  generalize seen.find? (·.field = m.field) = a, seen'.find? (·.field = m.field) = a' at hfind
  cases hfind with
  | none => exact .ok (.cons hm hseen)
  | some ha =>
    simp only [ha.isTooLong, hm.isTooLong, ha.normalForm, hm.normalForm]
    split
    · exact .longValue
    · split
      · exact .ok (.cons hm hseen)
      · exact .conflict hm.field

/-- Lists of mentions that are alike are settled alike. -/
theorem settleAll_alike (hms : List.Forall₂ Mention.Alike ms ms') :
    ∀ {seen seen' : List Mention}, List.Forall₂ Mention.Alike seen seen' →
      SettledAlike (settleAll seen ms) (settleAll seen' ms') := by
  induction hms with
  | nil => exact fun hseen => .ok hseen
  | cons hm _ ih =>
    intro seen seen' hseen
    rw [settleAll, settleAll]
    have hstep := settle_alike hseen hm
    generalize settle seen _ = out, settle seen' _ = out' at hstep
    cases hstep with
    | ok h => exact ih h
    | conflict h => exact .conflict h
    | longValue => exact .longValue

/-- Mentions that are alike give every field what is judged alike. -/
theorem judge_givenIn_alike (h : List.Forall₂ Mention.Alike ms ms') (f : Field) :
    f.judge (givenIn ms f) = f.judge (givenIn ms' f) := by
  unfold givenIn
  have hfind := find?_alike h f
  have hfield : ∀ a, ms.find? (·.field = f) = some a → a.field = f :=
    fun a ha => of_decide_eq_true (List.find?_some (p := fun m : Mention => decide (m.field = f)) ha)
  generalize ms.find? (·.field = f) = a, ms'.find? (·.field = f) = a' at hfind hfield
  cases hfind with
  | none => rfl
  | some ha =>
    obtain rfl := hfield _ rfl
    simp only [Option.map_some, Field.judge, ha.read]

/-! ## What is made of a configuration -/

namespace Snapshot

/-- Spelling means nothing. What is made of a configuration is also made of every respelled one: the
same snapshot, a conflict of the same field, the same rejection, or the error that a value which has to
be compared is too long to be written. -/
theorem ofProperties_respelled {p q : Properties} (h : p.Respelled q) :
    (∃ s, ofProperties p = .ok s ∧ ofProperties q = .ok s)
    ∨ (∃ c d, ofProperties p = .error (.conflict c) ∧ ofProperties q = .error (.conflict d)
      ∧ d.later.field = c.later.field)
    ∨ (∃ r, ofProperties p = .error (.rejected r) ∧ ofProperties q = .error (.rejected r))
    ∨ (∃ c, p.FirstDispute c ∧ ¬ c.IsWritten)
      ∧ ofProperties p = .error .longValue ∧ ofProperties q = .error .longValue := by
  -- the two comparisons end in the same way, and if they end well, fields are judged alike
  have hsettled := settleAll_alike h.mentions .nil
  unfold ofProperties
  generalize hp : settleAll [] p.mentions = out, settleAll [] q.mentions = out' at hsettled
  cases hsettled with
  | ok hms =>
    have hgiven := ofGiven_congr (judge_givenIn_alike hms)
    dsimp only
    rw [hgiven]
    cases ofGiven (givenIn _) with
    | ok s => exact .inl ⟨s, rfl, rfl⟩
    | error r => exact .inr (.inr (.inl ⟨r, rfl, rfl⟩))
  | conflict hfield => exact .inr (.inl ⟨_, _, rfl, rfl, hfield⟩)
  | longValue =>
    obtain ⟨c, hc, herror⟩ := Properties.settleAll_mentions_eq_error_iff.mp hp
    exact .inr (.inr (.inr ⟨⟨c, hc, Conflict.error_eq_longValue_iff.mp herror⟩, rfl, rfl⟩))

/-- A class name, a codec under both names and a flag, without blanks. -/
def plainSink : Properties :=
  .ofList [("format.class", .ofString "io.confluent.connect.s3.format.json.JsonFormat"),
    ("compression-type", .ofString "gzip"), ("s3.compression.type", .ofString "GZIP"),
    ("store-keys", .ofString "yes"), ("bucket-name", .ofString "b")]

/-- The same, in other spellings. -/
def respelledSink : Properties :=
  .ofList [("format.class", .ofString "\tio.confluent.connect.s3.format.json.JsonFormat\r\n"),
    ("compression-type", .ofString " GZip"), ("s3.compression.type", .ofString "gzip\x0b\x0c"),
    ("store-keys", .ofString "YES"), ("bucket-name", .ofString " b ")]

theorem ofProperties_respelledSink :
    plainSink.Respelled respelledSink
      ∧ ∃ s, ofProperties plainSink = .ok s ∧ ofProperties respelledSink = .ok s := by
  have hrespelled : plainSink.Respelled respelledSink := by
    refine .cons ⟨rfl, .inr ⟨.dataFormat, .native, _, _, rfl, rfl, rfl, _, .inr ⟨rfl, ['\t'],
      ['\r', '\n'], rfl, rfl, rfl⟩, .inl rfl⟩⟩ ?_
    refine .cons ⟨rfl, .inr ⟨.compression, .stable, _, _, rfl, rfl, rfl, Text.ofString " gzip",
      .inr ⟨rfl, [' '], [], rfl, rfl, rfl⟩, .inr ⟨rfl, by decide⟩⟩⟩ ?_
    refine .cons ⟨rfl, .inr ⟨.compression, .native, _, _, rfl, rfl, rfl,
      Text.ofString "GZIP\x0b\x0c", .inr ⟨rfl, [], ['\x0b', '\x0c'], rfl, rfl, rfl⟩,
      .inr ⟨rfl, by decide⟩⟩⟩ ?_
    refine .cons ⟨rfl, .inr ⟨.storeKeys, .stable, _, _, rfl, rfl, rfl, _, .inl rfl,
      .inr ⟨rfl, by decide⟩⟩⟩ ?_
    refine .cons ⟨rfl, .inr ⟨.bucket, .stable, _, _, rfl, rfl, rfl, _, .inr ⟨rfl, [' '], [' '], rfl,
      rfl, rfl⟩, .inl rfl⟩⟩ .nil
  have haccepted : (ofProperties plainSink).toOption.isSome = true := by decide +kernel
  refine ⟨hrespelled, ?_⟩
  rcases ofProperties_respelled hrespelled with hsame | ⟨c, d, hc, -⟩ | ⟨r, hr, -⟩ | ⟨-, hlong, -⟩
  · exact hsame
  · rw [hc] at haccepted
    cases haccepted
  · rw [hr] at haccepted
    cases haccepted
  · rw [hlong] at haccepted
    cases haccepted

/-- Where a value is too long, and be it spelled as before, there is no snapshot, no conflict and no
rejection. -/
theorem longFlag_respelled :
    longFlag.Respelled longFlag
      ∧ ¬ ((∃ s, ofProperties longFlag = .ok s ∧ ofProperties longFlag = .ok s)
        ∨ (∃ c d, ofProperties longFlag = .error (.conflict c)
          ∧ ofProperties longFlag = .error (.conflict d) ∧ d.later.field = c.later.field)
        ∨ ∃ r, ofProperties longFlag = .error (.rejected r)
          ∧ ofProperties longFlag = .error (.rejected r)) := by
  refine ⟨List.forall₂_same.mpr fun e _ => ⟨rfl, .inl rfl⟩, ?_⟩
  rw [ofProperties_longFlag]
  simp

end Snapshot

end SinkAudit
