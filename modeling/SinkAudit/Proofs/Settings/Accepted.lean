import Mathlib.Algebra.Order.Field.Rat
import Mathlib.Algebra.Order.GroupWithZero.Basic
import SinkAudit.Failure
import SinkAudit.Proofs.Policy
import SinkAudit.Proofs.Settings
import SinkAudit.Proofs.Settings.Address

/-!
# Which drafts are accepted

Settings are documented to name a known service, a time greater than zero, addresses that are
addresses from end to end, credentials that are complete and of one kind, and at least one safe format.
Every such draft is accepted. Two others are too: an address may end in a line feed, and a time that is
no number at all counts as one that is not zero or below.

The two drafts that are accepted against the documentation are accepted for reasons that look harmless. A
pattern that ends in `$` matches before a final line feed. And no comparison with NaN is true, so that a
check which refuses times that are zero or below does not refuse it. Both gaps are stated exactly, so that
there is no third one.

- `Seconds.IsAboveZero`, `Seconds.isPositive_iff`: times greater than zero, and those that pass for one.
- `SettingsDraft.IsInOrder`: all parts of a draft, given which times and addresses will do;
  `IsDocumented` and `IsAccepted` for those that are documented and those that are accepted.
- `readBackend_eq_ok_iff` to `readPolicy_isOk_iff`: the parts.
- `ofDraft_isOk_iff`, `ofEnvironment_isOk_iff`: which drafts and environments make settings;
  `fault_of_ofDraft`, `isValueFault_of_ofEnvironment`: how all others fail.
- `accepts_documented_iff`: all of this, and when acceptance is as documented.
-/

namespace SinkAudit

/-! ## Times -/

namespace Seconds

/-- Is the time greater than zero? -/
def IsAboveZero : Seconds → Prop
  | truth b => b = true
  | whole n => 0 < n
  | real x => match Binary64.magnitude x with
    | .finite m q => 0 < (if Binary64.isNegative x then -1 else 1) * ((m : ℚ) * 2 ^ q)
    | .infinite => Binary64.isNegative x = false
    | .notANumber => False

/-- Is the time no number? -/
def IsNotANumber : Seconds → Prop
  | real x => Binary64.magnitude x = .notANumber
  | _ => False

/-- A number without its sign is nothing or more. -/
theorem magnitude_nonneg (m : Nat) (q : Int) : 0 ≤ (m : ℚ) * 2 ^ q :=
  mul_nonneg (Nat.cast_nonneg m) (zpow_nonneg zero_le_two q)

/-- What passes for greater than zero is greater than zero, or no number. -/
theorem isPositive_iff (t : Seconds) :
    t.isPositive = true ↔ t.IsAboveZero ∨ t.IsNotANumber := by
  cases t with
  | truth b => simp [isPositive, IsAboveZero, IsNotANumber]
  | whole n => simp [isPositive, IsAboveZero, IsNotANumber]
  | real x =>
    unfold isPositive IsAboveZero IsNotANumber
    dsimp only
    cases hx : Binary64.magnitude x with
    -- no comparison with NaN is true, so that it is not found to be zero or below
    | notANumber => simp
    | infinite => simp
    | finite m q =>
      cases hsign : Binary64.isNegative x with
      | true =>
        have hneg : ¬ 0 < (-1 : ℚ) * ((m : ℚ) * 2 ^ q) := by
          rw [neg_one_mul, not_lt, neg_nonpos]
          exact magnitude_nonneg m q
        simpa using hneg
      | false =>
        have hpos : 0 < (m : ℚ) * 2 ^ q ↔ m ≠ 0 := by
          rw [mul_pos_iff_of_pos_right (zpow_pos two_pos q), Nat.cast_pos, Nat.pos_iff_ne_zero]
        simp [hpos]

theorem IsAboveZero.not_isNotANumber {t : Seconds} (h : t.IsAboveZero) : ¬ t.IsNotANumber := by
  cases t with
  | truth b => exact id
  | whole n => exact id
  | real x =>
    intro hx
    change Binary64.magnitude x = .notANumber at hx
    unfold IsAboveZero at h
    dsimp only at h
    rw [hx] at h
    exact h

end Seconds

/-! ## Names of services -/

/-- Only a name of a service names it. -/
theorem Backend.ofName?_eq_some_iff {s : String} {b : Backend} : ofName? s = some b ↔ s = b.name := by
  constructor
  · intro h
    have hname := List.find?_some (p := fun b : Backend => b.name == s) h
    exact (eq_of_beq hname).symm
  · rintro rfl
    exact ofName?_name b

/-! ## Drafts -/

namespace SettingsDraft

/-- Are all parts of a draft in order, if these are the times and the addresses that will do? -/
structure IsInOrder (timely : Seconds → Prop) (located : List Char → Prop) (d : SettingsDraft) :
    Prop where
  backend : d.backend = .ofString "s3" ∨ d.backend = .ofString "az"
  timeout : ∃ t, Seconds.ofValue? d.timeout = some t ∧ timely t
  endpoint : ∀ s, d.endpoint = some s → s = "" ∨ located s.toList
  blobEndpoint : ∀ s, d.blobEndpoint = some s → s = "" ∨ located s.toList
  keyPair : isGiven d.accessKey = isGiven d.secretKey
  account : isGiven d.account = isGiven d.accountKey
  oneCredential : isGiven d.connectionString = true →
    isGiven d.account = false ∧ isGiven d.accountKey = false
  formats : d.safeFormats ≠ []

/-- The drafts that are documented to be in order. -/
def IsDocumented (d : SettingsDraft) : Prop := d.IsInOrder Seconds.IsAboveZero IsServiceAddress

/-- The drafts that are accepted. -/
def IsAccepted (d : SettingsDraft) : Prop :=
  d.IsInOrder (fun t => t.IsAboveZero ∨ t.IsNotANumber)
    fun cs => IsServiceAddress cs ∨ ∃ address, IsServiceAddress address ∧ cs = address ++ ['\n']

/-- Is the time no number, or does an address end in a line feed? -/
def IsLoose (d : SettingsDraft) : Prop :=
  (∃ t, Seconds.ofValue? d.timeout = some t ∧ t.IsNotANumber)
    ∨ ∃ s cs, (d.endpoint = some s ∨ d.blobEndpoint = some s) ∧ s.toList = cs ++ ['\n']

/-- Documented drafts are those that are accepted and not loose. -/
theorem isDocumented_iff {d : SettingsDraft} : d.IsDocumented ↔ d.IsAccepted ∧ ¬ d.IsLoose := by
  constructor
  · intro h
    obtain ⟨t, hvalue, htime⟩ := h.timeout
    refine ⟨{ h with
      timeout := ⟨t, hvalue, .inl htime⟩
      endpoint := fun s hs => (h.endpoint s hs).imp_right .inl
      blobEndpoint := fun s hs => (h.blobEndpoint s hs).imp_right .inl }, ?_⟩
    rintro (⟨t', hvalue', hnone⟩ | ⟨s, cs, hs, hbreak⟩)
    · rw [hvalue] at hvalue'
      cases hvalue'
      exact htime.not_isNotANumber hnone
    · -- the text is not empty, so it is an address, and these hold no line feed
      have hlocated : s = "" ∨ IsServiceAddress s.toList := hs.elim (h.endpoint s) (h.blobEndpoint s)
      rw [hbreak] at hlocated
      rcases hlocated with rfl | haddress
      · exact absurd hbreak.symm (List.append_ne_nil_of_right_ne_nil cs (List.cons_ne_nil _ _))
      · exact haddress.not_mem_lineFeed (List.mem_append_right cs List.mem_cons_self)
  · rintro ⟨h, hstrict⟩
    have hlocated : ∀ s, (d.endpoint = some s ∨ d.blobEndpoint = some s) →
        (s = "" ∨ IsServiceAddress s.toList ∨
          ∃ address, IsServiceAddress address ∧ s.toList = address ++ ['\n']) →
        s = "" ∨ IsServiceAddress s.toList := by
      rintro s hs (hempty | haddress | ⟨address, -, hbreak⟩)
      · exact .inl hempty
      · exact .inr haddress
      · exact absurd (.inr ⟨s, address, hs, hbreak⟩) hstrict
    obtain ⟨t, hvalue, htime⟩ := h.timeout
    exact { h with
      timeout := ⟨t, hvalue, htime.resolve_right fun hnone => hstrict (.inl ⟨t, hvalue, hnone⟩)⟩
      endpoint := fun s hs => hlocated s (.inl hs) (h.endpoint s hs)
      blobEndpoint := fun s hs => hlocated s (.inr hs) (h.blobEndpoint s hs) }

end SettingsDraft

namespace Settings

/-! ## The parts of a draft -/

theorem readBackend_eq_ok_iff {v : Value} {b : Backend} :
    readBackend v = .ok b ↔ v = .ofString b.name := by
  unfold readBackend
  constructor
  · intro h
    split at h
    · next b' hb =>
      cases h
      obtain ⟨s, hs, hname⟩ := Option.bind_eq_some_iff.mp hb
      obtain ⟨t, ht, hstring⟩ := Option.bind_eq_some_iff.mp hs
      rw [Text.toString?_eq_some_iff.mp hstring, Backend.ofName?_eq_some_iff.mp hname] at ht
      -- a codec counts as its name as well, but no codec has the name of a service
      unfold Value.text? at ht
      split at ht
      · cases ht
        rfl
      · next c =>
        injection ht with ht
        exact absurd ht (by cases c <;> cases b <;> decide)
      · cases ht
    · cases h
  · rintro rfl
    have hname : (((Value.ofString b.name).text?).bind Text.toString?).bind Backend.ofName?
        = some b := by
      rw [Value.ofString, Value.text?, Option.bind_some, Text.toString?_ofString,
        Option.bind_some, Backend.ofName?_name]
    rw [hname]

theorem readTimeout_eq_ok_iff {v : Value} {t : Seconds} :
    readTimeout v = .ok t ↔ Seconds.ofValue? v = some t ∧ t.isPositive = true := by
  unfold readTimeout
  cases Seconds.ofValue? v with
  | none => exact iff_of_false nofun nofun
  | some t' =>
    dsimp only
    by_cases hpositive : t'.isPositive = true
    · rw [if_pos hpositive, Except.ok.injEq, Option.some.injEq]
      exact ⟨fun h => ⟨h, h ▸ hpositive⟩, And.left⟩
    · rw [if_neg hpositive, Option.some.injEq]
      exact iff_of_false nofun fun h => hpositive (h.1 ▸ h.2)

theorem checkEndpoint_eq_ok_iff {e : Endpoint} {o : Option String} :
    checkEndpoint e o = .ok () ↔ ∀ s, o = some s → s = "" ∨ isEndpoint s = true := by
  cases o with
  | none => exact iff_of_true rfl nofun
  | some s =>
    unfold checkEndpoint
    dsimp only
    by_cases h : s = "" ∨ isEndpoint s = true
    · rw [if_pos h]
      refine iff_of_true rfl ?_
      rintro s' ⟨⟩
      exact h
    · rw [if_neg h]
      exact iff_of_false nofun fun hall => h (hall s rfl)

theorem checkCredentials_eq_ok_iff {d : SettingsDraft} :
    checkCredentials d = .ok ()
      ↔ isGiven d.accessKey = isGiven d.secretKey
        ∧ isGiven d.account = isGiven d.accountKey
        ∧ (isGiven d.connectionString = true →
          isGiven d.account = false ∧ isGiven d.accountKey = false) := by
  unfold checkCredentials
  cases isGiven d.accessKey <;> cases isGiven d.secretKey <;> cases isGiven d.connectionString
    <;> cases isGiven d.account <;> cases isGiven d.accountKey <;> simp

theorem readPolicy_isOk_iff {formats : List String} :
    (∃ p, readPolicy formats = .ok p) ↔ formats ≠ [] := by
  unfold readPolicy
  rw [Ne, ← Policy.ofSet?_eq_none_iff]
  cases Policy.ofSet? formats with
  | none => exact iff_of_false nofun fun h => h rfl
  | some p => exact iff_of_true ⟨p, rfl⟩ nofun

/-! ## All parts -/

/-- A draft makes settings exactly if it is accepted. -/
theorem ofDraft_isOk_iff {d : SettingsDraft} : (∃ s, ofDraft d = .ok s) ↔ d.IsAccepted := by
  constructor
  · rintro ⟨s, h⟩
    obtain ⟨hbackend, htimeout, hendpoint, hblob, hcredentials, hsafe, -⟩ := ofDraft_eq_ok_iff.mp h
    obtain ⟨hvalue, hpositive⟩ := readTimeout_eq_ok_iff.mp htimeout
    obtain ⟨hkeys, haccount, hone⟩ := checkCredentials_eq_ok_iff.mp hcredentials
    refine ⟨?_, ⟨s.timeout, hvalue, (s.timeout.isPositive_iff).mp hpositive⟩,
      fun a ha => (checkEndpoint_eq_ok_iff.mp hendpoint a ha).imp_right isEndpoint_iff.mp,
      fun a ha => (checkEndpoint_eq_ok_iff.mp hblob a ha).imp_right isEndpoint_iff.mp,
      hkeys, haccount, hone, readPolicy_isOk_iff.mp ⟨s.safe, hsafe⟩⟩
    rw [readBackend_eq_ok_iff.mp hbackend]
    cases s.backend with
    | s3 => exact .inl rfl
    | azure => exact .inr rfl
  · intro h
    -- each condition gives a value that its check accepts, and these make the settings
    obtain ⟨b, hbackend⟩ : ∃ b : Backend, d.backend = .ofString b.name :=
      h.backend.elim (fun hs3 => ⟨.s3, hs3⟩) fun haz => ⟨.azure, haz⟩
    obtain ⟨t, hvalue, htime⟩ := h.timeout
    obtain ⟨p, hsafe⟩ := readPolicy_isOk_iff.mpr h.formats
    exact ⟨⟨b, t, d.region, d.endpoint, d.accessKey, d.secretKey, d.connectionString, d.account,
        d.accountKey, d.blobEndpoint, p⟩,
      ofDraft_eq_ok_iff.mpr ⟨readBackend_eq_ok_iff.mpr hbackend,
        readTimeout_eq_ok_iff.mpr ⟨hvalue, t.isPositive_iff.mpr htime⟩,
        checkEndpoint_eq_ok_iff.mpr fun a ha => (h.endpoint a ha).imp_right isEndpoint_iff.mpr,
        checkEndpoint_eq_ok_iff.mpr fun a ha => (h.blobEndpoint a ha).imp_right isEndpoint_iff.mpr,
        checkCredentials_eq_ok_iff.mpr ⟨h.keyPair, h.account, h.oneCredential⟩, hsafe, rfl⟩⟩

/-! ## Drafts that are refused -/

/-- Is the failure that a value is not one of those that will do? -/
def IsValueFault (e : SettingsError) : Prop := (Failure.settings e).kind = .invalidValue

theorem isValueFault_of_readBackend {v : Value} {e : SettingsError} (h : readBackend v = .error e) :
    IsValueFault e := by
  unfold readBackend at h
  split at h <;> cases h
  rfl

/-- A time is refused for being zero or below, or for being nothing that can be compared with zero. -/
theorem fault_of_readTimeout {v : Value} {e : SettingsError} (h : readTimeout v = .error e) :
    IsValueFault e ∨ (Seconds.ofValue? v = none ∧ e = .timeoutType v) := by
  unfold readTimeout at h
  split at h
  · next hvalue =>
    cases h
    exact .inr ⟨hvalue, rfl⟩
  · split at h <;> cases h
    exact .inl rfl

theorem isValueFault_of_checkEndpoint {which : Endpoint} {o : Option String} {e : SettingsError}
    (h : checkEndpoint which o = .error e) : IsValueFault e := by
  unfold checkEndpoint at h
  split at h
  · cases h
  · split at h <;> cases h
    rfl

theorem isValueFault_of_checkCredentials {d : SettingsDraft} {e : SettingsError}
    (h : checkCredentials d = .error e) : IsValueFault e := by
  unfold checkCredentials at h
  repeat' split at h
  all_goals cases h
  all_goals rfl

theorem isValueFault_of_readPolicy {formats : List String} {e : SettingsError}
    (h : readPolicy formats = .error e) : IsValueFault e := by
  unfold readPolicy at h
  split at h <;> cases h
  rfl

/-- A draft is refused for a value that will not do, unless its time cannot be compared with zero. -/
theorem fault_of_ofDraft {d : SettingsDraft} {e : SettingsError} (h : ofDraft d = .error e) :
    IsValueFault e ∨ (Seconds.ofValue? d.timeout = none ∧ e = .timeoutType d.timeout) := by
  -- the first part that will not do ends the reading; of all parts only the time may be of a wrong type
  unfold ofDraft at h
  rcases bind_eq_error_iff.mp h with h | ⟨backend, -, h⟩
  · exact .inl (isValueFault_of_readBackend h)
  rcases bind_eq_error_iff.mp h with h | ⟨timeout, -, h⟩
  · exact fault_of_readTimeout h
  rcases bind_eq_error_iff.mp h with h | ⟨_, -, h⟩
  · exact .inl (isValueFault_of_checkEndpoint h)
  rcases bind_eq_error_iff.mp h with h | ⟨_, -, h⟩
  · exact .inl (isValueFault_of_checkEndpoint h)
  rcases bind_eq_error_iff.mp h with h | ⟨_, -, h⟩
  · exact .inl (isValueFault_of_checkCredentials h)
  rcases bind_eq_error_iff.mp h with h | ⟨safe, -, h⟩
  · exact .inl (isValueFault_of_readPolicy h)
  cases h

/-! ## Environments -/

/-- An environment makes settings exactly if its time is read, and the draft in it is accepted. -/
theorem ofEnvironment_isOk_iff {env : Environment} :
    (∃ s, ofEnvironment env = .ok s)
      ↔ ∃ timeout, timeoutOf env = .ok timeout ∧ (draftOf env timeout).IsAccepted := by
  unfold ofEnvironment
  constructor
  · rintro ⟨s, h⟩
    split at h
    · cases h
    · next timeout htimeout => exact ⟨timeout, htimeout, ofDraft_isOk_iff.mp ⟨s, h⟩⟩
  · rintro ⟨timeout, htimeout, haccepted⟩
    rw [htimeout]
    exact ofDraft_isOk_iff.mpr haccepted

/-- An environment is always refused for a value, since its time is a number if it is read. -/
theorem isValueFault_of_ofEnvironment {env : Environment} {e : SettingsError}
    (h : ofEnvironment env = .error e) : IsValueFault e := by
  unfold ofEnvironment at h
  split at h
  · next htimeout =>
    cases h
    unfold timeoutOf at htimeout
    repeat' split at htimeout
    all_goals cases htimeout
    rfl
  · next timeout _ =>
    rcases fault_of_ofDraft h with hvalue | ⟨hnone, -⟩
    · exact hvalue
    · cases hnone

/-! ## Both -/

/-- A draft is accepted as documented, or is accepted and loose. -/
theorem ofDraft_isDocumented_iff {d : SettingsDraft} :
    ((∃ s, ofDraft d = .ok s) ↔ d.IsDocumented) ↔ ¬ (d.IsAccepted ∧ d.IsLoose) := by
  rw [ofDraft_isOk_iff, SettingsDraft.isDocumented_iff]
  tauto

/-- So is what an environment passes on. -/
theorem ofEnvironment_isDocumented_iff {env : Environment} :
    ((∃ s, ofEnvironment env = .ok s)
        ↔ ∃ timeout, timeoutOf env = .ok timeout ∧ (draftOf env timeout).IsDocumented)
      ↔ ¬ ∃ timeout, timeoutOf env = .ok timeout
        ∧ (draftOf env timeout).IsAccepted ∧ (draftOf env timeout).IsLoose := by
  rw [ofEnvironment_isOk_iff]
  cases timeoutOf env with
  | error e => simp only [reduceCtorEq, false_and, exists_false, not_false_eq_true]
  | ok timeout =>
    simp only [Except.ok.injEq, exists_eq_left', SettingsDraft.isDocumented_iff]
    tauto

/-- Which settings are accepted. A draft makes settings exactly if it is in order, where an address
may end in a line feed and a time may be no number at all; and so does an environment, if its time can
be read. Acceptance is as documented for all drafts but those that are accepted and have such an
address or such a time. Whatever is refused is refused for a value that will not do; only a time that
cannot be compared with zero, which no environment holds, is refused in another way. -/
theorem accepts_documented_iff (d : SettingsDraft) (env : Environment) :
    (((∃ s, ofDraft d = .ok s) ↔ d.IsAccepted)
      ∧ (((∃ s, ofDraft d = .ok s) ↔ d.IsDocumented) ↔ ¬ (d.IsAccepted ∧ d.IsLoose))
      ∧ ∀ e, ofDraft d = .error e →
          IsValueFault e ∨ (Seconds.ofValue? d.timeout = none ∧ e = .timeoutType d.timeout))
    ∧ ((∃ s, ofEnvironment env = .ok s)
        ↔ ∃ timeout, timeoutOf env = .ok timeout ∧ (draftOf env timeout).IsAccepted)
      ∧ (((∃ s, ofEnvironment env = .ok s)
          ↔ ∃ timeout, timeoutOf env = .ok timeout ∧ (draftOf env timeout).IsDocumented)
        ↔ ¬ ∃ timeout, timeoutOf env = .ok timeout
          ∧ (draftOf env timeout).IsAccepted ∧ (draftOf env timeout).IsLoose)
      ∧ ∀ e, ofEnvironment env = .error e → IsValueFault e :=
  ⟨⟨ofDraft_isOk_iff, ofDraft_isDocumented_iff, fun _ => fault_of_ofDraft⟩,
    ofEnvironment_isOk_iff, ofEnvironment_isDocumented_iff, fun _ => isValueFault_of_ofEnvironment⟩

/-- An address with a line feed after it is accepted, and so is a time that is no number; neither is
documented. -/
theorem accepts_lineFeed_notANumber :
    ((∃ s, ofDraft { endpoint := some "http://h\n" } = .ok s)
      ∧ ¬ ({ endpoint := some "http://h\n" } : SettingsDraft).IsDocumented)
    ∧ (∃ s, ofDraft { timeout := .scalar (.float (Float.ofBits 0x7FF8000000000000)) } = .ok s)
      ∧ ¬ ({ timeout := .scalar (.float (Float.ofBits 0x7FF8000000000000)) } :
          SettingsDraft).IsDocumented := by
  refine ⟨⟨⟨_, rfl⟩, fun h => ?_⟩, ⟨_, rfl⟩, fun h => ?_⟩
  · have hloose : ({ endpoint := some "http://h\n" } : SettingsDraft).IsLoose :=
      .inr ⟨_, "http://h".toList, .inl rfl, by decide⟩
    exact (SettingsDraft.isDocumented_iff.mp h).2 hloose
  · have hnone : Binary64.magnitude (Float.ofBits 0x7FF8000000000000) = .notANumber := by rfl
    have hloose : ({ timeout := .scalar (.float (Float.ofBits 0x7FF8000000000000)) } :
        SettingsDraft).IsLoose :=
      .inl ⟨_, rfl, hnone⟩
    exact (SettingsDraft.isDocumented_iff.mp h).2 hloose

end Settings

end SinkAudit
