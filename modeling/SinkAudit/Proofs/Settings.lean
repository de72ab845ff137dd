import SinkAudit.Settings.Environment

/-!
# Which settings come of a draft

Every part of a draft is read or checked on its own, and settings come of it exactly if all parts
pass. So what the settings say of one thing is read off the part of the draft, or the variable, that
is about it.

The order in which parts are checked decides only which error is reported when several are wrong. For
settings that are accepted it does not matter, and the results here do not mention it.

- `ofDraft_eq_ok_iff`: when a draft makes given settings.
- `readPolicy_of_ofEnvironment`, `safe_eq_of_get_eq`: the policy of settings from the environment.
-/

namespace SinkAudit.Settings

/-- A step and what follows succeed exactly if the step does and then what follows it. -/
theorem bind_eq_ok_iff {ε α β : Type} {x : Except ε α} {f : α → Except ε β} {b : β} :
    (x >>= f) = .ok b ↔ ∃ a, x = .ok a ∧ f a = .ok b := by
  cases x with
  | error e => exact iff_of_false nofun nofun
  | ok a =>
    constructor
    · exact fun h => ⟨a, rfl, h⟩
    · rintro ⟨a', ha, h⟩
      cases ha
      exact h

/-- A step and what follows fail exactly if the step does, or what follows it. -/
theorem bind_eq_error_iff {ε α β : Type} {x : Except ε α} {f : α → Except ε β} {e : ε} :
    (x >>= f) = .error e ↔ x = .error e ∨ ∃ a, x = .ok a ∧ f a = .error e := by
  cases x with
  | error e' =>
    constructor
    · intro h
      cases h
      exact .inl rfl
    · rintro (h | ⟨a, ha, -⟩)
      · cases h
        rfl
      · cases ha
  | ok a =>
    constructor
    · exact fun h => .inr ⟨a, rfl, h⟩
    · rintro (h | ⟨a', ha, h⟩)
      · cases h
      · cases ha
        exact h

/-- A draft makes settings exactly if its service, its timeout and its formats are read as theirs, its
addresses and credentials pass, and the settings hold the rest as it is. -/
theorem ofDraft_eq_ok_iff {d : SettingsDraft} {s : Settings} :
    ofDraft d = .ok s ↔
      readBackend d.backend = .ok s.backend
        ∧ readTimeout d.timeout = .ok s.timeout
        ∧ checkEndpoint .s3 d.endpoint = .ok ()
        ∧ checkEndpoint .azure d.blobEndpoint = .ok ()
        ∧ checkCredentials d = .ok ()
        ∧ readPolicy d.safeFormats = .ok s.safe
        ∧ s = { s with
            region := d.region
            endpoint := d.endpoint
            accessKey := d.accessKey
            secretKey := d.secretKey
            connectionString := d.connectionString
            account := d.account
            accountKey := d.accountKey
            blobEndpoint := d.blobEndpoint } := by
  unfold ofDraft
  constructor
  -- the checks stand one after the other; when all pass, their order does not show
  · intro h
    obtain ⟨backend, hbackend, h⟩ := bind_eq_ok_iff.mp h
    obtain ⟨timeout, htimeout, h⟩ := bind_eq_ok_iff.mp h
    obtain ⟨⟨⟩, hendpoint, h⟩ := bind_eq_ok_iff.mp h
    obtain ⟨⟨⟩, hblob, h⟩ := bind_eq_ok_iff.mp h
    obtain ⟨⟨⟩, hcredentials, h⟩ := bind_eq_ok_iff.mp h
    obtain ⟨safe, hsafe, h⟩ := bind_eq_ok_iff.mp h
    cases h
    exact ⟨hbackend, htimeout, hendpoint, hblob, hcredentials, hsafe, rfl⟩
  · rintro ⟨hbackend, htimeout, hendpoint, hblob, hcredentials, hsafe, hrest⟩
    rw [hbackend, htimeout, hendpoint, hblob, hcredentials, hsafe, hrest]
    rfl

variable {env env' : Environment} {s s' : Settings}

/-- The policy of settings from the environment is that of its formats. -/
theorem readPolicy_of_ofEnvironment (h : ofEnvironment env = .ok s) :
    readPolicy (formatsOf env) = .ok s.safe := by
  unfold ofEnvironment at h
  cases htimeout : timeoutOf env with
  | error e =>
    rw [htimeout] at h
    cases h
  | ok timeout =>
    rw [htimeout] at h
    obtain ⟨-, -, -, -, -, hsafe, -⟩ := ofDraft_eq_ok_iff.mp h
    exact hsafe

/-- Environments with the same formats have the same policy, whatever else they say. -/
theorem safe_eq_of_get_eq (h : ofEnvironment env = .ok s) (h' : ofEnvironment env' = .ok s')
    (hformats : env'.get .safeFormats = env.get .safeFormats) : s'.safe = s.safe := by
  have hsame : formatsOf env' = formatsOf env := by
    unfold formatsOf
    rw [hformats]
  have hread := readPolicy_of_ofEnvironment h'
  rw [hsame, readPolicy_of_ofEnvironment h] at hread
  injection hread with hsafe
  exact hsafe.symm

end SinkAudit.Settings
