import SinkAudit.Proofs.Policy
import SinkAudit.Proofs.Settings.Accepted
import SinkAudit.Proofs.Text.Lines

/-!
# Settings written to the environment

Each variable holds one part of the settings, and is read as that part again: texts as they are, the
safe formats as the names between the commas. The list of formats in a message is a list of names too,
since the blank after each comma is dropped.

Settings have no function that writes them, but a deployment has to: someone writes the eleven variables. It
is proved that it can be done, for every accepted draft whose formats can stand in a list, and how. Times
are compared by their value, as `30` and `30.0` are one time.

- `splitNames_supported`, `Policy.ofNames?_supported`: a list of formats, taken apart and read.
- `Policy.isListed_of_splitNames`: formats that were read from a list can be written as one.
- `Seconds.isPositive_of_same`: a time equal to one that is accepted is accepted.
- `Settings.variableText`: the text of each variable that stands for settings.
- `ofEnvironment_roundTrip`: settings are read back from their variables, and the policy of a list of
  names from its own list.
-/

namespace SinkAudit

/-! ## Lists of names -/

/-- Joining by two characters is joining by the first, with the second in front of all texts but one. -/
theorem intercalate_pair {α : Type} (x y : α) (text : List α) (texts : List (List α)) :
    [x, y].intercalate (text :: texts) = [x].intercalate (text :: texts.map (y :: ·)) := by
  induction texts generalizing text with
  | nil => rw [List.map_nil, List.intercalate_singleton, List.intercalate_singleton]
  | cons next rest ih =>
    -- the separator stands between two texts, so that the last one is a case of its own
    cases rest with
    | nil =>
      simp only [List.map_cons, List.map_nil, List.intercalate_cons_cons,
        List.intercalate_singleton, List.append_assoc]
      rfl
    | cons next' rest =>
      have hrest := ih next
      simp only [List.map_cons, List.intercalate_cons_cons, List.append_assoc] at hrest ⊢
      rw [hrest]
      rfl

/-- A format that can stand in a list of names: it is written as it is, and holds no comma. -/
def Policy.IsListed (format : String) : Prop := IsClean format ∧ ',' ∉ format.toList

/-- The list of the formats of a policy, taken apart at the commas. -/
theorem splitNames_supported {p : Policy} {format : String} {formats : List String}
    (hformats : p.formats = format :: formats) (hcomma : ∀ f ∈ p.formats, ',' ∉ f.toList) :
    splitNames p.supported = format :: formats.map (" " ++ ·) := by
  -- the blank after each comma becomes part of the next name
  have htext : p.supported.toList
      = [','].intercalate (format.toList :: formats.map fun f => ' ' :: f.toList) := by
    rw [Policy.supported, String.toList_intercalate, hformats, List.map_cons]
    show [',', ' '].intercalate _ = _
    rw [intercalate_pair, List.map_map]
    rfl
  have hpieces : ∀ piece ∈ format.toList :: formats.map (fun f => ' ' :: f.toList), ',' ∉ piece := by
    rw [hformats] at hcomma
    obtain ⟨hfirst, hrest⟩ := List.forall_mem_cons.mp hcomma
    refine List.forall_mem_cons.mpr ⟨hfirst, fun piece hpiece => ?_⟩
    obtain ⟨f, hf, rfl⟩ := List.mem_map.mp hpiece
    exact List.not_mem_cons_of_ne_of_not_mem (by decide) (hrest f hf)
  rw [splitNames, htext, List.splitOn_intercalate ',' hpieces (List.cons_ne_nil _ _), List.map_cons,
    String.ofList_toList, List.map_map]
  refine congrArg (format :: ·) (List.map_congr_left fun f _ => ?_)
  show String.ofList (' ' :: f.toList) = " " ++ f
  rw [← String.toList_inj, String.toList_ofList, String.toList_append]
  rfl

/-- What is dropped at the ends of a list only takes members away. -/
theorem Text.mem_of_mem_trimBy {p : Char → Bool} {c : Char} {cs : List Char}
    (h : c ∈ trimBy p cs) : c ∈ cs := by
  unfold trimBy at h
  have hdropped := (List.dropWhile_suffix p).subset (List.mem_reverse.mp h)
  exact (List.dropWhile_suffix p).subset (List.mem_reverse.mp hdropped)

theorem Text.stripString_blank_append (s : String) :
    Text.stripString (" " ++ s) = Text.stripString s := by
  have hblank : Text.isBlank ' ' = true := by decide
  unfold Text.stripString Text.trimBy
  rw [String.toList_append]
  show String.ofList (((' ' :: s.toList).dropWhile Text.isBlank).reverse.dropWhile _).reverse = _
  rw [List.dropWhile_cons_of_pos hblank]

namespace Policy

/-- The set of the formats of a policy makes the policy. -/
theorem ofSet?_formats (p : Policy) : ofSet? p.formats = some p := by
  cases hset : ofSet? p.formats with
  | none => exact absurd (ofSet?_eq_none_iff.mp hset) p.nonempty
  | some q =>
    refine congrArg some (eq_of_isSafe_iff fun format => ?_)
    rw [isSafe_of_ofSet? hset, isSafe_iff]

/-- A list of formats, read as names, makes the policy of the formats. -/
theorem ofNames?_supported {p : Policy} (h : ∀ f ∈ p.formats, IsListed f) :
    ofNames? (splitNames p.supported) = some p := by
  have hclean : cleanNames (splitNames p.supported) = p.formats := by
    cases hformats : p.formats with
    | nil => exact absurd hformats p.nonempty
    | cons format formats =>
      rw [splitNames_supported hformats fun f hf => (h f hf).2, cleanNames, List.map_cons, List.map_map]
      have hstrip : ∀ f ∈ p.formats, Text.stripString f = f := fun f hf => (h f hf).1.2
      have hfull : ∀ f ∈ p.formats, f ≠ "" := fun f hf => (h f hf).1.1
      rw [hformats] at hstrip hfull
      obtain ⟨hfirst, hrest⟩ := List.forall_mem_cons.mp hstrip
      -- names have no blanks at their ends, so that only the one after the comma is dropped
      have hmap : formats.map (Text.stripString ∘ (" " ++ ·)) = formats := by
        conv_rhs => rw [← List.map_id formats]
        refine List.map_congr_left fun f hf => ?_
        rw [Function.comp_apply, Text.stripString_blank_append, hrest f hf, id]
      rw [hfirst, hmap]
      exact List.filter_eq_self.mpr fun f hf => decide_eq_true (hfull f hf)
  rw [ofNames?, hclean, ofSet?_formats]

/-- The formats that a list of names stands for can stand in such a list. -/
theorem isListed_of_splitNames {w : String} {p : Policy} (h : ofNames? (splitNames w) = some p) :
    ∀ f ∈ p.formats, IsListed f := by
  intro f hf
  obtain ⟨hfull, name, hname, rfl⟩ := (isSafe_of_ofNames? h f).mp (isSafe_iff.mpr hf)
  obtain ⟨piece, hpiece, rfl⟩ := List.mem_map.mp hname
  refine ⟨⟨hfull, Text.stripString_stripString _⟩, fun hcomma => ?_⟩
  refine Text.not_mem_of_mem_splitOn piece hpiece ?_
  rw [Text.stripString, String.toList_ofList, String.toList_ofList] at hcomma
  exact Text.mem_of_mem_trimBy hcomma

end Policy

/-! ## Times -/

namespace Seconds

/-- A float that equals an integer is finite, and its digits and sign make the integer. -/
theorem exists_finite_of_equalsInt {x : Float} {n : Int} (h : Binary64.equalsInt x n = true) :
    ∃ m q, Binary64.magnitude x = .finite m q
      ∧ (if Binary64.isNegative x then -((m * Nat.pow 2 q.toNat : Nat) : Int)
          else (m * Nat.pow 2 q.toNat : Nat)) = n * (Nat.pow 2 (-q).toNat : Nat) := by
  unfold Binary64.equalsInt at h
  split at h
  · next m q hx => exact ⟨m, q, hx, eq_of_beq h⟩
  · cases h

theorem isPositive_of_finite {x : Float} {m : Nat} {q : Int}
    (h : Binary64.magnitude x = .finite m q) :
    (real x).isPositive = (m != 0 && !Binary64.isNegative x) := by
  unfold isPositive
  dsimp only
  rw [h]

/-- A float that is an integer greater than zero is greater than zero. -/
theorem isPositive_of_equalsInt {x : Float} {n : Int} (h : Binary64.equalsInt x n = true)
    (hn : 0 < n) : (real x).isPositive = true := by
  obtain ⟨m, q, hx, hvalue⟩ := exists_finite_of_equalsInt h
  have hright : 0 < n * (Nat.pow 2 (-q).toNat : Nat) :=
    Int.mul_pos hn (Int.natCast_pos.mpr (Nat.pow_pos Nat.two_pos))
  rw [isPositive_of_finite hx]
  -- a negative float, or a zero, would equal no positive integer
  cases hsign : Binary64.isNegative x with
  | true =>
    rw [hsign, if_pos rfl] at hvalue
    omega
  | false =>
    rw [hsign, if_neg Bool.false_ne_true] at hvalue
    have hm : m ≠ 0 := by
      rintro rfl
      rw [Nat.zero_mul] at hvalue
      omega
    simpa using hm

/-- A float that is zero is not greater than zero. -/
theorem isPositive_eq_false_of_equalsInt {x : Float} (h : Binary64.equalsInt x 0 = true) :
    (real x).isPositive = false := by
  obtain ⟨m, q, hx, hvalue⟩ := exists_finite_of_equalsInt h
  have hscaled : m * Nat.pow 2 q.toNat = 0 := by
    rw [Int.zero_mul] at hvalue
    split at hvalue <;> omega
  have hm : m = 0 := (Nat.mul_eq_zero.mp hscaled).resolve_right (Nat.pow_pos Nat.two_pos).ne'
  rw [isPositive_of_finite hx, hm]
  rfl

/-- A float that equals a time that is accepted is accepted. -/
theorem isPositive_of_same {x : Float} {t : Seconds} (h : (Scalar.float x == t.toScalar) = true)
    (ht : t.isPositive = true) : (real x).isPositive = true := by
  cases t with
  | truth b =>
    cases b with
    | false => cases ht
    | true => exact isPositive_of_equalsInt h Int.one_pos
  | whole n => exact isPositive_of_equalsInt h (by simpa [isPositive] using ht)
  | real y =>
    rcases Bool.or_eq_true_iff.mp h with hbits | hzero
    · have hbits : x.toBits = y.toBits := eq_of_beq hbits
      have hmagnitude : Binary64.magnitude x = Binary64.magnitude y := by
        rw [Binary64.magnitude, Binary64.magnitude, hbits]
      have hsign : Binary64.isNegative x = Binary64.isNegative y := by
        rw [Binary64.isNegative, Binary64.isNegative, hbits]
      unfold isPositive at ht ⊢
      dsimp only at ht ⊢
      rw [hmagnitude, hsign]
      exact ht
    -- zero and negative zero are equal, and neither is accepted
    · have hy := isPositive_eq_false_of_equalsInt (Bool.and_eq_true_iff.mp hzero).2
      rw [ht] at hy
      cases hy

end Seconds

/-! ## Settings -/

namespace Settings

/-- The text of each variable that stands for settings, given one for their time. -/
def variableText (s : Settings) (time : String) : Variable → Option String
  | .backend => some s.backend.name
  | .timeout => some time
  | .safeFormats => some s.safe.supported
  | .region => s.region
  | .endpoint => s.endpoint
  | .accessKey => s.accessKey
  | .secretKey => s.secretKey
  | .connectionString => s.connectionString
  | .account => s.account
  | .accountKey => s.accountKey
  | .blobEndpoint => s.blobEndpoint

variable {env env' : Environment} {s : Settings}

theorem backendText_of_get {b : Backend} (h : env.get .backend = some b.name) :
    backendText env = b.name := by
  rw [backendText, h, Option.getD_some]
  cases b <;> decide +kernel

theorem timeoutOf_of_get {time : String} {x : Float} (h : env.get .timeout = some time)
    (hfull : time ≠ "") (hread : Number.readFloat? time.toList = some x) :
    timeoutOf env = .ok x := by
  rw [timeoutOf, h]
  dsimp only
  rw [if_neg hfull, hread]

/-- The safe formats of a list of names are read from it. -/
theorem readPolicy_formatsOf {w : String} {p : Policy} (h : env.get .safeFormats = some w)
    (hnames : Policy.ofNames? (splitNames w) = some p) : readPolicy (formatsOf env) = .ok p := by
  have hset : Policy.ofSet? (Policy.cleanNames (splitNames w)) = some p := hnames
  rw [readPolicy, formatsOf, h]
  dsimp only
  rw [hset]

/-- Settings are read back from their variables, with a float for their time that equals it. -/
theorem ofEnvironment_variableText {d : SettingsDraft} {time : String} {x : Float}
    (haccepted : ofDraft d = .ok s) (hformats : ∀ f ∈ s.safe.formats, Policy.IsListed f)
    (hfull : time ≠ "") (hread : Number.readFloat? time.toList = some x)
    (hsame : (Scalar.float x == s.timeout.toScalar) = true)
    (henv : ∀ v, env.get v = s.variableText time v) :
    ofEnvironment env = .ok { s with timeout := .real x } := by
  obtain ⟨-, htimeout, hendpoint, hblob, hcredentials, -, hs⟩ := ofDraft_eq_ok_iff.mp haccepted
  have hpositive : (Seconds.real x).isPositive = true :=
    Seconds.isPositive_of_same hsame (readTimeout_eq_ok_iff.mp htimeout).2
  -- the variables hold the draft that the settings came of, but for the backend, the time and the names
  have hdraft : draftOf env x = { d with
      backend := .ofString s.backend.name
      timeout := .scalar (.float x)
      safeFormats := formatsOf env } := by
    unfold draftOf
    rw [backendText_of_get (henv .backend)]
    simp only [henv, variableText]
    rw [hs]
  have hcredentials' : checkCredentials (draftOf env x) = .ok () := by
    rw [hdraft]
    exact hcredentials
  rw [ofEnvironment, timeoutOf_of_get (henv .timeout) hfull hread]
  dsimp only
  refine ofDraft_eq_ok_iff.mpr ⟨?_, ?_, ?_, ?_, hcredentials', ?_, ?_⟩
  · rw [hdraft]
    exact readBackend_eq_ok_iff.mpr rfl
  · rw [hdraft]
    exact readTimeout_eq_ok_iff.mpr ⟨rfl, hpositive⟩
  · rw [hdraft]
    exact hendpoint
  · rw [hdraft]
    exact hblob
  · exact readPolicy_formatsOf (henv .safeFormats) (Policy.ofNames?_supported hformats)
  · rw [hdraft]
    dsimp only
    rw [hs]

/-- Another list of names for the same policy makes the same settings. -/
theorem ofEnvironment_of_formats {w : String} (h : ofEnvironment env = .ok s)
    (hothers : ∀ v ≠ Variable.safeFormats, env'.get v = env.get v)
    (hformats : env'.get .safeFormats = some w)
    (hnames : Policy.ofNames? (splitNames w) = some s.safe) : ofEnvironment env' = .ok s := by
  have htimeout : timeoutOf env' = timeoutOf env := by
    rw [timeoutOf, timeoutOf, hothers .timeout (by decide)]
  -- the drafts differ in the list of formats alone
  have hdraft : ∀ timeout, draftOf env' timeout
      = { draftOf env timeout with safeFormats := formatsOf env' } := by
    intro timeout
    unfold draftOf backendText
    rw [hothers .backend (by decide), hothers .region (by decide), hothers .endpoint (by decide),
      hothers .accessKey (by decide), hothers .secretKey (by decide),
      hothers .connectionString (by decide), hothers .account (by decide),
      hothers .accountKey (by decide), hothers .blobEndpoint (by decide)]
  unfold ofEnvironment at h ⊢
  rw [htimeout]
  cases hread : timeoutOf env with
  | error e =>
    rw [hread] at h
    cases h
  | ok timeout =>
    rw [hread] at h
    obtain ⟨hbackend, htime, hendpoint, hblob, hcredentials, -, hs⟩ := ofDraft_eq_ok_iff.mp h
    dsimp only
    rw [hdraft]
    exact ofDraft_eq_ok_iff.mpr ⟨hbackend, htime, hendpoint, hblob, hcredentials,
      readPolicy_formatsOf hformats hnames, hs⟩

/-- Settings survive the environment. If settings were accepted, and their safe formats can stand in a
list of names, then from the variables that hold them the same settings are read; for their time there
has to be a text of a float that equals it, and that float is read. And if settings were read from an
environment with a list of names, then the same are read when the list of the formats of their policy
takes its place. -/
theorem ofEnvironment_roundTrip :
    (∀ (d : SettingsDraft) (s : Settings), ofDraft d = .ok s →
      (∀ f ∈ s.safe.formats, (f ≠ "" ∧ Text.stripString f = f) ∧ ',' ∉ f.toList) →
      ∀ (env : Environment) (time : String) (x : Float), time ≠ "" →
        Number.readFloat? time.toList = some x → (Scalar.float x == s.timeout.toScalar) = true →
        (∀ v, env.get v = s.variableText time v) →
        ofEnvironment env = .ok { s with timeout := .real x })
    ∧ ∀ (env env' : Environment) (w : String) (s : Settings), ofEnvironment env = .ok s →
      env.get .safeFormats = some w → (∀ v ≠ Variable.safeFormats, env'.get v = env.get v) →
      env'.get .safeFormats = some s.safe.supported → ofEnvironment env' = .ok s := by
  refine ⟨fun d s haccepted hformats env time x hfull hread hsame henv =>
    ofEnvironment_variableText haccepted hformats hfull hread hsame henv, ?_⟩
  intro env env' w s h hw hothers hformats
  have hpolicy := readPolicy_of_ofEnvironment h
  rw [readPolicy, formatsOf, hw] at hpolicy
  dsimp only at hpolicy
  -- no accepted format has a comma here, since they were read from a list themselves
  have hnames : Policy.ofNames? (splitNames w) = some s.safe := by
    split at hpolicy
    · next p hp =>
      cases hpolicy
      exact hp
    · cases hpolicy
  exact ofEnvironment_of_formats h hothers hformats
    (Policy.ofNames?_supported (Policy.isListed_of_splitNames hnames))

/-- Settings of a store in Azure behind a gateway. -/
def gatewaySettings : Settings where
  backend := .azure
  timeout := .whole 5
  region := some ""
  endpoint := none
  accessKey := none
  secretKey := none
  connectionString := some "AccountName=sinks;AccountKey=a2V5=="
  account := none
  accountKey := some ""
  blobEndpoint := some "https://gateway.example:10000/blobs\n"
  safe := ⟨["a b", "json"], by decide, by decide⟩

/-- These settings are read back from their variables; and the same are read from a list of names in
another order with blanks and gaps, and from the list of the formats that it stands for. -/
theorem ofEnvironment_gatewaySettings :
    let env : Environment := fun name =>
      ([Variable.backend, .timeout, .safeFormats, .region, .endpoint, .accessKey, .secretKey,
        .connectionString, .account, .accountKey, .blobEndpoint].find? (·.name == name)).bind
          (gatewaySettings.variableText "5.0")
    let listing (names : String) : Environment := fun name =>
      if name = Variable.safeFormats.name then some names else env name
    let read := { gatewaySettings with timeout := .real (Binary64.nearest 50 (-1)) }
    ofEnvironment env = .ok read
      ∧ ofEnvironment (listing " json,a b,,json") = .ok read
      ∧ ofEnvironment (listing "a b, json") = .ok read := by
  intro env listing read
  have hdraft : ofDraft {
      backend := .ofString "az"
      timeout := .scalar (.int 5)
      region := some ""
      connectionString := some "AccountName=sinks;AccountKey=a2V5=="
      accountKey := some ""
      blobEndpoint := some "https://gateway.example:10000/blobs\n"
      safeFormats := ["json", "a b"] } = .ok gatewaySettings := rfl
  have henv : ∀ v, env.get v = gatewaySettings.variableText "5.0" v := by
    intro v
    cases v <;> rfl
  have hback : ofEnvironment env = .ok read :=
    ofEnvironment_roundTrip.1 _ _ hdraft (by decide +kernel) env "5.0" _ (by decide) rfl
      (by decide +kernel) henv
  -- both listings change one variable
  have hlisting : ∀ names, ∀ v ≠ Variable.safeFormats, (listing names).get v = env.get v := by
    intro names v hv
    cases v <;> first | exact absurd rfl hv | rfl
  have hnames : Policy.ofNames? (splitNames " json,a b,,json") = some read.safe := by rfl
  have huntidy : ofEnvironment (listing " json,a b,,json") = .ok read :=
    ofEnvironment_of_formats hback (hlisting _) rfl hnames
  refine ⟨hback, huntidy, ?_⟩
  refine ofEnvironment_roundTrip.2 _ (listing "a b, json") _ read huntidy rfl (fun v hv => ?_) rfl
  rw [hlisting _ v hv, hlisting _ v hv]

end Settings

end SinkAudit
