import SinkAudit.Failure
import SinkAudit.Proofs.Json.Nesting
import SinkAudit.Proofs.Text.Utf8

/-!
# How loading a configuration fails

A file that is missing, holds no configuration or makes no snapshot fails in one of three documented
ways: it is not found, a value is invalid, or the configuration is rejected. Three states of a file
are not foreseen: a directory, JSON that is nested too deeply, and YAML whose values cannot be made
for another reason than that one is invalid.

The docstring of `load_properties` lists the errors that it raises, and the commands translate exactly
these. The states not foreseen end a command with the code of an unexpected error. They are found by going
through every way in which loading can fail (`loadProperties_cases`), so that none is missed; that most
files are in none of them is the last result.

The length of a path and the limits of the file system are outside of this: a folder here finds any name or
does not.

- `Folder.text?`, `Notation.ofPath?`: what loading reads off a file; `Folder.text?_of_encoded`: the text
  of a file that was written in UTF-8.
- `loadProperties_of_directory`, `loadProperties_of_text`, `loadProperties_cases`: what becomes of a
  file.
- `FailureKind.documented`, `IsUnforeseen`: the documented ways, and the states not foreseen.
- `isUnforeseen_iff`: these are the states in which loading fails in another way.
- `exitCode_ofFile`: the exit codes of a file that cannot be loaded.
- `not_isUnforeseen`: which paths are in no such state.
-/

namespace SinkAudit

variable {folder : Folder} {path : String} {cs : List Char} {form : Notation} {order : SetOrder}
  {e : LoadError}

/-- The characters of the file under a path, if there is one and it is UTF-8. -/
def Folder.text? (folder : Folder) (path : String) : Option (List Char) :=
  match folder.find? (normalizePath path) with
  | some (.file bytes) => match Utf8.decode bytes with
    | .ok cs => some (Text.normalizeBreaks cs)
    | .error _ => none
  | _ => none

/-- The notation that a path stands for. -/
def Notation.ofPath? (path : String) : Option Notation :=
  ofSuffix? (Text.lowerString (pathSuffix (normalizePath path)))

/-- A text that is stored in UTF-8 is read from the file, with its line breaks normalized. -/
theorem Folder.text?_of_encoded
    (h : folder.find? (normalizePath path) = some (.file (Utf8.encode cs))) :
    folder.text? path = some (Text.normalizeBreaks cs) := by
  unfold Folder.text?
  simp only [h, Utf8.decode_encode]

/-- In a folder with a single entry, its path leads to it. -/
theorem Folder.find?_singleton {entry : Entry}
    (h : normalizePath path = normalizePath (normalizePath path)) :
    Folder.find? ⟨[(path, entry)]⟩ (normalizePath path) = some entry := by
  have hpath : (normalizePath path == normalizePath (normalizePath path)) = true := beq_iff_eq.mpr h
  rw [Folder.find?]
  simp only [List.find?_cons, hpath]

/-! ## What becomes of a file -/

theorem loadProperties_of_directory (h : folder.find? (normalizePath path) = some .directory) :
    loadProperties folder path order = .error (.isDirectory (normalizePath path)) := by
  unfold loadProperties
  dsimp only
  rw [h]

/-- A file of a known notation is read in it. -/
theorem loadProperties_of_text (htext : folder.text? path = some cs)
    (hform : Notation.ofPath? path = some form) :
    loadProperties folder path order = readConfiguration (normalizePath path) form cs order := by
  unfold Folder.text? at htext
  unfold Notation.ofPath? at hform
  unfold loadProperties
  split at htext
  · next bytes hfile =>
    split at htext
    · next chars hdecode =>
      cases htext
      simp only [hfile, hdecode, hform]
    · cases htext
  · cases htext

/-- If a file cannot be loaded, it is a directory, is not read at all and the failure says why, or
cannot be read in its notation. -/
theorem loadProperties_cases (h : loadProperties folder path order = .error e) :
    folder.find? (normalizePath path) = some .directory
      ∨ e.kind = .notFound ∨ e.kind = .invalidValue
      ∨ ∃ cs form, folder.text? path = some cs ∧ Notation.ofPath? path = some form
        ∧ readConfiguration (normalizePath path) form cs order = .error e := by
  -- one case for each step of loading: find the file, decode it, choose a reader by the suffix
  unfold loadProperties at h
  dsimp only at h
  split at h
  · cases h
    exact .inr (.inl rfl)
  · next hfile => exact .inl hfile
  · next bytes hfile =>
    split at h
    · cases h
      exact .inr (.inr (.inl rfl))
    · next cs hdecode =>
      have htext : folder.text? path = some (Text.normalizeBreaks cs) := by
        unfold Folder.text?
        simp only [hfile, hdecode]
      split at h
      · cases h
        exact .inr (.inr (.inl rfl))
      · next form hform => exact .inr (.inr (.inr ⟨_, form, htext, hform, h⟩))

theorem kind_flatMapping {v : Value} (h : flatMapping path v = .error e) :
    e.kind = .invalidValue := by
  unfold flatMapping at h
  split at h
  · split at h
    · cases h
    · cases h
      split <;> rfl
  · cases h
    rfl

/-- Reading fails with an invalid value, or because JSON is nested too deeply or the values of YAML
cannot be made. -/
theorem kind_readConfiguration (h : readConfiguration path form cs order = .error e) :
    e.kind = .invalidValue
      ∨ (form = .json ∧ ∃ object, Json.parse cs = .error (.tooDeep object))
      ∨ (form = .yaml ∧ ∃ e', Yaml.load yamlDepth cs = .error e' ∧ e'.kind = e.kind) := by
  unfold readConfiguration at h
  -- a flat file can only be misspelt; the readers of documents have errors of their own
  cases form with
  | properties =>
    dsimp only at h
    split at h <;> cases h
    exact .inl rfl
  | json =>
    dsimp only at h
    split at h
    · exact .inl (kind_flatMapping h)
    · cases h
      exact .inl rfl
    · cases h
      exact .inl rfl
    · next object hdeep => exact .inr (.inl ⟨rfl, object, hdeep⟩)
  | yaml =>
    dsimp only at h
    split at h
    · exact .inl (kind_flatMapping h)
    · next e' hload =>
      cases h
      exact .inr (.inr ⟨rfl, e', hload, rfl⟩)

/-! ## Documented failures -/

/-- The kinds of failures that loading a configuration is documented to end with. -/
def FailureKind.documented : List FailureKind := [notFound, invalidValue, rejected]

/-- A state of a file that no documented failure is foreseen for. -/
inductive IsUnforeseen (folder : Folder) (path : String) : Prop where
  /-- The path leads to a directory. -/
  | directory (h : folder.find? (normalizePath path) = some .directory)
  /-- A JSON document is nested too deeply. -/
  | nested {text : List Char} {object : Bool} (htext : folder.text? path = some text)
    (hform : Notation.ofPath? path = some .json) (h : Json.parse text = .error (.tooDeep object))
  /-- A YAML document has values that cannot be made, none of them being invalid. -/
  | unmade {text : List Char} {error : Yaml.Error} (htext : folder.text? path = some text)
    (hform : Notation.ofPath? path = some .yaml) (h : Yaml.load yamlDepth text = .error error)
    (hkind : error.kind ≠ .invalidValue)

/-- The kinds of failures that loading a configuration may end with apart from a missing file and a
rejected configuration. -/
def FailureKind.ofLoading : List FailureKind :=
  [invalidValue, isDirectory, tooDeep, overflow, missingKey, missingIndex, missingMember, wrongType]

theorem Yaml.Error.kind_mem_ofLoading (e : Yaml.Error) : e.kind ∈ FailureKind.ofLoading := by
  cases e with
  | codePoint n =>
    show (if n < Nat.pow 2 31 then FailureKind.invalidValue else .overflow) ∈ _
    by_cases hn : n < Nat.pow 2 31
    · rw [if_pos hn]
      decide
    · rw [if_neg hn]
      decide
  | _ => simp [Yaml.Error.kind, FailureKind.ofLoading]

theorem LoadError.kind_mem_ofLoading (e : LoadError) :
    e.kind = .notFound ∨ e.kind ∈ FailureKind.ofLoading := by
  cases e with
  | notFound => exact .inl rfl
  | yaml path e => exact .inr e.kind_mem_ofLoading
  | _ => exact .inr (by simp [LoadError.kind, FailureKind.ofLoading])

/-- Among these only an invalid value is documented. -/
theorem mem_documented_iff {k : FailureKind} (h : k ∈ FailureKind.ofLoading) :
    k ∈ FailureKind.documented ↔ k = .invalidValue := by
  revert k
  decide

/-- What is documented has the exit code two, and all else that of an unknown failure. -/
theorem exitCode_load (e : LoadError) :
    e.kind.exitCode = if e.kind ∈ FailureKind.documented then 2 else 3 := by
  have hkinds : ∀ k ∈ FailureKind.notFound :: FailureKind.ofLoading,
      k.exitCode = if k ∈ FailureKind.documented then 2 else 3 := by decide
  exact hkinds _ (List.mem_cons.mpr e.kind_mem_ofLoading)

/-- In these states, and in no others, a mapping fails to load in a way that is not documented. How sets
list their members makes no difference to that. -/
theorem isUnforeseen_iff_load (order : SetOrder) : IsUnforeseen folder path
    ↔ ∃ e, loadProperties folder path order = .error e ∧ e.kind ∉ FailureKind.documented := by
  constructor
  · intro h
    cases h with
    | directory h =>
      exact ⟨_, loadProperties_of_directory h, (by decide : FailureKind.isDirectory ∉ _)⟩
    | @nested text object htext hform h =>
      refine ⟨.tooDeep object, ?_, (by decide : FailureKind.tooDeep ∉ _)⟩
      rw [loadProperties_of_text htext hform, readConfiguration, h]
    | @unmade text error htext hform h hkind =>
      have hother : (LoadError.yaml (normalizePath path) error).kind ∉ FailureKind.documented :=
        fun hmem => hkind ((mem_documented_iff error.kind_mem_ofLoading).mp hmem)
      refine ⟨_, ?_, hother⟩
      rw [loadProperties_of_text htext hform, readConfiguration, h]
  · rintro ⟨e, hload, hkind⟩
    rcases loadProperties_cases hload with
      hfile | hmissing | hinvalid | ⟨cs, form, htext, hform, hread⟩
    · exact .directory hfile
    · exact absurd (hmissing ▸ by decide) hkind
    · exact absurd (hinvalid ▸ by decide) hkind
    -- a reader was chosen, so that the fault is one of the document
    · rcases kind_readConfiguration hread with
        hinvalid | ⟨rfl, object, hdeep⟩ | ⟨rfl, e', hyaml, hsame⟩
      · exact absurd (hinvalid ▸ by decide) hkind
      · exact .nested htext hform hdeep
      · refine .unmade htext hform hyaml fun hinvalid => hkind ?_
        rw [← hsame, hinvalid]
        decide

/-- What makes no snapshot has an invalid value, or is rejected. -/
theorem kind_ofFile_snapshot (e : SnapshotError) :
    (Failure.ofFile (.snapshot e)).kind = .invalidValue
      ∨ (Failure.ofFile (.snapshot e)).kind = .rejected := by
  cases e with
  | conflict => exact .inl rfl
  | longValue => exact .inl rfl
  | rejected => exact .inr rfl

/-- In these states, and in no others, a snapshot fails to load in a way that is not documented. -/
theorem isUnforeseen_iff (order : SetOrder) : IsUnforeseen folder path
    ↔ ∃ e, loadSnapshot folder path order = .error e
      ∧ (Failure.ofFile e).kind ∉ FailureKind.documented := by
  rw [isUnforeseen_iff_load order]
  unfold loadSnapshot
  constructor
  · rintro ⟨e, hload, hkind⟩
    rw [hload]
    exact ⟨_, rfl, hkind⟩
  · rintro ⟨e, h, hkind⟩
    split at h
    · next e' hload =>
      cases h
      exact ⟨e', hload, hkind⟩
    · split at h
      · cases h
      · next e' _ =>
        cases h
        -- once there is a mapping, all errors are documented ones
        rcases kind_ofFile_snapshot e' with hinvalid | hrejected
        · exact absurd (hinvalid ▸ by decide) hkind
        · exact absurd (hrejected ▸ by decide) hkind

/-- The exit codes of a file that cannot be loaded: two if that is documented, and else that of an
unknown failure. -/
theorem exitCode_ofFile (e : FileError) : (Failure.ofFile e).exitCode
    = if (Failure.ofFile e).kind ∈ FailureKind.documented then 2 else 3 := by
  cases e with
  | load e => exact exitCode_load e
  | snapshot e =>
    unfold Failure.exitCode
    rcases kind_ofFile_snapshot e with hinvalid | hrejected
    · rw [hinvalid]
      decide
    · rw [hrejected]
      decide

/-- A path is in none of these states if it leads to no directory, does not stand for YAML, and if it
stands for JSON has no more opening brackets than may lie inside each other. -/
theorem not_isUnforeseen (hfile : folder.find? (normalizePath path) ≠ some .directory)
    (hyaml : Notation.ofPath? path ≠ some .yaml)
    (hjson : Notation.ofPath? path = some .json → ∀ cs, folder.text? path = some cs →
      Json.openings cs ≤ Json.depthLimit) :
    ¬ IsUnforeseen folder path := by
  intro h
  cases h with
  | directory h => exact hfile h
  | nested htext hform h =>
    exact absurd (Json.depthLimit_lt_of_tooDeep h) (Nat.not_lt.mpr (hjson hform _ htext))
  | unmade _ hform => exact hyaml hform

end SinkAudit
