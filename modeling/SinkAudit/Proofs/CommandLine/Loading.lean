import SinkAudit.Proofs.CommandLine.Verdict
import SinkAudit.Proofs.ConfigurationFile

/-!
# How a validation ends whose configuration cannot be loaded

Loading is documented to fail in three ways, each with the exit code two. A validation that does
not check the bucket has nothing else to fail at once its settings are accepted, so that it ends
with another code exactly if the file is in a state that is not foreseen.

The documentation of the exit codes says that code two is for a configuration that cannot be loaded, and
three for what is unexpected. Which of the two a bad file gets is therefore a matter of foresight: the states
that loading does not foresee get three.

- `auditOf_of_skip`: without a bucket check, settings that are accepted make an audit.
- `exitCode_of_load_error`: the exit code of a validation whose file cannot be loaded.
- `load_documented_iff`: loading is as documented, and so is the exit code, exactly if the state of
  the file is foreseen.
-/

namespace SinkAudit.CommandLine

variable {c : ValidateCommand} {w : Surroundings}

/-- Without a bucket check, settings that are accepted make an audit. -/
theorem auditOf_of_skip {settings : Settings}
    (hsettings : Settings.ofEnvironment w.environment = .ok settings)
    (hskip : c.skipBucketCheck = true) : auditOf c w = .ok ⟨auditOptions c, settings, none⟩ := by
  unfold auditOf
  rw [hsettings]
  dsimp only
  rw [chooseStore, if_pos hskip]
  rfl

/-- A validation whose audit is set up and whose file cannot be loaded ends with the exit code of
that. -/
theorem exitCode_of_load_error {audit : Audit} {e : FileError} (haudit : auditOf c w = .ok audit)
    (hload : loadSnapshot w.folder c.path w.here.setOrder = .error e) :
    (runValidate c w).exitCode = (Failure.ofFile e).exitCode := by
  have hverdict : verdict c w = .error (Failure.ofFile e) := by
    unfold verdict
    rw [haudit]
    dsimp only
    rw [Audit.validateFile, hload]
  rw [exitCode_runValidate, hverdict]

/-- Loading a configuration gives a snapshot or a documented failure exactly if the state of the
file is foreseen. If it is, a validation without a bucket check, whose settings are accepted and
whose file cannot be loaded, ends with the exit code two, and else with three. Every state is
foreseen except a directory, JSON that is nested too deeply, and YAML whose values cannot be made. -/
theorem load_documented_iff (c : ValidateCommand) (w : Surroundings) :
    (((∃ s, loadSnapshot w.folder c.path w.here.setOrder = .ok s)
        ∨ ∃ e, loadSnapshot w.folder c.path w.here.setOrder = .error e
          ∧ (Failure.ofFile e).kind ∈ [FailureKind.notFound, .invalidValue, .rejected])
      ↔ ¬ IsUnforeseen w.folder c.path)
    ∧ (∀ settings e, Settings.ofEnvironment w.environment = .ok settings →
        c.skipBucketCheck = true → loadSnapshot w.folder c.path w.here.setOrder = .error e →
        ((runValidate c w).exitCode = 2 ↔ ¬ IsUnforeseen w.folder c.path)
          ∧ ((runValidate c w).exitCode = 3 ↔ IsUnforeseen w.folder c.path))
    ∧ (w.folder.find? (normalizePath c.path) ≠ some .directory →
        Notation.ofPath? c.path ≠ some .yaml →
        (Notation.ofPath? c.path = some .json → ∀ cs, w.folder.text? c.path = some cs →
          Json.openings cs ≤ Json.depthLimit) →
        ¬ IsUnforeseen w.folder c.path) := by
  -- whether a state is foreseen is known by the kind of the failure, in any order of sets
  refine ⟨?_, ?_, not_isUnforeseen⟩
  · rw [isUnforeseen_iff w.here.setOrder]
    constructor
    · rintro (⟨s, hload⟩ | ⟨e, hload, hkind⟩) ⟨e', hload', hkind'⟩
      · rw [hload] at hload'
        cases hload'
      · rw [hload] at hload'
        cases hload'
        exact hkind' hkind
    · intro hforeseen
      cases hload : loadSnapshot w.folder c.path w.here.setOrder with
      | ok s => exact .inl ⟨s, rfl⟩
      | error e => exact .inr ⟨e, rfl, not_not.mp fun hkind => hforeseen ⟨e, hload, hkind⟩⟩
  · intro settings e hsettings hskip hload
    have hunforeseen : IsUnforeseen w.folder c.path
        ↔ (Failure.ofFile e).kind ∉ FailureKind.documented := by
      rw [isUnforeseen_iff w.here.setOrder]
      simp only [hload, Except.error.injEq, exists_eq_left']
    rw [exitCode_of_load_error (auditOf_of_skip hsettings hskip) hload, exitCode_ofFile,
      hunforeseen, not_not]
    by_cases hkind : (Failure.ofFile e).kind ∈ FailureKind.documented
    · rw [if_pos hkind]
      exact ⟨iff_of_true rfl hkind, iff_of_false (by decide) (not_not.mpr hkind)⟩
    · rw [if_neg hkind]
      exact ⟨iff_of_false (by decide) hkind, iff_of_true rfl hkind⟩

/-- A folder that holds a directory named like a JSON file. -/
def directoryOnly : Surroundings :=
  { withFile "" "" with folder := ⟨[("d.json", .directory)]⟩ }

/-- A directory is neither missing nor an invalid value: its validation ends like an unknown
failure. -/
theorem load_directory :
    (run ["validate", "d.json", "--skip-bucket-check"] directoryOnly).exitCode = 3
      ∧ ∃ e, loadSnapshot directoryOnly.folder "d.json" = .error e
        ∧ (Failure.ofFile e).kind = .isDirectory := by
  refine ⟨?_, _, rfl, rfl⟩
  decide +kernel

end SinkAudit.CommandLine
