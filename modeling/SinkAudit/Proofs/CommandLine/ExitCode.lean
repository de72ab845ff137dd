import SinkAudit.Proofs.CommandLine.Verdict

/-!
# What the exit code depends on

However a verdict is printed, the exit code is that of the verdict, unless printing fails. JSON is
always printed. Of a table only the cell of the compression may fail, where the messages of all
failing roles stand together: each is escaped on its own, and a bracket that one leaves open may
be closed by the next.

`--output` and `--verbose` are about presentation, and a script that calls the command in another form
expects the same code. It gets it with one exception, which the condition `IsPrinted` describes without
reference to the printer: by the brackets in the messages.

- `verdictCode`: the exit code that a verdict stands for.
- `IsPrinted`: the messages of the failing roles can be printed in one cell;
  `isPrinted_of_firstBracket`: they can unless the first bracket of a later message closes.
- `ValidateCommand.presented`: a validation that is printed in another way.
- `exitCode_presented_iff`: the exit code does not depend on how the verdict is printed exactly if
  the messages of the failing roles can be.
-/

namespace SinkAudit

open Markup

/-! ## Messages of failing roles -/

/-- Can the messages of the failing roles be printed in one cell? -/
def IsPrinted (p : Policy) (s : Snapshot) : Prop :=
  (render (messagesCell ((failingRoles p s).map (roleMessage p s)))).isOk = true

/-- The only brackets in the message of a role are those of its format and of the safe formats. -/
theorem firstBracket?_roleMessage (p : Policy) (s : Snapshot) (r : Role) :
    firstBracket? (roleMessage p s r).toList
      = (firstBracket? (s.format r).toList).or (firstBracket? p.supported.toList) := by
  have hcodec : firstBracket? s.codec.name.toList = none := by cases s.codec <;> decide
  have hrole : firstBracket? r.name.toList = none := by cases r <;> decide
  have hstart : firstBracket? "Compression type '".toList = none := by decide
  have hunsupported : firstBracket? "' is not supported for ".toList = none := by decide
  have hclass : firstBracket? " format class '".toList = none := by decide
  have hsupported :
      firstBracket? "'. Supported format classes for compressed output: ".toList = none := by
    decide
  have hend : firstBracket? ".".toList = none := by decide
  -- the template has no bracket, so that the first one is of the format or of the list of formats
  unfold roleMessage violationMessage
  simp only [String.toList_append, firstBracket?_append, hcodec, hrole, hstart, hunsupported, hclass,
    hsupported, hend, Option.none_or, Option.or_none]

/-- The messages of the failing roles are printed if in those of all but the first the first
bracket, if there is one, opens. So they are if a single role fails, or if no format holds a
bracket. -/
theorem isPrinted_of_firstBracket {p : Policy} {s : Snapshot}
    (h : ∀ r ∈ (failingRoles p s).tail,
      (firstBracket? (s.format r).toList).or (firstBracket? p.supported.toList) ≠ some ']') :
    IsPrinted p s := by
  unfold IsPrinted
  cases hroles : failingRoles p s with
  | nil => exact isOk_messagesCell_nil
  | cons r rest =>
    rw [hroles, List.tail_cons] at h
    refine isOk_messagesCell_of_firstBracket fun m hm => ?_
    obtain ⟨r', hr', rfl⟩ := List.mem_map.mp hm
    rw [firstBracket?_roleMessage]
    exact h r' hr'

namespace CommandLine

variable {c : ValidateCommand} {w : Surroundings} {audit : Audit} {s : Snapshot} {o : Outcome}

/-! ## Printing a verdict -/

/-- Under the compression stand the messages of the failing roles. -/
theorem messagesFor_compression_of_verdict (haudit : auditOf c w = .ok audit)
    (h : verdict c w = .ok (s, o)) :
    o.messagesFor Field.compression.name
      = (failingRoles audit.policy s).map (roleMessage audit.policy s) := by
  obtain ⟨audit', haudit', -, hresult⟩ := verdict_eq_ok_iff.mp h
  rw [haudit] at haudit'
  cases haudit'
  have hmessages := Validator.messagesFor_compression hresult
  exact hmessages

/-- A verdict is printed exactly if it is printed as JSON, or the messages of the failing roles
can be. -/
theorem error_printOutcome_eq_none_iff (haudit : auditOf c w = .ok audit)
    (h : verdict c w = .ok (s, o)) :
    (printOutcome .wide c s o).error = none ↔ c.output = .json ∨ IsPrinted audit.policy s := by
  obtain ⟨hfields, hsingle⟩ := isAboutFields_of_verdict h
  rw [IsPrinted, ← messagesFor_compression_of_verdict haudit h, printOutcome]
  cases c.output with
  | json => simp
  | text =>
    dsimp only
    rw [outcomeText_error_eq_none_iff hfields hsingle]
    simp

/-! ## Exit codes -/

/-- The exit code that a verdict stands for. -/
def verdictCode : Except Failure (Snapshot × Outcome) → Nat
  | .error f => f.exitCode
  | .ok (_, o) => if o.isValid then 0 else 1

/-- If a verdict is printed, the exit code is that of the verdict. -/
theorem exitCode_of_printed
    (hprinted : ∀ s o, verdict c w = .ok (s, o) → (printOutcome .wide c s o).error = none) :
    (runValidate c w).exitCode = verdictCode (verdict c w) := by
  rw [exitCode_runValidate]
  cases hverdict : verdict c w with
  | error f => rfl
  | ok found =>
    obtain ⟨s, o⟩ := found
    dsimp only
    rw [hprinted s o hverdict]
    rfl

/-- If it is not, the exit code is that of an error in the markup. -/
theorem exitCode_of_not_printed (h : verdict c w = .ok (s, o))
    (hprinted : (printOutcome .wide c s o).error ≠ none) : (runValidate c w).exitCode ∈ [2, 3] := by
  obtain ⟨e, he⟩ := Option.ne_none_iff_exists'.mp hprinted
  rw [exitCode_runValidate, h]
  dsimp only
  rw [he]
  show (Failure.markup e).exitCode ∈ [2, 3]
  cases e with
  | color part e => exact (by decide : 2 ∈ [2, 3])
  | _ => exact (by decide : 3 ∈ [2, 3])

/-- The same validation, printed in a form, and with or without details. -/
def ValidateCommand.presented (c : ValidateCommand) (form : OutputForm) (verbose : Bool) :
    ValidateCommand :=
  { c with output := form, verbose }

/-- A verdict does not know how it is going to be printed. -/
theorem verdict_presented (c : ValidateCommand) (w : Surroundings) (form : OutputForm)
    (verbose : Bool) : verdict (c.presented form verbose) w = verdict c w := rfl

/-- A verdict that is printed as JSON, or whose messages can be printed, has its own exit code. -/
theorem exitCode_presented_eq {form : OutputForm}
    (h : ∀ audit s o, auditOf c w = .ok audit → verdict c w = .ok (s, o) →
      form = .json ∨ IsPrinted audit.policy s) (verbose : Bool) :
    (runValidate (c.presented form verbose) w).exitCode = verdictCode (verdict c w) := by
  rw [← verdict_presented c w form verbose]
  refine exitCode_of_printed fun s o hverdict => ?_
  obtain ⟨audit, haudit, -⟩ := verdict_eq_ok_iff.mp hverdict
  exact (error_printOutcome_eq_none_iff haudit hverdict).mpr (h audit s o haudit hverdict)

/-- A verdict with messages that cannot be printed has another exit code than its own as text. -/
theorem exitCode_presented_text (haudit : auditOf c w = .ok audit) (h : verdict c w = .ok (s, o))
    (hprinted : ¬ IsPrinted audit.policy s) (verbose : Bool) :
    (runValidate (c.presented .text verbose) w).exitCode ∈ [2, 3] := by
  have hiff := error_printOutcome_eq_none_iff (c := c.presented .text verbose) haudit h
  refine exitCode_of_not_printed (c := c.presented .text verbose) h fun herror => ?_
  rcases hiff.mp herror with hform | hok
  · cases hform
  · exact hprinted hok

/-- The exit code of a validation does not depend on how its verdict is printed, exactly if it
comes to no outcome or the messages of the failing roles can be printed in one cell. With
violations the exit code is one exactly if they can be, or JSON is printed; the name of the bucket
does not matter. -/
theorem exitCode_presented_iff (c : ValidateCommand) (w : Surroundings) :
    ((∀ form form' verbose verbose',
        (runValidate (c.presented form verbose) w).exitCode
          = (runValidate (c.presented form' verbose') w).exitCode)
      ↔ ∀ audit s o, auditOf c w = .ok audit → verdict c w = .ok (s, o) →
          IsPrinted audit.policy s)
    ∧ ∀ audit s o, auditOf c w = .ok audit → verdict c w = .ok (s, o) → o.isValid = false →
        ∀ form verbose, (runValidate (c.presented form verbose) w).exitCode = 1
          ↔ form = .json ∨ IsPrinted audit.policy s := by
  constructor
  · constructor
    · intro hsame audit s o haudit h
      -- as text the code would be two or three, and as JSON it is zero or one
      by_contra hprinted
      have htext := exitCode_presented_text haudit h hprinted false
      rw [hsame .text .json false false, exitCode_presented_eq fun _ _ _ _ _ => .inl rfl, h,
        verdictCode] at htext
      revert htext
      split <;> decide
    · intro hprinted form form' verbose verbose'
      have hown : ∀ form verbose,
          (runValidate (c.presented form verbose) w).exitCode = verdictCode (verdict c w) :=
        fun form => exitCode_presented_eq fun audit s o ha h => .inr (hprinted audit s o ha h)
      rw [hown, hown]
  · intro audit s o haudit h hinvalid form verbose
    constructor
    · intro hone
      by_contra hnot
      obtain ⟨hform, hprinted⟩ := not_or.mp hnot
      cases form with
      | json => exact hform rfl
      | text =>
        have htext := exitCode_presented_text haudit h hprinted verbose
        rw [hone] at htext
        exact absurd htext (by decide)
    · intro hprinted
      have hown :
          (runValidate (c.presented form verbose) w).exitCode = verdictCode (verdict c w) := by
        refine exitCode_presented_eq (fun audit' s' o' haudit' h' => ?_) verbose
        rw [haudit] at haudit'
        rw [h] at h'
        cases haudit'
        cases h'
        exact hprinted
      rw [hown, h, verdictCode, hinvalid]
      rfl

/-- A sink where the format of the data leaves a bracket open that the format of the keys closes. -/
def openBracket : Surroundings :=
  withFile "t.properties"
    "bucket-name=b\ndata-format-class=[/x\ncompression-type=gzip\nstore-keys=true\nkeys-format-class=]"

/-- The violations of such a sink cannot be printed as text, and the exit code does not tell of
them. -/
theorem exitCode_openBracket :
    (run ["validate", "t.properties", "--skip-bucket-check", "--output", "json"]
        openBracket).exitCode = 1
      ∧ (run ["validate", "t.properties", "--skip-bucket-check"] openBracket).exitCode = 3 := by
  decide +kernel

end CommandLine

end SinkAudit
