import SinkAudit.Proofs.CommandLine.JsonOutput
import SinkAudit.Proofs.Policy

/-!
# What safe formats mean to the commands

Both commands take names of safe formats. A list of formats is about the names without the blanks
around them, and blank names are dropped. A validation judges by the names as they were given.

`formats` shows what a policy would allow, and `validate` applies one. A person tries names with the first
and uses them with the second, and relies on the two being about the same formats.

- `auditOf_safeFormats`: names decide under which policy a validation judges, and nothing else;
  in particular no names keep it from judging.
- `isSafe_policy_of_auditOf`: the formats that are safe to a validation.
- `runFormats_of_policy`, `runFormats_of_failure`: how a list of formats ends.
- `safeFormats_agree_iff`: the two commands are about one policy exactly if each name is written
  as the format it stands for.
-/

namespace SinkAudit.CommandLine

variable {c : ValidateCommand} {w : Surroundings} {audit : Audit} {names : List String}

/-! ## Validations -/

/-- Names decide under which policy a validation judges. Whether it judges, and all else about it,
does not depend on them. -/
theorem auditOf_safeFormats (c : ValidateCommand) (w : Surroundings) (names : List String) :
    auditOf { c with safeFormats := names } w
      = (auditOf c w).map fun audit =>
          { audit with options := { audit.options with safeFormats := names } } := by
  unfold auditOf
  cases Settings.ofEnvironment w.environment with
  | error e => rfl
  | ok settings =>
    show (chooseStore c w settings).2.map _ = ((chooseStore c w settings).2.map _).map _
    cases (chooseStore c w settings).2 with
    | error f => rfl
    | ok store => rfl

/-- A validation judges under the policy of the set of its names. -/
theorem ofSet?_of_auditOf (h : c.safeFormats ≠ []) (haudit : auditOf c w = .ok audit) :
    Policy.ofSet? c.safeFormats = some audit.policy := by
  obtain ⟨hoptions, -⟩ := of_auditOf_eq_ok haudit
  cases hset : Policy.ofSet? c.safeFormats with
  | none => exact absurd (Policy.ofSet?_eq_none_iff.mp hset) h
  | some p =>
    rw [Audit.policy, hoptions, auditOptions, hset]
    rfl

/-- To a validation the names themselves are safe, with whatever blanks they have. -/
theorem isSafe_policy_of_auditOf (h : c.safeFormats ≠ []) (haudit : auditOf c w = .ok audit)
    (format : String) : audit.policy.isSafe format = true ↔ format ∈ c.safeFormats :=
  Policy.isSafe_of_ofSet? (ofSet?_of_auditOf h haudit) format

/-! ## Lists of formats -/

/-- A list of formats is about the policy of the names as a person writes them, if there are any
names. -/
theorem formatsPolicy_eq (h : names ≠ []) (env : Environment) : formatsPolicy names env
    = (Policy.ofNames? names).elim (.error (.setup .emptyPolicy)) .ok := by
  have hempty : ¬ names.isEmpty = true := by simpa using h
  rw [formatsPolicy, if_neg hempty]
  cases Policy.ofNames? names with
  | none => rfl
  | some p => rfl

theorem formatsPolicy_eq_ok_iff (h : names ≠ []) {env : Environment} {p : Policy} :
    formatsPolicy names env = .ok p ↔ Policy.ofNames? names = some p := by
  rw [formatsPolicy_eq h]
  cases Policy.ofNames? names with
  | none => exact iff_of_false nofun nofun
  | some q => rw [Option.elim_some, Except.ok.injEq, Option.some.injEq]

/-- A list of formats that is about a policy is printed. -/
theorem runFormats_of_policy {p : Policy} (h : formatsPolicy names w.environment = .ok p) :
    runFormats names w = ⟨0, (formatsText p w.here.stdout).text, "", []⟩ := by
  unfold runFormats
  rw [h]
  dsimp only
  rw [error_formatsText]

/-- A list of formats that is about none prints nothing but the failure. -/
theorem runFormats_of_failure {f : Failure} (h : formatsPolicy names w.environment = .error f) :
    runFormats names w = .failed w.here.stderr f "" "" [] := by
  unfold runFormats
  rw [h]

/-! ## Both -/

/-- What names of safe formats mean to the two commands. A list of formats is about the names
without the blanks around them, or ends with the exit code two if all are blank. A validation
judges by the names as they are, and is never kept from it by them. So the two are about one policy
exactly if no name is empty or has blanks at its ends. -/
theorem safeFormats_agree_iff (h : c.safeFormats ≠ []) :
    ((∃ p, formatsPolicy c.safeFormats w.environment = .ok p
        ∧ (∀ format, p.isSafe format = true
          ↔ format ≠ "" ∧ ∃ name ∈ c.safeFormats, Text.stripString name = format)
        ∧ runFormats c.safeFormats w = ⟨0, (formatsText p w.here.stdout).text, "", []⟩)
      ∨ ((∀ name ∈ c.safeFormats, Text.stripString name = "")
        ∧ (runFormats c.safeFormats w).exitCode = 2 ∧ (runFormats c.safeFormats w).stdout = ""))
    ∧ (∀ names, auditOf { c with safeFormats := names } w
        = (auditOf c w).map fun audit =>
            { audit with options := { audit.options with safeFormats := names } })
    ∧ ∀ audit, auditOf c w = .ok audit →
        (∀ format, audit.policy.isSafe format = true ↔ format ∈ c.safeFormats)
        ∧ (formatsPolicy c.safeFormats w.environment = .ok audit.policy
          ↔ ∀ name ∈ c.safeFormats, name ≠ "" ∧ Text.stripString name = name) := by
  refine ⟨?_, auditOf_safeFormats c w, fun audit haudit => ⟨isSafe_policy_of_auditOf h haudit, ?_⟩⟩
  -- `formats` makes its policy of names, which there may be none of
  · cases hnames : Policy.ofNames? c.safeFormats with
    | some p =>
      have hpolicy : formatsPolicy c.safeFormats w.environment = .ok p :=
        (formatsPolicy_eq_ok_iff h).mpr hnames
      exact .inl ⟨p, hpolicy, Policy.isSafe_of_ofNames? hnames, runFormats_of_policy hpolicy⟩
    | none =>
      have hfailure : formatsPolicy c.safeFormats w.environment = .error (.setup .emptyPolicy) := by
        rw [formatsPolicy_eq h, hnames, Option.elim_none]
      rw [runFormats_of_failure hfailure]
      exact .inr ⟨Policy.ofNames?_eq_none_iff.mp hnames, rfl, rfl⟩
  -- `validate` makes its policy of the set as it is
  · rw [formatsPolicy_eq_ok_iff h]
    exact Policy.ofNames?_eq_ofSet?_iff (ofSet?_of_auditOf h haudit)

/-- With a padded name a sink is judged under another policy than the one that is printed. -/
theorem safeFormats_disagree_padded :
    ∃ audit, auditOf ⟨"t.properties", true, [" json"], false, .text, none, false⟩ safeSink = .ok audit
      ∧ formatsPolicy [" json"] safeSink.environment ≠ .ok audit.policy := by
  obtain ⟨audit, haudit⟩ : ∃ audit,
      auditOf ⟨"t.properties", true, [" json"], false, .text, none, false⟩ safeSink = .ok audit :=
    ⟨_, rfl⟩
  obtain ⟨-, -, hagree⟩ := safeFormats_agree_iff (w := safeSink)
    (c := ⟨"t.properties", true, [" json"], false, .text, none, false⟩) (List.cons_ne_nil _ _)
  refine ⟨audit, haudit, fun hsame => ?_⟩
  have hclean := ((hagree audit haudit).2.mp hsame " json" (List.mem_singleton_self _)).2
  revert hclean
  decide +kernel

/-- Given a padded name, a list of formats is about the name without the padding, and a validation
is not: it finds violations that it does not find with that. -/
theorem safeFormats_json_padded :
    run ["formats", "--safe-format", " json"] safeSink
        = run ["formats", "--safe-format", "json"] safeSink
      ∧ (∃ p, formatsPolicy [" json"] safeSink.environment = .ok p ∧ p.isSafe "json" = true)
      ∧ (∃ audit,
        auditOf ⟨"t.properties", true, [" json"], false, .text, none, false⟩ safeSink = .ok audit
          ∧ audit.policy.isSafe "json" = false)
      ∧ (run ["validate", "t.properties", "--skip-bucket-check", "--safe-format", "json"]
          safeSink).exitCode = 0
      ∧ (run ["validate", "t.properties", "--skip-bucket-check", "--safe-format", " json"]
          safeSink).exitCode = 1 := by
  -- the list of formats strips names, so that both spellings give one policy there
  have hpolicy : ∀ name ∈ [" json", "json"], formatsPolicy [name] safeSink.environment
      = .ok ⟨["json"], by decide, by decide⟩ := by
    rw [List.forall_mem_cons, List.forall_mem_singleton]
    exact ⟨rfl, rfl⟩
  have hrun : ∀ name ∈ [" json", "json"], run ["formats", "--safe-format", name] safeSink
      = ⟨0, (formatsText ⟨["json"], by decide, by decide⟩).text, "", []⟩ := by
    intro name hname
    have hparse : Command.parse ["formats", "--safe-format", name] = .ok (.formats [name]) := by
      revert name
      decide +kernel
    rw [run, hparse]
    exact runFormats_of_policy (hpolicy name hname)
  refine ⟨?_, ⟨_, hpolicy " json" (by decide), by decide⟩, ⟨_, rfl, by decide +kernel⟩,
    by decide +kernel, by decide +kernel⟩
  rw [hrun " json" (by decide), hrun "json" (by decide)]

end SinkAudit.CommandLine
