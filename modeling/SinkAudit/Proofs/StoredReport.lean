import SinkAudit.Audit
import SinkAudit.Proofs.ConfigurationFile
import SinkAudit.Proofs.Json.Ascii
import SinkAudit.Proofs.Payload
import SinkAudit.Proofs.Report

/-!
# Reports as configurations

A JSON report carries the configuration that it is about, in the place where a payload carries its
own. So a report that is stored in a JSON file is a configuration file of the same meaning,
whatever outcome it reports.

So the output of one audit may be the input of the next, as a pipeline does that keeps reports and audits
them again under another policy. The report is the whole of what is stored: no part of it is cut out by
hand, and the outcome in it is not looked at.

- `text?_of_stored`: the text of a stored report is the report.
- `unwrapConfig_outcomeTree`, `flatMapping_outcomeTree`: the configuration in a report.
- `loadProperties_outcomeJson`: the configuration in a stored report.
- `validateFile_outcomeJson`: a stored report is loaded as its snapshot and judged as that.
-/

namespace SinkAudit

variable {folder : Folder} {path : String} {o : Outcome} {s : Snapshot}

/-! ## The text of a report -/

/-- A report has no line that ends otherwise than in a line feed. -/
theorem return_not_mem_outcomeJson (o : Outcome) (s : Snapshot) :
    '\r' ∉ (outcomeJson o s).toList := by
  rw [outcomeJson, String.toList_append, List.mem_append]
  rintro (hmem | hmem)
  · exact Json.return_not_mem_write _ hmem
  · exact absurd hmem (by decide)

/-- The text of a stored report is the report. -/
theorem text?_of_stored
    (h : folder.find? (normalizePath path)
      = some (.file (Utf8.encode (outcomeJson o s).toList))) :
    folder.text? path = some (outcomeJson o s).toList := by
  rw [Folder.text?_of_encoded h,
    Text.normalizeBreaks_of_not_mem (return_not_mem_outcomeJson o s)]

/-! ## The configuration in a report -/

/-- Under `config` a report holds the configuration of its snapshot. -/
theorem unwrapConfig_outcomeTree (o : Outcome) (s : Snapshot) :
    unwrapConfig (outcomeTree o s).value = .mapping s.toProperties.toList := by
  rw [value_outcomeTree]
  simp [unwrapConfig, OrderedMap.lookup, Scalar.beq_ofString]

/-- The values of a snapshot's configuration are texts. -/
theorem isNested_toProperties (s : Snapshot) : ∀ e ∈ s.toProperties.toList, e.2.isNested = false := by
  intro e he
  rw [Snapshot.toList_toProperties] at he
  obtain ⟨f, -, rfl⟩ := List.mem_map.mp he
  rfl

/-- A report is read as the configuration of its snapshot. -/
theorem flatMapping_outcomeTree (path : String) (o : Outcome) (s : Snapshot) :
    flatMapping path (outcomeTree o s).value = .ok s.toProperties :=
  flatMapping_of_flat (unwrapConfig_outcomeTree o s) (isNested_toProperties s) path

/-! ## Stored reports -/

/-- The configuration in a stored report is that of its snapshot. -/
theorem loadProperties_outcomeJson (hjson : Notation.ofPath? path = some .json)
    (hstored : folder.find? (normalizePath path)
      = some (.file (Utf8.encode (outcomeJson o s).toList))) (order : SetOrder) :
    loadProperties folder path order = .ok s.toProperties := by
  rw [loadProperties_of_text (text?_of_stored hstored) hjson, readConfiguration]
  simp only [parse_outcomeJson_eq_value, flatMapping_outcomeTree]

/-- A JSON report that is stored in a JSON file is loaded as the snapshot that it is about, whatever
outcome it reports and in whatever order sets list their members. So any audit judges the file as it judges
the snapshot: with the same outcome or failure, the same log and the same store afterwards. -/
theorem validateFile_outcomeJson (hjson : Notation.ofPath? path = some .json)
    (hstored : folder.find? (normalizePath path)
      = some (.file (Utf8.encode (outcomeJson o s).toList))) (order : SetOrder) :
    loadSnapshot folder path order = .ok s
      ∧ ∀ audit : Audit, audit.validateFile folder path order
          = (⟨(audit.validate s).1.result.map (s, ·), (audit.validate s).1.log⟩,
              (audit.validate s).2) := by
  have hload : loadSnapshot folder path order = .ok s := by
    unfold loadSnapshot
    simp only [loadProperties_outcomeJson hjson hstored, s.ofProperties_toProperties]
  refine ⟨hload, fun audit => ?_⟩
  unfold Audit.validateFile
  rw [hload]

/-- A snapshot with a format in quotes and characters that JSON escapes as pairs. -/
def smilingSink : Snapshot where
  dataFormat := ⟨"json", by decide, by decide⟩
  storeKeys := true
  keysFormat := ⟨"\"😀\"", by decide, by decide⟩
  storeHeaders := false
  headersFormat := ⟨"json", by decide, by decide⟩
  codec := .gzip
  bucket := ⟨"bücket", by decide, by decide⟩

/-- A message of two lines about something that is no field. -/
def foreignOutcome : Outcome := Outcome.empty.add "no field" "é\n\"😀\""

/-- A folder that holds the report of such an outcome. -/
def reportFolder : Folder :=
  ⟨[("report.json", .file (Utf8.encode (outcomeJson foreignOutcome smilingSink).toList))]⟩

/-- The report of an outcome that no validation comes to is loaded as its snapshot nevertheless. -/
theorem validateFile_foreignOutcome :
    loadSnapshot reportFolder "report.json" = .ok smilingSink
      ∧ ∀ audit : Audit, audit.validateFile reportFolder "report.json"
          = (⟨(audit.validate smilingSink).1.result.map (smilingSink, ·),
              (audit.validate smilingSink).1.log⟩, (audit.validate smilingSink).2) := by
  have hjson : Notation.ofPath? "report.json" = some .json := by decide +kernel
  have hpath : (normalizePath "report.json" == normalizePath (normalizePath "report.json")) = true :=
    by decide +kernel
  have hstored : reportFolder.find? (normalizePath "report.json")
      = some (.file (Utf8.encode (outcomeJson foreignOutcome smilingSink).toList)) := by
    rw [reportFolder, Folder.find?]
    simp only [List.find?_cons, hpath]
  exact validateFile_outcomeJson hjson hstored .canonical

end SinkAudit
