import SinkAudit.Proofs.ConfigurationFile
import SinkAudit.Proofs.PropertiesFile
import SinkAudit.Proofs.Snapshot.RoundTrip
import SinkAudit.Proofs.Text.Spelling

/-!
# Snapshots in property files

The entries of a snapshot can be written on the lines of a property file: the names of the fields are
keys that need no escapes, and no text of a field begins with a blank. The file is loaded as the
snapshot, however its lines end.

Only the stable names are written. The values of a snapshot are trimmed, so that the blanks which the format
drops before a value are never part of one; everything else in a value is protected by escapes.

- `Field.isPlainKey_name`, `Snapshot.head_text`: names and texts of fields.
- `Snapshot.propertyLines`: the lines of a snapshot.
- `readConfiguration_propertyLines`: the configuration on these lines.
- `loadSnapshot_propertyLines`: a file of these lines is loaded as the snapshot.
-/

namespace SinkAudit

open PropertiesFile

/-! ## Names and texts of fields -/

/-- The name of a field may be written as it is. -/
theorem Field.isPlainKey_name (f : Field) : IsPlainKey f.name.toList := by
  cases f <;> exact ⟨by decide, by decide⟩

/-- The blanks of property files are white space. -/
theorem isWhiteSpace_of_isBlank {c : Char} (h : isBlank c = true) : Text.isWhiteSpace c = true := by
  simp only [isBlank, Bool.or_eq_true, beq_iff_eq] at h
  rcases h with (rfl | rfl) | rfl <;> decide

/-- An identifier begins with no blank. -/
theorem Identifier.head_text (i : Identifier) : ∀ c ∈ i.text.toList.head?, isBlank c = false := by
  intro c hc
  have htrimmed : Text.trimBy Text.isWhiteSpace i.text.toList = i.text.toList := by
    have hlist := congrArg String.toList i.trimmed
    rwa [Text.trimString, String.toList_ofList] at hlist
  have hspace := Text.head?_of_trimBy htrimmed c hc
  refine Bool.eq_false_iff.mpr fun hblank => ?_
  rw [isWhiteSpace_of_isBlank hblank] at hspace
  cases hspace

/-- No text of a field begins with a blank. -/
theorem Snapshot.head_text (s : Snapshot) (f : Field) :
    ∀ c ∈ (s.text f).toList.head?, isBlank c = false := by
  cases f with
  | dataFormat => exact s.dataFormat.head_text
  | storeKeys => cases h : s.storeKeys <;> simp [text, h, flagText, isBlank]
  | keysFormat => exact s.keysFormat.head_text
  | storeHeaders => cases h : s.storeHeaders <;> simp [text, h, flagText, isBlank]
  | headersFormat => exact s.headersFormat.head_text
  | compression => cases h : s.codec <;> simp [text, h, Codec.name, isBlank]
  | bucket => exact s.bucket.head_text

/-! ## The lines of a snapshot -/

namespace Snapshot

/-- The lines of a snapshot in a property file. -/
def propertyLines (s : Snapshot) : List (List Char) :=
  s.toEntries.map fun e => writeEntry (e.1.toList, e.2.toList)

variable {ending : List Char}

/-- The configuration on the lines of a snapshot is that of the snapshot. -/
theorem readConfiguration_propertyLines (path : String) (s : Snapshot)
    (hending : ending ∈ lineEndings) (closed : Bool) (order : SetOrder) :
    readConfiguration path .properties
        (Text.normalizeBreaks (writeLines ending closed s.propertyLines)) order
      = .ok s.toProperties := by
  have hwritable : ∀ e ∈ s.toEntries.map fun e => (e.1.toList, e.2.toList), IsWritable e := by
    rw [toEntries, List.map_map]
    intro e he
    obtain ⟨f, -, rfl⟩ := List.mem_map.mp he
    exact ⟨f.isPlainKey_name, s.head_text f⟩
  have hlines : s.propertyLines
      = (s.toEntries.map fun e => (e.1.toList, e.2.toList)).map writeEntry := by
    rw [propertyLines, List.map_map]
    rfl
  -- the names of the fields differ, so no entry replaces another
  have hdistinct : ((s.toEntries.map fun e => (e.1.toList, e.2.toList)).map fun e =>
      (e.1.map CodePoint.scalar, e.2.map CodePoint.scalar)).Pairwise OrderedMap.KeysDiffer := by
    rw [toEntries, List.map_map, List.map_map, List.pairwise_map]
    refine Field.pairwise_all.imp fun {f g} hne => beq_eq_false_iff_ne.mpr fun hname => hne ?_
    exact Field.name_inj.mp (Text.ofString_injective hname)
  have hparse := parse_writeLines hending closed (by simp [toEntries, Field.all]) hwritable
  rw [readConfiguration, hlines, hparse]
  dsimp only
  rw [OrderedMap.toList_ofList hdistinct, toProperties, List.map_map, List.map_map]
  rfl

/-- A property file that holds the lines of a snapshot, however they end, is loaded as the
configuration of the snapshot, and as the snapshot. -/
theorem loadSnapshot_propertyLines {folder : Folder} {path : String} (s : Snapshot)
    (hsuffix : Text.lowerString (pathSuffix (normalizePath path)) ∈ [".properties", ".conf", ".cfg"])
    (hending : ending ∈ lineEndings) (closed : Bool)
    (hstored : folder.find? (normalizePath path)
      = some (.file (Utf8.encode (writeLines ending closed s.propertyLines)))) (order : SetOrder) :
    loadProperties folder path order = .ok s.toProperties
      ∧ loadSnapshot folder path order = .ok s := by
  have hform : Notation.ofPath? path = some .properties := by
    simp only [List.mem_cons, List.not_mem_nil, or_false] at hsuffix
    rw [Notation.ofPath?, Notation.ofSuffix?, if_pos hsuffix]
  have hload : loadProperties folder path order = .ok s.toProperties := by
    rw [loadProperties_of_text (Folder.text?_of_encoded hstored) hform,
      readConfiguration_propertyLines _ s hending]
  refine ⟨hload, ?_⟩
  unfold loadSnapshot
  simp only [hload, s.ofProperties_toProperties]

/-- A snapshot whose texts look like escapes, comments, separators and ends of lines. -/
def awkwardSink : Snapshot where
  dataFormat := ⟨"=\\u00e9\\", by decide, by decide⟩
  storeKeys := true
  keysFormat := ⟨"#a\n b\\", by decide, by decide⟩
  storeHeaders := false
  headersFormat := ⟨":\r\n\\\\n!", by decide, by decide⟩
  codec := .gzip
  bucket := ⟨"bücket 😀 \\", by decide, by decide⟩

/-- A folder that holds its lines, ended in two characters each but for the last. -/
def propertyFolder : Folder :=
  ⟨[("Sink.CONF",
    .file (Utf8.encode (writeLines ['\r', '\n'] false awkwardSink.propertyLines)))]⟩

/-- Such a file is loaded as the snapshot. -/
theorem loadSnapshot_awkwardSink :
    loadProperties propertyFolder "Sink.CONF" = .ok awkwardSink.toProperties
      ∧ loadSnapshot propertyFolder "Sink.CONF" = .ok awkwardSink := by
  have hsuffix : Text.lowerString (pathSuffix (normalizePath "Sink.CONF"))
      ∈ [".properties", ".conf", ".cfg"] := by decide +kernel
  have hstored : propertyFolder.find? (normalizePath "Sink.CONF")
      = some (.file (Utf8.encode (writeLines ['\r', '\n'] false awkwardSink.propertyLines))) :=
    Folder.find?_singleton (by decide +kernel)
  exact loadSnapshot_propertyLines awkwardSink hsuffix (by decide) false hstored .canonical

end Snapshot

end SinkAudit
