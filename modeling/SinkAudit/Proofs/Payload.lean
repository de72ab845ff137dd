import SinkAudit.Proofs.ConfigurationFile
import SinkAudit.Proofs.Json.Ascii
import SinkAudit.Proofs.Json.RoundTrip
import SinkAudit.Proofs.OrderedMap
import SinkAudit.Proofs.Text.Lines

/-!
# Payloads and bare configurations

A document that carries a mapping under `config` means the same as that mapping on its own, whatever
else it holds. Only one level is taken off, and what is left has to be flat: otherwise the keys of the
nested values are named, unless one of them cannot be written.

Reports are payloads, and so are files that people wrap. That both forms mean the same is what makes them
interchangeable, and the error of a nested configuration has to name the keys of the mapping that is the
configuration, not those of the document around it.

The name of a key is made by `str`, and an integer with too many digits has none. That is the one exception
(`longKey_not_named`), and it is no choice of the program but a limit of the interpreter.

- `Folder.Parses`: the document that a file holds.
- `Properties.IsFlat`, `Properties.nestedKeys`: mappings without nested values, and the keys of these.
- `LoadError.Blames`: what a failure says of nested values.
- `unwrapConfig_of_payload`, `unwrapConfig_of_bare`: the level that is taken off.
- `flatMapping_of_flat`, `flatMapping_of_nested`: what is left.
- `loadProperties_payload`: payloads, nested payloads and all other documents.
- `longKey_not_named`: a key that cannot be written is not named.
-/

namespace SinkAudit

/-! ## Documents of files -/

/-- Does a JSON or YAML file hold this document, if sets list their members in an order? A YAML document
is looked into as deep as the mapping under `config`. -/
inductive Folder.Parses (order : SetOrder) (folder : Folder) (path : String) : Value → Prop
  | json {cs : List Char} {v : Value} : folder.text? path = some cs →
      Notation.ofPath? path = some .json → Json.parse cs = .ok v → Parses order folder path v
  | yaml {cs : List Char} {v : Value} : folder.text? path = some cs →
      Notation.ofPath? path = some .yaml → Yaml.load yamlDepth cs = .ok v →
      Parses order folder path (v.listed order)

variable {order : SetOrder} {folder : Folder} {path : String} {v : Value}

/-- Of a document, the flat mapping is loaded that it is or carries. -/
theorem loadProperties_of_parses (h : folder.Parses order path v) :
    loadProperties folder path order = flatMapping (normalizePath path) v := by
  cases h with
  | json htext hform hparse => simp only [loadProperties_of_text htext hform, readConfiguration, hparse]
  | yaml htext hform hload => simp only [loadProperties_of_text htext hform, readConfiguration, hload]

/-- A written document that is stored in a JSON file is the document of the file. -/
theorem Folder.parses_of_written {t : Json.Tree} (hheight : t.height ≤ Json.depthLimit)
    (hform : Notation.ofPath? path = some .json)
    (hstored : folder.find? (normalizePath path)
      = some (.file (Utf8.encode (t.write ++ "\n").toList))) : folder.Parses order path t.value := by
  have hbreaks : '\r' ∉ (t.write ++ "\n").toList := by
    rw [String.toList_append, List.mem_append]
    rintro (hmem | hmem)
    · exact Json.return_not_mem_write t hmem
    · exact absurd hmem (by decide)
  have htext : folder.text? path = some (t.write ++ "\n").toList := by
    rw [Folder.text?_of_encoded hstored, Text.normalizeBreaks_of_not_mem hbreaks]
  exact .json htext hform (Json.parse_write hheight)

/-! ## Flat mappings -/

namespace Properties

/-- Is no value of the mapping a list or a mapping? -/
def IsFlat (m : Properties) : Prop := ∀ e ∈ m.toList, e.2.isNested = false

/-- The keys of the values that are lists or mappings, in order. -/
def nestedKeys (m : Properties) : List Scalar :=
  (m.toList.filter fun e => e.2.isNested).map Prod.fst

variable {m : Properties}

theorem nestedKeys_eq_nil_iff : m.nestedKeys = [] ↔ m.IsFlat := by
  rw [nestedKeys, List.map_eq_nil_iff, List.filter_eq_nil_iff]
  exact forall₂_congr fun e _ => Iff.of_eq (Bool.not_eq_true _)

/-- A flat mapping has no mapping under `config`. -/
theorem IsFlat.get?_ne (h : m.IsFlat) (k : Scalar) (entries : List (Scalar × Value)) :
    m.get? k ≠ some (.mapping entries) := by
  intro hk
  obtain ⟨k', hmem⟩ := OrderedMap.exists_mem_of_lookup hk
  cases h _ hmem

end Properties

/-- Does a failure blame nested values? It gives their keys, in order; but if one of these is an integer
too long to be written, it only says so. -/
def LoadError.Blames (path : String) (keys : List Scalar) (e : LoadError) : Prop :=
  e.kind = .invalidValue
    ∧ e.message = if keys.any Scalar.isTooLong then Text.ofString Scalar.tooLongMessage
      else Text.ofString ("Configuration in " ++ path ++ " must be flat; nested values for: ")
        ++ Text.join (Text.ofString ", ") (keys.map Scalar.plainText)

/-- A mapping that is left is loaded if it is flat. -/
theorem flatMapping_of_flat {m : Properties} (hv : unwrapConfig v = .mapping m.toList)
    (h : m.IsFlat) (path : String) : flatMapping path v = .ok m := by
  have hkeys : (m.toList.filter fun e => e.2.isNested).map Prod.fst = [] :=
    Properties.nestedKeys_eq_nil_iff.mpr h
  unfold flatMapping
  rw [hv]
  dsimp only
  rw [hkeys]
  dsimp only
  rw [OrderedMap.ofList_toList]

/-- Otherwise its nested values are blamed. -/
theorem flatMapping_of_nested {m : Properties} (hv : unwrapConfig v = .mapping m.toList)
    (h : ¬ m.IsFlat) (path : String) :
    ∃ e, flatMapping path v = .error e ∧ e.Blames path m.nestedKeys := by
  have hkeys : m.nestedKeys ≠ [] := fun hnil => h (Properties.nestedKeys_eq_nil_iff.mp hnil)
  refine ⟨if m.nestedKeys.any Scalar.isTooLong then .longKey else .nested path m.nestedKeys, ?_, ?_⟩
  · unfold flatMapping
    rw [hv]
    dsimp only
    split
    · next hnil => exact absurd hnil hkeys
    · rfl
  · unfold LoadError.Blames
    -- the keys are part of the message, unless one of them is too long to be written
    by_cases hlong : m.nestedKeys.any Scalar.isTooLong = true
    · rw [if_pos hlong, if_pos hlong]
      exact ⟨rfl, rfl⟩
    · rw [if_neg hlong, if_neg hlong]
      exact ⟨rfl, rfl⟩

/-- What is left and is no mapping is blamed for that. -/
theorem flatMapping_of_foreign (h : ∀ entries, v ≠ .mapping entries) (path : String) :
    flatMapping path v = .error (.notMapping path) := by
  unfold flatMapping
  cases v with
  | mapping entries => exact absurd rfl (h entries)
  | scalar s => rfl
  | list items => rfl
  | set items => rfl

/-! ## The level that is taken off -/

variable {d : Properties}

theorem unwrapConfig_of_payload {entries : List (Scalar × Value)}
    (h : d.get? ("config" : Scalar) = some (.mapping entries)) :
    unwrapConfig (.mapping d.toList) = .mapping entries := by
  unfold OrderedMap.get? at h
  unfold unwrapConfig
  dsimp only
  rw [h]

theorem unwrapConfig_of_bare
    (h : ∀ entries, d.get? ("config" : Scalar) ≠ some (.mapping entries)) :
    unwrapConfig (.mapping d.toList) = .mapping d.toList := by
  unfold unwrapConfig
  dsimp only
  split
  · next entries hentries => exact absurd hentries (h entries)
  · rfl

/-! ## Loading -/

/-- What JSON and YAML files are loaded as. A flat mapping is loaded as it is, from a file that holds it
and from one that holds a document with the mapping under `config`. If the mapping under `config` is
not flat, its own nested values are blamed. A document without a mapping under `config` is loaded as it
is if it is a flat mapping, and if it is another mapping, its nested values are blamed; what is no
mapping is refused. All this is so in whatever order sets list their members. -/
theorem loadProperties_payload (order : SetOrder) :
    (∀ (m d : Properties) (bare payload : Folder) (p q : String), m.IsFlat →
        d.get? ("config" : Scalar) = some (.mapping m.toList) →
        bare.Parses order p (.mapping m.toList) → payload.Parses order q (.mapping d.toList) →
        loadProperties bare p order = .ok m ∧ loadProperties payload q order = .ok m)
    ∧ (∀ (m d : Properties) (folder : Folder) (path : String), ¬ m.IsFlat →
        d.get? ("config" : Scalar) = some (.mapping m.toList) →
        folder.Parses order path (.mapping d.toList) →
        ∃ e, loadProperties folder path order = .error e ∧ e.Blames (normalizePath path) m.nestedKeys)
    ∧ (∀ (d : Properties) (folder : Folder) (path : String),
        (∀ entries, d.get? ("config" : Scalar) ≠ some (.mapping entries)) →
        folder.Parses order path (.mapping d.toList) →
        (d.IsFlat → loadProperties folder path order = .ok d)
          ∧ (¬ d.IsFlat → ∃ e, loadProperties folder path order = .error e
            ∧ e.Blames (normalizePath path) d.nestedKeys))
    ∧ ∀ (v : Value) (folder : Folder) (path : String), (∀ entries, v ≠ .mapping entries) →
        folder.Parses order path v →
        ∃ e, loadProperties folder path order = .error e ∧ e.kind = .invalidValue := by
  refine ⟨?_, ?_, ?_, ?_⟩
  -- a flat mapping has no mapping under `config`, so that nothing more is taken off
  · intro m d bare payload p q hflat hconfig hbare hpayload
    rw [loadProperties_of_parses hbare, loadProperties_of_parses hpayload]
    have hsame := unwrapConfig_of_bare (hflat.get?_ne ("config" : Scalar))
    exact ⟨flatMapping_of_flat hsame hflat _,
      flatMapping_of_flat (unwrapConfig_of_payload hconfig) hflat _⟩
  · intro m d folder path hnested hconfig hparses
    rw [loadProperties_of_parses hparses]
    exact flatMapping_of_nested (unwrapConfig_of_payload hconfig) hnested _
  · intro d folder path hbare hparses
    rw [loadProperties_of_parses hparses]
    have hsame := unwrapConfig_of_bare hbare
    exact ⟨fun hflat => flatMapping_of_flat hsame hflat _,
      fun hnested => flatMapping_of_nested hsame hnested _⟩
  · intro v folder path hforeign hparses
    rw [loadProperties_of_parses hparses]
    exact ⟨_, flatMapping_of_foreign hforeign _, rfl⟩

/-- A folder with a written document. -/
def treeFolder (t : Json.Tree) : Folder :=
  ⟨[("c.json", .file (Utf8.encode (t.write ++ "\n").toList))]⟩

theorem parses_treeFolder {t : Json.Tree} (h : t.height ≤ Json.depthLimit) :
    (treeFolder t).Parses order "c.json" t.value := by
  have hform : Notation.ofPath? "c.json" = some .json := by decide +kernel
  exact Folder.parses_of_written h hform (Folder.find?_singleton (by decide +kernel))

/-- The mapping that an object is. -/
def objectMapping (entries : List (String × Json.Tree)) : Properties :=
  .ofList (Json.Tree.entryValues entries)

/-- A flat mapping with a text under `config`. -/
def bareEntries : List (String × Json.Tree) := [("config", .text "c"), ("format.class", .text "json")]

/-- A mapping that is not flat, with the other one under `config`. -/
def deepEntries : List (String × Json.Tree) := [("config", .object bareEntries), ("l", .list [])]

/-- A mapping that is not flat, with a flag under `config`. -/
def nestedEntries : List (String × Json.Tree) := [("config", .flag true), ("a", .object [])]

/-- The flat mapping is loaded from a file of its own and from a payload; the other two mappings are
blamed for their nested values, one of them in a payload; and a list is refused. -/
theorem loadProperties_payload_trees :
    (loadProperties (treeFolder (.object bareEntries)) "c.json" = .ok (objectMapping bareEntries)
      ∧ loadProperties (treeFolder (.object deepEntries)) "c.json" = .ok (objectMapping bareEntries))
    ∧ (∃ e, loadProperties (treeFolder (.object [("config", .object deepEntries)])) "c.json" = .error e
      ∧ e.Blames (normalizePath "c.json") (objectMapping deepEntries).nestedKeys)
    ∧ (∃ e, loadProperties (treeFolder (.object nestedEntries)) "c.json" = .error e
      ∧ e.Blames (normalizePath "c.json") (objectMapping nestedEntries).nestedKeys)
    ∧ ∃ e, loadProperties (treeFolder (.list [])) "c.json" = .error e ∧ e.kind = .invalidValue := by
  obtain ⟨hpayload, hdeep, hbare, hforeign⟩ := loadProperties_payload .canonical
  refine ⟨?_, ?_, ?_, ?_⟩
  · have hflat : (objectMapping bareEntries).IsFlat := by
      unfold Properties.IsFlat
      decide +kernel
    exact hpayload _ (objectMapping deepEntries) _ _ _ _ hflat rfl
      (parses_treeFolder (t := .object bareEntries) (by decide))
      (parses_treeFolder (t := .object deepEntries) (by decide))
  · have hnested : ¬ (objectMapping deepEntries).IsFlat := by
      unfold Properties.IsFlat
      decide +kernel
    exact hdeep _ (objectMapping [("config", .object deepEntries)]) _ _ hnested rfl
      (parses_treeFolder (t := .object [("config", .object deepEntries)]) (by decide))
  · have hnested : ¬ (objectMapping nestedEntries).IsFlat := by
      unfold Properties.IsFlat
      decide +kernel
    refine (hbare _ _ _ (fun entries hentries => ?_)
      (parses_treeFolder (t := .object nestedEntries) (by decide))).2 hnested
    cases (hentries : some (Value.scalar (.bool true)) = some (.mapping entries))
  · refine hforeign _ _ _ (fun entries h => ?_) (parses_treeFolder (t := .list []) (by decide))
    cases (h : Value.list [] = .mapping entries)

/-- A mapping with a nested value under a number that is too long to be written. -/
def longKeyMapping : Properties := .ofList [(.int (Nat.pow 16 3600), .mapping [])]

/-- It has one nested value and nothing under `config`, but the key of the value is not named. -/
theorem longKey_not_named :
    (∀ entries, longKeyMapping.get? ("config" : Scalar) ≠ some (.mapping entries))
      ∧ longKeyMapping.nestedKeys = [.int (Nat.pow 16 3600)]
      ∧ ∃ e, flatMapping "c.yaml" (.mapping longKeyMapping.toList) = .error e
        ∧ e.message ≠ Text.ofString "Configuration in c.yaml must be flat; nested values for: "
          ++ Text.join (Text.ofString ", ") (longKeyMapping.nestedKeys.map Scalar.plainText) := by
  have hbare : ∀ entries, longKeyMapping.get? ("config" : Scalar) ≠ some (.mapping entries) :=
    fun entries h => by cases (h : none = some (Value.mapping entries))
  have hkeys : longKeyMapping.nestedKeys = [.int (Nat.pow 16 3600)] := rfl
  have hlong : longKeyMapping.nestedKeys.any Scalar.isTooLong = true := by decide +kernel
  obtain ⟨e, he, hblames⟩ := flatMapping_of_nested (unwrapConfig_of_bare hbare)
    (fun hflat => List.cons_ne_nil _ _ (hkeys.symm.trans (Properties.nestedKeys_eq_nil_iff.mpr hflat)))
    "c.yaml"
  refine ⟨hbare, hkeys, e, he, fun hnames => ?_⟩
  -- the text about the number begins with another letter
  have hfirst : (Text.ofString Scalar.tooLongMessage).head?
      ≠ (Text.ofString "Configuration in c.yaml must be flat; nested values for: ").head? := by
    decide +kernel
  have hfull : Text.ofString "Configuration in c.yaml must be flat; nested values for: " ≠ [] := by
    decide +kernel
  rw [hblames.2, if_pos hlong] at hnames
  rw [hnames, List.head?_append_of_ne_nil _ hfull] at hfirst
  exact hfirst rfl

end SinkAudit
