import Reckoner.Proofs.Outcome
import Reckoner.Proofs.Settings.Environment

/-!
Settings are loaded field by field: what the environment sets, or else what the file holds, or else
the default.
-/
namespace Reckoner

variable {entries : List (String × Document)} {names : List String}

namespace Document

/-! What is meant by a table that is no wrapper itself, though its values may be. -/

def unwrapped (d : Document) : Document := d.unwrapped?.getD d

theorem unwrapped?_eq_some {d : Document} (h : d.unwrapped?.isSome) :
    d.unwrapped? = some d.unwrapped := by
  obtain ⟨meant, hmeant⟩ := Option.isSome_iff_exists.mp h
  simp [unwrapped, hmeant]

/-- The entries that count, with what their values mean. -/
def lastMeant (entries : List (String × Document)) : List (String × Document) :=
  lastEntries (entries.map fun entry => (entry.1, entry.2.unwrapped))

theorem field?_lastMeant (entries : List (String × Document)) (key : String) :
    (table (lastMeant entries)).field? key = (entries.reverse.lookup key).map unwrapped := by
  have hfield : (table (lastMeant entries)).field? key = (lastMeant entries).lookup key := rfl
  rw [hfield, lastMeant, lookup_lastEntries, ← List.map_reverse, lookup_map_values]

theorem isTable_lastMeant (h : ∀ key ∈ entries.map (·.1), key ∈ names) :
    (table (lastMeant entries)).IsTable names := by
  refine ⟨_, rfl, hasKeys_lastEntries ?_⟩
  rw [List.map_map]
  exact h

theorem unwrappedEntries?_eq_some (h : ∀ entry ∈ entries, entry.2.unwrapped?.isSome)
    (hkeys : identityKey ∉ entries.map (·.1)) :
    unwrappedEntries? entries = some (entries.map fun entry => (entry.1, entry.2.unwrapped)) := by
  induction entries with
  | nil => rfl
  | cons entry entries ih =>
    obtain ⟨key, value⟩ := entry
    rw [List.map_cons, List.mem_cons, not_or] at hkeys
    have hvalue := unwrapped?_eq_some (h (key, value) List.mem_cons_self)
    have hrest := ih (fun entry hmem => h entry (List.mem_cons_of_mem _ hmem)) hkeys.2
    simp only [unwrappedEntries?, if_neg (Ne.symm hkeys.1), hvalue, hrest]
    rfl

theorem unwrapped?_table (h : ∀ entry ∈ entries, entry.2.unwrapped?.isSome)
    (hid : identityKey ∉ entries.map (·.1)) (hvalue : wrappedValueKey ∉ entries.map (·.1)) :
    (table entries).unwrapped? = some (table (lastMeant entries)) := by
  have hnone : (lastMeant entries).lookup wrappedValueKey = none := by
    have hlookup : entries.reverse.lookup wrappedValueKey = none := by
      rw [lookup_eq_none_iff_keys, List.map_reverse, List.mem_reverse]
      exact hvalue
    exact (field?_lastMeant entries wrappedValueKey).trans (by rw [hlookup]; rfl)
  rw [lastMeant] at hnone ⊢
  simp only [unwrapped?, unwrappedEntries?_eq_some h hid, bind, Option.bind_some, hnone]
  rfl

theorem settingsEntries?_eq_some (h : ∀ entry ∈ entries, entry.2.unwrapped?.isSome) :
    settingsEntries? entries = some (lastMeant entries) := by
  have hmap : entries.mapM (fun entry => entry.2.unwrapped?.map (entry.1, ·)) =
      some (entries.map fun entry => (entry.1, entry.2.unwrapped)) := by
    induction entries with
    | nil => rfl
    | cons entry entries ih =>
      have hvalue := unwrapped?_eq_some (h entry List.mem_cons_self)
      have hrest := ih fun entry hmem => h entry (List.mem_cons_of_mem _ hmem)
      rw [List.mapM_cons, hrest, hvalue]
      rfl
  exact congrArg (·.bind fun entries => some (lastEntries entries)) hmap

end Document

namespace Settings

/-- The value of the field that the entries of a file hold: of several entries with one key the last
counts. -/
def Field.fileValue? (entries : List (String × Document)) (f : Field) : Option f.Value :=
  match entries.reverse.lookup f.owner.name with
  | some (.table fields) =>
    ((fields.reverse.lookup f.name).bind Document.unwrapped?).bind (f.read? .ignored)
  | _ => none

/-- The entries are sections with fields of theirs, whose values can be read as those of the
fields. -/
def Known (entries : List (String × Document)) : Prop :=
  ∀ entry ∈ entries, ∃ (s : Section) (fields : List (String × Document)),
    entry = (s.name, .table fields) ∧
      ∀ field ∈ fields, ∃ (f : Field) (value : Document), f.owner = s ∧ field = (f.name, value) ∧
        (value.unwrapped?.bind (f.read? .ignored)).isSome

/-- The keys that wrap values are names of no fields. -/
theorem Section.not_mem_fieldNames (s : Section) :
    Document.identityKey ∉ s.fieldNames ∧ Document.wrappedValueKey ∉ s.fieldNames := by
  cases s <;> decide

section

variable {key : String} {value : Document} {s : Section}

/-- The fields of a known section, and that the section means the table of what they mean. -/
theorem Known.exists_fields (h : Known entries) (hmem : (key, value) ∈ entries) :
    ∃ (s : Section) (fields : List (String × Document)), key = s.name ∧ value = .table fields ∧
      value.unwrapped? = some (.table (Document.lastMeant fields)) ∧
      (∀ key ∈ fields.map (·.1), key ∈ s.fieldNames) ∧
      ∀ (f : Field) (value : Document), (f.name, value) ∈ fields →
        (value.unwrapped?.bind (f.read? .ignored)).isSome := by
  obtain ⟨s, fields, hentry, hfields⟩ := h _ hmem
  cases hentry
  have hnames : ∀ key ∈ fields.map (·.1), key ∈ s.fieldNames := by
    intro key hkey
    obtain ⟨field, hfield, rfl⟩ := List.mem_map.mp hkey
    obtain ⟨f, value, rfl, rfl, -⟩ := hfields field hfield
    exact f.name_mem
  have hmeant : ∀ field ∈ fields, field.2.unwrapped?.isSome := by
    intro field hfield
    obtain ⟨f, value, -, rfl, hsome⟩ := hfields field hfield
    exact Option.isSome_of_isSome_bind hsome
  refine ⟨s, fields, rfl, rfl, ?_, hnames, ?_⟩
  · exact Document.unwrapped?_table hmeant (fun hid => s.not_mem_fieldNames.1 (hnames _ hid))
      fun hvalue => s.not_mem_fieldNames.2 (hnames _ hvalue)
  · intro f value hfield
    obtain ⟨g, _, -, hg, hsome⟩ := hfields _ hfield
    obtain ⟨hname, rfl⟩ := Prod.mk.inj hg
    obtain rfl := Field.name_injective hname
    exact hsome

theorem Known.exists_fields_of_lookup (h : Known entries)
    (hvalue : entries.reverse.lookup s.name = some value) :
    ∃ fields, value = .table fields ∧ value.unwrapped = .table (Document.lastMeant fields) ∧
      (∀ key ∈ fields.map (·.1), key ∈ s.fieldNames) ∧
      ∀ (f : Field) (value : Document), (f.name, value) ∈ fields →
        (value.unwrapped?.bind (f.read? .ignored)).isSome := by
  have hmem := List.mem_reverse.mp (Document.mem_of_lookup hvalue)
  obtain ⟨_, fields, hname, hfields, hmeant, hnames, hreads⟩ := h.exists_fields hmem
  obtain rfl := Section.name_injective hname
  exact ⟨fields, hfields, by rw [Document.unwrapped, hmeant, Option.getD_some], hnames, hreads⟩

theorem Known.settingsEntries? (h : Known entries) :
    Document.settingsEntries? entries = some (Document.lastMeant entries) := by
  refine Document.settingsEntries?_eq_some fun entry hmem => ?_
  obtain ⟨_, _, -, -, hmeant, -⟩ := h.exists_fields hmem
  exact Option.isSome_of_eq_some hmeant

theorem Known.sectioned (h : Known entries) :
    Sectioned (.table (Document.lastMeant entries)) := by
  refine ⟨Document.isTable_lastMeant ?_, ?_⟩
  · intro key hkey
    obtain ⟨entry, hmem, rfl⟩ := List.mem_map.mp hkey
    obtain ⟨s, _, hname, -⟩ := h.exists_fields hmem
    rw [hname]
    exact s.name_mem
  · intro s d hd
    rw [Document.field?_lastMeant] at hd
    obtain ⟨value, hvalue, rfl⟩ := Option.map_eq_some_iff.mp hd
    obtain ⟨fields, -, hmeant, hnames, -⟩ := h.exists_fields_of_lookup hvalue
    rw [hmeant]
    exact Document.isTable_lastMeant hnames

/-- Known entries mean a table that gives what they hold. -/
theorem Known.gives (h : Known entries) :
    Gives .ignored (.table (Document.lastMeant entries)) (Field.fileValue? entries) := by
  refine ⟨h.sectioned, fun f => ?_⟩
  unfold Field.find? Field.fileValue?
  rw [Document.field?_lastMeant]
  cases hvalue : entries.reverse.lookup f.owner.name with
  | none => rfl
  | some value =>
    obtain ⟨fields, rfl, hmeant, -, hreads⟩ := h.exists_fields_of_lookup hvalue
    rw [Option.map_some, Option.bind_some, hmeant, Document.field?_lastMeant]
    dsimp only
    cases hraw : fields.reverse.lookup f.name with
    | none => rfl
    | some raw =>
      have hread := hreads f raw (List.mem_reverse.mp (Document.mem_of_lookup hraw))
      have hmeant := Document.unwrapped?_eq_some (Option.isSome_of_isSome_bind hread)
      rw [hmeant, Option.bind_some] at hread
      obtain ⟨read, hread⟩ := Option.isSome_iff_exists.mp hread
      simp [hmeant, hread]

end

end Settings

/-- What a file holds, if it holds a table for the reader. Without a name there is nothing in it. -/
inductive SettingsFile.Holds (yaml : YamlReader) : SettingsFile → List (String × Document) → Prop
  | unnamed : Holds yaml unnamed []
  | text {content entries} (h : yaml content = some entries) : Holds yaml (text content) entries

namespace Settings

variable {yaml : YamlReader} {file : SettingsFile} {environment : List (String × String)}

theorem layer_eq_ok (hfile : file.Holds yaml entries) (h : Known entries) :
    file.layer yaml = .ok (.table (Document.lastMeant entries)) := by
  cases hfile with
  | unnamed => rfl
  | text hread => simp only [SettingsFile.layer, hread, Option.bind_some, h.settingsEntries?]

theorem load_eq {layer : Document} {settings : Settings} (hlayer : file.layer yaml = .ok layer)
    (hread : ofDocument? .ignored (mergeLayers layer environment) = some settings) :
    load file environment yaml = settings.validate.map fun _ => settings := by
  unfold load
  rw [hlayer]
  simp only [bind, Except.bind, hread]
  cases settings.validate <;> rfl

/-- Each field by itself has the value that the environment sets, or else the one that the file
holds, or else its default. Nothing but validation decides whether these settings can be had. What
the file holds is up to the reader of YAML, whichever that is. -/
theorem load_layered (yaml : YamlReader) (entries : List (String × Document))
    (environment : List (String × String)) (hentries : Known entries)
    (henvironment : Environment.Known environment) :
    ∃ settings : Settings,
      (∀ f : Field, f.of settings =
        ((f.environmentValue? environment).or (f.fileValue? entries)).getD (f.of {})) ∧
      ((Document.settingsEntries? entries).bind fun meant =>
        ofDocument? .ignored (mergeLayers (.table meant) environment)) = some settings ∧
      ∀ file : SettingsFile, file.Holds yaml entries →
        load file environment yaml = settings.validate.map fun _ => settings := by
  obtain ⟨hvariables, hplain⟩ := gives_layer henvironment
  -- No field of the defaults is a table, and neither is one of the variables: merging goes down to
  -- the fields and not into them.
  have hbelow := (gives_document {}).merge hentries.gives fun f value later hvalue _ => by
    rw [f.find?_document] at hvalue
    cases hvalue
    exact Document.merge_eq_right (.inl (f.document_ne_table _))
  have hall := hbelow.merge hvariables fun f _ later _ hlater =>
    Document.merge_eq_right (.inr (hplain f later hlater))
  have hread := hall.ofDocument?
  refine ⟨_, fun f => ?_, ?_, fun file hfile => load_eq (layer_eq_ok hfile hentries) hread⟩
  · rw [of_ofFields]
    cases f.environmentValue? environment <;> cases f.fileValue? entries <;> rfl
  · rw [hentries.settingsEntries?]
    exact hread

/-- A file with two sections, of which it gives one field each. -/
def partialText : String := "server:\n  body_limit_bytes: 8\ncors: \x7ballowed_methods: [GET]\x7d\n"

def partialEntries : List (String × Document) :=
  [("server", .table [("body_limit_bytes", .natural 8)]),
    ("cors", .table [("allowed_methods", .list [.text "GET"])])]

theorem readTable?_partialText : Yaml.readTable? partialText = some partialEntries := by
  have htokens : Yaml.tokens? partialText = some [.openMapping, .key "server", .openMapping,
      .key "body_limit_bytes", .scalar "8" true, .closeBlock, .key "cors", .openTable,
      .key "allowed_methods", .openList, .scalar "GET" true, .closeList, .closeTable,
      .closeBlock] := by decide +kernel
  have hnumber : Yaml.plainScalar "8" = .natural 8 := rfl
  have hword : Yaml.plainScalar "GET" = .text "GET" := rfl
  simp [Yaml.readTable?, htokens, Yaml.build?, Yaml.Phase.depth, Yaml.depthLimit, hnumber, hword,
    partialEntries]

theorem known_partialEntries : Known partialEntries := by
  intro entry hentry
  simp only [partialEntries, List.mem_cons, List.not_mem_nil, or_false] at hentry
  rcases hentry with rfl | rfl
  · refine ⟨.server, _, rfl, fun field hfield => ?_⟩
    rw [List.mem_singleton.mp hfield]
    exact ⟨.bodyLimitBytes, _, rfl, rfl, rfl⟩
  · refine ⟨.cors, _, rfl, fun field hfield => ?_⟩
    rw [List.mem_singleton.mp hfield]
    exact ⟨.allowedMethods, _, rfl, rfl, rfl⟩

/-- The environment sets one of the fields that the file gives, and another field of the section. -/
def partialEnvironment : List (String × String) :=
  [("HOME", "/root"), ("APP__SERVER__BODY_LIMIT_BYTES", "9"),
    ("app__server__request_timeout_ms", "7")]

theorem known_partialEnvironment : Environment.Known partialEnvironment := by
  intro name value path hmem hpath
  simp only [partialEnvironment, List.mem_cons, List.not_mem_nil, or_false, Prod.mk.injEq] at hmem
  rcases hmem with ⟨rfl, rfl⟩ | ⟨rfl, rfl⟩ | ⟨rfl, rfl⟩
  · have hnone : Environment.path? "HOME" = none := by decide +kernel
    rw [hnone] at hpath
    cases hpath
  · have hsome : Environment.path? "APP__SERVER__BODY_LIMIT_BYTES" =
        some Field.bodyLimitBytes.path := by decide +kernel
    exact ⟨.bodyLimitBytes, Option.some.inj (hsome.symm.trans hpath), by decide +kernel⟩
  · have hsome : Environment.path? "app__server__request_timeout_ms" =
        some Field.requestTimeoutMs.path := by decide +kernel
    exact ⟨.requestTimeoutMs, Option.some.inj (hsome.symm.trans hpath), by decide +kernel⟩

/-- What comes of both, with defaults for the rest. -/
def partialSettings : Settings where
  server := { requestTimeoutMs := 7, bodyLimitBytes := 9 }
  cors := { allowedMethods := ["GET"] }

theorem load_layered_partial :
    load (.text partialText) partialEnvironment = .ok partialSettings := by
  obtain ⟨settings, hfields, -, hload⟩ := load_layered Yaml.readTable? partialEntries
    partialEnvironment known_partialEntries known_partialEnvironment
  have hof : Field.of settings = Field.of partialSettings := by
    funext f
    rw [hfields]
    cases f <;> decide +kernel
  have hsettings : settings = partialSettings := by
    rw [← ofFields_of settings, hof, ofFields_of]
  rw [hload _ (.text readTable?_partialText), hsettings]
  rfl

end Settings
end Reckoner
