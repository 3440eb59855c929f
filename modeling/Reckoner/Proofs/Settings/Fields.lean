import Reckoner.Proofs.Settings.Tables

/-!
The settings field by field: a document of known sections and fields is read as the settings in
which every field that it gives has its value, and every other field its default.
-/
namespace Reckoner.Settings

inductive Section where
  | server | cors | logging | limits
  deriving DecidableEq, Repr

namespace Section

def name : Section → String
  | server => "server"
  | cors => "cors"
  | logging => "logging"
  | limits => "calculator"

def fieldNames : Section → List String
  | server => ServerSettings.fieldNames
  | cors => CorsSettings.fieldNames
  | logging => LoggingSettings.fieldNames
  | limits => Limits.fieldNames

end Section

inductive Field where
  | bindAddress | requestTimeoutMs | bodyLimitBytes
  | corsEnabled | allowedOrigins | allowedMethods | allowedHeaders | allowCredentials
  | maxAgeSeconds
  | consoleLevel | logFormat
  | maxExpressionLength | maxDepth
  deriving DecidableEq, Repr

namespace Field

/-- The section that the field is in. -/
def owner : Field → Section
  | bindAddress | requestTimeoutMs | bodyLimitBytes => .server
  | corsEnabled | allowedOrigins | allowedMethods | allowedHeaders | allowCredentials
  | maxAgeSeconds => .cors
  | consoleLevel | logFormat => .logging
  | maxExpressionLength | maxDepth => .limits

def name : Field → String
  | bindAddress => "bind_addr"
  | requestTimeoutMs => "request_timeout_ms"
  | bodyLimitBytes => "body_limit_bytes"
  | corsEnabled => "enabled"
  | allowedOrigins => "allowed_origins"
  | allowedMethods => "allowed_methods"
  | allowedHeaders => "allowed_headers"
  | allowCredentials => "allow_credentials"
  | maxAgeSeconds => "max_age_seconds"
  | consoleLevel => "console_level"
  | logFormat => "format"
  | maxExpressionLength => "max_expression_len"
  | maxDepth => "max_depth"

abbrev Value : Field → Type
  | bindAddress | consoleLevel => String
  | requestTimeoutMs | bodyLimitBytes | maxAgeSeconds | maxExpressionLength | maxDepth => UInt64
  | corsEnabled | allowCredentials => Bool
  | allowedOrigins | allowedMethods | allowedHeaders => List String
  | logFormat => LogFormat

/-- The value of the field that a document stands for. -/
def read? (surplus : Surplus) : (f : Field) → Document → Option f.Value
  | bindAddress | consoleLevel => Document.toText?
  | requestTimeoutMs | bodyLimitBytes | maxAgeSeconds | maxExpressionLength | maxDepth =>
    Document.toWord?
  | corsEnabled | allowCredentials => Document.toBool?
  | allowedOrigins | allowedMethods | allowedHeaders => Document.toTexts?
  | logFormat => LogFormat.ofDocument? surplus

/-- The value of the field in some settings. -/
def of (s : Settings) : (f : Field) → f.Value
  | bindAddress => s.server.bindAddress
  | requestTimeoutMs => s.server.requestTimeoutMs
  | bodyLimitBytes => s.server.bodyLimitBytes
  | corsEnabled => s.cors.enabled
  | allowedOrigins => s.cors.allowedOrigins
  | allowedMethods => s.cors.allowedMethods
  | allowedHeaders => s.cors.allowedHeaders
  | allowCredentials => s.cors.allowCredentials
  | maxAgeSeconds => s.cors.maxAgeSeconds
  | consoleLevel => s.logging.consoleLevel
  | logFormat => s.logging.format
  | maxExpressionLength => s.limits.maxExpressionLength
  | maxDepth => s.limits.maxDepth

end Field

theorem Section.name_injective {s s' : Section} (h : s.name = s'.name) : s = s' := by
  cases s <;> cases s' <;> first | rfl | exact absurd h (by decide)

theorem Field.name_injective {f g : Field} (h : f.name = g.name) : f = g := by
  cases f <;> cases g <;> first | rfl | exact absurd h (by decide)

theorem Section.name_mem (s : Section) : s.name ∈ Settings.fieldNames := by
  cases s <;> simp [Settings.fieldNames, name]

theorem Field.name_mem (f : Field) : f.name ∈ f.owner.fieldNames := by
  cases f <;> simp [owner, name, Section.fieldNames, ServerSettings.fieldNames,
    CorsSettings.fieldNames, LoggingSettings.fieldNames, Limits.fieldNames]

/-- The settings with some value for each field. -/
def ofFields (value : (f : Field) → f.Value) : Settings where
  server := ⟨value .bindAddress, value .requestTimeoutMs, value .bodyLimitBytes⟩
  cors := ⟨value .corsEnabled, value .allowedOrigins, value .allowedMethods, value .allowedHeaders,
    value .allowCredentials, value .maxAgeSeconds⟩
  logging := ⟨value .consoleLevel, value .logFormat⟩
  limits := ⟨value .maxExpressionLength, value .maxDepth⟩

theorem of_ofFields (value : (f : Field) → f.Value) (f : Field) :
    f.of (ofFields value) = value f := by
  cases f <;> rfl

/-- The fields are all there is to settings. -/
theorem ofFields_of (s : Settings) : ofFields (Field.of s) = s := rfl

namespace Field

/-- What a section holds for the field, or the default. -/
def valueOf (surplus : Surplus) (f : Field) (fields : Document) : f.Value :=
  ((fields.field? f.name).bind (f.read? surplus)).getD (f.of {})

/-- What settings hold for the field. -/
def find? (f : Field) (d : Document) : Option Document :=
  (d.field? f.owner.name).bind (·.field? f.name)

/-- The value of the field, or the default. -/
def valueIn (surplus : Surplus) (f : Field) (d : Document) : f.Value :=
  ((f.find? d).bind (f.read? surplus)).getD (f.of {})

end Field

/-- The fields of a section that are given have values of their kind. -/
def Section.Readable (surplus : Surplus) (s : Section) (fields : Document) : Prop :=
  ∀ f : Field, f.owner = s → ∀ value, fields.field? f.name = some value →
    (f.read? surplus value).isSome

section

variable {surplus : Surplus} {d : Document} {entries : List (String × Document)}

theorem fieldOr_eq_some {α : Type} {read? : Document → Option α} {name : String}
    (h : ∀ value, entries.lookup name = some value → (read? value).isSome) (default : α) :
    fieldOr default read? name entries =
      some (((entries.lookup name).bind read?).getD default) := by
  unfold fieldOr
  cases hlookup : entries.lookup name with
  | none => rfl
  | some value =>
    obtain ⟨result, hresult⟩ := Option.isSome_iff_exists.mp (h value hlookup)
    simp [hresult]

theorem Section.Readable.fieldOr {s : Section} (h : s.Readable surplus (.table entries))
    (f : Field) (hf : f.owner = s) :
    Reckoner.fieldOr (f.of {}) (f.read? surplus) f.name entries =
      some (f.valueOf surplus (.table entries)) :=
  fieldOr_eq_some (h f hf) _

theorem server_ofDocument? (hkeys : d.IsTable ServerSettings.fieldNames)
    (h : Section.server.Readable surplus d) :
    ServerSettings.ofDocument? surplus d =
      some (ofFields fun f => f.valueOf surplus d).server := by
  obtain ⟨entries, rfl, hkeys⟩ := hkeys
  have haddress := h.fieldOr .bindAddress rfl
  have htimeout := h.fieldOr .requestTimeoutMs rfl
  have hbody := h.fieldOr .bodyLimitBytes rfl
  simp only [Field.of, Field.read?, Field.name] at haddress htimeout hbody
  simp only [ServerSettings.ofDocument?, givenFields?_table hkeys, haddress, htimeout, hbody,
    Option.bind_some, bind, pure, ofFields]

theorem cors_ofDocument? (hkeys : d.IsTable CorsSettings.fieldNames)
    (h : Section.cors.Readable surplus d) :
    CorsSettings.ofDocument? surplus d = some (ofFields fun f => f.valueOf surplus d).cors := by
  obtain ⟨entries, rfl, hkeys⟩ := hkeys
  have hon := h.fieldOr .corsEnabled rfl
  have horigins := h.fieldOr .allowedOrigins rfl
  have hmethods := h.fieldOr .allowedMethods rfl
  have hheaders := h.fieldOr .allowedHeaders rfl
  have hcredentials := h.fieldOr .allowCredentials rfl
  have hage := h.fieldOr .maxAgeSeconds rfl
  simp only [Field.of, Field.read?, Field.name] at hon horigins hmethods hheaders hcredentials hage
  simp only [CorsSettings.ofDocument?, givenFields?_table hkeys, hon, horigins, hmethods, hheaders,
    hcredentials, hage, Option.bind_some, bind, pure, ofFields]

theorem logging_ofDocument? (hkeys : d.IsTable LoggingSettings.fieldNames)
    (h : Section.logging.Readable surplus d) :
    LoggingSettings.ofDocument? surplus d =
      some (ofFields fun f => f.valueOf surplus d).logging := by
  obtain ⟨entries, rfl, hkeys⟩ := hkeys
  have hlevel := h.fieldOr .consoleLevel rfl
  have hformat := h.fieldOr .logFormat rfl
  simp only [Field.of, Field.read?, Field.name] at hlevel hformat
  simp only [LoggingSettings.ofDocument?, givenFields?_table hkeys, hlevel, hformat,
    Option.bind_some, bind, pure, ofFields]

theorem limits_ofDocument? (hkeys : d.IsTable Limits.fieldNames)
    (h : Section.limits.Readable surplus d) :
    Limits.ofDocument? surplus d = some (ofFields fun f => f.valueOf surplus d).limits := by
  obtain ⟨entries, rfl, hkeys⟩ := hkeys
  have hlength := h.fieldOr .maxExpressionLength rfl
  have hdepth := h.fieldOr .maxDepth rfl
  simp only [Field.of, Field.read?, Field.name] at hlength hdepth
  simp only [Limits.ofDocument?, givenFields?_table hkeys, hlength, hdepth, Option.bind_some,
    bind, pure, ofFields]

end

/-- A document of known sections and fields, each at most once. -/
structure Sectioned (d : Document) : Prop where
  isTable : d.IsTable Settings.fieldNames
  fields : ∀ (s : Section) (fields : Document), d.field? s.name = some fields →
    fields.IsTable s.fieldNames

section

variable {surplus : Surplus} {d e : Document}

theorem Field.valueIn_of_section {s : Section} {fields : Document} (f : Field) (hf : f.owner = s)
    (h : d.field? s.name = some fields) : f.valueIn surplus d = f.valueOf surplus fields := by
  subst hf
  simp only [valueIn, valueOf, find?, h, Option.bind_some]

theorem Field.valueIn_of_no_section {s : Section} (f : Field) (hf : f.owner = s)
    (h : d.field? s.name = none) : f.valueIn surplus d = f.of {} := by
  subst hf
  simp [valueIn, find?, h]

/-- A section is read from its own fields, if only they decide about it. -/
theorem Section.fieldOr_eq_some {α : Type} (s : Section) (part : Settings → α)
    {read? : Document → Option α} {entries : List (String × Document)}
    (hpart : ∀ v w : (f : Field) → f.Value, (∀ f : Field, f.owner = s → v f = w f) →
      part (ofFields v) = part (ofFields w))
    (hread : ∀ fields, entries.lookup s.name = some fields →
      read? fields = some (part (ofFields fun f => f.valueOf surplus fields))) :
    fieldOr (part {}) read? s.name entries =
      some (part (ofFields fun f => f.valueIn surplus (.table entries))) := by
  have hfield : (Document.table entries).field? s.name = entries.lookup s.name := rfl
  unfold fieldOr
  cases hfields : entries.lookup s.name with
  | none =>
    rw [hfields] at hfield
    exact congrArg some (hpart _ _ fun f hf => (f.valueIn_of_no_section hf hfield).symm)
  | some fields =>
    rw [hfields] at hfield
    refine (hread fields hfields).trans (congrArg some (hpart _ _ fun f hf => ?_))
    exact (f.valueIn_of_section hf hfield).symm

/-- A document of known sections and fields is read field by field, if what it gives can be read. -/
theorem Sectioned.ofDocument? (hd : Sectioned d)
    (h : ∀ (f : Field) value, f.find? d = some value → (f.read? surplus value).isSome) :
    Settings.ofDocument? surplus d = some (ofFields fun f => f.valueIn surplus d) := by
  have hreadable : ∀ (s : Section) (fields : Document), d.field? s.name = some fields →
      s.Readable surplus fields := by
    rintro s fields hfields f rfl value hvalue
    exact h f value (by rw [Field.find?, hfields]; exact hvalue)
  obtain ⟨entries, rfl, hkeys⟩ := hd.isTable
  have hserver := Section.server.fieldOr_eq_some Settings.server
    (fun v w h => by
      simp only [ofFields, h .bindAddress rfl, h .requestTimeoutMs rfl, h .bodyLimitBytes rfl])
    fun fields hfields => server_ofDocument? (hd.fields _ _ hfields) (hreadable _ _ hfields)
  have hcors := Section.cors.fieldOr_eq_some Settings.cors
    (fun v w h => by
      simp only [ofFields, h .corsEnabled rfl, h .allowedOrigins rfl, h .allowedMethods rfl,
        h .allowedHeaders rfl, h .allowCredentials rfl, h .maxAgeSeconds rfl])
    fun fields hfields => cors_ofDocument? (hd.fields _ _ hfields) (hreadable _ _ hfields)
  have hlogging := Section.logging.fieldOr_eq_some Settings.logging
    (fun v w h => by
      simp only [ofFields, h .consoleLevel rfl, h .logFormat rfl])
    fun fields hfields => logging_ofDocument? (hd.fields _ _ hfields) (hreadable _ _ hfields)
  have hlimits := Section.limits.fieldOr_eq_some Settings.limits
    (fun v w h => by
      simp only [ofFields, h .maxExpressionLength rfl, h .maxDepth rfl])
    fun fields hfields => limits_ofDocument? (hd.fields _ _ hfields) (hreadable _ _ hfields)
  simp only [Section.name] at hserver hcors hlogging hlimits
  simp only [Settings.ofDocument?, givenFields?_table hkeys, hserver, hcors, hlogging, hlimits,
    Option.bind_some, bind, pure]

end

/-! The document of some settings. -/

namespace Field

/-- The document that stands for a value of the field. -/
def document : (f : Field) → f.Value → Document
  | bindAddress | consoleLevel => .text
  | requestTimeoutMs | bodyLimitBytes | maxAgeSeconds | maxExpressionLength | maxDepth =>
    fun n => .natural n.toNat
  | corsEnabled | allowCredentials => .bool
  | allowedOrigins | allowedMethods | allowedHeaders => .ofTexts
  | logFormat => fun format => .text format.name

theorem toTexts?_ofTexts (texts : List String) :
    (Document.ofTexts texts).toTexts? = some texts := by
  unfold Document.ofTexts Document.toTexts?
  induction texts with
  | nil => rfl
  | cons text texts ih => simp [ih, Document.toText?]

theorem toWord?_toNat (n : UInt64) : (Document.natural n.toNat).toWord? = some n := by
  simp [Document.toWord?, n.toNat_lt_size]

theorem read?_document (surplus : Surplus) (f : Field) (value : f.Value) :
    f.read? surplus (f.document value) = some value := by
  cases f with
  | bindAddress | consoleLevel | corsEnabled | allowCredentials => rfl
  | requestTimeoutMs | bodyLimitBytes | maxAgeSeconds | maxExpressionLength | maxDepth =>
    exact toWord?_toNat value
  | allowedOrigins | allowedMethods | allowedHeaders => exact toTexts?_ofTexts value
  | logFormat => cases value <;> rfl

theorem document_ne_table (f : Field) (value : f.Value) (entries : List (String × Document)) :
    f.document value ≠ .table entries := by
  cases f <;> exact nofun

theorem find?_document (s : Settings) (f : Field) :
    f.find? s.document = some (f.document (f.of s)) := by
  cases f <;> rfl

end Field

theorem sectioned_document (s : Settings) : Sectioned s.document := by
  refine ⟨⟨_, rfl, by simp [fieldNames], by simp⟩, fun sec fields h => ?_⟩
  cases sec with
  | server =>
    cases h
    exact ⟨_, rfl, by simp [Section.fieldNames, ServerSettings.fieldNames], by simp⟩
  | cors =>
    cases h
    exact ⟨_, rfl, by simp [Section.fieldNames, CorsSettings.fieldNames], by simp⟩
  | logging =>
    cases h
    exact ⟨_, rfl, by simp [Section.fieldNames, LoggingSettings.fieldNames], by simp⟩
  | limits =>
    cases h
    exact ⟨_, rfl, by simp [Section.fieldNames, Limits.fieldNames], by simp⟩

/-! Merging. -/

theorem Sectioned.merge {d e : Document} (hd : Sectioned d) (he : Sectioned e) :
    Sectioned (d.merge e) := by
  refine ⟨hd.isTable.merge he.isTable, ?_⟩
  intro s fields h
  rw [Document.field?_merge hd.isTable he.isTable] at h
  split at h
  · rename_i lower upper hlower hupper
    cases h
    exact (hd.fields s lower hlower).merge (he.fields s upper hupper)
  · rename_i hlower hupper
    cases h
    exact hd.fields s fields hlower
  · exact he.fields s fields h

/-- A field of merged documents is that of the later one, if it has one. -/
theorem Field.find?_merge {d e : Document} (hd : Sectioned d) (he : Sectioned e) (f : Field)
    (h : ∀ value later, f.find? d = some value → f.find? e = some later →
      value.merge later = later) :
    f.find? (d.merge e) = (f.find? e).or (f.find? d) := by
  unfold find? at h ⊢
  rw [Document.field?_merge hd.isTable he.isTable]
  cases hlower : d.field? f.owner.name with
  | none => simp
  | some lower =>
    cases hupper : e.field? f.owner.name with
    | none => simp
    | some upper =>
      simp only [hlower, hupper, Option.bind_some] at h ⊢
      rw [Document.field?_merge (hd.fields _ _ hlower) (he.fields _ _ hupper)]
      cases hvalue : lower.field? f.name with
      | none => simp
      | some value =>
        cases hlater : upper.field? f.name with
        | none => simp
        | some later => simp [h value later hvalue hlater]

/-! What a document gives. -/

/-- The document has the known sections and fields only, and gives just these values. -/
structure Gives (surplus : Surplus) (d : Document) (value? : (f : Field) → Option f.Value) :
    Prop where
  sectioned : Sectioned d
  fields : ∀ f : Field, (f.find? d).map (f.read? surplus) = (value? f).map some

section

variable {surplus : Surplus} {d e : Document} {value? later? : (f : Field) → Option f.Value}

theorem Gives.ofDocument? (h : Gives surplus d value?) :
    Settings.ofDocument? surplus d = some (ofFields fun f => (value? f).getD (f.of {})) := by
  have hvalue : ∀ f : Field, f.valueIn surplus d = (value? f).getD (f.of {}) := by
    intro f
    have hfield := h.fields f
    unfold Field.valueIn
    cases hfind : f.find? d <;> cases hgiven : value? f <;> simp_all
  rw [h.sectioned.ofDocument?, funext hvalue]
  intro f value hfind
  have hfield := h.fields f
  cases hgiven : value? f <;> simp_all

theorem gives_document (s : Settings) : Gives surplus s.document fun f => some (f.of s) := by
  refine ⟨sectioned_document s, fun f => ?_⟩
  rw [f.find?_document, Option.map_some, f.read?_document, Option.map_some]

/-- Merged documents give what the later one gives, or else the earlier one. -/
theorem Gives.merge (hd : Gives surplus d value?) (he : Gives surplus e later?)
    (h : ∀ (f : Field) value later, f.find? d = some value → f.find? e = some later →
      value.merge later = later) :
    Gives surplus (d.merge e) fun f => (later? f).or (value? f) := by
  refine ⟨hd.sectioned.merge he.sectioned, fun f => ?_⟩
  have hvalue := hd.fields f
  have hlater := he.fields f
  rw [f.find?_merge hd.sectioned he.sectioned (h f)]
  cases hgiven : later? f <;> cases hfind : f.find? e <;> simp_all

end

end Reckoner.Settings
