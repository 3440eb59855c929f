import Mathlib.Data.List.Forall2
import Mathlib.Data.List.Nodup
import Reckoner.Proofs.Settings.Printing

/-!
Settings of which a JSON text gives a part. What it leaves out has its default, whether the field or
its whole section is missing; the order of the members does not matter, and a member that is not
known is refused beside any others.
-/
namespace Reckoner

namespace Document

variable {key : String} {value : Document} {names : List String}
  {entries others : List (String × Document)}

theorem lookup_eq_some_iff_mem (h : (entries.map (·.1)).Nodup) :
    entries.lookup key = some value ↔ (key, value) ∈ entries := by
  refine ⟨mem_of_lookup, fun hmem => ?_⟩
  cases hlookup : entries.lookup key with
  | none => exact absurd (List.mem_map_of_mem hmem) (lookup_eq_none_iff_keys.mp hlookup)
  | some found =>
    have heq := List.inj_on_of_nodup_map h (mem_of_lookup hlookup) hmem rfl
    exact congrArg some (Prod.mk.inj heq).2

theorem lookup_perm (h : entries.Perm others) (hnodup : (entries.map (·.1)).Nodup)
    (key : String) : entries.lookup key = others.lookup key := by
  have hnodup' : (others.map (·.1)).Nodup := (h.map (·.1)).nodup_iff.mp hnodup
  ext value
  rw [lookup_eq_some_iff_mem hnodup, lookup_eq_some_iff_mem hnodup', h.mem_iff]

theorem hasKeys_perm (h : (entries.map (·.1)).Perm (others.map (·.1))) :
    HasKeys names entries ↔ HasKeys names others := by
  constructor
  · exact fun hkeys => ⟨fun key hkey => hkeys.mem key (h.mem_iff.mpr hkey), h.nodup hkeys.nodup⟩
  · exact fun hkeys =>
      ⟨fun key hkey => hkeys.mem key (h.mem_iff.mp hkey), h.symm.nodup hkeys.nodup⟩

/-- The same members in any order, if it has members. -/
inductive SameMembers : Document → Document → Prop where
  | refl (d : Document) : SameMembers d d
  | table {entries others : List (String × Document)} (h : entries.Perm others) :
    SameMembers (table entries) (table others)

/-- The same members in any order, at the top and one level below it. -/
def Reordered (entries others : List (String × Document)) : Prop :=
  ∃ middle, entries.Perm middle ∧
    List.Forall₂ (fun a b => a.1 = b.1 ∧ SameMembers a.2 b.2) middle others

theorem Reordered.keys (h : Reordered entries others) :
    (entries.map (·.1)).Perm (others.map (·.1)) := by
  obtain ⟨middle, hperm, hmembers⟩ := h
  have hkeys : middle.map (·.1) = others.map (·.1) := by
    clear hperm
    induction hmembers with
    | nil => rfl
    | cons hmember _ ih => exact congrArg₂ List.cons hmember.1 ih
  exact hkeys ▸ hperm.map (·.1)

/-- What stands under a key has the same members. -/
theorem Reordered.lookup (h : Reordered entries others) (hnodup : (entries.map (·.1)).Nodup)
    (key : String) : Option.Rel SameMembers (entries.lookup key) (others.lookup key) := by
  obtain ⟨middle, hperm, hmembers⟩ := h
  rw [lookup_perm hperm hnodup]
  clear hperm hnodup
  induction hmembers with
  | nil => exact .none
  | @cons entry other _ _ hmember _ ih =>
    rw [List.lookup_cons, List.lookup_cons, hmember.1]
    split
    · exact .some hmember.2
    · exact ih

end Document

open Document (HasKeys SameMembers Reordered)

variable {names : List String} {entries others fields : List (String × Document)}
  {surplus : Surplus}

theorem givenFields?_eq_none (h : ¬ HasKeys names entries) :
    givenFields? surplus names (.table entries) = none := by
  refine if_neg fun hkeys => h ?_
  rw [Bool.and_eq_true, List.all_eq_true, decide_eq_true_eq] at hkeys
  exact ⟨fun key hkey => List.contains_iff_mem.mp (hkeys.1 key hkey), hkeys.2⟩

namespace Settings

/-! Sections, all read in one way. -/

namespace Section

abbrev Part : Section → Type
  | server => ServerSettings
  | cors => CorsSettings
  | logging => LoggingSettings
  | limits => Limits

def part (settings : Settings) : (s : Section) → s.Part
  | server => settings.server
  | cors => settings.cors
  | logging => settings.logging
  | limits => settings.limits

def read? (surplus : Surplus) : (s : Section) → Document → Option s.Part
  | server => ServerSettings.ofDocument? surplus
  | cors => CorsSettings.ofDocument? surplus
  | logging => LoggingSettings.ofDocument? surplus
  | limits => Limits.ofDocument? surplus

/-- The section as the entries give it, or with its defaults if they do not. -/
def readIn (surplus : Surplus) (entries : List (String × Document)) (s : Section) :
    Option s.Part := fieldOr (s.part {}) (s.read? surplus) s.name entries

theorem part_congr (s : Section) {v w : (f : Field) → f.Value}
    (h : ∀ f : Field, f.owner = s → v f = w f) : s.part (ofFields v) = s.part (ofFields w) := by
  cases s with
  | server =>
    simp only [part, ofFields, h .bindAddress rfl, h .requestTimeoutMs rfl, h .bodyLimitBytes rfl]
  | cors =>
    simp only [part, ofFields, h .corsEnabled rfl, h .allowedOrigins rfl, h .allowedMethods rfl,
      h .allowedHeaders rfl, h .allowCredentials rfl, h .maxAgeSeconds rfl]
  | logging => simp only [part, ofFields, h .consoleLevel rfl, h .logFormat rfl]
  | limits => simp only [part, ofFields, h .maxExpressionLength rfl, h .maxDepth rfl]

theorem read?_table {s : Section} (hkeys : HasKeys s.fieldNames fields)
    (h : s.Readable surplus (.table fields)) :
    s.read? surplus (.table fields) =
      some (s.part (ofFields fun f => f.valueOf surplus (.table fields))) := by
  cases s with
  | server => exact server_ofDocument? ⟨fields, rfl, hkeys⟩ h
  | cors => exact cors_ofDocument? ⟨fields, rfl, hkeys⟩ h
  | logging => exact logging_ofDocument? ⟨fields, rfl, hkeys⟩ h
  | limits => exact limits_ofDocument? ⟨fields, rfl, hkeys⟩ h

theorem read?_eq_none {s : Section} (h : ¬ HasKeys s.fieldNames fields) :
    s.read? surplus (.table fields) = none := by
  have hgiven : givenFields? surplus s.fieldNames (.table fields) = none := givenFields?_eq_none h
  cases s <;>
    simp only [fieldNames] at hgiven <;>
    simp only [read?, ServerSettings.ofDocument?, CorsSettings.ofDocument?,
      LoggingSettings.ofDocument?, Limits.ofDocument?, hgiven, bind, Option.bind_none]

end Section

/-! The whole document, section by section. -/

theorem ofDocument?_congr (hkeys : HasKeys fieldNames entries ↔ HasKeys fieldNames others)
    (h : HasKeys fieldNames entries →
      ∀ s : Section, s.readIn surplus entries = s.readIn surplus others) :
    ofDocument? surplus (.table entries) = ofDocument? surplus (.table others) := by
  by_cases hknown : HasKeys fieldNames entries
  · have hserver := h hknown .server
    have hcors := h hknown .cors
    have hlogging := h hknown .logging
    have hlimits := h hknown .limits
    simp only [Section.readIn, Section.read?, Section.part, Section.name] at hserver hcors
    simp only [Section.readIn, Section.read?, Section.part, Section.name] at hlogging hlimits
    simp only [ofDocument?, givenFields?_table hknown, givenFields?_table (hkeys.mp hknown),
      hserver, hcors, hlogging, hlimits, bind, Option.bind_some]
  · simp only [ofDocument?, givenFields?_eq_none hknown, givenFields?_eq_none (hkeys.not.mp hknown),
      bind, Option.bind_none]

theorem ofDocument?_eq_none_of_keys (h : ¬ HasKeys fieldNames entries) :
    ofDocument? surplus (.table entries) = none := by
  simp only [ofDocument?, givenFields?_eq_none h, bind, Option.bind_none]

theorem ofDocument?_eq_none_of_section {s : Section} (h : s.readIn surplus entries = none) :
    ofDocument? surplus (.table entries) = none := by
  by_cases hknown : HasKeys fieldNames entries
  · cases s <;>
      simp only [Section.readIn, Section.read?, Section.part, Section.name] at h <;>
      simp [ofDocument?, givenFields?_table hknown, h]
  · exact ofDocument?_eq_none_of_keys hknown

/-! The order of the members. -/

theorem Section.read?_perm (s : Section) (h : entries.Perm others) :
    s.read? surplus (.table entries) = s.read? surplus (.table others) := by
  have hkeys : HasKeys s.fieldNames entries ↔ HasKeys s.fieldNames others :=
    Document.hasKeys_perm (h.map (·.1))
  by_cases hknown : HasKeys s.fieldNames entries
  · have hlookup := Document.lookup_perm h hknown.nodup
    have hgiven : givenFields? surplus s.fieldNames (.table entries) = some entries :=
      givenFields?_table hknown
    have hgiven' : givenFields? surplus s.fieldNames (.table others) = some others :=
      givenFields?_table (hkeys.mp hknown)
    cases s <;>
      simp only [fieldNames] at hgiven hgiven' <;>
      simp only [read?, ServerSettings.ofDocument?, CorsSettings.ofDocument?,
        LoggingSettings.ofDocument?, Limits.ofDocument?, fieldOr, hgiven, hgiven', hlookup, bind,
        Option.bind_some]
  · rw [read?_eq_none hknown, read?_eq_none (hkeys.not.mp hknown)]

theorem Section.read?_sameMembers (s : Section) {d e : Document} (h : SameMembers d e) :
    s.read? surplus d = s.read? surplus e := by
  cases h with
  | refl => rfl
  | table h => exact s.read?_perm h

theorem ofDocument?_reordered (h : Reordered entries others) :
    ofDocument? surplus (.table entries) = ofDocument? surplus (.table others) := by
  refine ofDocument?_congr (Document.hasKeys_perm h.keys) fun hknown s => ?_
  have hlookup := h.lookup hknown.nodup s.name
  unfold Section.readIn fieldOr
  generalize entries.lookup s.name = found at hlookup ⊢
  generalize others.lookup s.name = found' at hlookup ⊢
  cases hlookup with
  | none => rfl
  | some hmembers => exact s.read?_sameMembers hmembers

/-! Members that are not known. -/

/-- A key that is no section, or one in a section that is no field of it. -/
def HasUnknownKey (entries : List (String × Document)) : Prop :=
  (∃ key ∈ entries.map (·.1), key ∉ fieldNames) ∨
    ∃ (s : Section) (fields : List (String × Document)), (s.name, .table fields) ∈ entries ∧
      ∃ key ∈ fields.map (·.1), key ∉ s.fieldNames

theorem ofDocument?_unknown (h : HasUnknownKey entries) :
    ofDocument? surplus (.table entries) = none := by
  rcases h with ⟨key, hkey, hunknown⟩ | ⟨s, fields, hmem, key, hkey, hunknown⟩
  · exact ofDocument?_eq_none_of_keys fun hknown => hunknown (hknown.mem key hkey)
  · by_cases hknown : HasKeys fieldNames entries
    · refine ofDocument?_eq_none_of_section (s := s) ?_
      rw [Section.readIn, fieldOr, (Document.lookup_eq_some_iff_mem hknown.nodup).mpr hmem]
      exact Section.read?_eq_none fun hfields => hunknown (hfields.mem key hkey)
    · exact ofDocument?_eq_none_of_keys hknown

/-! What is written for a value. -/

/-- The document stands for the value of the field: it is what is printed for it, or for the format
also a table that has the name as its key. -/
inductive Field.Spells : (f : Field) → Document → f.Value → Prop where
  | printed {f : Field} (value : f.Value) : f.Spells (f.document value) value
  | tagged (format : LogFormat) : Field.logFormat.Spells (.table [(format.name, .null)]) format

variable {f : Field} {d : Document} {value : f.Value}

theorem Field.Spells.read? (h : f.Spells d value) : f.read? .refused d = some value := by
  cases h with
  | printed => exact f.read?_document .refused value
  | tagged format => cases format <;> rfl

theorem eq_name_of_ofName? {name : String} {format : LogFormat}
    (h : LogFormat.ofName? name = some format) : name = format.name := by
  unfold LogFormat.ofName? at h
  split at h <;> cases h <;> rfl

theorem spells_of_format? {format : LogFormat}
    (h : LogFormat.ofDocument? .refused d = some format) : Field.logFormat.Spells d format := by
  unfold LogFormat.ofDocument? at h
  split at h
  · obtain rfl := eq_name_of_ofName? h
    exact .printed (f := .logFormat) format
  · rename_i entries
    split at h
    · rename_i name hentry
      obtain rfl := eq_name_of_ofName? h
      match entries, hentry with
      | [entry], hentry =>
        obtain rfl : entry = (format.name, .null) := Option.some.inj hentry
        exact .tagged format
    · cases h
  · cases h

theorem eq_natural_of_toWord? {n : UInt64} (hd : ∀ n, d ≠ .negative n)
    (h : d.toWord? = some n) : d = .natural n.toNat := by
  unfold Document.toWord? at h
  split at h
  · split at h
    · rename_i n hlt
      obtain rfl := Option.some.inj h
      exact congrArg Document.natural (Nat.mod_eq_of_lt hlt).symm
    · cases h
  · exact absurd rfl (hd 0)
  · cases h

theorem eq_ofTexts_of_toTexts? {texts : List String} (h : d.toTexts? = some texts) :
    d = .ofTexts texts := by
  cases d with
  | list items =>
    refine congrArg Document.list ?_
    have h : items.mapM Document.toText? = some texts := h
    induction items generalizing texts with
    | nil =>
      obtain rfl : [] = texts := Option.some.inj h
      rfl
    | cons item items ih =>
      rw [List.mapM_cons] at h
      obtain ⟨first, hfirst, hrest⟩ := Option.bind_eq_some_iff.mp h
      obtain ⟨others, hothers, htexts⟩ := Option.bind_eq_some_iff.mp hrest
      obtain rfl : first :: others = texts := Option.some.inj htexts
      obtain rfl : item = .text first := by
        cases item <;> cases hfirst
        rfl
      rw [ih hothers hothers, List.map_cons]
  | _ => cases h

/-- Apart from numbers with a minus sign, nothing else is read as the value. -/
theorem Field.spells_iff (hd : ∀ n, d ≠ .negative n) :
    f.Spells d value ↔ f.read? .refused d = some value := by
  refine ⟨Spells.read?, fun h => ?_⟩
  have hprinted (hvalue : d = f.document value) : f.Spells d value := hvalue ▸ .printed value
  cases f with
  | bindAddress | consoleLevel =>
    refine hprinted ?_
    cases d <;> cases h
    rfl
  | corsEnabled | allowCredentials =>
    refine hprinted ?_
    cases d <;> cases h
    rfl
  | requestTimeoutMs | bodyLimitBytes | maxAgeSeconds | maxExpressionLength | maxDepth =>
    exact hprinted (eq_natural_of_toWord? hd h)
  | allowedOrigins | allowedMethods | allowedHeaders => exact hprinted (eq_ofTexts_of_toTexts? h)
  | logFormat => exact spells_of_format? h

/-! Sections that are given with defaults only. -/

/-- Known fields of the section with what is their default anyway; there need not be any. -/
structure GivesDefaults (s : Section) (fields : List (String × Document)) : Prop where
  keys : HasKeys s.fieldNames fields
  values : ∀ f : Field, f.owner = s → ∀ d, (f.name, d) ∈ fields → f.Spells d (f.of {})

variable {s : Section}

theorem GivesDefaults.read? (h : GivesDefaults s fields) :
    s.read? .refused (.table fields) = some (s.part {}) := by
  have hgiven : ∀ f : Field, f.owner = s → ∀ d, (Document.table fields).field? f.name = some d →
      f.read? .refused d = some (f.of {}) :=
    fun f hf d hd => (h.values f hf d (Document.mem_of_lookup hd)).read?
  rw [Section.read?_table h.keys fun f hf d hd => by rw [hgiven f hf d hd]; rfl, ← ofFields_of {}]
  refine congrArg some (s.part_congr fun f hf => ?_)
  unfold Field.valueOf
  cases hfound : (Document.table fields).field? f.name with
  | none => rfl
  | some d => rw [Option.bind_some, hgiven f hf d hfound]; rfl

theorem hasKeys_cons {names : List String} {key : String} {d : Document} (hname : key ∈ names)
    (hkey : key ∉ entries.map (·.1)) :
    HasKeys names ((key, d) :: entries) ↔ HasKeys names entries := by
  constructor
  · rintro ⟨hmem, hnodup⟩
    exact ⟨fun k hk => hmem k (List.mem_cons_of_mem _ hk), (List.nodup_cons.mp hnodup).2⟩
  · rintro ⟨hmem, hnodup⟩
    exact ⟨List.forall_mem_cons.mpr ⟨hname, hmem⟩, List.nodup_cons.mpr ⟨hkey, hnodup⟩⟩

/-- A section with its defaults reads like a section that is not there. -/
theorem ofDocument?_defaults (h : GivesDefaults s fields) (hname : s.name ∉ entries.map (·.1)) :
    ofDocument? .refused (.table ((s.name, .table fields) :: entries)) =
      ofDocument? .refused (.table entries) := by
  refine ofDocument?_congr (hasKeys_cons s.name_mem hname) fun _ other => ?_
  unfold Section.readIn fieldOr
  rw [List.lookup_cons]
  by_cases hother : other = s
  · subst hother
    rw [beq_self_eq_true, Document.lookup_eq_none_iff_keys.mpr hname]
    exact h.read?
  · rw [beq_eq_false_iff_ne.mpr fun heq => hother (Section.name_injective heq)]

/-! Partial settings. -/

/-- Some of the sections, each with some of its fields, which have values of their kinds. -/
structure IsPartial (entries : List (String × Document)) : Prop where
  keys : HasKeys fieldNames entries
  sections : ∀ (s : Section) (d : Document), (s.name, d) ∈ entries →
    ∃ fields, d = .table fields ∧ HasKeys s.fieldNames fields ∧
      ∀ f : Field, f.owner = s → ∀ d, (f.name, d) ∈ fields → ∃ value, f.Spells d value

/-- The field has the value where its section is. -/
def Field.GivenIn (f : Field) (entries : List (String × Document)) (value : f.Value) : Prop :=
  ∃ fields d, (f.owner.name, .table fields) ∈ entries ∧ (f.name, d) ∈ fields ∧ f.Spells d value

namespace IsPartial

theorem sectioned (h : IsPartial entries) : Sectioned (.table entries) := by
  refine ⟨⟨entries, rfl, h.keys⟩, fun s d hd => ?_⟩
  obtain ⟨fields, rfl, hkeys, -⟩ := h.sections s d (Document.mem_of_lookup hd)
  exact ⟨fields, rfl, hkeys⟩

theorem find?_eq_some_iff (h : IsPartial entries) :
    f.find? (.table entries) = some d ↔
      ∃ fields, (f.owner.name, .table fields) ∈ entries ∧ (f.name, d) ∈ fields := by
  unfold Field.find?
  rw [Option.bind_eq_some_iff]
  constructor
  · rintro ⟨found, hfound, hd⟩
    have hmem := Document.mem_of_lookup hfound
    obtain ⟨fields, rfl, -⟩ := h.sections f.owner found hmem
    exact ⟨fields, hmem, Document.mem_of_lookup hd⟩
  · rintro ⟨fields, hfields, hd⟩
    obtain ⟨_, ⟨⟩, hkeys, -⟩ := h.sections f.owner _ hfields
    exact ⟨_, (Document.lookup_eq_some_iff_mem h.keys.nodup).mpr hfields,
      (Document.lookup_eq_some_iff_mem hkeys.nodup).mpr hd⟩

theorem exists_spells (h : IsPartial entries) (hd : f.find? (.table entries) = some d) :
    ∃ value, f.Spells d value := by
  obtain ⟨fields, hfields, hmem⟩ := h.find?_eq_some_iff.mp hd
  obtain ⟨_, ⟨⟩, -, hvalues⟩ := h.sections f.owner _ hfields
  exact hvalues f rfl d hmem

theorem givenIn_iff (h : IsPartial entries) :
    f.GivenIn entries value ↔ ∃ d, f.find? (.table entries) = some d ∧ f.Spells d value := by
  constructor
  · rintro ⟨fields, d, hfields, hd, hvalue⟩
    exact ⟨d, h.find?_eq_some_iff.mpr ⟨fields, hfields, hd⟩, hvalue⟩
  · rintro ⟨d, hd, hvalue⟩
    obtain ⟨fields, hfields, hmem⟩ := h.find?_eq_some_iff.mp hd
    exact ⟨fields, d, hfields, hmem, hvalue⟩

/-- The defaults, with the given fields replaced. -/
theorem ofDocument? (h : IsPartial entries) :
    ∃ settings, Settings.ofDocument? .refused (.table entries) = some settings ∧ ∀ f : Field,
      (∀ value, f.GivenIn entries value → f.of settings = value) ∧
      ((∀ value, ¬ f.GivenIn entries value) → f.of settings = f.of {}) := by
  refine ⟨_, h.sectioned.ofDocument? ?_, fun f => ⟨?_, ?_⟩⟩
  · intro f d hd
    obtain ⟨value, hvalue⟩ := h.exists_spells hd
    rw [hvalue.read?]
    rfl
  · intro value hgiven
    obtain ⟨d, hd, hvalue⟩ := h.givenIn_iff.mp hgiven
    rw [of_ofFields, Field.valueIn, hd, Option.bind_some, hvalue.read?]
    rfl
  · intro hnone
    rw [of_ofFields, Field.valueIn]
    cases hd : f.find? (.table entries) with
    | none => rfl
    | some d =>
      obtain ⟨value, hvalue⟩ := h.exists_spells hd
      exact absurd (h.givenIn_iff.mpr ⟨d, hd, hvalue⟩) (hnone value)

end IsPartial

/-! Texts. -/

theorem Section.exists_name_eq {key : String} (h : key ∈ Settings.fieldNames) :
    ∃ s : Section, s.name = key := by
  have hall : ∀ key ∈ Settings.fieldNames, ∃ s ∈ [server, cors, logging, limits], s.name = key := by
    decide
  obtain ⟨s, -, hs⟩ := hall key h
  exact ⟨s, hs⟩

theorem Field.exists_name_eq {key : String} (h : key ∈ s.fieldNames) :
    ∃ f : Field, f.owner = s ∧ f.name = key := by
  have hall : ∀ key ∈ s.fieldNames,
      ∃ f ∈ [bindAddress, requestTimeoutMs, bodyLimitBytes, corsEnabled, allowedOrigins,
        allowedMethods, allowedHeaders, allowCredentials, maxAgeSeconds, consoleLevel, logFormat,
        maxExpressionLength, maxDepth], f.owner = s ∧ f.name = key := by
    cases s <;> decide
  obtain ⟨f, -, hf⟩ := hall key h
  exact ⟨f, hf⟩

theorem plain_table (h : ∀ entry ∈ entries, (Json.Part.value entry.2).Plain) :
    (Json.Part.value (.table entries)).Plain := by
  match entries with
  | [] => exact .emptyTable
  | entry :: entries =>
    refine .table ?_
    induction entries generalizing entry with
    | nil => exact .lastEntry (h entry List.mem_cons_self)
    | cons next entries ih =>
      obtain ⟨hentry, hrest⟩ := List.forall_mem_cons.mp h
      exact .entry hentry (ih next hrest)

theorem Field.Spells.plain (h : f.Spells d value) : (Json.Part.value d).Plain := by
  cases h with
  | printed =>
    cases f with
    | bindAddress | consoleLevel | logFormat => exact .text _
    | requestTimeoutMs | bodyLimitBytes | maxAgeSeconds | maxExpressionLength | maxDepth =>
      exact .natural _
    | corsEnabled | allowCredentials => exact .bool _
    | allowedOrigins | allowedMethods | allowedHeaders => exact plain_ofTexts _
  | tagged format => exact .table (.lastEntry .null)

/-- Every partial settings stand in some text. -/
theorem IsPartial.read?_writeIndented (h : IsPartial entries) :
    Json.read? (Json.writeIndented (.table entries)) = some (.table entries) := by
  refine Json.read?_writeIndented (plain_table fun ⟨name, d⟩ hentry => ?_)
  obtain ⟨s, rfl⟩ := Section.exists_name_eq (h.keys.mem name (List.mem_map_of_mem hentry))
  obtain ⟨fields, rfl, hkeys, hvalues⟩ := h.sections s d hentry
  refine plain_table fun ⟨name, d⟩ hfield => ?_
  obtain ⟨f, hf, rfl⟩ := Field.exists_name_eq (hkeys.mem name (List.mem_map_of_mem hfield))
  obtain ⟨value, hvalue⟩ := hvalues f hf d hfield
  exact hvalue.plain

theorem ofJson?_of_read? {text : String} (h : Json.read? text = some d) :
    ofJson? text = Settings.ofDocument? .refused d := by
  rw [ofJson?, h, Option.bind_some]

/-- A text gives the defaults with what is written in it. Some of the sections with some of their
fields, in any order, are read as the default settings with just these fields replaced. Whatever a
text holds, its members may be in any order, at the top and in the sections, and a section that is
left out may as well stand there empty or with its defaults. A text with an unknown member is
refused, whatever else it holds. -/
theorem ofJson?_partial :
    (∀ entries, IsPartial entries →
      Json.read? (Json.writeIndented (.table entries)) = some (.table entries)) ∧
    (∀ text entries, Json.read? text = some (.table entries) → IsPartial entries →
      ∃ settings, ofJson? text = some settings ∧ ∀ f : Field,
        (∀ value, f.GivenIn entries value → f.of settings = value) ∧
        ((∀ value, ¬ f.GivenIn entries value) → f.of settings = f.of {})) ∧
    (∀ text text' entries others, Json.read? text = some (.table entries) →
      Json.read? text' = some (.table others) → Reordered entries others →
      ofJson? text = ofJson? text') ∧
    (∀ text text' front back s fields, Json.read? text = some (.table (front ++ back)) →
      Json.read? text' = some (.table (front ++ (s.name, .table fields) :: back)) →
      s.name ∉ (front ++ back).map (·.1) → GivesDefaults s fields →
      ofJson? text = ofJson? text') ∧
    ∀ text entries, Json.read? text = some (.table entries) → HasUnknownKey entries →
      ofJson? text = none := by
  refine ⟨fun _ => IsPartial.read?_writeIndented, ?given, ?order, ?omitted, ?unknown⟩
  case given =>
    intro text entries hread hpartial
    rw [ofJson?_of_read? hread]
    exact hpartial.ofDocument?
  case order =>
    intro text text' entries others hread hread' hreordered
    rw [ofJson?_of_read? hread, ofJson?_of_read? hread']
    exact ofDocument?_reordered hreordered
  case omitted =>
    intro text text' front back s fields hread hread' hname hdefaults
    have hmoved : Reordered (front ++ (s.name, .table fields) :: back)
        ((s.name, .table fields) :: (front ++ back)) :=
      ⟨_, List.perm_middle, List.forall₂_same.mpr fun entry _ => ⟨rfl, .refl entry.2⟩⟩
    rw [ofJson?_of_read? hread, ofJson?_of_read? hread', ofDocument?_reordered hmoved,
      ofDocument?_defaults hdefaults hname]
  case unknown =>
    intro text entries hread hunknown
    rw [ofJson?_of_read? hread]
    exact ofDocument?_unknown hunknown

/-- A text that gives one field, and an empty section behind it. -/
theorem ofJson?_partial_depth :
    let entries := [("calculator", Document.table [("max_depth", .natural 7)]),
      ("cors", .table [])]
    IsPartial entries ∧
    ∃ settings, ofJson? (Json.writeIndented (.table entries)) = some settings ∧
      settings.limits.maxDepth = 7 ∧ settings.limits.maxExpressionLength = 1000 := by
  intro entries
  have hpartial : IsPartial entries := by
    refine ⟨⟨by decide, by decide⟩, fun s d hd => ?_⟩
    cases s with
    | server | logging => simp [entries, Section.name] at hd
    | cors =>
      obtain rfl : d = .table [] := by simpa [entries, Section.name] using hd
      exact ⟨[], rfl, ⟨by simp, List.nodup_nil⟩, by simp⟩
    | limits =>
      obtain rfl : d = .table [("max_depth", .natural 7)] := by
        simpa [entries, Section.name] using hd
      refine ⟨_, rfl, ⟨by decide, by decide⟩, fun f _ d hd => ?_⟩
      obtain ⟨hname, rfl⟩ := Prod.mk.inj (List.mem_singleton.mp hd)
      obtain rfl : f = .maxDepth := Field.name_injective hname
      exact ⟨7, .printed (f := .maxDepth) 7⟩
  obtain ⟨hread, hgiven, -⟩ := ofJson?_partial
  obtain ⟨settings, hsettings, hfields⟩ := hgiven _ entries (hread entries hpartial) hpartial
  refine ⟨hpartial, settings, hsettings, (hfields .maxDepth).1 7 ?_,
    (hfields .maxExpressionLength).2 ?_⟩
  · exact ⟨_, _, List.mem_cons_self, List.mem_cons_self, .printed (f := .maxDepth) 7⟩
  · rintro value ⟨fields, d, hsection, hd, -⟩
    obtain rfl : fields = [("max_depth", .natural 7)] := by
      simpa [entries, Field.owner, Section.name] using hsection
    simp [Field.name] at hd

end Settings
end Reckoner
