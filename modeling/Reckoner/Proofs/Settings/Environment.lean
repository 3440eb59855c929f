import Mathlib.Data.List.Induction
import Reckoner.Proofs.Settings.Fields

/-!
The layer of environment variables: each that names a field gives the value of that field, the later
ones over the earlier.
-/
namespace Reckoner
namespace Environment

/-! No variable has nothing for its value, nor a table with nothing for one of its entries. -/

/-- A document that is something, as is every entry of it if it is a table. -/
def Filled (d : Document) : Prop :=
  d ≠ .null ∧ ∀ entries, d = .table entries → ∀ entry ∈ entries, entry.2 ≠ .null

theorem filled_word (cs : List Char) : Filled (word cs) := by
  unfold word
  dsimp only
  split
  all_goals
    dsimp only
    repeat' split
    all_goals exact ⟨nofun, nofun⟩

theorem filled_text (text : String) : Filled (.text text) := ⟨nofun, nofun⟩

theorem filled_list (items : List Document) : Filled (.list items) := ⟨nofun, nofun⟩

theorem filled_table {entries : List (String × Document)} (h : ∀ entry ∈ entries, entry.2 ≠ .null) :
    Filled (.table (Document.lastEntries entries)) := by
  refine ⟨nofun, ?_⟩
  rintro _ ⟨⟩ entry hentry
  exact h entry (Document.mem_of_mem_lastEntries hentry)

/-- What the readers of values, lists and tables come to. -/
structure Fills (fuel : Nat) : Prop where
  value : ∀ cs value rest, takeValue? fuel cs = some (value, rest) → Filled value
  items : ∀ items cs value rest, takeItems? fuel items cs = some (value, rest) → Filled value
  entries : ∀ entries cs value rest, (∀ entry ∈ entries, entry.2 ≠ .null) →
    takeEntries? fuel entries cs = some (value, rest) → Filled value

theorem fills (fuel : Nat) : Fills fuel := by
  induction fuel with
  | zero => exact ⟨nofun, nofun, nofun⟩
  | succ fuel ih =>
    refine ⟨?_, ?_, ?_⟩
    · intro cs value rest h
      simp only [takeValue?] at h
      split at h
      · cases h
        exact ⟨nofun, nofun⟩
      · cases h
        exact ⟨nofun, nofun⟩
      · obtain ⟨_, hitems, h⟩ := Option.bind_eq_some_iff.mp h
        cases h
        exact ih.items _ _ _ _ hitems
      · obtain ⟨_, hentries, h⟩ := Option.bind_eq_some_iff.mp h
        cases h
        exact ih.entries [] _ _ _ nofun hentries
      · obtain ⟨_, htext, h⟩ := Option.bind_eq_some_iff.mp h
        obtain ⟨_, -, rfl⟩ := Option.map_eq_some_iff.mp htext
        cases h
        exact filled_text _
      · split at h
        · cases h
          exact ⟨nofun, nofun⟩
        · cases h
      · cases h
        exact filled_word _
    · intro items cs value rest h
      unfold takeItems? at h
      split at h
      · contradiction
      · cases h
        exact filled_list _
      · rename_i hfuel _
        cases hfuel
        obtain ⟨_, -, h⟩ := Option.bind_eq_some_iff.mp h
        split at h
        · exact ih.items _ _ _ _ h
        · cases h
          exact filled_list _
        · cases h
    · intro entries cs value rest hentries h
      unfold takeEntries? at h
      split at h
      · contradiction
      · cases h
        exact filled_table (by simpa using hentries)
      · rename_i entries _ _ _ _ _ hfuel _
        cases hfuel
        obtain ⟨⟨key, _⟩, -, h⟩ := Option.bind_eq_some_iff.mp h
        dsimp only at h
        split at h
        · obtain ⟨⟨item, _⟩, hvalue, h⟩ := Option.bind_eq_some_iff.mp h
          have hentry : ∀ entry ∈ (key, item) :: entries, entry.2 ≠ .null := by
            intro entry hmem
            rcases List.mem_cons.mp hmem with rfl | hmem
            · exact (ih.value _ _ _ hvalue).1
            · exact hentries entry hmem
          split at h
          · rename_i hitem
            cases hitem
            exact ih.entries _ _ _ _ hentry h
          · rename_i hitem
            cases hitem
            cases h
            exact filled_table fun entry hmem => hentry entry (List.mem_reverse.mp hmem)
          · cases h
        · cases h

theorem filled_readValue (text : String) : Filled (readValue text) := by
  unfold readValue
  dsimp only
  split
  · rename_i hvalue
    exact (fills _).value _ _ _ hvalue
  · exact filled_text _

end Environment

variable {surplus : Surplus}

theorem LogFormat.mem_of_tellingEntry? {entries : List (String × Document)}
    {entry : String × Document} (h : tellingEntry? surplus entries = some entry) :
    entry ∈ entries := by
  have hfold : ∀ (rest : List (String × Document)) first,
      rest.foldl (fun first next => if next.1 < first.1 then next else first) first ∈
        first :: rest := by
    intro rest
    induction rest with
    | nil => exact fun first => List.mem_singleton_self first
    | cons next rest ih =>
      intro first
      rw [List.foldl_cons]
      split
      · exact List.mem_cons_of_mem _ (ih next)
      · rcases List.mem_cons.mp (ih first) with h | h
        · rw [h]
          exact List.mem_cons_self
        · exact List.mem_cons_of_mem _ (List.mem_cons_of_mem _ h)
  unfold tellingEntry? at h
  split at h
  · cases h
  · split at h
    · cases h
    · cases h
      exact hfold _ _

namespace Settings

/-- A variable that can be read as the value of a field is not a table. -/
theorem Field.ne_table_of_reads {f : Field} {d : Document} (hd : Environment.Filled d)
    (h : (f.read? surplus d).isSome) (entries : List (String × Document)) : d ≠ .table entries := by
  rintro rfl
  cases f with
  | logFormat =>
    simp only [read?, LogFormat.ofDocument?] at h
    split at h
    · rename_i name hentry
      exact hd.2 entries rfl _ (LogFormat.mem_of_tellingEntry? hentry) rfl
    · cases h
  | _ => cases h

/-- Where in a document the field is. -/
def Field.path (f : Field) : List String := [f.owner.name, f.name]

theorem Field.path_injective {f g : Field} (h : f.path = g.path) : f = g := by
  simp only [path, List.cons.injEq] at h
  exact name_injective h.2.1

theorem Field.find?_nest (f g : Field) (value : Document) :
    f.find? (Environment.nest value g.path) = if f = g then some value else none := by
  simp only [find?, path, Environment.nest, Document.field?_singleton]
  by_cases hfg : f = g
  · simp [hfg, Document.field?_singleton]
  · have hname : f.name ≠ g.name := fun h => hfg (name_injective h)
    rw [if_neg hfg]
    split
    · rw [Option.bind_some, Document.field?_singleton, if_neg hname]
    · rfl

theorem sectioned_nest (f : Field) (value : Document) :
    Sectioned (Environment.nest value f.path) := by
  refine ⟨Document.isTable_singleton f.owner.name_mem _, fun s fields h => ?_⟩
  simp only [Field.path, Environment.nest, Document.field?_singleton] at h
  split at h
  · rename_i hs
    cases h
    obtain rfl := Section.name_injective hs
    exact Document.isTable_singleton f.name_mem value
  · cases h

end Settings

namespace Environment

variable {environment : List (String × String)}

/-- What the variables set at a path: the last of them counts that names it. -/
def valueAt? (environment : List (String × String)) (path : List String) : Option String :=
  (environment.reverse.find? fun (name, _) => path? name = some path).map (·.2)

/-- The variables that name anything name fields, with values that can be read as those of the
field. -/
def Known (environment : List (String × String)) : Prop :=
  ∀ name value path, (name, value) ∈ environment → path? name = some path →
    ∃ f : Settings.Field, f.path = path ∧ (f.read? .ignored (readValue value)).isSome

theorem layer_append (environment : List (String × String)) (name value : String) :
    layer (environment ++ [(name, value)]) =
      match path? name with
      | some path => (layer environment).merge (nest (readValue value) path)
      | none => layer environment := by
  unfold layer
  rw [List.foldl_append]
  rfl

theorem valueAt?_append (environment : List (String × String)) (name value : String)
    (path : List String) :
    valueAt? (environment ++ [(name, value)]) path =
      if path? name = some path then some value else valueAt? environment path := by
  unfold valueAt?
  rw [List.reverse_append, List.reverse_singleton, List.singleton_append, List.find?_cons]
  by_cases h : path? name = some path <;> simp [h]

end Environment

namespace Settings

open Environment (layer Known)

/-- The value of the field that the variables set. -/
def Field.environmentValue? (environment : List (String × String)) (f : Field) : Option f.Value :=
  (Environment.valueAt? environment f.path).bind fun text =>
    f.read? .ignored (Environment.readValue text)

theorem gives_nest {g : Field} {value : Document} (h : (g.read? surplus value).isSome) :
    Gives surplus (Environment.nest value g.path) fun f =>
      if f = g then f.read? surplus value else none := by
  refine ⟨sectioned_nest g value, fun f => ?_⟩
  rw [f.find?_nest]
  by_cases hfg : f = g
  · subst hfg
    obtain ⟨read, hread⟩ := Option.isSome_iff_exists.mp h
    simp [hread]
  · simp [hfg]

theorem Field.environmentValue?_append (environment : List (String × String))
    (name value : String) (f : Field) :
    f.environmentValue? (environment ++ [(name, value)]) =
      if Environment.path? name = some f.path then f.read? .ignored (Environment.readValue value)
      else f.environmentValue? environment := by
  unfold environmentValue?
  rw [Environment.valueAt?_append]
  split
  · rw [Option.bind_some]
  · rfl

/-- The variables give the fields that they name, and none of them a table. -/
theorem gives_layer {environment : List (String × String)} (h : Known environment) :
    Gives .ignored (layer environment) (Field.environmentValue? environment) ∧
      ∀ (f : Field) value, f.find? (layer environment) = some value →
        ∀ entries, value ≠ .table entries := by
  -- The last variable is merged over what the others have set, and is not a table itself, so that
  -- it takes the place of an earlier value of its field and leaves the other fields alone.
  induction environment using List.reverseRecOn with
  | nil => exact ⟨⟨⟨⟨[], rfl, nofun, List.nodup_nil⟩, nofun⟩, fun _ => rfl⟩, nofun⟩
  | append_singleton environment last ih =>
    obtain ⟨name, value⟩ := last
    obtain ⟨hgives, hplain⟩ := ih fun name value path hmem =>
      h name value path (List.mem_append_left _ hmem)
    rw [Environment.layer_append]
    cases hpath : Environment.path? name with
    | none =>
      refine ⟨⟨hgives.sectioned, fun f => ?_⟩, hplain⟩
      rw [f.environmentValue?_append, hpath, if_neg nofun]
      exact hgives.fields f
    | some path =>
      obtain ⟨g, rfl, hread⟩ := h name value path (by simp) hpath
      have hnest : ∀ (f : Field) later,
          f.find? (Environment.nest (Environment.readValue value) g.path) = some later →
            ∀ entries, later ≠ .table entries := by
        intro f later hlater
        rw [f.find?_nest] at hlater
        split at hlater
        · cases hlater
          exact Field.ne_table_of_reads (Environment.filled_readValue value) hread
        · cases hlater
      have hright : ∀ (f : Field) earlier later, f.find? (layer environment) = some earlier →
          f.find? (Environment.nest (Environment.readValue value) g.path) = some later →
            earlier.merge later = later := fun f _ later _ hlater =>
        Document.merge_eq_right (.inr (hnest f later hlater))
      have hmerge := hgives.merge (gives_nest hread) hright
      refine ⟨⟨hmerge.sectioned, fun f => ?_⟩, fun f later hlater => ?_⟩
      · rw [hmerge.fields f, f.environmentValue?_append, hpath]
        by_cases hfg : f = g
        · subst hfg
          obtain ⟨read, hread⟩ := Option.isSome_iff_exists.mp hread
          simp [hread]
        · have hne : some g.path ≠ some f.path := fun h =>
            hfg (Field.path_injective (Option.some.inj h).symm)
          rw [if_neg hfg, if_neg hne, Option.none_or]
      · rw [f.find?_merge hgives.sectioned (sectioned_nest g _) (hright f)] at hlater
        rcases Option.or_eq_some_iff.mp hlater with hlater | ⟨-, hlater⟩
        · exact hnest f later hlater
        · exact hplain f later hlater

end Settings
end Reckoner
