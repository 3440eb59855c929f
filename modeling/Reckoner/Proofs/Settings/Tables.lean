import Mathlib.Data.List.Basic
import Reckoner.Settings.Layers

/-!
Tables of known keys: what their entries are after merging, and which entry of several with one key
counts.
-/
namespace Reckoner
namespace Document

variable {key name : String} {names : List String} {entries lower upper : List (String × Document)}

theorem lookup_eq_none_iff_keys : entries.lookup key = none ↔ key ∉ entries.map (·.1) := by
  rw [List.lookup_eq_none_iff, List.mem_map]
  constructor
  · rintro h ⟨entry, hmem, rfl⟩
    simpa using h entry hmem
  · intro h entry hmem
    rw [bne_iff_ne]
    rintro rfl
    exact h ⟨entry, hmem, rfl⟩

theorem mem_of_lookup {value : Document} (h : entries.lookup key = some value) :
    (key, value) ∈ entries := by
  obtain ⟨front, back, rfl, -⟩ := List.lookup_eq_some_iff.mp h
  simp

theorem lookup_map_values (f : Document → Document) (entries : List (String × Document))
    (key : String) :
    (entries.map fun entry => (entry.1, f entry.2)).lookup key = (entries.lookup key).map f := by
  induction entries with
  | nil => rfl
  | cons entry entries ih =>
    rw [List.map_cons, List.lookup_cons, List.lookup_cons]
    cases key == entry.1
    · exact ih
    · rfl

theorem lookup_filter_ne (h : key ≠ name) (entries : List (String × Document)) :
    (entries.filter (·.1 != name)).lookup key = entries.lookup key := by
  induction entries with
  | nil => rfl
  | cons entry entries ih =>
    by_cases hname : entry.1 = name
    · have hkey : (key == entry.1) = false := by simpa [hname] using h
      rw [List.filter_cons_of_neg (by simp [hname]), List.lookup_cons, hkey, ih]
    · rw [List.filter_cons_of_pos (by simp [hname]), List.lookup_cons, List.lookup_cons, ih]

theorem field?_singleton (name : String) (value : Document) (key : String) :
    (table [(name, value)]).field? key = if key = name then some value else none := by
  have hfield : (table [(name, value)]).field? key = [(name, value)].lookup key := rfl
  rw [hfield, List.lookup_cons, List.lookup_nil]
  by_cases h : key = name
  · rw [if_pos h, beq_iff_eq.mpr h]
  · rw [if_neg h, beq_eq_false_iff_ne.mpr h]

/-- Entries with different keys, all of them among the names. -/
structure HasKeys (names : List String) (entries : List (String × Document)) : Prop where
  mem : ∀ key ∈ entries.map (·.1), key ∈ names
  nodup : (entries.map (·.1)).Nodup

/-! The last entry of a key. -/

theorem lastEntries_cons (name : String) (value : Document) (entries : List (String × Document)) :
    lastEntries ((name, value) :: entries) =
      if ((lastEntries entries).lookup name).isSome then lastEntries entries
      else (name, value) :: lastEntries entries := rfl

theorem lookup_lastEntries (entries : List (String × Document)) (key : String) :
    (lastEntries entries).lookup key = entries.reverse.lookup key := by
  induction entries with
  | nil => rfl
  | cons entry entries ih =>
    obtain ⟨name, value⟩ := entry
    rw [List.reverse_cons, List.lookup_append, ← ih, List.lookup_cons, List.lookup_nil,
      lastEntries_cons]
    by_cases hkey : key = name
    · subst hkey
      cases hrest : (lastEntries entries).lookup key <;> simp [hrest]
    · have hne : (key == name) = false := by simpa using hkey
      simp only [hne, Option.or_none]
      split
      · rfl
      · rw [List.lookup_cons, hne]

theorem mem_of_mem_lastEntries {entry : String × Document}
    (h : entry ∈ lastEntries entries) : entry ∈ entries := by
  induction entries with
  | nil => exact h
  | cons first entries ih =>
    rw [lastEntries_cons] at h
    split at h
    · exact List.mem_cons_of_mem _ (ih h)
    · rcases List.mem_cons.mp h with rfl | h
      · exact List.mem_cons_self
      · exact List.mem_cons_of_mem _ (ih h)

theorem hasKeys_lastEntries (h : ∀ key ∈ entries.map (·.1), key ∈ names) :
    HasKeys names (lastEntries entries) := by
  induction entries with
  | nil => exact ⟨nofun, List.nodup_nil⟩
  | cons entry entries ih =>
    obtain ⟨hmem, hnodup⟩ := ih fun key hkey => h key (List.mem_cons_of_mem _ hkey)
    rw [lastEntries_cons]
    split
    · exact ⟨hmem, hnodup⟩
    · rename_i hnone
      rw [Bool.not_eq_true, Option.isSome_eq_false_iff, Option.isNone_iff_eq_none] at hnone
      refine ⟨?_, List.nodup_cons.mpr ⟨lookup_eq_none_iff_keys.mp hnone, hnodup⟩⟩
      intro key hkey
      rcases List.mem_cons.mp hkey with rfl | hkey
      · exact h _ List.mem_cons_self
      · exact hmem key hkey

/-! Merging. -/

theorem lookup_mergeEntries (lower upper : List (String × Document)) (key : String) :
    (mergeEntries lower upper).lookup key =
      match lower.lookup key, upper.lookup key with
      | some value, some later => some (merge value later)
      | some value, none => some value
      | none, later => later := by
  induction lower generalizing upper with
  | nil => cases h : upper.lookup key <;> simp [mergeEntries, h]
  | cons entry lower ih =>
    obtain ⟨name, value⟩ := entry
    unfold mergeEntries
    by_cases hkey : key = name
    · subst hkey
      cases hupper : upper.lookup key <;> simp
    · have hne : (key == name) = false := by simpa using hkey
      cases hupper : upper.lookup name with
      | none => simp only [List.lookup_cons, hne, ih]
      | some later => simp only [List.lookup_cons, hne, ih, lookup_filter_ne hkey]

/-- The earlier keys stay where they are, and those that are new follow. -/
theorem keys_mergeEntries (lower upper : List (String × Document)) :
    (mergeEntries lower upper).map (·.1) =
      lower.map (·.1) ++ (upper.map (·.1)).filter (· ∉ lower.map (·.1)) := by
  induction lower generalizing upper with
  | nil => simp [mergeEntries]
  | cons entry lower ih =>
    obtain ⟨name, value⟩ := entry
    have hkeys : (upper.filter (·.1 != name)).map (·.1) = (upper.map (·.1)).filter (· != name) := by
      rw [List.filter_map]
      rfl
    unfold mergeEntries
    split
    · rw [List.map_cons, ih, hkeys, List.filter_filter, List.map_cons, List.cons_append]
      congr 2
      refine List.filter_congr fun key _ => ?_
      simp [not_or, bne, Bool.and_comm]
    · rename_i hnone
      rw [List.map_cons, ih, List.map_cons, List.cons_append]
      congr 2
      refine List.filter_congr fun key hmem => ?_
      have hne : key ≠ name := fun h => lookup_eq_none_iff_keys.mp hnone (h ▸ hmem)
      simp [hne]

theorem HasKeys.merge (hlower : HasKeys names lower) (hupper : HasKeys names upper) :
    HasKeys names (mergeEntries lower upper) := by
  refine ⟨?_, ?_⟩
  · intro key hkey
    rw [keys_mergeEntries, List.mem_append, List.mem_filter] at hkey
    exact hkey.elim (hlower.mem key) fun h => hupper.mem key h.1
  · rw [keys_mergeEntries]
    refine List.nodup_append.mpr ⟨hlower.nodup, hupper.nodup.filter _, ?_⟩
    rintro key hkey _ hlater rfl
    simpa [hkey] using (List.mem_filter.mp hlater).2

/-- A table that has keys like that. -/
def IsTable (names : List String) (d : Document) : Prop :=
  ∃ entries, d = .table entries ∧ HasKeys names entries

theorem isTable_singleton (h : name ∈ names) (value : Document) :
    (table [(name, value)]).IsTable names := by
  refine ⟨_, rfl, ?_, by simp⟩
  intro key hkey
  rw [List.mem_singleton.mp hkey]
  exact h

section

variable {d e : Document}

theorem field?_merge (hd : d.IsTable names) (he : e.IsTable names) (key : String) :
    (d.merge e).field? key =
      match d.field? key, e.field? key with
      | some value, some later => some (merge value later)
      | some value, none => some value
      | none, later => later := by
  obtain ⟨lower, rfl, -⟩ := hd
  obtain ⟨upper, rfl, -⟩ := he
  rw [merge]
  exact lookup_mergeEntries lower upper key

theorem IsTable.merge (hd : d.IsTable names) (he : e.IsTable names) :
    (d.merge e).IsTable names := by
  obtain ⟨lower, rfl, hlower⟩ := hd
  obtain ⟨upper, rfl, hupper⟩ := he
  exact ⟨mergeEntries lower upper, by rw [Document.merge], hlower.merge hupper⟩

/-- Only two tables are merged into anything but the later one. -/
theorem merge_eq_right (h : (∀ entries, d ≠ .table entries) ∨ ∀ entries, e ≠ .table entries) :
    d.merge e = e := by
  unfold merge
  split
  · exact (h.elim (· _ rfl) (· _ rfl)).elim
  · rfl

end

end Document

/-- A table of known keys gives its fields as they are. -/
theorem givenFields?_table {surplus : Surplus} (h : Document.HasKeys names entries) :
    givenFields? surplus names (.table entries) = some entries := by
  have hkeys : ((entries.map (·.1)).all names.contains && (entries.map (·.1)).Nodup) = true := by
    rw [Bool.and_eq_true, List.all_eq_true, decide_eq_true_eq]
    exact ⟨fun key hkey => List.contains_iff_mem.mpr (h.mem key hkey), h.nodup⟩
  exact if_pos hkeys

end Reckoner
