import Mathlib.Data.List.Nodup
import Mathlib.Data.List.Perm.Basic

/-! # Finite tables

A table is a list of entries in the order of their insertion, one for each key.
-/

open List Option

namespace Lib

structure Table (K V : Type) where
  entries : List (K × V) := []
  unique : (entries.map Prod.fst).Nodup := by simp

namespace Table

variable {K V : Type}

abbrev empty : Table K V := {}

theorem ext_entries {first second : Table K V} (same : first.entries = second.entries) : first = second := by
  cases first
  cases second
  cases same
  rfl

variable [DecidableEq K] (entries : List (K × V)) (key : K)

theorem keys_replace (value : V) :
    (entries.map fun entry => if entry.1 = key then (key, value) else entry).map Prod.fst = entries.map Prod.fst := by
  rw [List.map_map]
  refine List.map_congr_left fun entry _ => ?_
  by_cases same : entry.1 = key <;> simp [same]

variable (table : Table K V)

/-- A key that is present keeps its place. -/
def put (table : Table K V) (key : K) (value : V) : Table K V :=
  if present : key ∈ table.entries.map Prod.fst then
    ⟨table.entries.map fun entry => if entry.1 = key then (key, value) else entry, by
      rw [keys_replace]
      exact table.unique⟩
  else
    ⟨table.entries ++ [(key, value)], by
      rw [List.map_append, List.nodup_append]
      refine ⟨table.unique, by simp, ?_⟩
      intro other isMember last isLast same
      rw [same, List.mem_singleton.mp isLast] at isMember
      exact present isMember⟩

def erase (table : Table K V) (key : K) : Table K V where
  entries := table.entries.filter fun entry => entry.1 ≠ key
  unique := table.unique.sublist (List.filter_sublist.map Prod.fst)

def ofEntries (entries : List (K × V)) : Table K V :=
  entries.foldl (fun table entry => table.put entry.1 entry.2) {}

def lookup (table : Table K V) (key : K) : Option V :=
  (table.entries.find? fun entry => entry.1 = key).map Prod.snd

variable {table : Table K V} {key : K}

/-! ## Entries -/

theorem foldl_put (table : Table K V) (unique : ((table.entries ++ entries).map Prod.fst).Nodup) :
    (entries.foldl (fun table entry => table.put entry.1 entry.2) table).entries = table.entries ++ entries := by
  induction entries generalizing table with
  | nil => simp
  | cons entry entries ih =>
    have absent : entry.1 ∉ table.entries.map Prod.fst := by
      rw [map_append, nodup_append] at unique
      exact fun isMember => unique.2.2 _ isMember _ (by simp) rfl
    have last : (table.put entry.1 entry.2).entries = table.entries ++ [entry] := by rw [put, dif_neg absent]
    rw [foldl_cons, ih _ (by rw [last]; simpa using unique), last]
    simp

theorem ofEntries_entries (table : Table K V) : ofEntries table.entries = table :=
  ext_entries (foldl_put table.entries {} table.unique)

/-! ## Lookup -/

@[simp] theorem lookup_empty (key : K) : ({} : Table K V).lookup key = none := rfl

theorem mem_entries_iff {value : V} : (key, value) ∈ table.entries ↔ table.lookup key = some value := by
  obtain ⟨entries, unique⟩ := table
  unfold lookup
  induction entries with
  | nil => simp
  | cons entry entries ih =>
    obtain ⟨firstKey, firstValue⟩ := entry
    obtain ⟨notLater, laterUnique⟩ := nodup_cons.mp unique
    by_cases same : firstKey = key
    · subst same
      have notLater : (firstKey, value) ∉ entries := fun isMember => notLater (mem_map.mpr ⟨_, isMember, rfl⟩)
      simp [notLater, eq_comm]
    · have different : (key, value) ≠ (firstKey, firstValue) := fun equal => same (congrArg Prod.fst equal).symm
      simp [different, same, ih laterUnique]

theorem mem_keys_iff : key ∈ table.entries.map Prod.fst ↔ table.lookup key ≠ none := by
  rw [ne_none_iff_exists']
  constructor
  · intro isKey
    obtain ⟨⟨_, value⟩, isEntry, rfl⟩ := mem_map.mp isKey
    exact ⟨value, mem_entries_iff.mp isEntry⟩
  · rintro ⟨value, found⟩
    exact mem_map.mpr ⟨_, mem_entries_iff.mpr found, rfl⟩

theorem mem_put_iff {other : K} {value found : V} :
    (other, found) ∈ (table.put key value).entries ↔
      (other = key ∧ found = value) ∨ (other ≠ key ∧ (other, found) ∈ table.entries) := by
  unfold put
  split
  case isTrue present =>
    constructor
    · intro isMember
      obtain ⟨⟨entryKey, entryValue⟩, isEntry, isOther⟩ := mem_map.mp isMember
      by_cases same : entryKey = key
      · rw [if_pos same] at isOther
        cases isOther
        exact .inl ⟨rfl, rfl⟩
      · rw [if_neg same] at isOther
        cases isOther
        exact .inr ⟨same, isEntry⟩
    · rintro (⟨rfl, rfl⟩ | ⟨different, isEntry⟩)
      · obtain ⟨entry, isEntry, isKey⟩ := mem_map.mp present
        exact mem_map.mpr ⟨entry, isEntry, if_pos isKey⟩
      · exact mem_map.mpr ⟨_, isEntry, if_neg different⟩
  case isFalse absent =>
    constructor
    · intro isMember
      rcases mem_append.mp isMember with isEntry | isNew
      · exact .inr ⟨fun same => absent (mem_map.mpr ⟨_, isEntry, same⟩), isEntry⟩
      · cases mem_singleton.mp isNew
        exact .inl ⟨rfl, rfl⟩
    · rintro (⟨rfl, rfl⟩ | ⟨_, isEntry⟩)
      · exact mem_append_right _ (mem_singleton.mpr rfl)
      · exact mem_append_left _ isEntry

theorem lookup_put (table : Table K V) (key : K) (value : V) (other : K) :
    (table.put key value).lookup other = if other = key then some value else table.lookup other := by
  refine ext fun found => ?_
  rw [← mem_entries_iff, mem_put_iff]
  by_cases same : other = key
  · simp [same, eq_comm]
  · simp [same, mem_entries_iff]

theorem lookup_erase (table : Table K V) (key other : K) :
    (table.erase key).lookup other = if other = key then none else table.lookup other := by
  refine ext fun found => ?_
  rw [← mem_entries_iff, erase, mem_filter]
  by_cases same : other = key
  · simp [same]
  · simp [same, mem_entries_iff]

end Table

/-! ## Association lists -/

section Assign

variable {K V : Type} [BEq K] [LawfulBEq K]

omit [LawfulBEq K] in
/-- The key gets the value, or none at all. -/
def assign (entries : List (K × V)) (key : K) (value : Option V) : List (K × V) :=
  value.toList.map (key, ·) ++ entries.filter fun entry => !entry.1 == key

variable (entries : List (K × V))

theorem lookup_filter_ne (key other : K) (different : other ≠ key) :
    (entries.filter fun entry => !entry.1 == key).lookup other = entries.lookup other := by
  induction entries with
  | nil => rfl
  | cons entry entries ih =>
    obtain ⟨entryKey, value⟩ := entry
    by_cases isKey : entryKey == key
    · have notOther : (other == entryKey) = false := by
        rw [eq_of_beq isKey]
        exact beq_false_of_ne different
      simp [isKey, ih, lookup_cons, notOther]
    · have kept : (!entryKey == key) := by simpa using isKey
      simp [kept, lookup_cons, ih]

theorem lookup_filter_self (key : K) : (entries.filter fun entry => !entry.1 == key).lookup key = none := by
  rw [lookup_eq_none_iff]
  intro entry mem
  have different : entry.1 ≠ key := by simpa using (mem_filter.mp mem).2
  simpa using different.symm

theorem lookup_assign [DecidableEq K] (entries : List (K × V)) (key : K) (value : Option V) (other : K) :
    (assign entries key value).lookup other = if other = key then value else entries.lookup other := by
  by_cases same : other = key
  · subst same
    cases value <;> simp [assign, lookup_filter_self]
  · have notKey : (other == key) = false := beq_false_of_ne same
    cases value <;> simp [assign, same, notKey, lookup_cons, lookup_filter_ne entries key other same]

end Assign

end Lib
