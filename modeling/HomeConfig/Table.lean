/-!
# Tables

Values under keys, each key once.  The order of the entries has no meaning: a table is known by
what `find?` gives for each key, and by how many keys it has.
-/

namespace HomeConfig

/-- Values under keys. -/
structure Table (κ α : Type) where
  entries : List (κ × α)
  unique : (entries.map Prod.fst).Nodup

namespace Table

variable {κ α : Type}

/-- The table without keys. -/
def empty : Table κ α :=
  ⟨[], by simp⟩

/-- How many keys there are. -/
def size (table : Table κ α) : Nat :=
  table.entries.length

variable [DecidableEq κ]

/-- The value under a key. -/
def find? (table : Table κ α) (key : κ) : Option α :=
  table.entries.lookup key

/-- Whether there is a value under a key. -/
def has (table : Table κ α) (key : κ) : Bool :=
  (table.find? key).isSome

/-- The entries under other keys. -/
def others (key : κ) (entries : List (κ × α)) : List (κ × α) :=
  entries.filter fun entry => entry.1 != key

theorem others_unique (key : κ) {entries : List (κ × α)}
    (unique : (entries.map Prod.fst).Nodup) : ((others key entries).map Prod.fst).Nodup :=
  unique.sublist (List.filter_sublist.map Prod.fst)

theorem key_notMem_others (key : κ) (entries : List (κ × α)) :
    key ∉ (others key entries).map Prod.fst := by
  simp [others]

/-- Take a key out. -/
def erase (table : Table κ α) (key : κ) : Table κ α :=
  ⟨others key table.entries, others_unique key table.unique⟩

/-- Put a value under a key. -/
def insert (table : Table κ α) (key : κ) (value : α) : Table κ α :=
  ⟨(key, value) :: others key table.entries,
    List.nodup_cons.2 ⟨key_notMem_others key _, others_unique key table.unique⟩⟩

@[simp] theorem find?_empty (key : κ) : (empty : Table κ α).find? key = none :=
  rfl

@[simp] theorem find?_insert_self (table : Table κ α) (key : κ) (value : α) :
    (table.insert key value).find? key = some value := by
  simp [find?, insert]

theorem lookup_others_self (key : κ) (entries : List (κ × α)) :
    (others key entries).lookup key = none := by
  induction entries with
  | nil => rfl
  | cons entry rest ih =>
    obtain ⟨name, value⟩ := entry
    by_cases same : name = key
    · subst same
      simpa [others] using ih
    · have different : (key == name) = false := by simpa using Ne.symm same
      simpa [others, same, List.lookup_cons, different] using ih

theorem lookup_others_of_ne {key other : κ} (different : other ≠ key)
    (entries : List (κ × α)) : (others key entries).lookup other = entries.lookup other := by
  induction entries with
  | nil => rfl
  | cons entry rest ih =>
    obtain ⟨name, value⟩ := entry
    by_cases same : name = key
    · subst same
      have distinct : (other == name) = false := by simpa using different
      simpa [others, List.lookup_cons, distinct] using ih
    · by_cases here : other = name
      · subst here
        simp [others, same]
      · have distinct : (other == name) = false := by simpa using here
        simpa [others, same, List.lookup_cons, distinct] using ih

@[simp] theorem find?_erase_self (table : Table κ α) (key : κ) :
    (table.erase key).find? key = none :=
  lookup_others_self key _

theorem find?_erase_of_ne (table : Table κ α) {key other : κ} (different : other ≠ key) :
    (table.erase key).find? other = table.find? other :=
  lookup_others_of_ne different _

theorem find?_insert_of_ne (table : Table κ α) {key other : κ} (different : other ≠ key)
    (value : α) : (table.insert key value).find? other = table.find? other := by
  have distinct : (other == key) = false := by simpa using different
  simpa [find?, insert, List.lookup_cons, distinct] using lookup_others_of_ne different table.entries

@[simp] theorem erase_insert_self (table : Table κ α) (key : κ) (value : α) :
    (table.insert key value).erase key = table.erase key := by
  simp [erase, insert, others]

@[grind =] theorem find?_insert (table : Table κ α) (key other : κ) (value : α) :
    (table.insert key value).find? other =
      if other = key then some value else table.find? other := by
  by_cases same : other = key
  · simp [same]
  · rw [if_neg same, find?_insert_of_ne table same]

@[grind =] theorem find?_erase (table : Table κ α) (key other : κ) :
    (table.erase key).find? other = if other = key then none else table.find? other := by
  by_cases same : other = key
  · simp [same]
  · rw [if_neg same, find?_erase_of_ne table same]

theorem mem_entries_iff (table : Table κ α) {key : κ} {value : α} :
    (key, value) ∈ table.entries ↔ table.find? key = some value := by
  rw [find?, List.lookup_eq_some_iff]
  constructor
  · intro member
    obtain ⟨front, back, shape⟩ := List.append_of_mem member
    refine ⟨front, back, shape, fun entry earlier => bne_iff_ne.mpr fun same => ?_⟩
    have unique := table.unique
    rw [shape, List.map_append, List.map_cons] at unique
    exact (List.nodup_append.mp unique).2.2 entry.1 (List.mem_map_of_mem earlier) key
      List.mem_cons_self same.symm
  · rintro ⟨front, back, shape, _⟩
    rw [shape]
    exact List.mem_append_right front List.mem_cons_self

end Table

end HomeConfig
