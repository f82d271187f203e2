/-!
# Tables in the order of insertion

A table maps names to values and remembers the order in which the names came in. A name that is
inserted again keeps its place and takes the new value. A name that is erased and inserted again
goes to the end.
-/

namespace LineGrammar

/-- Names with their values, in the order in which the names came in. -/
structure Table (α : Type) where
  entries : List (String × α)
deriving Inhabited

namespace Table

variable {α : Type}

/-- The table without names. -/
def empty : Table α := ⟨[]⟩

/-- The value of a name. -/
def get? (table : Table α) (name : String) : Option α := table.entries.lookup name

/-- Whether a name is in the table. -/
def contains (table : Table α) (name : String) : Bool := (table.get? name).isSome

/-- The names in order. -/
def keys (table : Table α) : List String := table.entries.map (·.1)

/-- The values in order. -/
def values (table : Table α) : List α := table.entries.map (·.2)

/-- The number of names. -/
def size (table : Table α) : Nat := table.entries.length

/-- Inserts into a list of entries: in the place of the name, or else at the end. -/
def insertEntry (name : String) (value : α) : List (String × α) → List (String × α)
  | [] => [(name, value)]
  | (other, old) :: rest =>
    if other = name then (name, value) :: rest
    else (other, old) :: insertEntry name value rest

/-- Gives a name a value: in its old place, or else at the end. -/
def insert (table : Table α) (name : String) (value : α) : Table α :=
  ⟨insertEntry name value table.entries⟩

/-- Takes a name out. -/
def erase (table : Table α) (name : String) : Table α :=
  ⟨table.entries.filter fun entry => entry.1 != name⟩

/-- A table from entries; of a repeated name the first place and the last value count. -/
def ofEntries (entries : List (String × α)) : Table α :=
  entries.foldl (fun table entry => table.insert entry.1 entry.2) empty

/-- The empty table has no names. -/
@[simp] theorem get?_empty (name : String) : (empty : Table α).get? name = none := rfl

/-- The first entry decides when its name is the one looked up, and is passed over otherwise. -/
theorem lookup_entry (name key : String) (value : α) (rest : List (String × α)) :
    List.lookup name ((key, value) :: rest)
      = if name = key then some value else List.lookup name rest := by
  rw [List.lookup_cons]
  by_cases same : name = key
  · simp [same]
  · have apart : (name == key) = false := by simp [same]
    simp [apart, same]

/-- An entry that was put in is found under its name, and no other name is found differently. -/
theorem lookup_insertEntry (name other : String) (value : α) (entries : List (String × α)) :
    (insertEntry name value entries).lookup other
      = if other = name then some value else entries.lookup other := by
  induction entries with
  | nil => simp [insertEntry, lookup_entry]
  | cons entry rest ih =>
    obtain ⟨key, old⟩ := entry
    by_cases atKey : key = name
    · subst atKey
      by_cases same : other = key <;> simp [insertEntry, lookup_entry, same]
    · by_cases same : other = key
      · subst same
        simp [insertEntry, atKey]
      · simp [insertEntry, lookup_entry, atKey, same, ih]

/-- A name that was inserted has the new value, and every other name the value it had. -/
theorem get?_insert (table : Table α) (name other : String) (value : α) :
    (table.insert name value).get? other
      = if other = name then some value else table.get? other :=
  lookup_insertEntry name other value table.entries

/-- An erased name has no value, and every other name the value it had. -/
theorem get?_erase (table : Table α) (name other : String) :
    (table.erase name).get? other = if other = name then none else table.get? other := by
  obtain ⟨entries⟩ := table
  simp only [erase, get?]
  induction entries with
  | nil => simp
  | cons entry rest ih =>
    obtain ⟨key, old⟩ := entry
    by_cases atKey : key = name
    · subst atKey
      by_cases same : other = key
      · simpa [same] using ih
      · simpa [lookup_entry, same] using ih
    · by_cases same : other = key
      · subst same
        simp [atKey]
      · simp [lookup_entry, atKey, same, ih]

/-- An insertion keeps the names in their places and appends a new one. -/
theorem keys_insert (table : Table α) (name : String) (value : α) :
    (table.insert name value).keys
      = if name ∈ table.keys then table.keys else table.keys ++ [name] := by
  obtain ⟨entries⟩ := table
  simp only [insert, keys]
  induction entries with
  | nil => simp [insertEntry]
  | cons entry rest ih =>
    obtain ⟨key, old⟩ := entry
    by_cases atKey : key = name
    · subst atKey
      simp [insertEntry]
    · have apart : ¬name = key := fun same => atKey same.symm
      simp only [insertEntry, atKey, if_false, List.map_cons, ih, List.mem_cons, apart, false_or]
      by_cases known : name ∈ rest.map (·.1) <;>
        simp only [known, if_true, if_false, List.cons_append]

/-- The entries after an insertion are the new one and those of before. -/
theorem mem_insertEntry {name : String} {value : α} {entry : String × α} {entries : List (String × α)}
    (listed : entry ∈ insertEntry name value entries) : entry = (name, value) ∨ entry ∈ entries := by
  induction entries with
  | nil => exact .inl (List.mem_singleton.mp listed)
  | cons first rest ih =>
    rw [insertEntry] at listed
    split at listed <;> rcases List.mem_cons.mp listed with rfl | listed
    · exact .inl rfl
    · exact .inr (List.mem_cons_of_mem _ listed)
    · exact .inr List.mem_cons_self
    · exact (ih listed).imp_right (List.mem_cons_of_mem _)

/-- An insertion repeats no name. -/
theorem nodup_keys_insert {table : Table α} (distinct : table.keys.Nodup) (name : String) (value : α) :
    (table.insert name value).keys.Nodup := by
  rw [keys_insert]
  split
  · exact distinct
  · rename_i new
    refine List.nodup_append.mpr ⟨distinct, by simp, fun key listed other single => ?_⟩
    rw [List.mem_singleton.mp single]
    exact fun same => new (same ▸ listed)

/-- In a table without repeated names, every entry is found under its name. -/
theorem get?_of_mem {table : Table α} (distinct : table.keys.Nodup) {name : String} {value : α}
    (listed : (name, value) ∈ table.entries) : table.get? name = some value := by
  obtain ⟨entries⟩ := table
  rw [keys] at distinct
  rw [get?]
  induction entries with
  | nil => cases listed
  | cons entry rest ih =>
    obtain ⟨key, old⟩ := entry
    obtain ⟨apart, distinct⟩ := List.nodup_cons.mp distinct
    rw [lookup_entry]
    rcases List.mem_cons.mp listed with same | behind
    · cases same
      simp
    · rw [if_neg fun same => apart (List.mem_map.mpr ⟨(name, value), behind, same⟩)]
      exact ih distinct behind

/-- What is found under a name is an entry. -/
theorem mem_of_get? {table : Table α} {name : String} {value : α}
    (found : table.get? name = some value) : (name, value) ∈ table.entries := by
  obtain ⟨before, after, split, -⟩ := List.lookup_eq_some_iff.mp found
  rw [split]
  exact List.mem_append_right before List.mem_cons_self

/-- Of a repeated name in a table made of entries, the last value counts. -/
theorem get?_ofEntries (entries : List (String × α)) (name : String) :
    (ofEntries entries).get? name = entries.reverse.lookup name := by
  have along (entries : List (String × α)) (table : Table α) :
      (entries.foldl (fun table entry => table.insert entry.1 entry.2) table).get? name =
        (entries.reverse.lookup name).or (table.get? name) := by
    induction entries generalizing table with
    | nil => rfl
    | cons entry rest ih =>
      rw [List.foldl_cons, ih, List.reverse_cons, List.lookup_append, Option.or_assoc, get?_insert,
        lookup_entry]
      by_cases same : name = entry.1 <;> simp [same]
  rw [ofEntries, along]
  simp

end Table

end LineGrammar
