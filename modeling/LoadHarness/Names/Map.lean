/-! Maps from names to values, in byte order of the names.

The entries stand in strictly ascending order of their names, so a map is read
out in order by reading `entries`, and two maps that answer alike are equal.

* `get?_alter_self`, `get?_alter_of_ne`: changing one entry changes that one. -/

namespace LoadHarness

/-- Change the value at `name`, which is absent when `change` is given `none`. -/
def alterEntry {α : Type} (name : String) (change : Option α → α) :
    List (String × α) → List (String × α)
  | [] => [(name, change none)]
  | head :: rest =>
    if name < head.1 then (name, change none) :: head :: rest
    else if name = head.1 then (head.1, change (some head.2)) :: rest
    else head :: alterEntry name change rest

theorem mem_names_alterEntry {α : Type} {name other : String} {change : Option α → α}
    {entries : List (String × α)} :
    other ∈ (alterEntry name change entries).map Prod.fst ↔
      other = name ∨ other ∈ entries.map Prod.fst := by
  induction entries with
  | nil => simp [alterEntry]
  | cons head rest ih =>
    unfold alterEntry
    split
    · simp only [List.map_cons, List.mem_cons]
    · split
      · rename_i h
        subst h
        simp
      · simp only [List.map_cons, List.mem_cons, ih]
        exact or_left_comm

theorem pairwise_alterEntry {α : Type} {name : String} {change : Option α → α}
    {entries : List (String × α)} (h : (entries.map Prod.fst).Pairwise (· < ·)) :
    ((alterEntry name change entries).map Prod.fst).Pairwise (· < ·) := by
  induction entries with
  | nil => simp [alterEntry]
  | cons head rest ih =>
    rw [List.map_cons] at h
    obtain ⟨hHead, hRest⟩ := List.pairwise_cons.mp h
    unfold alterEntry
    split
    · rename_i hlt
      rw [List.map_cons, List.map_cons]
      refine List.pairwise_cons.mpr ⟨?_, h⟩
      intro other hmem
      rcases List.mem_cons.mp hmem with rfl | hmem
      · exact hlt
      · exact String.lt_trans hlt (hHead other hmem)
    · split
      · exact h
      · rename_i hnlt hne
        rw [List.map_cons]
        refine List.pairwise_cons.mpr ⟨?_, ih hRest⟩
        intro other hmem
        rcases mem_names_alterEntry.mp hmem with rfl | hmem
        · exact Std.lt_of_le_of_ne (Std.not_lt.mp hnlt) (Ne.symm hne)
        · exact hHead other hmem

/-- A finite map from names to values. -/
structure NameMap (α : Type) where
  /-- Names with their values, in strictly ascending byte order of the names. -/
  entries : List (String × α)
  /-- Each name stands once, in its place. -/
  ascending : (entries.map Prod.fst).Pairwise (· < ·)
deriving DecidableEq

namespace NameMap

variable {α : Type}

/-- The map without entries. -/
def empty : NameMap α := ⟨[], List.Pairwise.nil⟩

instance : EmptyCollection (NameMap α) := ⟨empty⟩

instance : Inhabited (NameMap α) := ⟨empty⟩

def isEmpty (map : NameMap α) : Bool := map.entries.isEmpty

/-- The value at `name`. -/
def get? (map : NameMap α) (name : String) : Option α := map.entries.lookup name

def getD (map : NameMap α) (name : String) (default : α) : α := (map.get? name).getD default

/-- Change the value at `name`, adding the entry if there is none. -/
def alter (map : NameMap α) (name : String) (change : Option α → α) : NameMap α :=
  ⟨alterEntry name change map.entries, pairwise_alterEntry map.ascending⟩

/-- Put `value` at `name`, in place of what was there. -/
def insert (map : NameMap α) (name : String) (value : α) : NameMap α :=
  map.alter name fun _ => value

/-- The map of a list of entries, where a later entry replaces an earlier one. -/
def ofList (list : List (String × α)) : NameMap α :=
  list.foldl (fun map entry => map.insert entry.1 entry.2) empty

/-- The names that have a value, in order. -/
def names (map : NameMap α) : List String := map.entries.map Prod.fst

def values (map : NameMap α) : List α := map.entries.map Prod.snd

end NameMap

theorem lookup_alterEntry_self {α : Type} {name : String} {change : Option α → α}
    {entries : List (String × α)} (h : (entries.map Prod.fst).Pairwise (· < ·)) :
    (alterEntry name change entries).lookup name = some (change (entries.lookup name)) := by
  induction entries with
  | nil => simp [alterEntry]
  | cons head rest ih =>
    obtain ⟨key, value⟩ := head
    rw [List.map_cons] at h
    obtain ⟨hHead, hRest⟩ := List.pairwise_cons.mp h
    unfold alterEntry
    split
    · rename_i hlt
      have hne : name ≠ key := fun e => String.lt_irrefl key (e ▸ hlt)
      have habsent : rest.lookup name = none := by
        rw [List.lookup_eq_none_iff]
        intro entry hmem
        have := String.lt_trans hlt (hHead entry.1 (List.mem_map_of_mem hmem))
        have hne : name ≠ entry.1 := fun e => String.lt_irrefl name (e ▸ this)
        simpa using hne
      have hbeq : (name == key) = false := by simpa using hne
      rw [List.lookup_cons_self, List.lookup_cons, hbeq, habsent]
    · split
      · rename_i heq
        simp only at heq
        subst heq
        simp
      · rename_i hne
        simp only at hne
        have hbeq : (name == key) = false := by simpa using hne
        rw [List.lookup_cons, List.lookup_cons, hbeq]
        exact ih hRest

theorem lookup_alterEntry_of_ne {α : Type} {name other : String} {change : Option α → α}
    {entries : List (String × α)} (hne : other ≠ name) :
    (alterEntry name change entries).lookup other = entries.lookup other := by
  have hbeq : (other == name) = false := by simpa using hne
  induction entries with
  | nil => rw [alterEntry, List.lookup_cons, hbeq]
  | cons head rest ih =>
    obtain ⟨key, value⟩ := head
    unfold alterEntry
    split
    · rw [List.lookup_cons, hbeq]
    · split
      · rename_i heq
        simp only at heq
        subst heq
        rw [List.lookup_cons, List.lookup_cons, hbeq]
      · rw [List.lookup_cons, List.lookup_cons, ih]

namespace NameMap

variable {α : Type}

theorem get?_alter_self {map : NameMap α} {name : String} {change : Option α → α} :
    (map.alter name change).get? name = some (change (map.get? name)) :=
  lookup_alterEntry_self map.ascending

theorem get?_alter_of_ne {map : NameMap α} {name other : String} {change : Option α → α}
    (hne : other ≠ name) : (map.alter name change).get? other = map.get? other :=
  lookup_alterEntry_of_ne hne

end NameMap

end LoadHarness
