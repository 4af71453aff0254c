/-! Sets of names in byte order.

A set is kept as its names in strictly ascending order, so two sets with the
same members are the same value and reading a set out in order is reading the
list.  Text compares by code point, which is the order of
its UTF-8 bytes.

* `mem_insert`: inserting adds one member and nothing else.
* `mem_ofList`: order and repetition of a list do not matter to its set. -/

namespace LoadHarness

/-- Put `name` in its place in an ascending list, unless it is there. -/
def insertName (name : String) : List String → List String
  | [] => [name]
  | head :: rest =>
    if name < head then name :: head :: rest
    else if name = head then head :: rest
    else head :: insertName name rest

theorem mem_insertName {name other : String} {names : List String} :
    other ∈ insertName name names ↔ other = name ∨ other ∈ names := by
  induction names with
  | nil => simp [insertName]
  | cons head rest ih =>
    unfold insertName
    split
    · simp
    · split
      · rename_i h
        subst h
        simp
      · simp only [List.mem_cons, ih]
        exact or_left_comm

theorem pairwise_insertName {name : String} {names : List String}
    (h : names.Pairwise (· < ·)) : (insertName name names).Pairwise (· < ·) := by
  induction names with
  | nil => simp [insertName]
  | cons head rest ih =>
    obtain ⟨hHead, hRest⟩ := List.pairwise_cons.mp h
    unfold insertName
    split
    · rename_i hlt
      refine List.pairwise_cons.mpr ⟨?_, h⟩
      intro other hmem
      rcases List.mem_cons.mp hmem with rfl | hmem
      · exact hlt
      · exact String.lt_trans hlt (hHead other hmem)
    · split
      · exact h
      · rename_i hnlt hne
        refine List.pairwise_cons.mpr ⟨?_, ih hRest⟩
        intro other hmem
        rcases mem_insertName.mp hmem with rfl | hmem
        · exact Std.lt_of_le_of_ne (Std.not_lt.mp hnlt) (Ne.symm hne)
        · exact hHead other hmem

theorem pairwise_lt_nil : ([] : List String).Pairwise (· < ·) := List.Pairwise.nil

/-- A finite set of names. -/
structure NameSet where
  /-- The members, in strictly ascending byte order. -/
  toList : List String
  /-- The order of the members leaves no room for repetition. -/
  ascending : toList.Pairwise (· < ·)
deriving DecidableEq

namespace NameSet

instance : Membership String NameSet where
  mem names name := name ∈ names.toList

instance (name : String) (names : NameSet) : Decidable (name ∈ names) :=
  inferInstanceAs (Decidable (name ∈ names.toList))

/-- No names at all. -/
def empty : NameSet := ⟨[], pairwise_lt_nil⟩

instance : EmptyCollection NameSet := ⟨empty⟩

def isEmpty (names : NameSet) : Bool := names.toList.isEmpty

def insert (names : NameSet) (name : String) : NameSet :=
  ⟨insertName name names.toList, pairwise_insertName names.ascending⟩

/-- The set of the names in a list. -/
def ofList (list : List String) : NameSet := list.foldl insert empty

theorem mem_def {name : String} {names : NameSet} : name ∈ names ↔ name ∈ names.toList := Iff.rfl

theorem not_mem_empty (name : String) : name ∉ empty := by simp [mem_def, empty]

theorem mem_insert {name other : String} {names : NameSet} :
    other ∈ names.insert name ↔ other = name ∨ other ∈ names :=
  mem_insertName

theorem mem_foldl_insert {name : String} {list : List String} {names : NameSet} :
    name ∈ list.foldl insert names ↔ name ∈ names ∨ name ∈ list := by
  induction list generalizing names with
  | nil => simp
  | cons head rest ih =>
    rw [List.foldl_cons, ih, mem_insert, List.mem_cons]
    constructor
    · rintro ((h | h) | h)
      · exact Or.inr (Or.inl h)
      · exact Or.inl h
      · exact Or.inr (Or.inr h)
    · rintro (h | h | h)
      · exact Or.inl (Or.inr h)
      · exact Or.inl (Or.inl h)
      · exact Or.inr h

theorem mem_ofList {name : String} {list : List String} : name ∈ ofList list ↔ name ∈ list := by
  rw [ofList, mem_foldl_insert]
  simp [not_mem_empty]

end NameSet

end LoadHarness
