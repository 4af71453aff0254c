import LoadHarness.Text.Search

/-! Protocol versions of TLS and their spelling.

`parse? text` trims the text, ignores the case of ASCII letters and reads the
spelling `tlsv1.2` as `tls1.2`.  `parse?` undoes `name` for every version. -/

namespace LoadHarness.Tls

/-- A protocol version, oldest first. -/
inductive Version where
  | tls10
  | tls11
  | tls12
  | tls13
deriving DecidableEq, Repr

namespace Version

/-- The place of a version in the order of their publication. -/
def rank : Version → Nat
  | tls10 => 0
  | tls11 => 1
  | tls12 => 2
  | tls13 => 3

instance : LT Version := ⟨fun a b => a.rank < b.rank⟩

instance : LE Version := ⟨fun a b => a.rank ≤ b.rank⟩

instance (a b : Version) : Decidable (a < b) := inferInstanceAs (Decidable (a.rank < b.rank))

instance (a b : Version) : Decidable (a ≤ b) := inferInstanceAs (Decidable (a.rank ≤ b.rank))

instance : Ord Version := ⟨fun a b => compare a.rank b.rank⟩

instance : Min Version := ⟨fun a b => if a ≤ b then a else b⟩

instance : Max Version := ⟨fun a b => if a ≤ b then b else a⟩

theorem le_def {a b : Version} : a ≤ b ↔ a.rank ≤ b.rank := Iff.rfl

/-- The name by which options and reports know a version. -/
def name : Version → String
  | tls10 => "tls1.0"
  | tls11 => "tls1.1"
  | tls12 => "tls1.2"
  | tls13 => "tls1.3"

instance : ToString Version := ⟨name⟩

/-- Every version, oldest first. -/
def all : List Version := [tls10, tls11, tls12, tls13]

/-- Drop the `v` of each `tlsv`, from left to right. -/
def dropLetter : List Char → List Char
  | 't' :: 'l' :: 's' :: 'v' :: rest => 't' :: 'l' :: 's' :: dropLetter rest
  | c :: rest => c :: dropLetter rest
  | [] => []

/-- The spelling of a text that decides which version it names. -/
def normalise (text : String) : List Char :=
  dropLetter ((Text.trimChars text.toList).map Char.toLower)

/-- The version of a normal spelling. -/
def ofSpelling? (spelling : List Char) : Option Version :=
  if spelling = "tls1".toList then some tls10
  else all.find? fun version => spelling = version.name.toList

/-- The version that a text names, if it names one. -/
def parse? (text : String) : Option Version := ofSpelling? (normalise text)

end Version

end LoadHarness.Tls
