import LoadHarness.Tls.Policy
import Mathlib.Data.List.DropRight

/-! The spellings by which a version is known.

    Version.parse text = .ok version ↔ version.Names text         (parse_eq_ok_iff)

A text is made normal before it is compared: white space at its ends goes, letters become small, and
every `tlsv` loses its last letter.  The last step is the one to look at.  What it leaves is `tls`
and a number only if it was `tls` or `tlsv` and the number before, since it keeps every `t`
(`mem_dropLetter_iff`) and a number has none, so that it has met `tlsv` once at most
(`dropLetter_eq_iff`). -/

namespace LoadHarness

namespace Text

variable {text front core back : List Char}

theorem exists_trimChars (text : List Char) :
    ∃ front back, text = front ++ trimChars text ++ back ∧
      (∀ c ∈ front, isBlank c = true) ∧ ∀ c ∈ back, isBlank c = true := by
  refine ⟨text.takeWhile isBlank, (text.dropWhile isBlank).rtakeWhile isBlank, ?_, ?_, ?_⟩
  · have hback : trimChars text ++ (text.dropWhile isBlank).rtakeWhile isBlank =
        text.dropWhile isBlank := List.rdropWhile_append_rtakeWhile
    rw [List.append_assoc, hback, List.takeWhile_append_dropWhile]
  · exact fun c hc => List.mem_takeWhile_imp hc
  · exact fun c hc => List.mem_rtakeWhile_imp hc

theorem dropWhile_blanks_append (hfront : ∀ c ∈ front, isBlank c = true)
    (hcore : ∀ c ∈ core.head?, isBlank c = false) : (front ++ core).dropWhile isBlank = core := by
  rw [List.dropWhile_append_of_pos hfront]
  cases core with
  | nil => rfl
  | cons c rest => exact List.dropWhile_cons_of_neg (by simp [hcore c rfl])

/-- White space around a text that neither begins nor ends with white space is what goes. -/
theorem trimChars_append (hfront : ∀ c ∈ front, isBlank c = true)
    (hback : ∀ c ∈ back, isBlank c = true) (hne : core ≠ [])
    (hhead : ∀ c ∈ core.head?, isBlank c = false)
    (hlast : ∀ c ∈ core.getLast?, isBlank c = false) :
    trimChars (front ++ core ++ back) = core := by
  have hrest : ∀ c ∈ (core ++ back).head?, isBlank c = false := by
    intro c hc
    rw [List.head?_append_of_ne_nil _ hne] at hc
    exact hhead c hc
  have hblanks : ∀ c ∈ back.reverse, isBlank c = true := fun c hc =>
    hback c (List.mem_reverse.mp hc)
  unfold trimChars
  rw [List.append_assoc, dropWhile_blanks_append hfront hrest, List.reverse_append,
    dropWhile_blanks_append hblanks (by rw [List.head?_reverse]; exact hlast), List.reverse_reverse]

theorem toLower_of_isBlank {c : Char} (h : isBlank c = true) : c.toLower = c := by
  unfold Char.toLower
  rw [dif_neg]
  rintro ⟨hlow, hhigh⟩
  have hlow : 65 ≤ c.toNat := UInt32.le_iff_toNat_le.mp hlow
  have hhigh : c.toNat ≤ 90 := UInt32.le_iff_toNat_le.mp hhigh
  simp only [isBlank, Bool.or_eq_true, Bool.and_eq_true, decide_eq_true_eq, beq_iff_eq] at h
  omega

theorem isBlank_of_toLower {c : Char} (h : isBlank c.toLower = false) : isBlank c = false := by
  by_contra hblank
  rw [Bool.not_eq_false] at hblank
  rw [toLower_of_isBlank hblank, hblank] at h
  cases h

end Text

namespace Tls.Version

variable {text : String} {chars number : List Char} {version : Version}

/-! ## Dropping letters -/

theorem mem_dropLetter_iff {c : Char} (hc : c ≠ 'v') : c ∈ dropLetter chars ↔ c ∈ chars := by
  fun_induction dropLetter chars with
  | case1 rest ih => simp [ih, hc]
  | case2 d rest _ ih => simp [ih]
  | case3 => rfl

theorem dropLetter_of_notMem (h : 't' ∉ chars) : dropLetter chars = chars := by
  fun_induction dropLetter chars with
  | case1 rest => simp at h
  | case2 d rest _ ih => rw [ih (fun hmem => h (List.mem_cons_of_mem d hmem))]
  | case3 => rfl

/-- A text loses its letters to `tls` and a number only if it was `tls` or `tlsv` and that
number. -/
theorem dropLetter_eq_iff (hnumber : 't' ∉ number) (hletter : number.head? ≠ some 'v') :
    dropLetter chars = 't' :: 'l' :: 's' :: number ↔
      chars = 't' :: 'l' :: 's' :: number ∨ chars = 't' :: 'l' :: 's' :: 'v' :: number := by
  have hkept : ∀ {rest : List Char}, 't' ∉ dropLetter rest → dropLetter rest = rest := by
    intro rest hrest
    rw [mem_dropLetter_iff (by decide)] at hrest
    exact dropLetter_of_notMem hrest
  constructor
  · intro h
    unfold dropLetter at h
    split at h
    · rename_i rest
      right
      simp only [List.cons.injEq, true_and] at h
      rw [← h, hkept (h ▸ hnumber)]
    · rename_i c rest _
      left
      simp only [List.cons.injEq] at h
      obtain ⟨rfl, h⟩ := h
      have hnone : 't' ∉ dropLetter rest := by
        rw [h]
        simp [hnumber]
      rw [← h, hkept hnone]
    · cases h
  · rintro (rfl | rfl)
    · have hnone : 't' ∉ 'l' :: 's' :: number := by simp [hnumber]
      unfold dropLetter
      split
      · rename_i heq
        simp only [List.cons.injEq, true_and] at heq
        simp [heq] at hletter
      · rename_i heq
        cases heq
        rw [dropLetter_of_notMem hnone]
      · rename_i heq
        cases heq
    · rw [dropLetter, dropLetter_of_notMem hnumber]

/-! ## Spellings -/

/-- The numbers that a version goes by. -/
def numbers : Version → List String
  | tls10 => ["1", "1.0"]
  | tls11 => ["1.1"]
  | tls12 => ["1.2"]
  | tls13 => ["1.3"]

/-- The spellings of a version, in small letters. -/
def spellings (version : Version) : List String :=
  version.numbers.map ("tls" ++ ·) ++ version.numbers.map ("tlsv" ++ ·)

/-- A text names a version if it is one of its spellings, in letters of either case and with white
space around it. -/
def Names (version : Version) (text : String) : Prop :=
  ∃ front core back, text.toList = front ++ core ++ back ∧
    (∀ c ∈ front, Text.isBlank c = true) ∧ (∀ c ∈ back, Text.isBlank c = true) ∧
    ∃ spelling ∈ version.spellings, core.map Char.toLower = spelling.toList

theorem plain_numbers : ∀ (version : Version), ∀ number ∈ version.numbers,
    't' ∉ number.toList ∧ number.toList.head? ≠ some 'v' := by
  intro version
  cases version <;> decide

/-- There is no white space in a spelling. -/
theorem blank_notMem_spellings : ∀ (version : Version), ∀ spelling ∈ version.spellings,
    spelling.toList ≠ [] ∧ (spelling.toList.all fun c => !Text.isBlank c) = true := by
  intro version
  cases version <;> decide

theorem ofSpelling?_eq_some_iff :
    ofSpelling? chars = some version ↔
      ∃ number ∈ version.numbers, chars = 't' :: 'l' :: 's' :: number.toList := by
  constructor
  · intro h
    unfold ofSpelling? at h
    split at h
    · rename_i hone
      cases h
      exact ⟨"1", by decide, hone⟩
    · have hname := List.find?_some h
      simp only [decide_eq_true_eq] at hname
      rw [hname]
      cases version with
      | tls10 => exact ⟨"1.0", by decide, rfl⟩
      | tls11 => exact ⟨"1.1", by decide, rfl⟩
      | tls12 => exact ⟨"1.2", by decide, rfl⟩
      | tls13 => exact ⟨"1.3", by decide, rfl⟩
  · have hread : ∀ (version : Version), ∀ number ∈ version.numbers,
        ofSpelling? ('t' :: 'l' :: 's' :: number.toList) = some version := by
      intro version
      cases version <;> decide
    rintro ⟨number, hmem, rfl⟩
    exact hread version number hmem

theorem ofSpelling?_dropLetter_iff :
    ofSpelling? (dropLetter chars) = some version ↔
      ∃ spelling ∈ version.spellings, chars = spelling.toList := by
  rw [ofSpelling?_eq_some_iff]
  constructor
  · rintro ⟨number, hmem, h⟩
    obtain ⟨hnumber, hletter⟩ := version.plain_numbers number hmem
    rcases (dropLetter_eq_iff hnumber hletter).mp h with rfl | rfl
    · exact ⟨"tls" ++ number, by simp [spellings, hmem], by simp⟩
    · exact ⟨"tlsv" ++ number, by simp [spellings, hmem], by simp⟩
  · rintro ⟨spelling, hspelling, rfl⟩
    rcases List.mem_append.mp hspelling with hmem | hmem
    · obtain ⟨number, hnumbers, rfl⟩ := List.mem_map.mp hmem
      obtain ⟨hnumber, hletter⟩ := version.plain_numbers number hnumbers
      exact ⟨number, hnumbers, (dropLetter_eq_iff hnumber hletter).mpr (.inl (by simp))⟩
    · obtain ⟨number, hnumbers, rfl⟩ := List.mem_map.mp hmem
      obtain ⟨hnumber, hletter⟩ := version.plain_numbers number hnumbers
      exact ⟨number, hnumbers, (dropLetter_eq_iff hnumber hletter).mpr (.inr (by simp))⟩

/-! ## Texts -/

theorem parse?_eq_some_iff : parse? text = some version ↔ version.Names text := by
  unfold parse? normalise
  rw [ofSpelling?_dropLetter_iff]
  constructor
  · rintro ⟨spelling, hmem, hcore⟩
    obtain ⟨front, back, htext, hfront, hback⟩ := Text.exists_trimChars text.toList
    exact ⟨front, _, back, htext, hfront, hback, spelling, hmem, hcore⟩
  · rintro ⟨front, core, back, htext, hfront, hback, spelling, hmem, hcore⟩
    obtain ⟨hne, hall⟩ := version.blank_notMem_spellings spelling hmem
    rw [← hcore, List.all_eq_true] at hall
    have hcore' : core ≠ [] := by
      rintro rfl
      exact hne hcore.symm
    have hinside : ∀ c ∈ core, Text.isBlank c = false := by
      intro c hc
      have hlower := hall c.toLower (List.mem_map_of_mem hc)
      rw [Bool.not_eq_true'] at hlower
      exact Text.isBlank_of_toLower hlower
    have hhead : ∀ c ∈ core.head?, Text.isBlank c = false := fun c hc =>
      hinside c (List.mem_of_mem_head? hc)
    have hlast : ∀ c ∈ core.getLast?, Text.isBlank c = false := fun c hc =>
      hinside c (List.mem_of_mem_getLast? hc)
    rw [htext, Text.trimChars_append hfront hback hcore' hhead hlast]
    exact ⟨spelling, hmem, hcore⟩

theorem parse_eq_ok_iff : parse text = .ok version ↔ version.Names text := by
  rw [← parse?_eq_some_iff]
  unfold parse
  cases parse? text <;> simp

theorem parse_eq_error_iff {e : PolicyError} :
    parse text = .error e ↔ (∀ version, ¬ Names version text) ∧ e = .unknownVersion text := by
  simp only [← parse?_eq_some_iff]
  unfold parse
  cases parse? text <;> simp [eq_comm]

/-- Its name names a version, in letters of either case, with white space around it, and with the
letter put in. -/
theorem names_of_name {front core back : List Char} (htext : text.toList = front ++ core ++ back)
    (hfront : ∀ c ∈ front, Text.isBlank c = true) (hback : ∀ c ∈ back, Text.isBlank c = true)
    (hcore : core.map Char.toLower = version.name.toList ∨
      core.map Char.toLower = version.name.toList.insertIdx 3 'v') : version.Names text := by
  have hspellings : version.name ∈ version.spellings ∧
      String.ofList (version.name.toList.insertIdx 3 'v') ∈ version.spellings := by
    cases version <;> decide
  refine ⟨front, core, back, htext, hfront, hback, ?_⟩
  rcases hcore with hcore | hcore
  · exact ⟨_, hspellings.1, hcore⟩
  · exact ⟨_, hspellings.2, hcore.trans String.toList_ofList.symm⟩

theorem names_name (version : Version) : version.Names version.name := by
  have hlower : version.name.toList.map Char.toLower = version.name.toList := by
    cases version <;> decide
  have htext : version.name.toList = [] ++ version.name.toList ++ [] := by simp
  exact names_of_name htext nofun nofun (.inl hlower)

end Tls.Version

end LoadHarness
