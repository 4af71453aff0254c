import LoadHarness.Text.Utf8
import Mathlib.Algebra.Group.Nat.Defs
import Mathlib.Data.List.Infix
import Mathlib.Tactic.SplitIfs

/-! What becomes of ASCII when bytes are read as text.

A byte below 128 is a character by itself, and breaks off whatever has begun before it.  So a text
can be read apart at each such byte:

    decode (before ++ byte :: after) = decode before ++ ascii byte :: decode after
                                                                          (decode_append_cons)

All else that bytes are read as, malformed or not, lies beyond ASCII (`le_symbol`), so each ASCII
character of a text comes from a byte of its own (`exists_of_decode_eq_append`).  Where a sequence
of ASCII characters stands in the text, its bytes stand together, and the other way round
(`decode_eq_append_iff`). -/

namespace LoadHarness.Text.Utf8

/-- The character that a byte below 128 is. -/
def ascii (byte : UInt8) : Char := Char.ofNat byte.toNat

/-- The bytes that follow a byte from 128 on and are read together with it. -/
def followers (byte : UInt8) (rest : List UInt8) : List UInt8 :=
  match lead? byte with
  | none => []
  | some lead => tail lead.count lead.low lead.high rest

/-- What a byte from 128 on is read as, together with its followers. -/
def symbol (byte : UInt8) (rest : List UInt8) : Char :=
  match lead? byte with
  | none => replacement
  | some lead =>
    if (followers byte rest).length = lead.count then
      character lead.payload (followers byte rest)
    else replacement

variable {byte stop : UInt8} {bytes rest before after : List UInt8} {lead : Lead}

/-! ## The bytes one by one -/

theorem decode_nil : decode [] = [] := by rw [decode]

theorem decode_cons_of_lt (h : byte < 0x80) (rest : List UInt8) :
    decode (byte :: rest) = ascii byte :: decode rest := by
  rw [decode, if_pos h, ascii]

theorem decode_cons_of_le (h : 0x80 ≤ byte) (rest : List UInt8) :
    decode (byte :: rest) =
      symbol byte rest :: decode (rest.drop (followers byte rest).length) := by
  rw [decode, if_neg (UInt8.not_lt.mpr h)]
  unfold symbol followers
  cases lead? byte <;> rfl

theorem followers_eq_tail (h : lead? byte = some lead) (rest : List UInt8) :
    followers byte rest = tail lead.count lead.low lead.high rest := by
  rw [followers, h]

theorem followers_isPrefix (byte : UInt8) (rest : List UInt8) : followers byte rest <+: rest := by
  unfold followers
  split
  · exact List.nil_prefix
  · exact tail_isPrefix _ _ _ rest

/-- Induction on what bytes are read as: a byte below 128, or another with its followers. -/
@[elab_as_elim]
theorem decode_induction {motive : List UInt8 → Prop} (nil : motive [])
    (ascii : ∀ byte rest, byte < 0x80 → motive rest → motive (byte :: rest))
    (sequence : ∀ byte rest, 0x80 ≤ byte →
      motive (rest.drop (followers byte rest).length) → motive (byte :: rest))
    (bytes : List UInt8) : motive bytes :=
  match bytes with
  | [] => nil
  | byte :: rest =>
    if h : byte < 0x80 then ascii byte rest h (decode_induction nil ascii sequence rest)
    else sequence byte rest (UInt8.not_lt.mp h) (decode_induction nil ascii sequence _)
termination_by bytes.length
decreasing_by all_goals simp only [List.length_drop, List.length_cons]; omega

/-! ## Beyond ASCII -/

/-- The number of the character that a payload and some tail bytes spell. -/
def number (payload : Nat) (bytes : List UInt8) : Nat :=
  bytes.foldl (fun n byte => 64 * n + byte.toNat % 64) payload

/-- Each tail byte has six bits to add. -/
theorem number_bounds (payload : Nat) (bytes : List UInt8) :
    64 ^ bytes.length * payload ≤ number payload bytes ∧
      number payload bytes < 64 ^ bytes.length * (payload + 1) := by
  induction bytes generalizing payload with
  | nil => simp [number]
  | cons byte rest ih =>
    obtain ⟨hlow, hhigh⟩ := ih (64 * payload + byte.toNat % 64)
    have hbits : byte.toNat % 64 < 64 := Nat.mod_lt _ (by decide)
    rw [List.length_cons, Nat.pow_succ, Nat.mul_assoc, Nat.mul_assoc]
    exact ⟨Nat.le_trans (Nat.mul_le_mul_left _ (by omega)) hlow,
      Nat.lt_of_lt_of_le hhigh (Nat.mul_le_mul_left _ (by omega))⟩

/-- What holds of every byte that can lead: no byte below 128 is in its tail, and whatever first
tail byte it may have, and whatever follows that, they spell a character beyond ASCII. -/
structure Lead.Sound (lead : Lead) : Prop where
  le_low : 0x80 ≤ lead.low
  pos : 0 < lead.count
  le_spelled : ∀ first, lead.low ≤ first → first ≤ lead.high →
    0x80 ≤ 64 ^ (lead.count - 1) * (64 * lead.payload + first.toNat % 64)
  spelled_valid : ∀ first, lead.low ≤ first → first ≤ lead.high →
    64 ^ (lead.count - 1) * (64 * lead.payload + first.toNat % 64 + 1) ≤ 0xD800 ∨
      0xDFFF < 64 ^ (lead.count - 1) * (64 * lead.payload + first.toNat % 64) ∧
        64 ^ (lead.count - 1) * (64 * lead.payload + first.toNat % 64 + 1) ≤ 0x110000

theorem sound_of_lead? (h : lead? byte = some lead) : lead.Sound := by
  simp only [lead?, UInt8.lt_iff_toNat_lt, beq_iff_eq, ← UInt8.toNat_inj, UInt8.reduceToNat] at h
  split_ifs at h
  -- the rows of the table, each with its own bounds and payload
  all_goals
    obtain rfl := Option.some.inj h
    refine ⟨by simp, by simp, fun first hlow hhigh => ?_, fun first hlow hhigh => ?_⟩
  all_goals
    simp only [UInt8.le_iff_toNat_le, UInt8.reduceToNat] at hlow hhigh
    simp only [Nat.reduceSub, Nat.reducePow]
    omega

/-! ## What is read together -/

/-- A tail ends at a byte below 128. -/
theorem tail_append {count : Nat} {low high : UInt8} (hlow : 0x80 ≤ low) (h : stop < 0x80)
    (rest after : List UInt8) :
    tail count low high (rest ++ stop :: after) = tail count low high rest := by
  induction rest generalizing count low high with
  | nil =>
    cases count with
    | zero => rfl
    | succ count =>
      have hstop : ¬ low ≤ stop := UInt8.not_le.mpr (UInt8.lt_of_lt_of_le h hlow)
      simp [tail, hstop]
  | cons byte rest ih =>
    cases count with
    | zero => rfl
    | succ count => rw [List.cons_append, tail, tail, ih (UInt8.le_refl _)]

/-- A tail with all its bytes has a first one. -/
theorem exists_of_length_tail {count : Nat} {low high : UInt8} (hpos : 0 < count)
    (h : (tail count low high rest).length = count) :
    ∃ first more, tail count low high rest = first :: more ∧ low ≤ first ∧ first ≤ high ∧
      more.length = count - 1 := by
  obtain ⟨count, rfl⟩ := Nat.exists_eq_add_of_lt hpos
  cases rest with
  | nil => simp [tail] at h
  | cons byte rest =>
    rw [tail] at h ⊢
    split at h
    · rename_i hfits
      rw [if_pos hfits]
      simp only [Bool.and_eq_true, decide_eq_true_eq] at hfits
      exact ⟨byte, _, rfl, hfits.1, hfits.2, Nat.succ.inj h⟩
    · simp at h

theorem followers_append (h : stop < 0x80) (byte : UInt8) (rest after : List UInt8) :
    followers byte (rest ++ stop :: after) = followers byte rest := by
  unfold followers
  split
  · rfl
  · rename_i hlead
    exact tail_append (sound_of_lead? hlead).le_low h rest after

theorem symbol_append (h : stop < 0x80) (byte : UInt8) (rest after : List UInt8) :
    symbol byte (rest ++ stop :: after) = symbol byte rest := by
  unfold symbol
  rw [followers_append h]

theorem toNat_ofNat {n : Nat} (h : n.isValidChar) : (Char.ofNat n).toNat = n := by
  rw [Char.ofNat, dif_pos h]
  rfl

theorem le_character {first : UInt8} {more : List UInt8} (hlead : lead.Sound)
    (hlow : lead.low ≤ first) (hhigh : first ≤ lead.high)
    (hlength : more.length = lead.count - 1) :
    0x80 ≤ (character lead.payload (first :: more)).toNat := by
  obtain ⟨hge, hlt⟩ := number_bounds (64 * lead.payload + first.toNat % 64) more
  rw [hlength] at hge hlt
  have hspelled := Nat.le_trans (hlead.le_spelled first hlow hhigh) hge
  have hvalid : (number lead.payload (first :: more)).isValidChar := by
    rcases hlead.spelled_valid first hlow hhigh with hbelow | ⟨habove, hbelow⟩
    · exact .inl (Nat.lt_of_lt_of_le hlt hbelow)
    · exact .inr ⟨Nat.lt_of_lt_of_le habove hge, Nat.lt_of_lt_of_le hlt hbelow⟩
  have hcharacter : (character lead.payload (first :: more)).toNat =
      number lead.payload (first :: more) := toNat_ofNat hvalid
  rw [hcharacter]
  exact hspelled

/-- What is not ASCII is not read as ASCII. -/
theorem le_symbol (byte : UInt8) (rest : List UInt8) : 0x80 ≤ (symbol byte rest).toNat := by
  have hreplacement : 0x80 ≤ replacement.toNat := by decide
  unfold symbol
  split
  · exact hreplacement
  · rename_i lead hlead
    have hsound := sound_of_lead? hlead
    split
    · rename_i hlength
      rw [followers_eq_tail hlead] at hlength ⊢
      obtain ⟨first, more, htail, hlow, hhigh, hmore⟩ := exists_of_length_tail hsound.pos hlength
      rw [htail]
      exact le_character hsound hlow hhigh hmore
    · exact hreplacement

theorem toNat_ascii (h : byte < 0x80) : (ascii byte).toNat = byte.toNat := by
  have hlt : byte.toNat < 0x80 := UInt8.lt_iff_toNat_lt.mp h
  exact toNat_ofNat (.inl (by omega))

/-! ## ASCII in the text and in the bytes -/

/-- A byte below 128 parts what is before it from what is after it. -/
theorem decode_append_cons (h : stop < 0x80) (before after : List UInt8) :
    decode (before ++ stop :: after) = decode before ++ ascii stop :: decode after := by
  induction before using decode_induction with
  | nil => rw [decode_nil, List.nil_append, decode_cons_of_lt h, List.nil_append]
  | ascii byte rest hbyte ih =>
    rw [List.cons_append, decode_cons_of_lt hbyte, decode_cons_of_lt hbyte, ih, List.cons_append]
  | sequence byte rest hbyte ih =>
    rw [List.cons_append, decode_cons_of_le hbyte, decode_cons_of_le hbyte, symbol_append h,
      followers_append h, List.drop_append_of_le_length (followers_isPrefix byte rest).length_le,
      ih, List.cons_append]

/-- An ASCII character of the text is a byte below 128, which parts the bytes as the character
parts the text. -/
theorem exists_of_decode_eq_append {letter : Char} (hletter : letter.toNat < 0x80)
    {left right : List Char} (h : decode bytes = left ++ letter :: right) :
    ∃ before stop after, bytes = before ++ stop :: after ∧ stop < 0x80 ∧ ascii stop = letter ∧
      decode before = left ∧ decode after = right := by
  induction bytes using decode_induction generalizing left with
  | nil => simp [decode_nil] at h
  | ascii byte rest hbyte ih =>
    rw [decode_cons_of_lt hbyte] at h
    cases left with
    | nil =>
      obtain ⟨hfirst, hrest⟩ := List.cons.inj h
      exact ⟨[], byte, rest, rfl, hbyte, hfirst, decode_nil, hrest⟩
    | cons first left =>
      obtain ⟨rfl, hrest⟩ := List.cons.inj h
      obtain ⟨before, stop, after, rfl, hstop, hascii, hbefore, hafter⟩ := ih hrest
      refine ⟨byte :: before, stop, after, rfl, hstop, hascii, ?_, hafter⟩
      rw [decode_cons_of_lt hbyte, hbefore]
  | sequence byte rest hbyte ih =>
    rw [decode_cons_of_le hbyte] at h
    cases left with
    | nil =>
      obtain ⟨rfl, -⟩ := List.cons.inj h
      exact absurd (le_symbol byte rest) (Nat.not_le.mpr hletter)
    | cons first left =>
      obtain ⟨rfl, hrest⟩ := List.cons.inj h
      obtain ⟨before, stop, after, hdrop, hstop, hascii, hbefore, hafter⟩ := ih hrest
      -- the followers stop before the byte that was found, so they are the same without the rest
      have hsplit : rest = followers byte rest ++ before ++ stop :: after := by
        rw [List.append_assoc, ← hdrop]
        exact List.prefix_append_drop (followers_isPrefix byte rest)
      have hfollowers : followers byte (followers byte rest ++ before) = followers byte rest := by
        rw [← followers_append hstop byte _ after, ← hsplit]
      have hsymbol : symbol byte (followers byte rest ++ before) = symbol byte rest := by
        rw [← symbol_append hstop byte _ after, ← hsplit]
      refine ⟨byte :: (followers byte rest ++ before), stop, after, ?_, hstop, hascii, ?_, hafter⟩
      · rw [List.cons_append, ← hsplit]
      · rw [decode_cons_of_le hbyte, hfollowers, hsymbol, List.drop_left, hbefore]

theorem toNat_ascii_lt (h : byte < 0x80) : (ascii byte).toNat < 0x80 := by
  rw [toNat_ascii h]
  exact UInt8.lt_iff_toNat_lt.mp h

theorem ascii_inj (h : byte < 0x80) (hstop : stop < 0x80) (heq : ascii byte = ascii stop) :
    byte = stop := by
  rw [← UInt8.toNat_inj, ← toNat_ascii h, ← toNat_ascii hstop, heq]

theorem eq_nil_of_decode_eq_nil (h : decode bytes = []) : bytes = [] := by
  induction bytes using decode_induction with
  | nil => rfl
  | ascii byte rest hbyte => simp [decode_cons_of_lt hbyte] at h
  | sequence byte rest hbyte => simp [decode_cons_of_le hbyte] at h

/-! ## Sequences of ASCII characters -/

section Part

variable {part : List UInt8} {left right : List Char}

theorem decode_ascii_append (hascii : ∀ byte ∈ part, byte < 0x80) (after : List UInt8) :
    decode (part ++ after) = part.map ascii ++ decode after := by
  induction part with
  | nil => rfl
  | cons byte part ih =>
    obtain ⟨hbyte, hpart⟩ := List.forall_mem_cons.mp hascii
    rw [List.cons_append, decode_cons_of_lt hbyte, ih hpart, List.map_cons, List.cons_append]

theorem exists_of_decode_eq_ascii_append (hascii : ∀ byte ∈ part, byte < 0x80)
    (h : decode bytes = part.map ascii ++ right) :
    ∃ after, bytes = part ++ after ∧ decode after = right := by
  induction part generalizing bytes with
  | nil => exact ⟨bytes, rfl, h⟩
  | cons byte part ih =>
    obtain ⟨hbyte, hpart⟩ := List.forall_mem_cons.mp hascii
    have hfirst : decode bytes = [] ++ ascii byte :: (part.map ascii ++ right) := h
    obtain ⟨before, stop, rest, rfl, hstop, heq, hbefore, hrest⟩ :=
      exists_of_decode_eq_append (toNat_ascii_lt hbyte) hfirst
    obtain rfl := eq_nil_of_decode_eq_nil hbefore
    obtain rfl := ascii_inj hstop hbyte heq
    obtain ⟨after, rfl, hafter⟩ := ih hpart hrest
    exact ⟨after, rfl, hafter⟩

/-- A sequence of ASCII characters stands in the text where its bytes stand in the bytes. -/
theorem decode_eq_append_iff (hpart : part ≠ []) (hascii : ∀ byte ∈ part, byte < 0x80) :
    decode bytes = left ++ part.map ascii ++ right ↔
      ∃ before after, bytes = before ++ part ++ after ∧ decode before = left ∧
        decode after = right := by
  obtain ⟨first, more, rfl⟩ := List.exists_cons_of_ne_nil hpart
  obtain ⟨hfirst, hmore⟩ := List.forall_mem_cons.mp hascii
  rw [List.append_assoc, List.map_cons, List.cons_append]
  constructor
  · intro h
    obtain ⟨before, stop, rest, rfl, hstop, heq, hbefore, hrest⟩ :=
      exists_of_decode_eq_append (toNat_ascii_lt hfirst) h
    obtain rfl := ascii_inj hstop hfirst heq
    obtain ⟨after, rfl, hafter⟩ := exists_of_decode_eq_ascii_append hmore hrest
    exact ⟨before, after, by simp, hbefore, hafter⟩
  · rintro ⟨before, after, rfl, rfl, rfl⟩
    rw [List.append_assoc, List.cons_append, decode_append_cons hfirst, decode_ascii_append hmore]

/-- A sequence of ASCII characters is in the text if its bytes stand together. -/
theorem infix_decode_iff (hascii : ∀ byte ∈ part, byte < 0x80) (bytes : List UInt8) :
    part.map ascii <:+: decode bytes ↔ part <:+: bytes := by
  by_cases hpart : part = []
  · subst hpart
    exact iff_of_true (List.nil_infix) (List.nil_infix)
  constructor
  · rintro ⟨left, right, h⟩
    obtain ⟨before, after, rfl, -, -⟩ := (decode_eq_append_iff hpart hascii).mp h.symm
    exact ⟨before, after, rfl⟩
  · rintro ⟨before, after, rfl⟩
    exact ⟨_, _, ((decode_eq_append_iff hpart hascii).mpr ⟨before, after, rfl, rfl, rfl⟩).symm⟩

/-- What begins with a byte below 128 cannot be added to bytes without adding to their text. -/
theorem eq_nil_of_decode_append {more : List UInt8} (hpart : part ≠ [])
    (hascii : ∀ byte ∈ part, byte < 0x80) (hmore : part ++ after = more ++ rest)
    (h : decode before = decode (before ++ more)) : more = [] := by
  cases more with
  | nil => rfl
  | cons byte more =>
    obtain ⟨first, part, rfl⟩ := List.exists_cons_of_ne_nil hpart
    obtain ⟨rfl, -⟩ := List.cons.inj hmore
    rw [decode_append_cons (hascii _ List.mem_cons_self)] at h
    simp at h

/-- Bytes that are read as the same text have the part at the same place. -/
theorem eq_of_decode_eq {before' after' : List UInt8} (hpart : part ≠ [])
    (hascii : ∀ byte ∈ part, byte < 0x80)
    (h : before ++ part ++ after = before' ++ part ++ after')
    (hbefore : decode before = decode before') : before = before' := by
  rw [List.append_assoc, List.append_assoc, List.append_eq_append_iff] at h
  rcases h with ⟨more, rfl, hmore⟩ | ⟨more, rfl, hmore⟩
  · rw [eq_nil_of_decode_append hpart hascii hmore hbefore, List.append_nil]
  · rw [eq_nil_of_decode_append hpart hascii hmore hbefore.symm, List.append_nil]

/-- Each place of the text where a sequence of ASCII characters stands comes from one place of the
bytes. -/
theorem existsUnique_of_decode_eq_append (hpart : part ≠ [])
    (hascii : ∀ byte ∈ part, byte < 0x80) (h : decode bytes = left ++ part.map ascii ++ right) :
    ∃! split : List UInt8 × List UInt8, bytes = split.1 ++ part ++ split.2 ∧
      decode split.1 = left ∧ decode split.2 = right := by
  obtain ⟨before, after, rfl, rfl, rfl⟩ := (decode_eq_append_iff hpart hascii).mp h
  refine ⟨(before, after), ⟨rfl, rfl, rfl⟩, ?_⟩
  rintro ⟨before', after'⟩ ⟨hsplit, hbefore, -⟩
  obtain rfl := eq_of_decode_eq hpart hascii hsplit hbefore.symm
  exact Prod.ext rfl (List.append_cancel_left hsplit).symm

end Part

end LoadHarness.Text.Utf8
