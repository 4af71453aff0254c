import LoadHarness.Proofs.CommandLine.Reader

/-! A flag and its value, in one argument or in two.

    parse (before ++ ["--name", text] ++ rest) = .ok line ↔
      parse (before ++ ["--name=text"] ++ rest) = .ok line                   (parse_apart_iff)

A flag in an argument of its own is held back, and is judged later than one with its value behind an
equals sign; so the errors may differ, and what is read without one does not.  Whatever follows,
reading goes on from what is left once the held flag is judged (`readAll_congr`), and fails if that
fails (`readAll_error_of_release`).  A value that looks like a flag, with a dash and more, can only
stand behind an equals sign. -/

namespace LoadHarness.CommandLine

/-- What is done in two parts succeeds if both succeed. -/
theorem exists_ok_of_bind {α β : Type} {first : Except UsageError α}
    {second : α → Except UsageError β} {b : β} (h : (first >>= second) = .ok b) :
    ∃ a, first = .ok a ∧ second a = .ok b := by
  cases first with
  | error e => cases h
  | ok a => exact ⟨a, rfl, h⟩

namespace Reading

variable {reading next : Reading} {flag : Flag} {value : Option String} {text name : String}
  {e : UsageError}

/-! ## Waiting for a value -/

/-- A text that is read as a flag wherever it stands: a dash and more. -/
def Dashed (text : String) : Prop := ∃ c rest, text.toList = '-' :: c :: rest

/-- A reading that waits for a value only while it holds a flag back. -/
def Sound (reading : Reading) : Prop := reading.held = none → reading.waiting = false

/-- A reading with nothing held back. -/
structure Clear (reading : Reading) : Prop where
  held : reading.held = none
  waiting : reading.waiting = false

theorem Clear.sound (h : reading.Clear) : reading.Sound := fun _ => h.waiting

theorem start_clear : start.Clear := ⟨rfl, rfl⟩

theorem Clear.release (h : reading.Clear) : reading.release = .ok reading := by
  unfold Reading.release
  rw [h.held]

theorem Clear.complete (h : reading.Clear) (hnext : reading.complete flag value = .ok next) :
    next.Clear := by
  unfold Reading.complete at hnext
  split at hnext
  · cases hnext
  split at hnext
  · cases hnext
  split at hnext
  · split at hnext
    · cases hnext
      exact ⟨h.held, h.waiting⟩
    · cases hnext
  · cases hnext
    exact ⟨h.held, h.waiting⟩

theorem Sound.release (h : reading.Sound) (hnext : reading.release = .ok next) : next.Clear := by
  unfold Reading.release at hnext
  split at hnext
  · rename_i hheld
    cases hnext
    exact ⟨hheld, h hheld⟩
  · exact Clear.complete ⟨rfl, rfl⟩ hnext

theorem Sound.give (h : reading.Sound) (hnext : reading.give flag value = .ok next) :
    next.Clear := by
  obtain ⟨released, hrelease, hcomplete⟩ := exists_ok_of_bind hnext
  exact (h.release hrelease).complete hcomplete

theorem hold_sound (hnext : reading.hold flag = .ok next) : next.Sound := by
  obtain ⟨released, -, hheld⟩ := exists_ok_of_bind hnext
  cases hheld
  exact nofun

theorem Sound.readLong (h : reading.Sound) (hnext : reading.readLong name value = .ok next) :
    next.Sound := by
  unfold Reading.readLong at hnext
  split at hnext
  · cases hnext
  split at hnext
  · split at hnext
    · exact (h.give hnext).sound
    · exact hold_sound hnext
  split at hnext
  · cases hnext
  split at hnext
  · obtain ⟨_, -, hhelp⟩ := exists_ok_of_bind hnext
    cases hhelp
  · exact (h.give hnext).sound

theorem Sound.readShort {letters : List Char} (h : reading.Sound)
    (hnext : reading.readShort letters = .ok next) : next.Sound := by
  induction letters generalizing reading with
  | nil =>
    cases hnext
    exact h
  | cons letter rest ih =>
    unfold Reading.readShort at hnext
    split at hnext
    · cases hnext
    rename_i flag _
    split at hnext
    · split at hnext
      · exact hold_sound hnext
      · exact (h.give hnext).sound
      · exact (h.give hnext).sound
    split at hnext
    · obtain ⟨_, -, hhelp⟩ := exists_ok_of_bind hnext
      cases hhelp
    · obtain ⟨given, hgive, hrest⟩ := exists_ok_of_bind hnext
      exact ih (h.give hgive).sound hrest

theorem Sound.readArgument {argument : String} (h : reading.Sound)
    (hnext : reading.readArgument argument = .ok next) : next.Sound := by
  unfold Reading.readArgument at hnext
  split at hnext
  · exact h.readLong hnext
  · exact h.readShort hnext
  · split at hnext
    · cases hnext
      exact fun _ => rfl
    · cases hnext

/-- After some arguments the reading is one that goes on with whatever follows, unless nothing may
follow them. -/
theorem readAll_append (h : reading.Sound) (before : List String) :
    (∀ tail, tail ≠ [] → ∃ e, reading.readAll (before ++ tail) = .error e) ∨
      ∃ next : Reading, next.Sound ∧
        ∀ tail, reading.readAll (before ++ tail) = next.readAll tail := by
  induction before generalizing reading with
  | nil => exact .inr ⟨reading, h, fun _ => rfl⟩
  | cons argument before ih =>
    by_cases hdashes : argument = "--"
    · left
      intro tail hne
      obtain ⟨first, others, hcons⟩ :=
        List.exists_cons_of_ne_nil (List.append_ne_nil_of_right_ne_nil before hne)
      refine ⟨.unexpectedArgument first, ?_⟩
      rw [hdashes, List.cons_append, hcons]
      rfl
    · have hread : ∀ tail, reading.readAll (argument :: before ++ tail) =
          (reading.readArgument argument).bind fun next => next.readAll (before ++ tail) :=
        fun tail => readAll_cons hdashes (before ++ tail)
      cases hargument : reading.readArgument argument with
      | error e =>
        left
        intro tail _
        exact ⟨e, by rw [hread, hargument]; rfl⟩
      | ok next =>
        have hnext : ∀ tail, reading.readAll (argument :: before ++ tail) =
            next.readAll (before ++ tail) := by
          intro tail
          rw [hread, hargument]
          rfl
        simp only [hnext]
        exact ih (h.readArgument hargument)

/-! ## Judging what is held back -/

theorem give_error (h : reading.release = .error e) : reading.give flag value = .error e := by
  unfold give
  rw [h]
  rfl

theorem hold_error (h : reading.release = .error e) : reading.hold flag = .error e := by
  unfold hold
  rw [h]
  rfl

theorem readLong_error (h : reading.release = .error e) (name : String)
    (value : Option String) : ∃ e', reading.readLong name value = .error e' := by
  unfold readLong
  split
  · exact ⟨_, rfl⟩
  split
  · split
    · exact ⟨e, give_error h⟩
    · exact ⟨e, hold_error h⟩
  split
  · exact ⟨_, rfl⟩
  split
  · rw [h]
    exact ⟨e, rfl⟩
  · exact ⟨e, give_error h⟩

theorem readShort_error (h : reading.release = .error e) (letter : Char) (rest : List Char) :
    ∃ e', reading.readShort (letter :: rest) = .error e' := by
  unfold readShort
  split
  · exact ⟨_, rfl⟩
  split
  · split
    · exact ⟨e, hold_error h⟩
    · exact ⟨e, give_error h⟩
    · exact ⟨e, give_error h⟩
  split
  · rw [h]
    exact ⟨e, rfl⟩
  · rw [give_error h]
    exact ⟨e, rfl⟩

/-- What is held back and cannot be judged is no matter for what follows: there is an error. -/
theorem readAll_error_of_release (h : reading.release = .error e) (arguments : List String)
    (htext : ∀ argument ∈ arguments.head?, reading.waiting = true → Dashed argument) :
    ∃ e, reading.readAll arguments = .error e := by
  cases arguments with
  | nil =>
    refine ⟨e, ?_⟩
    unfold readAll
    rw [h]
    rfl
  | cons argument arguments =>
    by_cases hdashes : argument = "--"
    · subst hdashes
      cases arguments with
      | nil =>
        refine ⟨e, ?_⟩
        unfold readAll
        rw [h]
        rfl
      | cons argument arguments => exact ⟨_, rfl⟩
    · have hargument : ∃ e, reading.readArgument argument = .error e := by
        unfold readArgument
        split
        · exact readLong_error h _ _
        · exact readShort_error h _ _
        · rename_i hnot
          rw [if_neg]
          · exact ⟨_, rfl⟩
          · intro hwaiting
            obtain ⟨c, rest, heq⟩ := htext argument rfl hwaiting
            exact hnot c rest heq
      obtain ⟨e, hargument⟩ := hargument
      refine ⟨e, ?_⟩
      rw [readAll_cons hdashes, hargument]
      rfl

/-- What is read goes by what is left once the held flag is judged. -/
theorem readAll_congr (h : reading.release = next.release) (hwaiting : reading.waiting = false)
    (hwaiting' : next.waiting = false) (arguments : List String) :
    reading.readAll arguments = next.readAll arguments := by
  have hgive : reading.give = next.give := by
    funext flag value
    unfold give
    rw [h]
  have hhold : reading.hold = next.hold := by
    funext flag
    unfold hold
    rw [h]
  have hargument : ∀ argument, reading.readArgument argument = next.readArgument argument := by
    intro argument
    unfold readArgument
    split
    · unfold readLong
      rw [hgive, hhold, h]
    · unfold readShort
      rw [hgive, hhold, h]
    · rw [hwaiting, hwaiting']
      rfl
  cases arguments with
  | nil =>
    unfold readAll
    rw [h]
  | cons argument arguments =>
    by_cases hdashes : argument = "--"
    · subst hdashes
      cases arguments with
      | nil =>
        unfold readAll
        rw [h]
        rfl
      | cons argument arguments => rfl
    · rw [readAll_cons hdashes, readAll_cons hdashes, hargument]

/-! ## The value in the next argument -/

section

variable (hname : name ∈ flag.names) (htakes : flag.takesValue = true)

include hname htakes

theorem readArgument_alone :
    reading.readArgument (Setting.argumentAs name ⟨flag, none⟩) = reading.hold flag := by
  rw [readArgument_argumentAs_eq_readLong reading ⟨flag, none⟩ hname]
  unfold readLong
  rw [flag.ofLong?_of_mem_names name hname]
  simp only [htakes, if_true]

theorem readAll_joined (text : String) (rest : List String) :
    reading.readAll (Setting.argumentAs name ⟨flag, some text⟩ :: rest) =
      (reading.give flag (some text)).bind fun next => next.readAll rest := by
  rw [readAll_cons (argumentAs_ne_dashes ⟨flag, some text⟩ hname),
    readArgument_joined hname htakes]

theorem readAll_apart (text : String) (rest : List String) :
    reading.readAll (Setting.argumentAs name ⟨flag, none⟩ :: text :: rest) =
      reading.release.bind fun next =>
        { next with held := some (flag, none), waiting := true }.readAll (text :: rest) := by
  rw [readAll_cons (argumentAs_ne_dashes ⟨flag, none⟩ hname),
    readArgument_alone hname htakes]
  unfold hold
  cases reading.release <;> rfl

theorem readAll_apart_iff (h : reading.Sound) (htext : ¬ Dashed text) (rest : List String)
    (line : CommandLine) :
    reading.readAll (Setting.argumentAs name ⟨flag, none⟩ :: text :: rest) = .ok line ↔
      reading.readAll (Setting.argumentAs name ⟨flag, some text⟩ :: rest) = .ok line := by
  rw [readAll_apart hname htakes, readAll_joined hname htakes]
  unfold give
  cases hrelease : reading.release with
  | error e => exact Iff.rfl
  | ok released =>
    have hclear := h.release hrelease
    have hdashes : text ≠ "--" := by
      rintro rfl
      exact htext ⟨'-', [], rfl⟩
    have hsupply : { released with held := some (flag, none), waiting := true }.readArgument text =
        .ok { released with held := some (flag, some text), waiting := false } := by
      unfold readArgument
      split
      · rename_i heq
        exact absurd ⟨_, _, heq⟩ htext
      · rename_i heq
        exact absurd ⟨_, _, heq⟩ htext
      · rfl
    have hjudged : ({ released with held := some (flag, some text), waiting := false } :
        Reading).release = released.complete flag (some text) := by
      obtain ⟨line, given, held, waiting⟩ := released
      obtain ⟨rfl, rfl⟩ := hclear
      rfl
    show ({ released with held := some (flag, none), waiting := true } : Reading).readAll
        (text :: rest) = _ ↔ (released.complete flag (some text)).bind _ = _
    rw [readAll_cons hdashes, hsupply]
    show ({ released with held := some (flag, some text), waiting := false } : Reading).readAll
        rest = _ ↔ _
    cases hcomplete : released.complete flag (some text) with
    | error e =>
      rw [hcomplete] at hjudged
      obtain ⟨e', he'⟩ := readAll_error_of_release hjudged rest (by simp)
      rw [he']
      exact ⟨nofun, nofun⟩
    | ok judged =>
      have hafter := hclear.complete hcomplete
      rw [hcomplete, ← hafter.release] at hjudged
      rw [readAll_congr hjudged rfl hafter.waiting]
      exact Iff.rfl

theorem readAll_apart_dashed (htext : Dashed text) (rest : List String) :
    ∃ e, reading.readAll (Setting.argumentAs name ⟨flag, none⟩ :: text :: rest) = .error e := by
  rw [readAll_apart hname htakes]
  cases reading.release with
  | error e => exact ⟨e, rfl⟩
  | ok released =>
    have hmissing : ({ released with held := some (flag, none), waiting := true } :
        Reading).release = .error (.missingValue flag) := by
      unfold release complete
      simp [htakes]
    apply readAll_error_of_release hmissing
    rintro argument hhead -
    cases hhead
    exact htext

end

end Reading

open Reading (Dashed)

variable {flag : Flag} {name text : String} {tail other : List String}

/-- What follows other arguments is read as it would be by itself. -/
theorem parse_append_congr (hne : tail ≠ []) (hne' : other ≠ [])
    (h : ∀ reading : Reading, reading.Sound → ∀ line,
      reading.readAll tail = .ok line ↔ reading.readAll other = .ok line)
    (before : List String) (line : CommandLine) :
    parse (before ++ tail) = .ok line ↔ parse (before ++ other) = .ok line := by
  unfold parse
  rcases Reading.readAll_append Reading.start_clear.sound before with
    hclosed | ⟨next, hsound, hnext⟩
  · obtain ⟨e, he⟩ := hclosed tail hne
    obtain ⟨e', he'⟩ := hclosed other hne'
    rw [he, he']
    exact ⟨nofun, nofun⟩
  · rw [hnext, hnext]
    exact h next hsound line

theorem parse_append_error (hne : tail ≠ [])
    (h : ∀ reading : Reading, ∃ e, reading.readAll tail = .error e) (before : List String) :
    ∃ e, parse (before ++ tail) = .error e := by
  unfold parse
  rcases Reading.readAll_append Reading.start_clear.sound before with hclosed | ⟨next, -, hnext⟩
  · exact hclosed tail hne
  · rw [hnext]
    exact h next

/-- Wherever a flag stands, its value may be the next argument as well, if that does not look like a
flag itself; then there is no value. -/
theorem parse_apart_iff (hname : name ∈ flag.names) (htakes : flag.takesValue = true)
    (before : List String) (text : String) (rest : List String) (line : CommandLine) :
    parse (before ++ Setting.argumentAs name ⟨flag, none⟩ :: text :: rest) = .ok line ↔
      ¬ Dashed text ∧
        parse (before ++ Setting.argumentAs name ⟨flag, some text⟩ :: rest) = .ok line := by
  by_cases hdashed : Dashed text
  · obtain ⟨e, he⟩ := parse_append_error (List.cons_ne_nil _ _)
      (fun reading => reading.readAll_apart_dashed hname htakes hdashed rest) before
    rw [he]
    exact ⟨nofun, fun h => absurd hdashed h.1⟩
  · rw [parse_append_congr (List.cons_ne_nil _ _) (List.cons_ne_nil _ _)
      (fun _ hsound => Reading.readAll_apart_iff hname htakes hsound hdashed rest)]
    exact ⟨fun h => ⟨hdashed, h⟩, And.right⟩

end LoadHarness.CommandLine
