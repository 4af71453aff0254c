import LoadHarness.CommandLine.Reader
import LoadHarness.CommandLine.Writer
import Mathlib.Data.List.Forall2
import Mathlib.Data.List.TakeWhile

/-! What reading does with a single argument.

A flag with its value behind an equals sign stands alone: whatever the value is, nothing is held
back and nothing else is asked for.

    reading.held = none → name ∈ setting.flag.names →
      reading.readArgument (setting.argumentAs name) =
        reading.complete setting.flag setting.value              (readArgument_argumentAs)

So reading a list of such arguments is entering one setting after the other
(`readAll_eq_foldlM`). -/

namespace LoadHarness.CommandLine

namespace Flag

/-- The names of a flag after two dashes. -/
def names (flag : Flag) : List String := flag.long :: flag.alias?.toList

theorem ofLong?_of_mem_names : ∀ (flag : Flag), ∀ name ∈ flag.names, ofLong? name = some flag := by
  intro flag
  cases flag <;> decide

theorem equals_notMem_names : ∀ (flag : Flag), ∀ name ∈ flag.names, '=' ∉ name.toList := by
  intro flag
  cases flag <;> decide

theorem length_pos_of_mem_names : ∀ (flag : Flag), ∀ name ∈ flag.names, 0 < name.length := by
  intro flag
  cases flag <;> decide

end Flag

namespace Setting

/-- A setting that can be written: it has a value if and only if its flag takes one, and it does not
ask for help. -/
structure Sayable (setting : Setting) : Prop where
  value : setting.value.isSome = setting.flag.takesValue
  notHelp : setting.flag ≠ .help

/-- Whether an argument says a setting, under one of the names of its flag. -/
def Spelt (setting : Setting) (argument : String) : Prop :=
  ∃ name ∈ setting.flag.names, argument = setting.argumentAs name

end Setting

/-- What a setting says, put into a line. -/
def enter (line : CommandLine) (setting : Setting) : Except UsageError CommandLine :=
  match setting.value with
  | some value => line.set setting.flag value
  | none => .ok (line.raise setting.flag)

namespace Reading

variable {reading : Reading} {line : CommandLine} {argument name : String} {setting : Setting}

theorem splitAtEquals_append (h : '=' ∉ name.toList) (value : String) :
    splitAtEquals (name.toList ++ '=' :: value.toList) = (name, some value) := by
  have hne : ∀ c ∈ name.toList, (c != '=') = true := by
    intro c hc
    exact bne_iff_ne.mpr fun heq => h (heq ▸ hc)
  unfold splitAtEquals
  rw [List.takeWhile_append_of_pos hne, List.dropWhile_append_of_pos hne]
  simp

theorem splitAtEquals_of_notMem (h : '=' ∉ name.toList) :
    splitAtEquals name.toList = (name, none) := by
  have hne : ∀ c ∈ name.toList, (c != '=') = true := by
    intro c hc
    exact bne_iff_ne.mpr fun heq => h (heq ▸ hc)
  have htake : name.toList.takeWhile (· != '=') = name.toList := List.takeWhile_eq_self_iff.mpr hne
  have hdrop : name.toList.dropWhile (· != '=') = [] := List.dropWhile_eq_nil_iff.mpr hne
  unfold splitAtEquals
  rw [htake, hdrop]
  simp

/-- The argument that says a setting is read as its flag with its value. -/
theorem readArgument_argumentAs_eq_readLong (reading : Reading) (setting : Setting)
    (hname : name ∈ setting.flag.names) :
    reading.readArgument (setting.argumentAs name) = reading.readLong name setting.value := by
  have hequals := setting.flag.equals_notMem_names name hname
  unfold readArgument Setting.argumentAs
  cases setting.value with
  | none =>
    have hlist : ("--" ++ name ++ "").toList = '-' :: '-' :: name.toList := by simp
    simp only [hlist, splitAtEquals_of_notMem hequals]
  | some value =>
    have hlist : ("--" ++ name ++ ("=" ++ value)).toList =
        '-' :: '-' :: (name.toList ++ '=' :: value.toList) := by simp
    simp only [hlist, splitAtEquals_append hequals]

/-- A value behind an equals sign is given to its flag at once. -/
theorem readArgument_joined {flag : Flag} (hname : name ∈ flag.names)
    (htakes : flag.takesValue = true) (text : String) :
    reading.readArgument (Setting.argumentAs name ⟨flag, some text⟩) =
      reading.give flag (some text) := by
  rw [readArgument_argumentAs_eq_readLong reading ⟨flag, some text⟩ hname]
  unfold readLong
  rw [flag.ofLong?_of_mem_names name hname]
  simp only [htakes, if_true]

theorem readArgument_argumentAs (hname : name ∈ setting.flag.names) (hsayable : setting.Sayable)
    (hheld : reading.held = none) :
    reading.readArgument (setting.argumentAs name) =
      reading.complete setting.flag setting.value := by
  obtain ⟨flag, value⟩ := setting
  obtain ⟨htakes, hhelp⟩ := hsayable
  have hgive : reading.give flag value = reading.complete flag value := by
    unfold give release
    rw [hheld]
    rfl
  cases value with
  | none =>
    rw [readArgument_argumentAs_eq_readLong reading ⟨flag, none⟩ hname, ← hgive]
    unfold readLong
    rw [flag.ofLong?_of_mem_names name hname]
    simp only [← htakes]
    cases flag <;> simp_all
  | some text => rw [readArgument_joined hname htakes.symm, hgive]

theorem complete_eq (hsayable : setting.Sayable)
    (honce : setting.flag ∈ reading.given → setting.flag.repeatable = true) :
    reading.complete setting.flag setting.value =
      (reading.line.enter setting).map fun line =>
        { reading with line := line, given := setting.flag :: reading.given } := by
  have htakes := hsayable.value
  have hmissing : (setting.flag.takesValue && setting.value.isNone) = false := by
    rw [← htakes]
    cases setting.value <;> rfl
  have hrepeated : (!setting.flag.repeatable && reading.given.contains setting.flag) = false := by
    by_cases hgiven : setting.flag ∈ reading.given
    · simp [honce hgiven]
    · simp [hgiven]
  unfold complete enter
  rw [hmissing, hrepeated]
  simp only [Bool.false_eq_true, if_false]
  cases setting.value with
  | none => rfl
  | some value =>
    simp only
    cases reading.line.set setting.flag value <;> rfl

/-! ## Lists of arguments -/

theorem argumentAs_ne_dashes (setting : Setting) (hname : name ∈ setting.flag.names) :
    setting.argumentAs name ≠ "--" := by
  intro heq
  have hlength := congrArg String.length heq
  have hpos := setting.flag.length_pos_of_mem_names name hname
  have hdashes : "--".length = 2 := rfl
  simp only [Setting.argumentAs, String.length_append, hdashes] at hlength
  omega

theorem readAll_cons (hdashes : argument ≠ "--") (rest : List String) :
    reading.readAll (argument :: rest) =
      (reading.readArgument argument).bind fun next => next.readAll rest := by
  rw [readAll.eq_def]
  split
  · rename_i heq
    cases heq
  · rename_i heq
    cases heq
    exact absurd rfl hdashes
  · rename_i heq
    cases heq
    exact absurd rfl hdashes
  · rename_i heq
    cases heq
    cases reading.readArgument argument <;> rfl

/-- Reading the arguments that say settings is entering the settings, one after the other.  The
induction is on the arguments; what has been read before matters only in that no flag that stands
alone is there already. -/
theorem readAll_eq_foldlM {settings : List Setting} {arguments : List String}
    (hspelt : List.Forall₂ Setting.Spelt settings arguments)
    (hsayable : ∀ setting ∈ settings, setting.Sayable)
    (honce : settings.Pairwise fun first second =>
      first.flag = second.flag → second.flag.repeatable = true)
    (hgiven : ∀ setting ∈ settings, setting.flag ∈ reading.given → setting.flag.repeatable = true)
    (hheld : reading.held = none) :
    reading.readAll arguments = settings.foldlM enter reading.line := by
  induction hspelt generalizing reading with
  | nil =>
    unfold readAll release
    rw [hheld]
    rfl
  | @cons setting argument settings arguments hspelt _ ih =>
    obtain ⟨name, hname, rfl⟩ := hspelt
    have hfirst := hsayable setting List.mem_cons_self
    obtain ⟨hhead, htail⟩ := List.pairwise_cons.mp honce
    rw [readAll_cons (argumentAs_ne_dashes setting hname), readArgument_argumentAs hname hfirst hheld,
      complete_eq hfirst (hgiven setting List.mem_cons_self), List.foldlM_cons]
    cases reading.line.enter setting with
    | error e => rfl
    | ok line =>
      apply ih
      · exact fun other hmem => hsayable other (List.mem_cons_of_mem setting hmem)
      · exact htail
      · intro other hmem hthere
        rcases List.mem_cons.mp hthere with heq | hthere
        · exact hhead other hmem heq.symm
        · exact hgiven other (List.mem_cons_of_mem setting hmem) hthere
      · exact hheld

end Reading

end LoadHarness.CommandLine
