import LoadHarness.Proofs.CommandLine.Reader
import LoadHarness.Proofs.Options
import LoadHarness.Proofs.Text.Number
import Mathlib.Data.Option.Basic

/-! A command line is read back from the arguments that write it.

    line.Writable → Writes arguments line → parse arguments = .ok line        (Writes.parse_eq)

What a line says is a list of values for each flag (`said`), and it is known by those lists
(`ext_said`).  Entering a setting adds to one list and leaves the others alone (`Adds`), so what has
been entered in the end is told flag by flag (`exists_foldlM_enter`), and the order of settings of
different flags is no matter.  A flag that may not be repeated has one value at most; for such a
flag a permutation is an equation, and what is left out of it is the default. -/

namespace LoadHarness.CommandLine

variable {line other next : CommandLine} {setting : Setting} {flag : Flag}

/-- The values that a line has for a flag, in order; a raised flag has none. -/
def said (line : CommandLine) : Flag → List (Option String)
  | .target => line.target.toList.map some
  | .virtualUsers => line.virtualUsers.toList.map fun n => some (toString n)
  | .duration => line.duration.toList.map fun n => some (toString n)
  | .iterations => line.iterations.toList.map fun n => some (toString n)
  | .pacingMs => line.pacingMs.toList.map fun n => some (toString n)
  | .ioTimeoutMs => [some (toString line.ioTimeoutMs)]
  | .tlsMin => line.tlsMin.toList.map fun version => some version.name
  | .tlsMax => line.tlsMax.toList.map fun version => some version.name
  | .cipherSuite => line.cipherSuites.map some
  | .insecure => if line.insecure then [none] else []
  | .noProgress => if line.noProgress then [none] else []
  | .reporter => [some line.reporter.name]
  | .runId => line.runId.toList.map some
  | .help => []

/-- The settings of a line, flag by flag. -/
theorem settings_eq_flatMap (line : CommandLine) :
    line.settings = Flag.all.flatMap fun flag => (line.said flag).map (Setting.mk flag) := by
  have hoption : ∀ {α : Type} (flag : Flag) (text : α → String) (value : Option α),
      (value.map text).toList.map (fun text => (⟨flag, some text⟩ : Setting)) =
        (value.toList.map fun a => some (text a)).map (Setting.mk flag) := by
    intro α flag text value
    cases value <;> rfl
  have hraised : ∀ (flag : Flag) (isRaised : Bool),
      (if isRaised then [⟨flag, none⟩] else [] : List Setting) =
        (if isRaised then [none] else []).map (Setting.mk flag) := by
    intro flag isRaised
    cases isRaised <;> rfl
  simp [settings, Flag.all, said, hoption, hraised, Function.comp_def]

theorem mem_settings_iff : setting ∈ line.settings ↔ setting.value ∈ line.said setting.flag := by
  rw [settings_eq_flatMap, List.mem_flatMap]
  constructor
  · rintro ⟨flag, -, hmem⟩
    obtain ⟨value, hvalue, rfl⟩ := List.mem_map.mp hmem
    exact hvalue
  · intro hmem
    have hall : setting.flag ∈ Flag.all := by cases setting.flag <;> decide
    exact ⟨setting.flag, hall, List.mem_map.mpr ⟨setting.value, hmem, rfl⟩⟩

/-- The values that settings give to a flag, in order. -/
def saidIn (settings : List Setting) (flag : Flag) : List (Option String) :=
  (settings.filter fun setting => setting.flag == flag).map (·.value)

theorem saidIn_map_mk (values : List (Option String)) (flag other : Flag) :
    saidIn (values.map (Setting.mk other)) flag = if other = flag then values else [] := by
  unfold saidIn
  by_cases h : other = flag
  · rw [if_pos h, List.filter_eq_self.mpr (by simp [h]), List.map_map]
    exact List.map_id' _
  · rw [if_neg h, List.filter_eq_nil_iff.mpr (by simp [h])]
    rfl

theorem saidIn_flatMap (flags : List Flag) (part : Flag → List Setting) (flag : Flag) :
    saidIn (flags.flatMap part) flag = flags.flatMap fun other => saidIn (part other) flag := by
  simp only [saidIn, List.filter_flatMap, List.map_flatMap]

theorem saidIn_settings (line : CommandLine) (flag : Flag) :
    saidIn line.settings flag = line.said flag := by
  simp only [settings_eq_flatMap, saidIn_flatMap, saidIn_map_mk]
  cases flag <;> simp [Flag.all]

/-- A flag that may stand once has one value at most. -/
theorem length_said_le_one (line : CommandLine) (h : flag.repeatable = false) :
    (line.said flag).length ≤ 1 := by
  have hoption : ∀ {α : Type} (value : Option α) (text : α → Option String),
      (value.toList.map text).length ≤ 1 := by
    intro α value text
    cases value <;> simp
  have hraised : ∀ isRaised : Bool,
      (if isRaised then [none] else [] : List (Option String)).length ≤ 1 := by
    intro isRaised
    cases isRaised <;> simp
  cases flag with
  | cipherSuite => exact absurd h (by decide)
  | target | virtualUsers | duration | iterations | pacingMs | tlsMin | tlsMax | runId =>
    exact hoption _ _
  | insecure | noProgress => exact hraised _
  | ioTimeoutMs | reporter => exact Nat.le_refl 1
  | help => exact Nat.zero_le 1

/-- A line is known by what it says. -/
theorem ext_said (h : ∀ flag, line.said flag = other.said flag) : line = other := by
  have hoption : ∀ {α : Type} {value value' : Option α} {text : α → Option String},
      Function.Injective text → value.toList.map text = value'.toList.map text →
        value = value' := by
    intro α value value' text hinjective heq
    have hlist : value.toList = value'.toList := List.map_injective_iff.mpr hinjective heq
    rw [← Option.head?_toList (o := value), hlist, Option.head?_toList]
  have hraised : ∀ {isRaised isRaised' : Bool},
      (if isRaised then [none] else [] : List (Option String)) =
        (if isRaised' then [none] else []) → isRaised = isRaised' := by
    intro isRaised isRaised' heq
    cases isRaised <;> cases isRaised' <;> simp_all
  have hnumber : Function.Injective fun n : Nat => some (toString n) :=
    fun n m heq => Text.toString_injective (Option.some.inj heq)
  have hversion : Function.Injective fun version : Tls.Version => some version.name := by
    intro version version'
    cases version <;> cases version' <;> simp [Tls.Version.name]
  have hreporter : ∀ {choice choice' : ReporterChoice}, choice.name = choice'.name →
      choice = choice' := by
    intro choice choice'
    cases choice <;> cases choice' <;> simp [ReporterChoice.name]
  have hsuites : line.cipherSuites = other.cipherSuites :=
    List.map_injective_iff.mpr (Option.some_injective _) (h .cipherSuite)
  have htimeout : line.ioTimeoutMs = other.ioTimeoutMs :=
    hnumber (List.head_eq_of_cons_eq (h .ioTimeoutMs))
  have hchoice : line.reporter = other.reporter :=
    hreporter (Option.some.inj (List.head_eq_of_cons_eq (h .reporter)))
  cases line
  cases other
  rw [CommandLine.mk.injEq]
  exact ⟨hoption (Option.some_injective _) (h .target), hoption hnumber (h .virtualUsers),
    hoption hnumber (h .duration), hoption hnumber (h .iterations), hoption hnumber (h .pacingMs),
    htimeout, hoption hversion (h .tlsMin), hoption hversion (h .tlsMax), hsuites,
    hraised (h .insecure), hraised (h .noProgress), hchoice,
    hoption (Option.some_injective _) (h .runId)⟩

/-! ## Entering settings -/

/-- A line that says what another one says and a setting more: after what that has for the flag, if
the flag may be repeated, and in place of it otherwise. -/
def Adds (base : CommandLine) (setting : Setting) (next : CommandLine) : Prop :=
  ∀ flag, next.said flag =
    if flag = setting.flag then
      if flag.repeatable then base.said flag ++ [setting.value] else [setting.value]
    else base.said flag

/-- A setting that can be put into a line. -/
def Enters (base : CommandLine) (setting : Setting) : Prop :=
  ∃ next, base.enter setting = .ok next ∧ base.Adds setting next

section Enters

variable (base : CommandLine)

theorem enters_text (text : String) (hflag : flag = .target ∨ flag = .runId) :
    base.Enters ⟨flag, some text⟩ := by
  rcases hflag with rfl | rfl
  all_goals
    refine ⟨_, rfl, ?_⟩
    intro flag
    cases flag <;> rfl

theorem enters_suite (suite : String) : base.Enters ⟨.cipherSuite, some suite⟩ := by
  refine ⟨_, rfl, ?_⟩
  intro flag
  cases flag with
  | cipherSuite => exact List.map_append
  | _ => rfl

theorem enters_number {n : Nat} (h : n ≤ Text.maxWord)
    (hflag : flag = .virtualUsers ∨ flag = .duration ∨ flag = .iterations ∨ flag = .pacingMs ∨
      flag = .ioTimeoutMs) : base.Enters ⟨flag, some (toString n)⟩ := by
  have hread := Text.readNumber_toString h
  rcases hflag with rfl | rfl | rfl | rfl | rfl
  all_goals
    refine ⟨_, by simp only [enter, set, hread]; rfl, ?_⟩
    intro flag
    cases flag <;> rfl

theorem enters_version (version : Tls.Version) (hflag : flag = .tlsMin ∨ flag = .tlsMax) :
    base.Enters ⟨flag, some version.name⟩ := by
  have hparse : Tls.Version.parse version.name = .ok version := by cases version <;> decide
  rcases hflag with rfl | rfl
  all_goals
    refine ⟨_, by simp only [enter, set, hparse]; rfl, ?_⟩
    intro flag
    cases flag <;> rfl

theorem enters_reporter (choice : ReporterChoice) :
    base.Enters ⟨.reporter, some choice.name⟩ := by
  have hchoice : ReporterChoice.ofName? choice.name = some choice := by cases choice <;> decide
  refine ⟨_, by simp only [enter, set, hchoice]; rfl, ?_⟩
  intro flag
  cases flag <;> rfl

theorem enters_raised (hflag : flag = .insecure ∨ flag = .noProgress) :
    base.Enters ⟨flag, none⟩ := by
  rcases hflag with rfl | rfl
  all_goals
    refine ⟨_, rfl, ?_⟩
    intro flag
    cases flag <;> rfl

end Enters

/-- Whatever a line says can be put into any other line. -/
theorem enters_of_mem_settings (hwritable : line.Writable) (hmem : setting ∈ line.settings)
    (base : CommandLine) : base.Enters setting := by
  rw [mem_settings_iff] at hmem
  obtain ⟨flag, value⟩ := setting
  simp only at hmem
  have hraised : ∀ {isRaised : Bool}, value ∈ (if isRaised then [none] else [] : List _) →
      value = none := by
    intro isRaised hmem
    cases isRaised <;> simp_all
  cases flag with
  | target | runId =>
    obtain ⟨text, -, rfl⟩ := List.mem_map.mp hmem
    exact base.enters_text text (by simp)
  | cipherSuite =>
    obtain ⟨suite, -, rfl⟩ := List.mem_map.mp hmem
    exact base.enters_suite suite
  | virtualUsers =>
    obtain ⟨n, hn, rfl⟩ := List.mem_map.mp hmem
    exact base.enters_number (hwritable.virtualUsers n (Option.mem_toList.mp hn)) (by simp)
  | duration =>
    obtain ⟨n, hn, rfl⟩ := List.mem_map.mp hmem
    exact base.enters_number (hwritable.duration n (Option.mem_toList.mp hn)) (by simp)
  | iterations =>
    obtain ⟨n, hn, rfl⟩ := List.mem_map.mp hmem
    exact base.enters_number (hwritable.iterations n (Option.mem_toList.mp hn)) (by simp)
  | pacingMs =>
    obtain ⟨n, hn, rfl⟩ := List.mem_map.mp hmem
    exact base.enters_number (hwritable.pacingMs n (Option.mem_toList.mp hn)) (by simp)
  | ioTimeoutMs =>
    rw [said, List.mem_singleton] at hmem
    subst hmem
    exact base.enters_number hwritable.ioTimeoutMs (by simp)
  | tlsMin | tlsMax =>
    obtain ⟨version, -, rfl⟩ := List.mem_map.mp hmem
    exact base.enters_version version (by simp)
  | reporter =>
    rw [said, List.mem_singleton] at hmem
    subst hmem
    exact base.enters_reporter line.reporter
  | insecure | noProgress =>
    rw [hraised hmem]
    exact base.enters_raised (by simp)
  | help => cases hmem

/-! ## Entering all that a line says -/

theorem saidIn_cons_self (setting : Setting) (settings : List Setting) :
    saidIn (setting :: settings) setting.flag = setting.value :: saidIn settings setting.flag := by
  simp [saidIn]

theorem saidIn_cons_of_ne {settings : List Setting} (h : flag ≠ setting.flag) :
    saidIn (setting :: settings) flag = saidIn settings flag := by
  simp [saidIn, Ne.symm h]

theorem saidIn_eq_nil_iff {settings : List Setting} :
    saidIn settings flag = [] ↔ ∀ setting ∈ settings, setting.flag ≠ flag := by
  simp [saidIn]

/-- Settings are entered one after the other.  A flag that may be repeated has all its values in the
end, after those that were there; any other has the one that was entered, if there is one. -/
theorem exists_foldlM_enter {settings : List Setting} (hwritable : line.Writable)
    (hfrom : ∀ setting ∈ settings, setting ∈ line.settings)
    (honce : settings.Pairwise fun first second =>
      first.flag = second.flag → second.flag.repeatable = true) (base : CommandLine) :
    ∃ final, settings.foldlM enter base = .ok final ∧ ∀ flag, final.said flag =
      if flag.repeatable then base.said flag ++ saidIn settings flag
      else if saidIn settings flag = [] then base.said flag else saidIn settings flag := by
  induction settings generalizing base with
  | nil =>
    refine ⟨base, rfl, ?_⟩
    intro flag
    simp [saidIn]
  | cons setting settings ih =>
    obtain ⟨hhead, htail⟩ := List.pairwise_cons.mp honce
    obtain ⟨next, henter, hadds⟩ :=
      enters_of_mem_settings hwritable (hfrom setting List.mem_cons_self) base
    have hrest : ∀ other ∈ settings, other ∈ line.settings := fun other hmem =>
      hfrom other (List.mem_cons_of_mem setting hmem)
    obtain ⟨final, hfold, hsaid⟩ := ih hrest htail next
    refine ⟨final, ?_, ?_⟩
    · rw [List.foldlM_cons, henter]
      exact hfold
    intro flag
    rw [hsaid flag, hadds flag]
    by_cases hflag : flag = setting.flag
    · subst hflag
      rw [saidIn_cons_self]
      by_cases hrepeatable : setting.flag.repeatable = true
      · simp [hrepeatable]
      · have hnone : saidIn settings setting.flag = [] := by
          rw [saidIn_eq_nil_iff]
          intro other hmem heq
          exact hrepeatable (heq ▸ hhead other hmem heq.symm)
        simp [hrepeatable, hnone]
    · rw [saidIn_cons_of_ne hflag, if_neg hflag]

/-! ## Writing a line and reading it -/

/-- Settings that make up a line: all that it says in any order, with the suites in theirs.  What a
line says by default may be left out. -/
structure Arranges (settings : List Setting) (line : CommandLine) : Prop where
  whole : ∃ omitted, (settings ++ omitted).Perm line.settings ∧
    ∀ setting ∈ omitted, setting ∈ empty.settings
  suites : saidIn settings .cipherSuite = line.cipherSuites.map some

/-- Arguments that write a line: settings that make it up, each as one argument under one of the
names of its flag. -/
def Writes (arguments : List String) (line : CommandLine) : Prop :=
  ∃ settings, Arranges settings line ∧ List.Forall₂ Setting.Spelt settings arguments

theorem sayable_of_mem_settings (hmem : setting ∈ line.settings) : setting.Sayable := by
  rw [mem_settings_iff] at hmem
  obtain ⟨flag, value⟩ := setting
  constructor
  · cases flag <;> grind [said, Flag.takesValue, Flag.placeholder?]
  · rintro rfl
    cases hmem

/-- A flag that may not be repeated stands in a line once at most. -/
theorem pairwise_settings (line : CommandLine) :
    line.settings.Pairwise fun first second =>
      first.flag = second.flag → second.flag.repeatable = true := by
  rw [settings_eq_flatMap, List.pairwise_flatMap]
  constructor
  · intro flag _
    rw [List.pairwise_map]
    by_cases hrepeatable : flag.repeatable = true
    · exact List.pairwise_of_forall fun _ _ _ => hrepeatable
    · have hlength := line.length_said_le_one (Bool.eq_false_iff.mpr hrepeatable)
      match hsaid : line.said flag with
      | [] => exact List.Pairwise.nil
      | [value] => exact List.pairwise_singleton _ _
      | _ :: _ :: _ =>
        rw [hsaid] at hlength
        simp at hlength
  · have hall : Flag.all.Pairwise (· ≠ ·) := by decide
    refine hall.imp ?_
    intro flag flag' hne first hfirst second hsecond heq
    obtain ⟨_, _, rfl⟩ := List.mem_map.mp hfirst
    obtain ⟨_, _, rfl⟩ := List.mem_map.mp hsecond
    exact absurd heq hne

theorem said_empty_eq_nil (h : line.said flag = []) : empty.said flag = [] := by
  cases flag with
  | ioTimeoutMs | reporter => cases h
  | _ => rfl

theorem eq_of_perm_of_length_le_one {α : Type} {list list' : List α} (h : list.Perm list')
    (hlength : list'.length ≤ 1) : list = list' := by
  match list' with
  | [] => exact h.eq_nil
  | [a] => exact List.perm_singleton.mp h
  | _ :: _ :: _ => simp at hlength

theorem eq_singleton_of_mem {α : Type} {a : α} {list : List α} (h : a ∈ list)
    (hlength : list.length ≤ 1) : list = [a] := by
  match list with
  | [b] => rw [List.mem_singleton.mp h]
  | _ :: _ :: _ => simp at hlength

namespace Arranges

variable {settings : List Setting}

theorem perm_said (h : Arranges settings line) (flag : Flag) :
    ∃ omitted, (∀ value ∈ omitted, value ∈ empty.said flag) ∧
      (saidIn settings flag ++ omitted).Perm (line.said flag) := by
  obtain ⟨omitted, hperm, hdefault⟩ := h.whole
  refine ⟨saidIn omitted flag, ?_, ?_⟩
  · intro value hvalue
    obtain ⟨setting, hmem, rfl⟩ := List.mem_map.mp hvalue
    obtain ⟨hmem, hflag⟩ := List.mem_filter.mp hmem
    rw [← eq_of_beq hflag]
    exact mem_settings_iff.mp (hdefault setting hmem)
  · have hfiltered := (hperm.filter fun setting => setting.flag == flag).map (·.value)
    rw [List.filter_append, List.map_append] at hfiltered
    rw [← saidIn_settings]
    exact hfiltered

theorem mem_settings (h : Arranges settings line) (hmem : setting ∈ settings) :
    setting ∈ line.settings := by
  obtain ⟨omitted, hperm, -⟩ := h.whole
  exact hperm.mem_iff.mp (List.mem_append_left omitted hmem)

theorem pairwise (h : Arranges settings line) :
    settings.Pairwise fun first second =>
      first.flag = second.flag → second.flag.repeatable = true := by
  obtain ⟨omitted, hperm, -⟩ := h.whole
  have hsymm : ∀ {first second : Setting},
      (first.flag = second.flag → second.flag.repeatable = true) →
      second.flag = first.flag → first.flag.repeatable = true := by
    intro first second himp heq
    rw [heq] at himp
    exact himp rfl
  have hall := (hperm.pairwise_iff hsymm).mpr line.pairwise_settings
  exact (List.pairwise_append.mp hall).1

/-- What settings that make up a line give to a flag is what the line has for it, once defaults
stand where they give nothing. -/
theorem said_eq (h : Arranges settings line) (flag : Flag) :
    (if flag.repeatable then empty.said flag ++ saidIn settings flag
      else if saidIn settings flag = [] then empty.said flag else saidIn settings flag) =
      line.said flag := by
  by_cases hrepeatable : flag.repeatable = true
  · have hsuite : flag = .cipherSuite := by cases flag <;> simp_all [Flag.repeatable]
    subst hsuite
    rw [if_pos hrepeatable, h.suites]
    rfl
  rw [if_neg hrepeatable]
  have hrepeatable := Bool.eq_false_iff.mpr hrepeatable
  obtain ⟨omitted, hdefault, hperm⟩ := h.perm_said flag
  have hline := line.length_said_le_one hrepeatable
  have hsaid := eq_of_perm_of_length_le_one hperm hline
  by_cases hnone : saidIn settings flag = []
  · rw [if_pos hnone]
    rw [hnone, List.nil_append] at hsaid
    subst hsaid
    cases hvalues : line.said flag with
    | nil => exact said_empty_eq_nil hvalues
    | cons value rest =>
      have hmem : value ∈ line.said flag := by rw [hvalues]; exact List.mem_cons_self
      rw [eq_singleton_of_mem (hdefault value hmem) (empty.length_said_le_one hrepeatable),
        ← hvalues, eq_singleton_of_mem hmem hline]
  · rw [if_neg hnone]
    have hpos := List.length_pos_iff.mpr hnone
    have homitted : omitted = [] := by
      rw [← hsaid, List.length_append] at hline
      exact List.eq_nil_of_length_eq_zero (by omega)
    rw [← hsaid, homitted, List.append_nil]

end Arranges

/-- Any way of writing a line is read to that line. -/
theorem Writes.parse_eq (hwritable : line.Writable) {arguments : List String}
    (h : Writes arguments line) : parse arguments = .ok line := by
  obtain ⟨settings, harranges, hspelt⟩ := h
  have hfrom : ∀ setting ∈ settings, setting ∈ line.settings := fun _ => harranges.mem_settings
  have hsayable : ∀ setting ∈ settings, setting.Sayable := fun setting hmem =>
    sayable_of_mem_settings (hfrom setting hmem)
  have hread : parse arguments = settings.foldlM enter empty :=
    Reading.readAll_eq_foldlM hspelt hsayable harranges.pairwise (by simp [Reading.start]) rfl
  obtain ⟨final, hfinal, hsaid⟩ := exists_foldlM_enter hwritable hfrom harranges.pairwise empty
  have heq : final = line := by
    apply ext_said
    intro flag
    rw [hsaid flag, harranges.said_eq flag]
  rw [hread, hfinal, heq]

theorem Writes.arguments (line : CommandLine) : Writes line.arguments line := by
  refine ⟨line.settings, ⟨⟨[], ?_, ?_⟩, ?_⟩, ?_⟩
  · rw [List.append_nil]
  · exact List.forall_mem_nil _
  · exact saidIn_settings line .cipherSuite
  · unfold CommandLine.arguments
    rw [List.forall₂_map_right_iff]
    exact List.forall₂_same.mpr fun setting _ => ⟨_, List.mem_cons_self, rfl⟩

/-- Every line whose numbers fit is written by its arguments, and read back from them and from every
other way of writing it: in any order that keeps the suites in theirs, under any name of a flag,
and with or without the values that are there by default. -/
theorem parse_written (hwritable : line.Writable) :
    Writes line.arguments line ∧
      ∀ arguments, Writes arguments line → parse arguments = .ok line :=
  ⟨.arguments line, fun _ h => h.parse_eq hwritable⟩

namespace Sample

/-- A line with texts that look like flags, or like nothing. -/
def oddTexts : CommandLine :=
  { empty with
    target := some "-t=--"
    virtualUsers := some 3
    duration := some 10
    pacingMs := some 0
    tlsMin := some .tls10
    cipherSuites := ["", "--any", "a=b"]
    insecure := true
    runId := some "" }

/-- What it says, less the defaults and in another order. -/
def oddTextsShuffled : List Setting := [
  ⟨.cipherSuite, some ""⟩, ⟨.runId, some ""⟩, ⟨.insecure, none⟩, ⟨.virtualUsers, some "3"⟩,
  ⟨.cipherSuite, some "--any"⟩, ⟨.tlsMin, some "tls1.0"⟩, ⟨.target, some "-t=--"⟩,
  ⟨.cipherSuite, some "a=b"⟩, ⟨.pacingMs, some "0"⟩, ⟨.duration, some "10"⟩]

/-- The same as arguments. -/
def oddTextsArguments : List String := [
  "--tls-cipher-suite=", "--run-id=", "--insecure-skip-tls-verify", "--agents=3",
  "--tls-cipher-suite=--any", "--tls-min=tls1.0", "--target=-t=--", "--tls-cipher-suite=a=b",
  "--pacing-ms=0", "--duration=10"]

end Sample

theorem parse_written_oddTexts :
    Sample.oddTexts.Writable ∧ parse Sample.oddTextsArguments = .ok Sample.oddTexts := by
  have hwritable : Sample.oddTexts.Writable := by
    constructor <;> simp [Sample.oddTexts, empty, Text.maxWord]
  have hwhole : (Sample.oddTextsShuffled ++
      [(⟨.ioTimeoutMs, some "10000"⟩ : Setting), ⟨.reporter, some "in-memory"⟩]).Perm
        Sample.oddTexts.settings := by
    decide +kernel
  have harranges : Arranges Sample.oddTextsShuffled Sample.oddTexts :=
    ⟨⟨_, hwhole, by decide +kernel⟩, by decide +kernel⟩
  have hspelt : List.Forall₂ Setting.Spelt Sample.oddTextsShuffled Sample.oddTextsArguments := by
    unfold Setting.Spelt Sample.oddTextsShuffled Sample.oddTextsArguments
    decide +kernel
  obtain ⟨-, hread⟩ := parse_written hwritable
  exact ⟨hwritable, hread _ ⟨_, harranges, hspelt⟩⟩

end LoadHarness.CommandLine
