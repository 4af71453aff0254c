import LoadHarness.Proofs.CommandLine.Apart
import LoadHarness.Proofs.Tls.Version

/-! The versions that a command line can name.

A flag for a bound on the version reads the language of `Version.Names` and nothing else, wherever
it stands and however it is given its value.  A text of that language begins with white space or a
letter, so it is never taken for a flag (`not_dashed_of_names`). -/

namespace LoadHarness.CommandLine

open Reading (Dashed)
open Tls (Version PolicyError)

/-- The flags that bound the version. -/
def Flag.Bounds (flag : Flag) : Prop := flag = .tlsMin ∨ flag = .tlsMax

/-- The argument that gives a flag its value behind an equals sign. -/
def joined (flag : Flag) (text : String) : String := Setting.argument ⟨flag, some text⟩

/-- The argument that names a flag and leaves its value to the next one. -/
def apart (flag : Flag) : String := Setting.argument ⟨flag, none⟩

/-- A line with a bound on the version put in. -/
def bound (line : CommandLine) (flag : Flag) (version : Version) : CommandLine :=
  match flag with
  | .tlsMin => { line with tlsMin := some version }
  | .tlsMax => { line with tlsMax := some version }
  | _ => line

variable {flag : Flag} {text : String} {version : Version}

theorem Flag.Bounds.takesValue (hflag : flag.Bounds) : flag.takesValue = true := by
  rcases hflag with rfl | rfl <;> rfl

theorem set_of_names (hflag : flag.Bounds) (hnames : version.Names text) (line : CommandLine) :
    line.set flag text = .ok (line.bound flag version) := by
  have hparse := Version.parse_eq_ok_iff.mpr hnames
  rcases hflag with rfl | rfl
  all_goals
    simp only [set, hparse]
    rfl

theorem set_of_not_names (hflag : flag.Bounds) (hnone : ∀ version, ¬ Version.Names version text)
    (line : CommandLine) :
    line.set flag text =
      .error (.unreadable flag text (PolicyError.unknownVersion text).message) := by
  have hparse := Version.parse_eq_error_iff.mpr ⟨hnone, rfl⟩
  rcases hflag with rfl | rfl
  all_goals
    simp only [set, hparse]
    rfl

/-- A text that names a version is never taken for a flag. -/
theorem not_dashed_of_names (hnames : version.Names text) : ¬ Dashed text := by
  rintro ⟨c, rest, hdash⟩
  obtain ⟨front, core, back, htext, hfront, -, spelling, hmem, hcore⟩ := hnames
  rw [hdash] at htext
  cases front with
  | cons b front =>
    have hblank := hfront b List.mem_cons_self
    obtain ⟨rfl, -⟩ := List.cons_eq_cons.mp htext
    exact absurd hblank (by decide)
  | nil =>
    have hletter : ∀ spelling ∈ version.spellings, spelling.toList.head? = some 't' := by
      cases version <;> decide
    have hhead := hletter spelling hmem
    rw [← hcore, List.head?_map] at hhead
    cases core with
    | nil => cases hhead
    | cons b core =>
      obtain ⟨rfl, -⟩ := List.cons_eq_cons.mp htext
      cases hhead

/-- A value is judged by the version that it names. -/
theorem Reading.give_of_names (hflag : flag.Bounds) (hnames : version.Names text)
    (reading : Reading) :
    reading.give flag (some text) = reading.give flag (some version.name) := by
  have hcomplete : ∀ released : Reading,
      released.complete flag (some text) = released.complete flag (some version.name) := by
    intro released
    unfold complete
    simp only [set_of_names hflag hnames, set_of_names hflag version.names_name]
    rfl
  unfold give
  simp only [hcomplete]

theorem Reading.give_of_not_names (hflag : flag.Bounds)
    (hnone : ∀ version, ¬ Version.Names version text) (reading : Reading) :
    ∃ e, reading.give flag (some text) = .error e := by
  have hcomplete : ∀ released : Reading, ∃ e, released.complete flag (some text) = .error e := by
    intro released
    unfold complete
    split
    · exact ⟨_, rfl⟩
    split
    · exact ⟨_, rfl⟩
    · simp only [set_of_not_names hflag hnone]
      exact ⟨_, rfl⟩
  unfold give
  cases reading.release with
  | error e => exact ⟨e, rfl⟩
  | ok released => exact hcomplete released

/-- A flag and its value alone are the line with the value put in. -/
theorem parse_joined (hflag : flag.Bounds) (text : String) :
    parse [joined flag text] = empty.set flag text := by
  have hspelt : List.Forall₂ Setting.Spelt [⟨flag, some text⟩] [joined flag text] :=
    .cons ⟨flag.long, List.mem_cons_self, rfl⟩ .nil
  have hsayable : ∀ setting ∈ [(⟨flag, some text⟩ : Setting)], setting.Sayable := by
    intro setting hmem
    rw [List.mem_singleton.mp hmem]
    refine ⟨hflag.takesValue.symm, ?_⟩
    rintro rfl
    rcases hflag with h | h <;> cases h
  have hread : parse [joined flag text] = [⟨flag, some text⟩].foldlM enter empty :=
    Reading.readAll_eq_foldlM hspelt hsayable (List.pairwise_singleton _ _)
      (by simp [Reading.start]) rfl
  rw [hread, List.foldlM_cons]
  show (empty.set flag text).bind pure = _
  cases empty.set flag text <;> rfl

/-- A flag reads versions: a text that names one stands for that version, and any other is refused,
wherever the flag stands and whether or not its value is an argument of its own. -/
structure ReadsVersions (flag : Flag) (text : String) : Prop where
  accepted : ∀ version, Version.Names version text →
    parse [joined flag text] = .ok (empty.bound flag version)
  refused : (∀ version, ¬ Version.Names version text) → parse [joined flag text] =
    .error (.unreadable flag text (PolicyError.unknownVersion text).message)
  accepted_anywhere : ∀ version, Version.Names version text → ∀ before rest line,
    parse (before ++ joined flag text :: rest) = .ok line ↔
      parse (before ++ joined flag version.name :: rest) = .ok line
  refused_anywhere : (∀ version, ¬ Version.Names version text) → ∀ before rest,
    ∃ e, parse (before ++ joined flag text :: rest) = .error e
  apart_iff : ∀ before rest line, parse (before ++ apart flag :: text :: rest) = .ok line ↔
    parse (before ++ joined flag text :: rest) = .ok line

theorem Flag.Bounds.readsVersions (hflag : flag.Bounds) (text : String) :
    ReadsVersions flag text := by
  have hname : flag.long ∈ flag.names := List.mem_cons_self
  have hjoined : ∀ (reading : Reading) text rest, reading.readAll (joined flag text :: rest) =
      (reading.give flag (some text)).bind fun next => next.readAll rest :=
    fun reading text rest => Reading.readAll_joined hname hflag.takesValue text rest
  have hrefused : (∀ version, ¬ Version.Names version text) → ∀ before rest,
      ∃ e, parse (before ++ joined flag text :: rest) = .error e := by
    intro hnone before rest
    refine parse_append_error (List.cons_ne_nil _ _) (fun reading => ?_) before
    obtain ⟨e, he⟩ := reading.give_of_not_names hflag hnone
    refine ⟨e, ?_⟩
    rw [hjoined, he]
    rfl
  constructor
  case accepted =>
    intro version hnames
    rw [parse_joined hflag, set_of_names hflag hnames]
  case refused =>
    intro hnone
    rw [parse_joined hflag, set_of_not_names hflag hnone]
  case accepted_anywhere =>
    intro version hnames before rest line
    refine parse_append_congr (List.cons_ne_nil _ _) (List.cons_ne_nil _ _) ?_ before line
    intro reading _ line
    rw [hjoined, hjoined, reading.give_of_names hflag hnames]
  case refused_anywhere => exact hrefused
  case apart_iff =>
    intro before rest line
    have happart := parse_apart_iff hname hflag.takesValue before text rest line
    refine happart.trans ⟨And.right, fun hok => ⟨fun hdashed => ?_, hok⟩⟩
    -- what is read is named, and what is named is no flag
    obtain ⟨e, he⟩ := hrefused (fun _ hnames => not_dashed_of_names hnames hdashed) before rest
    exact nomatch he.symm.trans hok

/-- A version is read from its spellings and from nothing else, its name is among them in whatever
letters and with white space around it, and the command line reads the same texts. -/
theorem versions_read (text : String) :
    (∀ version, Version.parse text = .ok version ↔ version.Names text) ∧
    (∀ e, Version.parse text = .error e ↔
      (∀ version, ¬ Version.Names version text) ∧ e = .unknownVersion text) ∧
    (∀ (version : Version) (front core back : List Char), text.toList = front ++ core ++ back →
      (∀ c ∈ front, Text.isBlank c = true) → (∀ c ∈ back, Text.isBlank c = true) →
      (core.map Char.toLower = version.name.toList ∨
        core.map Char.toLower = version.name.toList.insertIdx 3 'v') →
      Version.parse text = .ok version) ∧
    ReadsVersions .tlsMin text ∧ ReadsVersions .tlsMax text := by
  refine ⟨fun version => Version.parse_eq_ok_iff, fun e => Version.parse_eq_error_iff, ?_,
    Flag.Bounds.readsVersions (.inl rfl) text, Flag.Bounds.readsVersions (.inr rfl) text⟩
  intro version front core back htext hfront hback hcore
  exact Version.parse_eq_ok_iff.mpr (Version.names_of_name htext hfront hback hcore)

/-- The spelling with the letter is read in capitals and with white space around it, also from an
argument of its own; with the letter doubled it is refused. -/
theorem versions_read_openssl :
    parse ["--tls-max", "\u00a0TLSv1\n"] = .ok { empty with tlsMax := some .tls10 } ∧
    parse ["--tls-min=tlsvv1.2"] =
      .error (.unreadable .tlsMin "tlsvv1.2" (PolicyError.unknownVersion "tlsvv1.2").message) := by
  obtain ⟨-, -, -, -, hmax⟩ := versions_read "\u00a0TLSv1\n"
  have hnames : Version.tls10.Names "\u00a0TLSv1\n" :=
    ⟨['\u00a0'], "TLSv1".toList, ['\n'], rfl, List.forall_mem_singleton.mpr rfl,
      List.forall_mem_singleton.mpr rfl, "tlsv1", by decide, rfl⟩
  obtain ⟨-, herror, -, hmin, -⟩ := versions_read "tlsvv1.2"
  have hnone := ((herror (.unknownVersion "tlsvv1.2")).mp rfl).1
  exact ⟨(hmax.apart_iff [] [] _).mpr (hmax.accepted .tls10 hnames), hmin.refused hnone⟩

end LoadHarness.CommandLine
