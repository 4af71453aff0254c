import LoadHarness.Proofs.Names.Map
import LoadHarness.Proofs.Options
import LoadHarness.Proofs.Text.Number
import LoadHarness.Run.Conclusion
import Mathlib.Data.List.Basic

/-! What the settings of a summary tell of the options of its run.

    options.settings = other.settings ↔ options.SameShape other          (settings_eq_iff)

for accepted options whose times are whole milliseconds.  A setting that is not there answers
nothing, so what is absent is not taken for anything that is present.  Numbers are known by their
digits.  The suites are the one text that is made of several: they are read back from it since
accepted suites are known by name, and no known name has a comma in it or is the word for all of
them. -/

namespace LoadHarness

namespace Options

variable {options other : Options} {settings : NameMap String}

/-! ## The settings one by one -/

/-- Settings that show what shaped a run. -/
structure Shows (settings : NameMap String) (options : Options) : Prop where
  pacing : settings.get? "pacing_ms" = options.pacing.map fun pause => toString pause.millis
  iterations : settings.get? "iterations" = options.iterations.map toString
  target : settings.get? "target" = options.target
  ioTimeout : settings.get? "io_timeout_ms" = some (toString options.ioTimeout.millis)
  min : settings.get? "tls_min_version" = some options.tls.min.name
  max : settings.get? "tls_max_version" = some options.tls.max.name
  suites : settings.get? "tls_cipher_suites" = some (suitesText options.tls.suites)
  insecure : settings.get? "insecure_skip_tls_verify" = some (toString options.tls.insecure)

theorem shows_settings (options : Options) : Shows options.settings options := by
  unfold settings
  constructor
  all_goals
    rw [NameMap.get?_ofList]
    simp [List.lookup_append, NameMap.lookup_optional, List.lookup_cons]

/-! ## The suites -/

theorem comma_notMem_name : ∀ suite ∈ Tls.CipherSuite.known, ',' ∉ suite.name.toList := by
  apply Tls.CipherSuite.notMem_toList
  simp only [Tls.CipherSuite.known, Tls.CipherSuite.legacy, Tls.CipherSuite.modern,
    List.forall_mem_cons, List.not_mem_nil, false_implies, implies_true, and_true]
  and_intros
  all_goals exact ⟨_, rfl, by decide⟩

theorem comma_notMem_of_validate {policy : Tls.Policy} (h : policy.validate = .ok ()) :
    ∀ name ∈ flagsOf policy.suites, ',' ∉ name.toList := by
  intro name hmem
  cases hsuites : policy.suites with
  | any =>
    rw [hsuites] at hmem
    rw [List.mem_singleton.mp hmem]
    decide
  | only names =>
    rw [hsuites] at hmem
    have hknown := ((Tls.Policy.validate_eq_ok_iff.mp h).2 names hsuites).2.1 name hmem
    obtain ⟨suite, hlookup⟩ := Option.isSome_iff_exists.mp hknown
    rw [← Tls.CipherSuite.name_of_lookup? hlookup]
    exact comma_notMem_name suite (Tls.CipherSuite.mem_known_of_lookup? hlookup)

theorem flagsOf_ne_nil {policy : Tls.Policy} (h : policy.validate = .ok ()) :
    flagsOf policy.suites ≠ [] := by
  cases hsuites : policy.suites with
  | any => exact List.cons_ne_nil _ _
  | only names =>
    exact List.isEmpty_eq_false_iff.mp ((Tls.Policy.validate_eq_ok_iff.mp h).2 names hsuites).1

/-- The text of the suites is the flags that choose them, behind commas. -/
theorem suitesText_eq (suites : Tls.CipherSuites) :
    suitesText suites = ",".intercalate (flagsOf suites) := by
  cases suites with
  | any => rfl
  | only names => rfl

/-- The flags that choose the suites of an accepted policy are read back from their text. -/
theorem splitOn_suitesText {policy : Tls.Policy} (h : policy.validate = .ok ()) :
    (suitesText policy.suites).toList.splitOn ',' =
      (flagsOf policy.suites).map String.toList := by
  have hnone : ∀ part ∈ (flagsOf policy.suites).map String.toList, ',' ∉ part := by
    intro part hmem
    obtain ⟨name, hname, rfl⟩ := List.mem_map.mp hmem
    exact comma_notMem_of_validate h name hname
  have hne : (flagsOf policy.suites).map String.toList ≠ [] := by
    simpa using flagsOf_ne_nil h
  rw [suitesText_eq, String.toList_intercalate]
  exact List.splitOn_intercalate ',' hnone hne

/-- The suites of an accepted policy are known by their text. -/
theorem suitesText_eq_iff {policy policy' : Tls.Policy} (h : policy.validate = .ok ())
    (h' : policy'.validate = .ok ()) :
    suitesText policy.suites = suitesText policy'.suites ↔ policy.suites = policy'.suites := by
  refine ⟨fun heq => ?_, fun heq => by rw [heq]⟩
  have hflags : flagsOf policy.suites = flagsOf policy'.suites := by
    apply List.map_injective_iff.mpr (fun _ _ => String.toList_inj.mp)
    show List.map String.toList _ = List.map String.toList _
    rw [← splitOn_suitesText h, ← splitOn_suitesText h', heq]
  have hchosen := chosen_flagsOf h .any
  rw [hflags] at hchosen
  exact hchosen.unique (chosen_flagsOf h' .any)

/-! ## The settings as a whole -/

/-- The times of a run that settings show are whole milliseconds. -/
structure InMillis (options : Options) : Prop where
  pacing : ∀ pause ∈ options.pacing, ∃ ms, pause = .ofMillis ms
  ioTimeout : ∃ ms, options.ioTimeout = .ofMillis ms

/-- Options under which runs have the same shape. -/
structure SameShape (options other : Options) : Prop where
  pacing : options.pacing = other.pacing
  iterations : options.iterations = other.iterations
  target : options.target = other.target
  ioTimeout : options.ioTimeout = other.ioTimeout
  tls : options.tls = other.tls

theorem eq_of_millis_eq {pause pause' : Duration} (h : ∃ ms, pause = .ofMillis ms)
    (h' : ∃ ms, pause' = .ofMillis ms) (heq : toString pause.millis = toString pause'.millis) :
    pause = pause' := by
  obtain ⟨ms, rfl⟩ := h
  obtain ⟨ms', rfl⟩ := h'
  rw [Duration.millis_ofMillis, Duration.millis_ofMillis] at heq
  rw [Text.toString_injective heq]

/-- Settings that show two runs show the same shape. -/
theorem Shows.sameShape (h : Shows settings options) (h' : Shows settings other)
    (hvalid : options.validate = .ok ()) (hvalid' : other.validate = .ok ())
    (hmillis : options.InMillis) (hmillis' : other.InMillis) : options.SameShape other := by
  have htls := (validate_eq_ok_iff.mp hvalid).2.2.2.2
  have htls' := (validate_eq_ok_iff.mp hvalid').2.2.2.2
  have hversion : ∀ {version version' : Tls.Version}, some version.name = some version'.name →
      version = version' := by
    intro version version'
    cases version <;> cases version' <;> simp [Tls.Version.name]
  have hbool : ∀ {b b' : Bool}, some (toString b) = some (toString b') → b = b' := by
    intro b b'
    cases b <;> cases b' <;> simp [toString]
  have hpacing := h.pacing.symm.trans h'.pacing
  have hiterations := h.iterations.symm.trans h'.iterations
  have hsuites := (suitesText_eq_iff htls htls').mp
    (Option.some.inj (h.suites.symm.trans h'.suites))
  constructor
  case pacing =>
    cases hpause : options.pacing with
    | none =>
      rw [hpause] at hpacing
      exact (Option.map_eq_none_iff.mp hpacing.symm).symm
    | some pause =>
      rw [hpause] at hpacing
      obtain ⟨pause', hpause', heq⟩ := Option.map_eq_some_iff.mp hpacing.symm
      rw [hpause', eq_of_millis_eq (hmillis.pacing pause hpause) (hmillis'.pacing pause' hpause')
        heq.symm]
  case iterations =>
    exact Option.map_injective Text.toString_injective hiterations
  case target => exact h.target.symm.trans h'.target
  case ioTimeout =>
    exact eq_of_millis_eq hmillis.ioTimeout hmillis'.ioTimeout
      (Option.some.inj (h.ioTimeout.symm.trans h'.ioTimeout))
  case tls =>
    have hmin := hversion (h.min.symm.trans h'.min)
    have hmax := hversion (h.max.symm.trans h'.max)
    have hinsecure := hbool (h.insecure.symm.trans h'.insecure)
    show Tls.Policy.mk _ _ _ _ = Tls.Policy.mk _ _ _ _
    rw [hmin, hmax, hsuites, hinsecure]

theorem settings_eq_iff (hvalid : options.validate = .ok ()) (hvalid' : other.validate = .ok ())
    (hmillis : options.InMillis) (hmillis' : other.InMillis) :
    options.settings = other.settings ↔ options.SameShape other := by
  constructor
  · intro heq
    exact (heq ▸ shows_settings options).sameShape (shows_settings other) hvalid hvalid' hmillis
      hmillis'
  · rintro ⟨hpacing, hiterations, htarget, htimeout, htls⟩
    unfold settings
    rw [hpacing, hiterations, htarget, htimeout, htls]

end Options

namespace Run

open Options (SameShape InMillis suitesText)

/-- The summaries of runs under accepted options have the same settings if and only if the options
shape the runs alike.  No choice of suites is shown as every suite, no two choices are shown alike,
and what is not set is not shown. -/
theorem settings_identify {options other : Options} (hvalid : options.validate = .ok ())
    (hvalid' : other.validate = .ok ()) (hmillis : options.InMillis) (hmillis' : other.InMillis)
    (name name' version version' : String) (startedAt startedAt' : Int) (ended ended' : Nat)
    (recorder recorder' : Recorder) (opened opened' closed closed' : Nat) :
    let summary := summarizeRun name version startedAt options ended recorder opened closed
    let summary' := summarizeRun name' version' startedAt' other ended' recorder' opened' closed'
    (summary.settings = summary'.settings ↔ options.SameShape other) ∧
    (summary.settings.get? "tls_cipher_suites" = some "any" ↔ options.tls.suites = .any) ∧
    (summary.settings.get? "tls_cipher_suites" = summary'.settings.get? "tls_cipher_suites" ↔
      options.tls.suites = other.tls.suites) ∧
    (summary.settings.get? "pacing_ms" = none ↔ options.pacing = none) ∧
    (summary.settings.get? "iterations" = none ↔ options.iterations = none) ∧
    (summary.settings.get? "target" = none ↔ options.target = none) := by
  intro summary summary'
  show (options.settings = other.settings ↔ _) ∧ (options.settings.get? _ = _ ↔ _) ∧
    (options.settings.get? _ = other.settings.get? _ ↔ _) ∧ (options.settings.get? _ = _ ↔ _) ∧
    (options.settings.get? _ = _ ↔ _) ∧ (options.settings.get? _ = _ ↔ _)
  have hshows := options.shows_settings
  have hshows' := other.shows_settings
  have htls := (Options.validate_eq_ok_iff.mp hvalid).2.2.2.2
  have htls' := (Options.validate_eq_ok_iff.mp hvalid').2.2.2.2
  refine ⟨Options.settings_eq_iff hvalid hvalid' hmillis hmillis', ?_, ?_, ?_, ?_, ?_⟩
  · rw [hshows.suites, Option.some.injEq]
    have hstandard : Tls.Policy.standard.validate = .ok () := rfl
    exact Options.suitesText_eq_iff htls hstandard
  · rw [hshows.suites, hshows'.suites, Option.some.injEq]
    exact Options.suitesText_eq_iff htls htls'
  · rw [hshows.pacing, Option.map_eq_none_iff]
  · rw [hshows.iterations, Option.map_eq_none_iff]
  · rw [hshows.target]

namespace Sample

/-- A run with nothing set that need not be. -/
def plainOptions : Options where
  virtualUsers := 1
  duration := .ofSecs 1
  iterations := none
  pacing := none
  ioTimeout := .ofMillis 10000
  tls := .standard
  target := none
  runId := "plain"
  noProgress := false
  reporter := .noop

/-- The same with a pause of no length, a target without text, and one suite. -/
def emptyOptions : Options :=
  { plainOptions with
    pacing := some .zero
    target := some ""
    tls := ⟨.tls12, .tls13, .only (.ofList ["TLS_AES_128_GCM_SHA256"]), false⟩ }

end Sample

/-- A pause of no length and a target without text are shown, and one suite is not shown as any. -/
theorem settings_identify_empty :
    Sample.plainOptions.settings ≠ Sample.emptyOptions.settings ∧
    Sample.emptyOptions.settings.get? "pacing_ms" ≠ none ∧
    Sample.emptyOptions.settings.get? "target" ≠ none ∧
    Sample.emptyOptions.settings.get? "tls_cipher_suites" ≠ some "any" := by
  have hplain : Sample.plainOptions.InMillis := ⟨nofun, 10000, rfl⟩
  have hempty : Sample.emptyOptions.InMillis := by
    refine ⟨?_, 10000, rfl⟩
    rintro pause ⟨⟩
    exact ⟨0, rfl⟩
  have hvalid : Sample.emptyOptions.validate = .ok () := rfl
  have hvalid' : Sample.plainOptions.validate = .ok () := rfl
  obtain ⟨hsettings, hany, -, hpacing, -, htarget⟩ :=
    settings_identify hvalid hvalid' hempty hplain "" "" "" "" 0 0 0 0 .empty .empty 0 0 0 0
  refine ⟨fun heq => ?_, mt hpacing.mp nofun, mt htarget.mp nofun, mt hany.mp nofun⟩
  exact nomatch (hsettings.mp heq.symm).pacing

end Run

end LoadHarness
