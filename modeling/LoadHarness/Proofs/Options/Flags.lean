import LoadHarness.Proofs.Options

/-! Which suites are named, and not in what order or how often.

    mergeSuites flags default = mergeSuites others default      (mergeSuites_congr)

holds for lists of flags with the same members, as what they choose is told from the members alone
(`Chosen.congr`).  The one exception is the word for every suite: whether it stands there more than
once is no matter of members, and it is refused then (`resolve_eq_anyCombined_iff`). -/

namespace LoadHarness

/-- Two lines that say the same, but for the order of the suites and for how often each of them is
named. -/
structure CommandLine.SameFlags (line other : CommandLine) : Prop where
  suites : ∀ value, value ∈ line.cipherSuites ↔ value ∈ other.cipherSuites
  rest : { line with cipherSuites := other.cipherSuites } = other

namespace CommandLine.SameFlags

variable {line other : CommandLine}

theorem refl (line : CommandLine) : line.SameFlags line := ⟨fun _ => Iff.rfl, rfl⟩

theorem symm (h : line.SameFlags other) : other.SameFlags line where
  suites value := (h.suites value).symm
  rest := by rw [← h.rest]

theorem duration (h : line.SameFlags other) : line.duration = other.duration := by rw [← h.rest]

end CommandLine.SameFlags

/-- A scenario that allows these suites, and is otherwise the same. -/
def Defaults.allowing (defaults : Defaults) (suites : Tls.CipherSuites) : Defaults :=
  { defaults with tls := { defaults.tls with suites := suites } }

section

variable {flags others : List String} {default suites : Tls.CipherSuites}

theorem not_mixesAny_of_isAny (hall : ∀ value ∈ flags, IsAny value) : ¬ MixesAny flags := by
  rintro ⟨-, value, hmem, hnot⟩
  exact hnot (hall value hmem)

theorem mixesAny_congr (hsame : ∀ value, value ∈ flags ↔ value ∈ others) :
    MixesAny flags ↔ MixesAny others := by
  simp only [MixesAny, hsame]

theorem Chosen.congr (hsame : ∀ value, value ∈ flags ↔ value ∈ others)
    (h : Chosen flags default suites) : Chosen others default suites := by
  have hnil : flags = [] ↔ others = [] := by
    simp only [List.eq_nil_iff_forall_not_mem, hsame]
  cases h with
  | default h => exact .default (hnil.mp h)
  | any hne hall =>
    exact .any (mt hnil.mpr hne) fun value hmem => hall value ((hsame value).mpr hmem)
  | only hne hnone hnames =>
    exact .only (mt hnil.mpr hne) (fun value hmem => hnone value ((hsame value).mpr hmem))
      fun name => (hnames name).trans (hsame name)

/-- What flags come to is told from their members, and from whether the word for every suite stands
there more than once. -/
theorem mergeSuites_congr (hsame : ∀ value, value ∈ flags ↔ value ∈ others)
    (hrepeats : RepeatsAny flags ↔ RepeatsAny others) (default : Tls.CipherSuites) :
    Options.mergeSuites flags default = Options.mergeSuites others default := by
  have hflags := reports_mergeSuites flags default
  rw [mixesAny_congr hsame, hrepeats] at hflags
  refine hflags.unique (reports_mergeSuites others default) fun suites suites' h h' => ?_
  exact ((chosen_of_mergeSuites h).congr hsame).unique (chosen_of_mergeSuites h')

/-- What flags choose is what they come to, unless they are refused. -/
theorem Chosen.mergeSuites_eq (h : Chosen flags default suites)
    (hcombined : ¬ (MixesAny flags ∨ RepeatsAny flags)) :
    Options.mergeSuites flags default = .ok suites := by
  have hfaultless : Faultless
      [fun e => (MixesAny flags ∨ RepeatsAny flags) ∧ e = ConfigError.anyCombined] :=
    faultless_cons.mpr ⟨fun _ h => hcombined h.1, faultless_nil⟩
  obtain ⟨other, hok⟩ := (reports_mergeSuites flags default).exists_ok_iff.mpr hfaultless
  rw [hok, (chosen_of_mergeSuites hok).unique h]

end

namespace Options

variable {line other : CommandLine} {defaults : Defaults} {freshId : String}

/-- The flags for suites, and the suites of the scenario, matter in what they come to together. -/
theorem resolve_congr {flags : List String} {suites : Tls.CipherSuites}
    (h : mergeSuites line.cipherSuites defaults.tls.suites = mergeSuites flags suites) :
    resolve line defaults freshId =
      resolve { line with cipherSuites := flags } (defaults.allowing suites) freshId := by
  unfold resolve merge Defaults.allowing
  simp only [h]

theorem resolve_of_no_duration (h : line.duration.or defaults.duration = none) :
    resolve line defaults freshId = .error .noDuration := by
  rw [reports_resolve]
  exact .here ⟨h, rfl⟩

/-- No fault of options as a whole is reported as one of the flags. -/
theorem not_first_anyCombined (options : Options) : ¬ First options.faults .anyCombined := by
  intro hfirst
  obtain ⟨fault, hmem, hfault⟩ := hfirst.exists_mem
  simp only [faults, List.mem_cons, List.not_mem_nil, or_false] at hmem
  rcases hmem with rfl | rfl | rfl | rfl | rfl
  iterate 4 cases hfault.2
  obtain ⟨_, -, heq⟩ := hfault
  cases heq

theorem resolve_eq_anyCombined_iff :
    resolve line defaults freshId = .error .anyCombined ↔
      line.duration.or defaults.duration ≠ none ∧
        (MixesAny line.cipherSuites ∨ RepeatsAny line.cipherSuites) := by
  rw [reports_resolve]
  constructor
  · intro hfirst
    cases hfirst with
    | here h => exact nomatch h.2
    | later hduration hfirst =>
      refine ⟨fun hnone => hduration _ ⟨hnone, rfl⟩, ?_⟩
      cases hfirst with
      | here h => exact h.1
      | later _ hfirst =>
        obtain ⟨options, -, hfirst⟩ := first_singleton_iff.mp hfirst
        exact absurd hfirst options.not_first_anyCombined
  · rintro ⟨hduration, hcombined⟩
    exact .later (fun _ h => hduration h.1) (.here ⟨hcombined, rfl⟩)

/-- What flags choose, a scenario may allow in their place. -/
theorem resolve_of_chosen {suites : Tls.CipherSuites}
    (h : Chosen line.cipherSuites defaults.tls.suites suites)
    (hcombined : ¬ (MixesAny line.cipherSuites ∨ RepeatsAny line.cipherSuites)) :
    resolve line defaults freshId =
      resolve { line with cipherSuites := [] } (defaults.allowing suites) freshId :=
  resolve_congr (h.mergeSuites_eq hcombined)

theorem resolve_of_sameFlags (hsame : line.SameFlags other)
    (hrepeats : RepeatsAny line.cipherSuites ↔ RepeatsAny other.cipherSuites) :
    resolve line defaults freshId = resolve other defaults freshId := by
  rw [← hsame.rest]
  exact resolve_congr (mergeSuites_congr hsame.suites hrepeats _)

/-- A line that is refused for its flags alone is not taken for one that is not. -/
theorem repeatsAny_of_resolve_eq (hsame : line.SameFlags other)
    (hduration : line.duration.or defaults.duration ≠ none)
    (heq : resolve line defaults freshId = resolve other defaults freshId)
    (h : RepeatsAny line.cipherSuites) : RepeatsAny other.cipherSuites := by
  have hrefused : resolve line defaults freshId = .error .anyCombined :=
    resolve_eq_anyCombined_iff.mpr ⟨hduration, .inr h⟩
  rw [heq, resolve_eq_anyCombined_iff] at hrefused
  exact hrefused.2.resolve_left (mt (mixesAny_congr hsame.suites).mpr (not_mixesAny_of_isAny h.2))

/-- Lines with the same flags come to the same options or to the same error, but for one that says
the word for every suite once and one that repeats it.  Said once it allows every suite; repeated it
is refused. -/
theorem flags_as_set (hsame : line.SameFlags other) (defaults : Defaults) (freshId : String) :
    (resolve line defaults freshId = resolve other defaults freshId ↔
      line.duration.or defaults.duration = none ∨
        (RepeatsAny line.cipherSuites ↔ RepeatsAny other.cipherSuites)) ∧
    ((∀ value ∈ line.cipherSuites, IsAny value) → line.cipherSuites ≠ [] →
      (¬ RepeatsAny line.cipherSuites →
        resolve line defaults freshId =
          resolve { line with cipherSuites := [] } (defaults.allowing .any) freshId) ∧
      (RepeatsAny line.cipherSuites → line.duration.or defaults.duration ≠ none →
        resolve line defaults freshId = .error .anyCombined) ∧
      ∀ options, resolve line defaults freshId = .ok options → options.tls.suites = .any) := by
  refine ⟨⟨fun heq => ?_, ?_⟩, fun hall hne => ⟨fun honce => ?_, ?_, ?_⟩⟩
  · by_cases hnone : line.duration.or defaults.duration = none
    · exact .inl hnone
    · have hsome : other.duration.or defaults.duration ≠ none := hsame.duration ▸ hnone
      exact .inr ⟨repeatsAny_of_resolve_eq hsame hnone heq,
        repeatsAny_of_resolve_eq hsame.symm hsome heq.symm⟩
  · rintro (hnone | hrepeats)
    · rw [resolve_of_no_duration hnone, resolve_of_no_duration (hsame.duration ▸ hnone)]
    · exact resolve_of_sameFlags hsame hrepeats
  · exact resolve_of_chosen (.any hne hall) (not_or.mpr ⟨not_mixesAny_of_isAny hall, honce⟩)
  · exact fun hrepeats hsome => resolve_eq_anyCombined_iff.mpr ⟨hsome, .inr hrepeats⟩
  · exact fun options hok => (merged_of_resolve hok).1.suites.unique (.any hne hall)

namespace Sample

/-- Two suites, one of them twice. -/
def suitesTwice : CommandLine :=
  { CommandLine.empty with
    duration := some 1
    cipherSuites :=
      ["TLS_AES_256_GCM_SHA384", "TLS_AES_128_GCM_SHA256", "TLS_AES_256_GCM_SHA384"] }

/-- The same suites in another order, each once. -/
def suitesOnce : CommandLine :=
  { suitesTwice with cipherSuites := ["TLS_AES_128_GCM_SHA256", "TLS_AES_256_GCM_SHA384"] }

/-- The word for every suite, once. -/
def anyOnce : CommandLine := { anyTwice with cipherSuites := ["any"] }

end Sample

/-- Two suites are allowed whichever comes first and however often, and every suite by the word for
them. -/
theorem flags_as_set_sample :
    (∃ options, resolve Sample.suitesTwice .none "sample" = .ok options ∧
      resolve Sample.suitesOnce .none "sample" = .ok options) ∧
    resolve Sample.anyOnce .none "sample" = .ok Sample.everySuite := by
  have hsame : Sample.suitesTwice.SameFlags Sample.suitesOnce := by
    refine ⟨fun value => ?_, rfl⟩
    simp only [Sample.suitesTwice, Sample.suitesOnce, List.mem_cons, List.not_mem_nil, or_false]
    grind
  have hchosen : Chosen Sample.suitesTwice.cipherSuites .any
      (.only (.ofList Sample.suitesTwice.cipherSuites)) :=
    .only (List.cons_ne_nil _ _) (by decide) fun _ => NameSet.mem_ofList
  obtain ⟨heq, -⟩ := flags_as_set hsame .none "sample"
  have hsuites := heq.mpr (.inr (by decide))
  obtain ⟨-, hany⟩ := flags_as_set (CommandLine.SameFlags.refl Sample.anyOnce) .none "sample"
  obtain ⟨hevery, -, -⟩ := hany (by decide) (List.cons_ne_nil _ _)
  have hresolve : resolve Sample.suitesTwice .none "sample" = _ :=
    resolve_of_chosen hchosen (by decide)
  exact ⟨⟨_, hresolve.trans rfl, hsuites ▸ hresolve.trans rfl⟩, (hevery (by decide)).trans rfl⟩

/-- The word for every suite is allowed once and refused twice, though the two lines have the same
flags and no other suite is combined with it. -/
theorem any_told_from_any :
    Sample.anyOnce.SameFlags Sample.anyTwice ∧
    (∀ value ∈ Sample.anyTwice.cipherSuites, IsAny value) ∧
    resolve Sample.anyOnce .none "sample" = .ok Sample.everySuite ∧
    resolve Sample.anyTwice .none "sample" = .error .anyCombined := by
  have hchosen : Chosen Sample.anyOnce.cipherSuites .any .any :=
    .any (List.cons_ne_nil _ _) (by decide)
  refine ⟨⟨fun value => ?_, rfl⟩, by decide, (resolve_of_chosen hchosen (by decide)).trans rfl,
    resolve_eq_anyCombined_iff.mpr ⟨nofun, .inr (by decide)⟩⟩
  simp only [Sample.anyOnce, Sample.anyTwice, List.mem_cons, List.not_mem_nil, or_false, or_self]

end Options

end LoadHarness
