import LoadHarness.Options
import LoadHarness.Proofs.Names.Set
import LoadHarness.Proofs.Tls.Validation

/-! What the options of a run are resolved to, and what may be wrong with them.

    resolve line defaults id = .error e ↔ First (faultsOf line defaults id) e

The options are merged field by field (`Merged`), and only then looked at as a whole
(`reports_resolve`).  A line that says what the options have come to resolves to them again
(`resolve_restate`).

The word `any` has to stand alone among the flags.  That keeps it from names of suites (`MixesAny`),
but also from itself (`RepeatsAny`), where nothing else is combined with it. -/

namespace LoadHarness

theorem Duration.eq_zero_iff {d : Duration} : d = .zero ↔ d.isZero = true := by
  obtain ⟨nanos⟩ := d
  simp [Duration.isZero, Duration.zero]

theorem Duration.isZero_ofMillis {ms : Nat} : (Duration.ofMillis ms).isZero = true ↔ ms = 0 := by
  rw [← Duration.eq_zero_iff, Duration.ofMillis, Duration.zero, Duration.mk.injEq]
  omega

theorem Duration.isZero_ofMillis_eq_false {ms : Nat} (h : ms ≠ 0) :
    (Duration.ofMillis ms).isZero = false :=
  Bool.eq_false_iff.mpr (mt Duration.isZero_ofMillis.mp h)

/-! ## The suites that flags name -/

/-- The word for every suite, in letters of either case. -/
def IsAny (value : String) : Prop := value.map Char.toLower = "any"

-- On lists of characters, where it computes.
instance (value : String) : Decidable (IsAny value) :=
  decidable_of_iff (value.toList.map Char.toLower = ['a', 'n', 'y'])
    (by rw [IsAny, ← String.toList_inj, String.toList_map]; rfl)

/-- The word for every suite stands among names of suites. -/
def MixesAny (flags : List String) : Prop :=
  (∃ value ∈ flags, IsAny value) ∧ ∃ value ∈ flags, ¬ IsAny value

/-- The word for every suite stands there more than once, and there is nothing else. -/
def RepeatsAny (flags : List String) : Prop := 1 < flags.length ∧ ∀ value ∈ flags, IsAny value

instance (flags : List String) : Decidable (MixesAny flags) := inferInstanceAs (Decidable (_ ∧ _))

instance (flags : List String) : Decidable (RepeatsAny flags) := inferInstanceAs (Decidable (_ ∧ _))

/-- What flags allow, and what is allowed where there are none. -/
inductive Chosen (flags : List String) (default : Tls.CipherSuites) : Tls.CipherSuites → Prop where
  | default (hnil : flags = []) : Chosen flags default default
  | any (hne : flags ≠ []) (h : ∀ value ∈ flags, IsAny value) : Chosen flags default .any
  | only {names : NameSet} (hne : flags ≠ []) (h : ∀ value ∈ flags, ¬ IsAny value)
      (hnames : ∀ name, name ∈ names ↔ name ∈ flags) : Chosen flags default (.only names)

section

variable {flags : List String} {default suites other : Tls.CipherSuites}

theorem Chosen.unique (h : Chosen flags default suites) (hother : Chosen flags default other) :
    suites = other := by
  have hclash (hne : flags ≠ []) (hall : ∀ value ∈ flags, IsAny value)
      (hnone : ∀ value ∈ flags, ¬ IsAny value) : False := by
    obtain ⟨value, hmem⟩ := List.exists_mem_of_ne_nil flags hne
    exact hnone value hmem (hall value hmem)
  cases h with
  | default hnil =>
    cases hother with
    | default => rfl
    | any hne | only hne => exact absurd hnil hne
  | any hne hall =>
    cases hother with
    | default hnil => exact absurd hnil hne
    | any => rfl
    | only _ hnone => exact (hclash hne hall hnone).elim
  | only hne hnone hnames =>
    cases hother with
    | default hnil => exact absurd hnil hne
    | any _ hall => exact (hclash hne hall hnone).elim
    | only _ _ hnames' =>
      rw [NameSet.ext_mem fun name => (hnames name).trans (hnames' name).symm]

theorem any_flags_iff :
    (flags.any fun value => value.map Char.toLower == "any") = true ↔
      ∃ value ∈ flags, IsAny value := by
  simp only [List.any_eq_true, beq_iff_eq, IsAny]

/-- The word is refused in company, be it its own. -/
theorem any_combined_iff :
    MixesAny flags ∨ RepeatsAny flags ↔ (∃ value ∈ flags, IsAny value) ∧ 1 < flags.length := by
  constructor
  · rintro (⟨⟨value, hvalue, hany⟩, other, hother, hnot⟩ | ⟨hlength, hall⟩)
    · refine ⟨⟨value, hvalue, hany⟩, ?_⟩
      match flags with
      | [only] =>
        rw [List.mem_singleton] at hvalue hother
        rw [hother, ← hvalue] at hnot
        exact absurd hany hnot
      | _ :: _ :: _ => simp
    · obtain ⟨value, hvalue⟩ := List.exists_mem_of_length_pos (Nat.zero_lt_of_lt hlength)
      exact ⟨⟨value, hvalue, hall value hvalue⟩, hlength⟩
  · rintro ⟨hsome, hlength⟩
    by_cases hall : ∀ value ∈ flags, IsAny value
    · exact .inr ⟨hlength, hall⟩
    · simp only [Classical.not_forall] at hall
      obtain ⟨other, hother, hnot⟩ := hall
      exact .inl ⟨hsome, other, hother, hnot⟩

theorem reports_mergeSuites (flags : List String) (default : Tls.CipherSuites) :
    Reports [fun e => (MixesAny flags ∨ RepeatsAny flags) ∧ e = .anyCombined]
      (Options.mergeSuites flags default) := by
  unfold Options.mergeSuites suitesOfFlags
  split
  · rename_i hnil
    rw [List.isEmpty_iff] at hnil
    refine .past ?_ (reports_ok faultless_nil)
    rintro e ⟨hcombined, -⟩
    rw [any_combined_iff, hnil] at hcombined
    exact absurd hcombined.2 (Nat.not_lt_zero 1)
  · refine .ite ?_ fun _ => ?_
    · rw [any_combined_iff, Bool.and_eq_true, any_flags_iff, decide_eq_true_eq]
    · split <;> exact reports_ok faultless_nil

theorem chosen_of_mergeSuites (h : Options.mergeSuites flags default = .ok suites) :
    Chosen flags default suites := by
  have hfaultless := (reports_mergeSuites flags default).exists_ok_iff.mp ⟨suites, h⟩
  have hmixed : ¬ MixesAny flags := fun hmixed =>
    hfaultless _ (List.mem_singleton_self _) .anyCombined ⟨.inl hmixed, rfl⟩
  unfold Options.mergeSuites suitesOfFlags at h
  split at h
  · rename_i hnil
    cases h
    exact .default (List.isEmpty_iff.mp hnil)
  rename_i hnil
  rw [List.isEmpty_iff] at hnil
  simp only at h
  split at h
  · cases h
  split at h
  · rename_i hany
    cases h
    refine .any hnil fun value hmem => Classical.byContradiction fun hnot => ?_
    exact hmixed ⟨any_flags_iff.mp hany, value, hmem, hnot⟩
  · rename_i hnone
    cases h
    rw [any_flags_iff] at hnone
    exact .only hnil (fun value hmem hany => hnone ⟨value, hmem, hany⟩) fun _ => NameSet.mem_ofList

end

/-! ## Flags for what was chosen -/

/-- The flags that choose suites. -/
def flagsOf : Tls.CipherSuites → List String
  | .any => ["any"]
  | .only names => names.toList

/-- No suite goes by the word for all of them. -/
theorem not_isAny_of_known : ∀ suite ∈ Tls.CipherSuite.known, ¬ IsAny suite.name := by
  decide +kernel

theorem not_isAny_of_validate {policy : Tls.Policy} {names : NameSet}
    (h : policy.validate = .ok ()) (hsuites : policy.suites = .only names) :
    ∀ name ∈ names, ¬ IsAny name := by
  intro name hmem
  have hknown := ((Tls.Policy.validate_eq_ok_iff.mp h).2 names hsuites).2.1 name hmem
  obtain ⟨suite, hlookup⟩ := Option.isSome_iff_exists.mp hknown
  rw [← Tls.CipherSuite.name_of_lookup? hlookup]
  exact not_isAny_of_known suite (Tls.CipherSuite.mem_known_of_lookup? hlookup)

/-- The flags for the suites of an accepted policy choose them again. -/
theorem chosen_flagsOf {policy : Tls.Policy} (h : policy.validate = .ok ())
    (default : Tls.CipherSuites) : Chosen (flagsOf policy.suites) default policy.suites := by
  cases hsuites : policy.suites with
  | any => exact .any (List.cons_ne_nil _ _) (List.forall_mem_singleton.mpr (by decide))
  | only names =>
    have hempty := ((Tls.Policy.validate_eq_ok_iff.mp h).2 names hsuites).1
    exact .only (List.isEmpty_eq_false_iff.mp hempty) (not_isAny_of_validate h hsuites)
      fun _ => Iff.rfl

theorem not_combined_flagsOf {policy : Tls.Policy} (h : policy.validate = .ok ()) :
    ¬ (MixesAny (flagsOf policy.suites) ∨ RepeatsAny (flagsOf policy.suites)) := by
  rw [any_combined_iff]
  cases hsuites : policy.suites with
  | any => exact fun hcombined => absurd hcombined.2 (Nat.lt_irrefl 1)
  | only names =>
    rintro ⟨⟨name, hmem, hany⟩, -⟩
    exact not_isAny_of_validate h hsuites name hmem hany

/-- A line of which every number can be written. -/
structure CommandLine.Writable (line : CommandLine) : Prop where
  virtualUsers : ∀ n ∈ line.virtualUsers, n ≤ Text.maxWord
  duration : ∀ n ∈ line.duration, n ≤ Text.maxWord
  iterations : ∀ n ∈ line.iterations, n ≤ Text.maxWord
  pacingMs : ∀ n ∈ line.pacingMs, n ≤ Text.maxWord
  ioTimeoutMs : line.ioTimeoutMs ≤ Text.maxWord

/-- Whether the flag for it can say what the pause of a scenario is, if there is one. -/
def Defaults.WritablePacing (defaults : Defaults) : Prop :=
  ∀ pause ∈ defaults.pacing, ∃ ms ≤ Text.maxWord, pause = .ofMillis ms

namespace Options

/-! ## Options as a whole -/

/-- What can be wrong with options, in the order in which it is looked for. -/
def faults (options : Options) : List (ConfigError → Prop) := [
  fun e => options.virtualUsers = 0 ∧ e = .noVirtualUsers,
  fun e => options.duration = .zero ∧ e = .zeroDuration,
  fun e => options.iterations = some 0 ∧ e = .zeroIterations,
  fun e => options.ioTimeout = .zero ∧ e = .zeroIoTimeout,
  fun e => ∃ fault, First options.tls.faults fault ∧ e = .tls fault]

theorem reports_validate (options : Options) : Reports options.faults options.validate := by
  unfold validate faults
  refine .ite Iff.rfl fun _ => .ite Duration.eq_zero_iff fun _ => .ite Iff.rfl fun _ =>
    .ite Duration.eq_zero_iff fun _ => ?_
  have hreports := options.tls.reports_validate
  split
  · rename_i hvalid
    refine .past ?_ (reports_ok faultless_nil)
    rintro e ⟨fault, hfirst, -⟩
    rw [← hreports fault, hvalid] at hfirst
    cases hfirst
  · rename_i e hvalid
    refine .here ⟨e, (hreports e).mp hvalid, rfl⟩ ?_
    rintro _ ⟨fault, hfirst, rfl⟩
    rw [← hreports fault, hvalid, Except.error.injEq] at hfirst
    rw [hfirst]

theorem validate_eq_ok_iff {options : Options} :
    options.validate = .ok () ↔
      0 < options.virtualUsers ∧ options.duration ≠ .zero ∧ options.iterations ≠ some 0 ∧
        options.ioTimeout ≠ .zero ∧ options.tls.validate = .ok () := by
  have hok : options.validate = .ok () ↔ ∃ done, options.validate = .ok done :=
    ⟨fun h => ⟨(), h⟩, fun ⟨_, h⟩ => h⟩
  have htls : options.tls.validate = .ok () ↔ ∀ fault, ¬ First options.tls.faults fault := by
    rw [← faultless_iff, ← options.tls.reports_validate.exists_ok_iff]
    exact ⟨fun h => ⟨(), h⟩, fun ⟨_, h⟩ => h⟩
  have hlast : (∀ e, ¬ ∃ fault, First options.tls.faults fault ∧ e = ConfigError.tls fault) ↔
      ∀ fault, ¬ First options.tls.faults fault :=
    ⟨fun h fault hfirst => h _ ⟨fault, hfirst, rfl⟩, fun h _ ⟨fault, hfirst, _⟩ => h fault hfirst⟩
  rw [hok, options.reports_validate.exists_ok_iff, htls, ← hlast]
  simp only [faults, faultless_cons, not_and', forall_eq, ← Nat.pos_iff_ne_zero, faultless_nil,
    and_true, Ne]

/-! ## What the line says over what the scenario provides -/

/-- The options that come of a line and of defaults: in each field what the line says, and the
default where it is silent. -/
structure Merged (line : CommandLine) (defaults : Defaults) (freshId : String)
    (options : Options) : Prop where
  virtualUsers : options.virtualUsers = line.virtualUsers.getD 1
  duration : some options.duration = (line.duration.or defaults.duration).map .ofSecs
  iterations : options.iterations = line.iterations
  /-- A pause of no length is none. -/
  pacing : options.pacing =
    ((line.pacingMs.map .ofMillis).or defaults.pacing).filter fun pacing => !pacing.isZero
  ioTimeout : options.ioTimeout = .ofMillis line.ioTimeoutMs
  tlsMin : options.tls.min = line.tlsMin.getD defaults.tls.min
  tlsMax : options.tls.max = line.tlsMax.getD defaults.tls.max
  suites : Chosen line.cipherSuites defaults.tls.suites options.tls.suites
  insecure : options.tls.insecure = (defaults.tls.insecure || line.insecure)
  target : options.target = line.target.or defaults.target
  runId : options.runId = line.runId.getD freshId
  noProgress : options.noProgress = line.noProgress
  reporter : options.reporter = line.reporter

variable {line : CommandLine} {defaults : Defaults} {freshId : String} {options other : Options}

theorem Merged.unique (h : Merged line defaults freshId options)
    (hother : Merged line defaults freshId other) : options = other := by
  have htls : options.tls = other.tls := by
    rw [Tls.Policy.mk.injEq]
    exact ⟨h.tlsMin.trans hother.tlsMin.symm, h.tlsMax.trans hother.tlsMax.symm,
      h.suites.unique hother.suites, h.insecure.trans hother.insecure.symm⟩
  rw [Options.mk.injEq]
  exact ⟨h.virtualUsers.trans hother.virtualUsers.symm,
    Option.some.inj (h.duration.trans hother.duration.symm),
    h.iterations.trans hother.iterations.symm, h.pacing.trans hother.pacing.symm,
    h.ioTimeout.trans hother.ioTimeout.symm, htls, h.target.trans hother.target.symm,
    h.runId.trans hother.runId.symm, h.noProgress.trans hother.noProgress.symm,
    h.reporter.trans hother.reporter.symm⟩

theorem Merged.pacing_ne_zero (h : Merged line defaults freshId options) :
    options.pacing ≠ some .zero := by
  intro hzero
  rw [h.pacing, Option.filter_eq_some_iff] at hzero
  exact absurd hzero.2 Bool.false_ne_true

theorem mergePacing_eq (flag : Option Nat) (default : Option Duration) :
    mergePacing flag default =
      ((flag.map .ofMillis).or default).filter fun pacing => !pacing.isZero := by
  match flag with
  | none => rfl
  | some 0 => rfl
  | some (ms + 1) =>
    have hzero := Duration.isZero_ofMillis_eq_false (Nat.succ_ne_zero ms)
    simp only [mergePacing, Option.map_some, Option.some_or, Option.filter_some, hzero,
      Bool.not_false, if_true]

theorem merged_of_merge (h : merge line defaults freshId = .ok options) :
    Merged line defaults freshId options := by
  unfold merge at h
  split at h
  · cases h
  rename_i secs hduration
  split at h
  · cases h
  rename_i suites hsuites
  cases h
  exact {
    virtualUsers := rfl
    duration := by rw [hduration]; rfl
    iterations := rfl
    pacing := mergePacing_eq _ _
    ioTimeout := rfl
    tlsMin := rfl
    tlsMax := rfl
    suites := chosen_of_mergeSuites hsuites
    insecure := rfl
    target := rfl
    runId := rfl
    noProgress := rfl
    reporter := rfl }

theorem reports_merge (line : CommandLine) (defaults : Defaults) (freshId : String) :
    Reports [fun e => line.duration.or defaults.duration = none ∧ e = .noDuration,
        fun e => (MixesAny line.cipherSuites ∨ RepeatsAny line.cipherSuites) ∧ e = .anyCombined]
      (merge line defaults freshId) := by
  unfold merge
  split
  · rename_i hnone
    exact .here ⟨hnone, rfl⟩ fun _ h => h.2
  rename_i secs hsome
  refine .past (fun _ h => absurd (hsome.symm.trans h.1) (Option.some_ne_none _)) ?_
  have hreports := reports_mergeSuites line.cipherSuites defaults.tls.suites
  change Reports ([_] ++ []) _
  refine hreports.append (fun e herror => ?_) fun suites hok => ?_
  · rw [herror]
  · rw [hok]
    exact reports_ok faultless_nil

theorem exists_merge_iff :
    (∃ options, merge line defaults freshId = .ok options) ↔
      line.duration.or defaults.duration ≠ none ∧
        ¬ MixesAny line.cipherSuites ∧ ¬ RepeatsAny line.cipherSuites := by
  rw [(reports_merge line defaults freshId).exists_ok_iff]
  simp only [faultless_cons, faultless_nil, and_true, not_and', forall_eq, not_or, Ne]

/-- What can be wrong with a line and defaults, in the order in which it is looked for. -/
def faultsOf (line : CommandLine) (defaults : Defaults) (freshId : String) :
    List (ConfigError → Prop) := [
  fun e => line.duration.or defaults.duration = none ∧ e = .noDuration,
  fun e => (MixesAny line.cipherSuites ∨ RepeatsAny line.cipherSuites) ∧ e = .anyCombined,
  fun e => ∃ options, Merged line defaults freshId options ∧ First options.faults e]

/-- The first of the faults is reported. -/
theorem reports_resolve (line : CommandLine) (defaults : Defaults) (freshId : String) :
    Reports (faultsOf line defaults freshId) (resolve line defaults freshId) := by
  unfold resolve
  change Reports ([_, _] ++ [_]) _
  refine (reports_merge line defaults freshId).append (fun e herror => ?_) fun options hmerge => ?_
  · rw [herror]
  have hmerged := merged_of_merge hmerge
  intro e
  rw [first_singleton_iff, hmerge]
  have hfirst : (∃ other, Merged line defaults freshId other ∧ First other.faults e) ↔
      First options.faults e := by
    constructor
    · rintro ⟨other, hother, hfirst⟩
      rw [hmerged.unique hother]
      exact hfirst
    · exact fun hfirst => ⟨options, hmerged, hfirst⟩
  rw [hfirst, ← options.reports_validate e]
  cases hvalid : options.validate with
  | error other => simp only [hvalid, Except.error.injEq]
  | ok => simp only [hvalid, reduceCtorEq]

theorem resolve_eq_ok_iff :
    resolve line defaults freshId = .ok options ↔
      merge line defaults freshId = .ok options ∧ options.validate = .ok () := by
  unfold resolve
  cases merge line defaults freshId with
  | error e => exact ⟨nofun, fun h => nomatch h.1⟩
  | ok merged =>
    cases hvalid : merged.validate with
    | error e =>
      simp only [hvalid, reduceCtorEq, Except.ok.injEq, false_iff, not_and]
      rintro rfl
      rw [hvalid]
      exact nofun
    | ok =>
      simp only [hvalid, Except.ok.injEq]
      refine (and_iff_left_of_imp ?_).symm
      rintro rfl
      exact hvalid

theorem merged_of_resolve (h : resolve line defaults freshId = .ok options) :
    Merged line defaults freshId options ∧ options.validate = .ok () :=
  (resolve_eq_ok_iff.mp h).imp_left merged_of_merge

/-! ## A line that says it all -/

/-- The line that says what options are, down to what they have by default. -/
def restate (options : Options) : CommandLine where
  target := options.target
  virtualUsers := some options.virtualUsers
  duration := some options.duration.secs
  iterations := options.iterations
  pacingMs := some ((options.pacing.map Duration.millis).getD 0)
  ioTimeoutMs := options.ioTimeout.millis
  tlsMin := some options.tls.min
  tlsMax := some options.tls.max
  cipherSuites := flagsOf options.tls.suites
  insecure := options.tls.insecure
  noProgress := options.noProgress
  reporter := options.reporter
  runId := some options.runId

/-- A pause that options have come to is one of whole milliseconds, and not of none. -/
theorem Merged.exists_millis (h : Merged line defaults freshId options)
    (hpacing : defaults.WritablePacing) {pause : Duration} (hsome : options.pacing = some pause) :
    ∃ ms, pause = .ofMillis ms ∧ ms ≠ 0 ∧ (line.pacingMs = some ms ∨ ms ≤ Text.maxWord) := by
  rw [h.pacing, Option.filter_eq_some_iff, Option.or_eq_some_iff] at hsome
  obtain ⟨hsource, hnonzero⟩ := hsome
  have hmillis : ∃ ms, pause = .ofMillis ms ∧ (line.pacingMs = some ms ∨ ms ≤ Text.maxWord) := by
    rcases hsource with hline | ⟨-, hdefault⟩
    · obtain ⟨ms, hms, rfl⟩ := Option.map_eq_some_iff.mp hline
      exact ⟨ms, rfl, .inl hms⟩
    · obtain ⟨ms, hms, rfl⟩ := hpacing pause hdefault
      exact ⟨ms, rfl, .inr hms⟩
  obtain ⟨ms, rfl, hms⟩ := hmillis
  rw [Bool.not_eq_true', Bool.eq_false_iff, Ne, Duration.isZero_ofMillis] at hnonzero
  exact ⟨ms, rfl, hnonzero, hms⟩

theorem merged_restate (h : Merged line defaults freshId options)
    (hvalid : options.validate = .ok ()) (hpacing : defaults.WritablePacing) (otherId : String) :
    Merged options.restate defaults otherId options where
  virtualUsers := rfl
  duration := by
    obtain ⟨secs, -, hsecs⟩ := Option.map_eq_some_iff.mp h.duration.symm
    rw [restate, Option.some_or, Option.map_some, ← hsecs, Duration.secs_ofSecs]
  iterations := rfl
  pacing := by
    rw [restate, Option.map_some, Option.some_or, Option.filter_some]
    cases hsome : options.pacing with
    | none => rfl
    | some pause =>
      obtain ⟨ms, rfl, hne, -⟩ := h.exists_millis hpacing hsome
      rw [Option.map_some, Option.getD_some, Duration.millis_ofMillis,
        Duration.isZero_ofMillis_eq_false hne]
      rfl
  ioTimeout := by
    rw [restate, h.ioTimeout, Duration.millis_ofMillis]
  tlsMin := rfl
  tlsMax := rfl
  suites := chosen_flagsOf (validate_eq_ok_iff.mp hvalid).2.2.2.2 _
  insecure := by
    rw [restate, h.insecure, ← Bool.or_assoc, Bool.or_self]
  target := by
    rw [restate, h.target, Option.or_assoc, Option.or_self]
  runId := rfl
  noProgress := rfl
  reporter := rfl

theorem resolve_restate (h : resolve line defaults freshId = .ok options)
    (hpacing : defaults.WritablePacing) (otherId : String) :
    resolve options.restate defaults otherId = .ok options := by
  obtain ⟨hmerged, hvalid⟩ := merged_of_resolve h
  have hagain := merged_restate hmerged hvalid hpacing otherId
  have hfaultless : Faultless (faultsOf options.restate defaults otherId) := by
    simp only [faultsOf, faultless_cons, faultless_nil, and_true]
    refine ⟨?_, ?_, ?_⟩
    · rintro e ⟨hnone, -⟩
      cases hnone
    · rintro e ⟨hcombined, -⟩
      exact not_combined_flagsOf (validate_eq_ok_iff.mp hvalid).2.2.2.2 hcombined
    · rintro e ⟨other, hother, hfirst⟩
      rw [hother.unique hagain, ← options.reports_validate e, hvalid] at hfirst
      cases hfirst
  obtain ⟨other, hother⟩ :=
    (reports_resolve options.restate defaults otherId).exists_ok_iff.mpr hfaultless
  rw [hother, (merged_of_resolve hother).1.unique hagain]

theorem writable_restate (h : Merged line defaults freshId options)
    (hline : line.Writable) (hduration : ∀ secs ∈ defaults.duration, secs ≤ Text.maxWord)
    (hpacing : defaults.WritablePacing) : options.restate.Writable where
  virtualUsers n hmem := by
    rw [← Option.some.inj hmem, h.virtualUsers]
    cases husers : line.virtualUsers with
    | none => exact Nat.le_of_ble_eq_true rfl
    | some users => exact hline.virtualUsers users husers
  duration n hmem := by
    obtain ⟨secs, hsecs, hnanos⟩ := Option.map_eq_some_iff.mp h.duration.symm
    rw [← Option.some.inj hmem, ← hnanos, Duration.secs_ofSecs]
    rcases Option.or_eq_some_iff.mp hsecs with hsecs | ⟨-, hsecs⟩
    · exact hline.duration secs hsecs
    · exact hduration secs hsecs
  iterations n hmem := hline.iterations n (h.iterations ▸ hmem)
  pacingMs n hmem := by
    rw [← Option.some.inj hmem]
    cases hsome : options.pacing with
    | none => exact Nat.zero_le _
    | some pause =>
      obtain ⟨ms, rfl, -, hms⟩ := h.exists_millis hpacing hsome
      rw [Option.map_some, Option.getD_some, Duration.millis_ofMillis]
      exact hms.elim (hline.pacingMs ms) id
  ioTimeoutMs := by
    rw [restate, h.ioTimeout, Duration.millis_ofMillis]
    exact hline.ioTimeoutMs

/-- Options are resolved unless something is wrong, and then the first thing wrong is reported.
What they are resolved to has in each field what the line says, or the default where it is silent,
and it is accepted.  A line that says all of that resolves to the same options. -/
theorem options_resolved (line : CommandLine) (defaults : Defaults) (freshId : String) :
    ((∃ options, resolve line defaults freshId = .ok options) ↔
      line.duration.or defaults.duration ≠ none ∧
        ¬ MixesAny line.cipherSuites ∧ ¬ RepeatsAny line.cipherSuites ∧
        ∃ options, Merged line defaults freshId options ∧
          0 < options.virtualUsers ∧ options.duration ≠ .zero ∧ options.iterations ≠ some 0 ∧
          options.ioTimeout ≠ .zero ∧ options.tls.validate = .ok ()) ∧
    (∀ e, resolve line defaults freshId = .error e ↔ First (faultsOf line defaults freshId) e) ∧
    ∀ options, resolve line defaults freshId = .ok options →
      Merged line defaults freshId options ∧ options.pacing ≠ some .zero ∧
      options.validate = .ok () ∧
      (defaults.WritablePacing →
        (line.Writable → (∀ secs ∈ defaults.duration, secs ≤ Text.maxWord) →
          options.restate.Writable) ∧
        ∀ otherId, resolve options.restate defaults otherId = .ok options) := by
  refine ⟨?_, reports_resolve line defaults freshId, fun options hresolve => ?_⟩
  · constructor
    · rintro ⟨options, hresolve⟩
      obtain ⟨hmerge, hvalid⟩ := resolve_eq_ok_iff.mp hresolve
      obtain ⟨hduration, hmixed, hrepeated⟩ := exists_merge_iff.mp ⟨options, hmerge⟩
      exact ⟨hduration, hmixed, hrepeated, options, merged_of_merge hmerge,
        validate_eq_ok_iff.mp hvalid⟩
    · rintro ⟨hduration, hmixed, hrepeated, options, hmerged, hvalid⟩
      obtain ⟨merged, hmerge⟩ := exists_merge_iff.mpr ⟨hduration, hmixed, hrepeated⟩
      rw [(merged_of_merge hmerge).unique hmerged] at hmerge
      exact ⟨options, resolve_eq_ok_iff.mpr ⟨hmerge, validate_eq_ok_iff.mpr hvalid⟩⟩
  · obtain ⟨hmerged, hvalid⟩ := merged_of_resolve hresolve
    exact ⟨hmerged, hmerged.pacing_ne_zero, hvalid, fun hpacing =>
      ⟨fun hline hduration => writable_restate hmerged hline hduration hpacing,
        resolve_restate hresolve hpacing⟩⟩

namespace Sample

/-- The word for every suite, twice. -/
def anyTwice : CommandLine :=
  { CommandLine.empty with duration := some 1, cipherSuites := ["any", "any"] }

/-- What comes of it once the word is taken for what it says. -/
def everySuite : Options where
  virtualUsers := 1
  duration := .ofSecs 1
  iterations := none
  pacing := none
  ioTimeout := .ofMillis 10000
  tls := .standard
  target := none
  runId := "sample"
  noProgress := false
  reporter := .inMemory

end Sample

/-- The word for every suite is refused where it stands twice, though no other suite is combined
with it and nothing else is wrong. -/
theorem any_twice_refused :
    ¬ MixesAny Sample.anyTwice.cipherSuites ∧
    Merged Sample.anyTwice .none "sample" Sample.everySuite ∧
    Sample.everySuite.validate = .ok () ∧
    resolve Sample.anyTwice .none "sample" = .error .anyCombined := by
  have hall : ∀ value ∈ Sample.anyTwice.cipherSuites, IsAny value := by decide
  refine ⟨fun hmixed => ?_, ?_, rfl, ?_⟩
  · obtain ⟨-, value, hmem, hnot⟩ := hmixed
    exact hnot (hall value hmem)
  · exact ⟨rfl, rfl, rfl, rfl, rfl, rfl, rfl, .any (List.cons_ne_nil _ _) hall, rfl, rfl, rfl, rfl,
      rfl⟩
  · rw [reports_resolve]
    exact .later nofun (.here ⟨.inr ⟨by decide, hall⟩, rfl⟩)

namespace Sample

/-- No version above 1.2. -/
def narrow : CommandLine :=
  { CommandLine.empty with iterations := some 3, tlsMax := some .tls12 }

/-- Ten seconds, with a pause after each iteration, and a suite for each kind of version. -/
def paced : Defaults :=
  ⟨some "https://h/", some 10, some (.ofMillis 250),
    ⟨.tls12, .tls13, .only Tls.Policy.Sample.mixed, false⟩⟩

end Sample

/-- What the line leaves open comes from the scenario, and a line that says it all resolves to the
same. -/
theorem options_resolved_sample :
    ∃ options, resolve Sample.narrow Sample.paced "sample" = .ok options ∧
      Merged Sample.narrow Sample.paced "sample" options ∧
      options.restate.Writable ∧
      resolve options.restate Sample.paced "other" = .ok options := by
  obtain ⟨-, -, hresolved⟩ := options_resolved Sample.narrow Sample.paced "sample"
  obtain ⟨options, hresolve⟩ : ∃ options,
      resolve Sample.narrow Sample.paced "sample" = .ok options := ⟨_, rfl⟩
  obtain ⟨hmerged, -, -, hrestate⟩ := hresolved options hresolve
  have hpause : Sample.paced.WritablePacing := by
    rintro _ ⟨⟩
    exact ⟨250, Nat.le_of_ble_eq_true rfl, rfl⟩
  obtain ⟨hwritable, hagain⟩ := hrestate hpause
  refine ⟨options, hresolve, hmerged, hwritable ?_ ?_, hagain "other"⟩
  · constructor <;> simp [Sample.narrow, CommandLine.empty, Text.maxWord]
  · rintro _ ⟨⟩
    exact Nat.le_of_ble_eq_true rfl

end Options

end LoadHarness
