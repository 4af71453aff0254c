import LoadHarness.Proofs.Net.Window

/-! The suites that a client offers, read back from the texts that name them.

Both names of a suite are its own, and no library name holds the colon that stands
between two of them.  So a text that is passed to the TLS library reads back as the
suites it was made of:

    suiteNames (libraryNames suites ++ level) = suites.map (·.libraryName)

For an accepted policy these are the suites that it allows, each once and in the text
for the versions it belongs to (`offered_suites`). -/

namespace LoadHarness

namespace Tls

/-! ## Texts that name suites -/

/-- The part of a text that lowers the security level of the library. -/
def securityPart : String := "@SECLEVEL=0"

/-- The parts of a text between its colons. -/
def colonParts (text : String) : List String := (text.toList.splitOn ':').map String.ofList

/-- Whether a text that is passed to the TLS library ends in the lowest security level. -/
def lowersSecurity (text : String) : Bool := (colonParts text).getLast? == some securityPart

/-- The suites that a text names to the TLS library; a security level at its end is none. -/
def suiteNames (text : String) : List String :=
  if lowersSecurity text then (colonParts text).dropLast else colonParts text

/-- The IANA names of the suites that a text names to the TLS library, where they are known. -/
def readBack (text : String) : List (Option String) :=
  (suiteNames text).map fun part => (CipherSuite.ofLibraryName? part).map (·.name)

namespace CipherSuite

variable {name : String} {suite : CipherSuite}

theorem mem_known_of_lookup? (h : lookup? name = some suite) : suite ∈ known :=
  List.mem_of_find?_eq_some h

theorem name_of_lookup? (h : lookup? name = some suite) : suite.name = name := by
  have hfound := List.find?_some h
  exact eq_of_beq hfound

/-- A known suite is found under its library name, which it shares with no other. -/
theorem ofLibraryName?_libraryName :
    ∀ suite ∈ known, ofLibraryName? suite.libraryName = some suite := by
  decide +kernel

/-- A character is told to be absent from texts of suites by the characters that they are made of,
without taking the texts apart. -/
theorem notMem_toList {c : Char} {text : CipherSuite → String}
    (h : ∀ suite ∈ known, ∃ chars, text suite = String.ofList chars ∧ c ∉ chars) :
    ∀ suite ∈ known, c ∉ (text suite).toList := by
  intro suite hmem
  obtain ⟨chars, htext, hnone⟩ := h suite hmem
  rw [htext, String.toList_ofList]
  exact hnone

theorem colon_notMem_libraryName : ∀ suite ∈ known, ':' ∉ suite.libraryName.toList := by
  apply notMem_toList
  simp only [known, legacy, modern, List.forall_mem_cons, List.not_mem_nil, false_implies,
    implies_true, and_true]
  and_intros
  all_goals exact ⟨_, rfl, by decide⟩

theorem libraryName_ne_securityPart : ∀ suite ∈ known, suite.libraryName ≠ securityPart := by
  decide +kernel

theorem reportedSuite_libraryName (h : suite ∈ known) :
    reportedSuite suite.libraryName = suite.name := by
  rw [reportedSuite, ofLibraryName?_libraryName suite h]
  rfl

end CipherSuite

section Texts

variable {suites : List CipherSuite}

theorem colonParts_intercalate {parts : List String} (hne : parts ≠ [])
    (h : ∀ part ∈ parts, ':' ∉ part.toList) : colonParts (":".intercalate parts) = parts := by
  have hsplit : (parts.map String.toList) ≠ [] := by simpa using hne
  rw [colonParts, String.toList_intercalate]
  have hcolon : (":" : String).toList = [':'] := rfl
  rw [hcolon, List.splitOn_intercalate ':' (by simpa using h) hsplit, List.map_map]
  simp

theorem colonParts_libraryNames (hne : suites ≠ [])
    (h : ∀ suite ∈ suites, suite ∈ CipherSuite.known) :
    colonParts (libraryNames suites) = suites.map (·.libraryName) := by
  refine colonParts_intercalate (by simpa using hne) fun part hmem => ?_
  obtain ⟨suite, hsuite, rfl⟩ := List.mem_map.mp hmem
  exact CipherSuite.colon_notMem_libraryName suite (h suite hsuite)

/-- The level is one more part. -/
theorem colonParts_libraryNames_append (hne : suites ≠ [])
    (h : ∀ suite ∈ suites, suite ∈ CipherSuite.known) :
    colonParts (libraryNames suites ++ lowestSecurity) =
      suites.map (·.libraryName) ++ [securityPart] := by
  have hjoin : libraryNames suites ++ lowestSecurity =
      ":".intercalate (suites.map (·.libraryName) ++ [securityPart]) := by
    rw [String.intercalate_append_of_ne_nil (by simpa using hne) (List.cons_ne_nil _ _),
      String.append_assoc]
    rfl
  rw [hjoin]
  refine colonParts_intercalate (by simp) fun part hmem => ?_
  rcases List.mem_append.mp hmem with hmem | hmem
  · obtain ⟨suite, hsuite, rfl⟩ := List.mem_map.mp hmem
    exact CipherSuite.colon_notMem_libraryName suite (h suite hsuite)
  · rw [List.mem_singleton.mp hmem]
    decide

/-- A text that names suites reads back as them, with a security level at its end or without. -/
theorem suiteNames_libraryNames (hne : suites ≠ [])
    (h : ∀ suite ∈ suites, suite ∈ CipherSuite.known) :
    lowersSecurity (libraryNames suites) = false ∧
      suiteNames (libraryNames suites) = suites.map (·.libraryName) := by
  have hlast : lowersSecurity (libraryNames suites) = false := by
    rw [lowersSecurity, colonParts_libraryNames hne h, List.getLast?_map, beq_eq_false_iff_ne]
    intro heq
    obtain ⟨suite, hsuite, hname⟩ := Option.map_eq_some_iff.mp heq
    exact CipherSuite.libraryName_ne_securityPart suite
      (h suite (List.mem_of_getLast? hsuite)) hname
  refine ⟨hlast, ?_⟩
  rw [suiteNames, hlast, if_neg Bool.false_ne_true, colonParts_libraryNames hne h]

theorem suiteNames_libraryNames_append (hne : suites ≠ [])
    (h : ∀ suite ∈ suites, suite ∈ CipherSuite.known) :
    lowersSecurity (libraryNames suites ++ lowestSecurity) = true ∧
      suiteNames (libraryNames suites ++ lowestSecurity) = suites.map (·.libraryName) := by
  have hlast : lowersSecurity (libraryNames suites ++ lowestSecurity) = true := by
    rw [lowersSecurity, colonParts_libraryNames_append hne h, List.getLast?_concat,
      beq_self_eq_true]
  refine ⟨hlast, ?_⟩
  rw [suiteNames, hlast, if_pos rfl, colonParts_libraryNames_append hne h, List.dropLast_concat]

/-- Known suites are found again under their library names. -/
theorem map_ofLibraryName? (h : ∀ suite ∈ suites, suite ∈ CipherSuite.known) :
    (suites.map (·.libraryName)).map (fun part =>
      (CipherSuite.ofLibraryName? part).map (·.name)) = (suites.map (·.name)).map some := by
  rw [List.map_map, List.map_map]
  refine List.map_congr_left fun suite hmem => ?_
  simp only [Function.comp_apply, CipherSuite.ofLibraryName?_libraryName suite (h suite hmem),
    Option.map_some]

end Texts

/-! ## The names of a choice -/

/-- The names of the suites in a set that belong to versions up to 1.2, in byte order. -/
def legacyNames (names : NameSet) : List String :=
  names.toList.filter fun name => (CipherSuite.lookup? name).any fun suite => !suite.tls13

/-- The names of the suites in a set that belong to version 1.3, in byte order. -/
def tls13Names (names : NameSet) : List String :=
  names.toList.filter fun name => (CipherSuite.lookup? name).any fun suite => suite.tls13

/-- Looking names up keeps their order, and picks the same ones before and after. -/
theorem map_name_filterMap_lookup? (which : CipherSuite → Bool) (list : List String) :
    ((list.filterMap CipherSuite.lookup?).filter which).map (·.name) =
      list.filter fun name => (CipherSuite.lookup? name).any which := by
  induction list with
  | nil => rfl
  | cons name list ih =>
    cases hlookup : CipherSuite.lookup? name with
    | none =>
      rw [List.filterMap_cons_none hlookup, ih, List.filter_cons_of_neg (by simp [hlookup])]
    | some suite =>
      rw [List.filterMap_cons_some hlookup]
      cases hwhich : which suite with
      | true =>
        rw [List.filter_cons_of_pos hwhich, List.map_cons, ih,
          List.filter_cons_of_pos (by simp [hlookup, hwhich]),
          CipherSuite.name_of_lookup? hlookup]
      | false =>
        rw [List.filter_cons_of_neg (by simp [hwhich]), ih,
          List.filter_cons_of_neg (by simp [hlookup, hwhich])]

/-- Of known names, each belongs to the one part or to the other. -/
theorem perm_legacyNames_append {names : NameSet}
    (h : ∀ name ∈ names, (CipherSuite.lookup? name).isSome = true) :
    (legacyNames names ++ tls13Names names).Perm names.toList := by
  have hother : tls13Names names = names.toList.filter fun name =>
      !(CipherSuite.lookup? name).any fun suite => !suite.tls13 := by
    refine List.filter_congr fun name hmem => ?_
    obtain ⟨suite, hlookup⟩ := Option.isSome_iff_exists.mp (h name hmem)
    rw [hlookup, Option.any_some, Option.any_some, Bool.not_not]
  rw [legacyNames, hother]
  exact List.filter_append_perm _ _

namespace Policy

variable {policy : Policy} {names : NameSet}

theorem map_name_legacySuites (h : policy.suites = .only names) :
    policy.legacySuites.map (·.name) = legacyNames names := by
  rw [legacySuites, knownSuites, names_of_only h, map_name_filterMap_lookup?, legacyNames]

theorem map_name_tls13Suites (h : policy.suites = .only names) :
    policy.tls13Suites.map (·.name) = tls13Names names := by
  rw [tls13Suites, knownSuites, names_of_only h, map_name_filterMap_lookup?, tls13Names]

theorem legacySuites_eq_nil_iff (h : policy.suites = .only names) :
    policy.legacySuites = [] ↔ legacyNames names = [] := by
  rw [← map_name_legacySuites h, List.map_eq_nil_iff]

theorem tls13Suites_eq_nil_iff (h : policy.suites = .only names) :
    policy.tls13Suites = [] ↔ tls13Names names = [] := by
  rw [← map_name_tls13Suites h, List.map_eq_nil_iff]

theorem mem_known_of_mem_knownSuites {suite : CipherSuite} (h : suite ∈ policy.knownSuites) :
    suite ∈ CipherSuite.known := by
  obtain ⟨name, -, hlookup⟩ := mem_knownSuites.mp h
  exact CipherSuite.mem_known_of_lookup? hlookup

theorem name_mem_of_mem_knownSuites (h : policy.suites = .only names) {suite : CipherSuite}
    (hmem : suite ∈ policy.knownSuites) : suite.name ∈ names := by
  obtain ⟨name, hname, hlookup⟩ := mem_knownSuites.mp hmem
  rw [names_of_only h] at hname
  rw [CipherSuite.name_of_lookup? hlookup]
  exact hname

/-! ## What the settings say -/

theorem readBack_of_suiteNames {suites : List CipherSuite} {text : String}
    (h : ∀ suite ∈ suites, suite ∈ CipherSuite.known)
    (htext : suiteNames text = suites.map (·.libraryName)) :
    readBack text = (suites.map (·.name)).map some := by
  rw [readBack, htext, map_ofLibraryName? h]

theorem known_of_legacySuites : ∀ suite ∈ policy.legacySuites, suite ∈ CipherSuite.known :=
  fun _ hmem => mem_known_of_mem_knownSuites (mem_legacySuites.mp hmem).1

theorem known_of_tls13Suites : ∀ suite ∈ policy.tls13Suites, suite ∈ CipherSuite.known :=
  fun _ hmem => mem_known_of_mem_knownSuites (mem_tls13Suites.mp hmem).1

/-- The text for versions up to 1.2 names the suites that are left for them. -/
theorem suiteNames_cipherList (h : policy.suites = .only names) {text : String}
    (htext : policy.settings.cipherList = some text) :
    suiteNames text = policy.legacySuites.map (·.libraryName) ∧
      (lowersSecurity text = true ↔ policy.offeredMin < .tls12) := by
  have hne : policy.legacySuites ≠ [] := fun hempty => by
    rw [(cipherList_eq_none_iff h).mpr hempty] at htext
    cases htext
  have hempty : policy.legacySuites.isEmpty = false := by simpa using hne
  simp only [settings, h, hempty, Bool.false_eq_true, if_false, Option.some.injEq] at htext
  subst htext
  rw [securityLevel]
  split
  · rename_i hlt
    obtain ⟨hlowers, hnames⟩ := suiteNames_libraryNames_append hne known_of_legacySuites
    exact ⟨hnames, fun _ => hlt, fun _ => hlowers⟩
  · rename_i hnlt
    obtain ⟨hlowers, hnames⟩ := suiteNames_libraryNames hne known_of_legacySuites
    rw [String.append_empty]
    exact ⟨hnames, fun hlower => absurd (hlowers.symm.trans hlower) Bool.false_ne_true,
      fun hlt => absurd hlt hnlt⟩

/-- The text for version 1.3 names the suites that are left for it. -/
theorem suiteNames_ciphersuites {text : String}
    (htext : policy.settings.ciphersuites = some text) :
    suiteNames text = policy.tls13Suites.map (·.libraryName) := by
  have hne : policy.tls13Suites ≠ [] := fun hempty => by
    rw [ciphersuites_eq_none_iff.mpr hempty] at htext
    cases htext
  have hempty : policy.tls13Suites.isEmpty = false := by simpa using hne
  simp only [settings, hempty, Bool.false_eq_true, if_false, Option.some.injEq] at htext
  subst htext
  exact (suiteNames_libraryNames hne known_of_tls13Suites).2

theorem lowersSecurity_default : lowersSecurity ("DEFAULT" ++ lowestSecurity) = true := by
  decide +kernel

/-- The security level is lowered where the lowest version on offer asks for it, and there is
something to offer for that version. -/
theorem exists_lowersSecurity_iff :
    (∃ text, policy.settings.cipherList = some text ∧ lowersSecurity text = true) ↔
      policy.offeredMin < .tls12 ∧ (policy.suites ≠ .any → policy.legacySuites ≠ []) := by
  cases hsuites : policy.suites with
  | any =>
    simp only [settings, hsuites, securityLevel]
    split
    · rename_i hlt
      have hne : ¬ lowestSecurity = "" := by decide
      simp only [hne, if_false, Option.some.injEq, hlt, true_and]
      exact ⟨fun _ hany => absurd rfl hany, fun _ => ⟨_, rfl, lowersSecurity_default⟩⟩
    · rename_i hnlt
      simp [hnlt]
  | only names =>
    constructor
    · rintro ⟨text, htext, hlowers⟩
      refine ⟨(suiteNames_cipherList hsuites htext).2.mp hlowers, fun _ hempty => ?_⟩
      rw [(cipherList_eq_none_iff hsuites).mpr hempty] at htext
      cases htext
    · rintro ⟨hlt, hlegacy⟩
      have hset := mt (cipherList_eq_none_iff hsuites).mp (hlegacy (by simp))
      obtain ⟨text, htext⟩ := Option.ne_none_iff_exists'.mp hset
      exact ⟨text, htext, (suiteNames_cipherList hsuites htext).2.mpr hlt⟩

/-- For an accepted policy that is where some version below 1.2 is on offer. -/
theorem exists_lowersSecurity_iff_offers (hvalid : policy.validate = .ok ()) :
    (∃ text, policy.settings.cipherList = some text ∧ lowersSecurity text = true) ↔
      ∃ version, policy.Offers version ∧ version < .tls12 := by
  rw [exists_lowersSecurity_iff]
  constructor
  · rintro ⟨hlt, -⟩
    obtain ⟨version, hallowed⟩ := exists_hasSuite hvalid
    obtain ⟨hmin, hmax⟩ := offers_iff.mpr hallowed
    exact ⟨policy.offeredMin, ⟨Nat.le_refl _, Nat.le_trans hmin hmax⟩, hlt⟩
  · rintro ⟨version, hoffers, hlt⟩
    refine ⟨Nat.lt_of_le_of_lt hoffers.1 hlt, fun hchosen => ?_⟩
    cases hsuites : policy.suites with
    | any => exact absurd hsuites hchosen
    | only names =>
      refine ((offeredMin_le_iff hsuites).mp hoffers.1).2 ?_
      rintro rfl
      exact absurd hlt (by decide)

end Policy

end Tls

namespace Net.Connector

open Tls

/-- Whether a version lies between bounds that are among the calls to the TLS library. -/
def OfferedIn (calls : List Call) (version : Version) : Prop :=
  ∃ min max, .minVersion min ∈ calls ∧ .maxVersion max ∈ calls ∧ min ≤ version ∧ version ≤ max

theorem offeredIn_allCalls {policy : Policy} {version : Version} :
    OfferedIn policy.allCalls version ↔ policy.Offers version := by
  constructor
  · rintro ⟨min, max, hmin, hmax, hversion⟩
    simp only [Policy.mem_allCalls, reduceCtorEq, Call.minVersion.injEq, Call.maxVersion.injEq,
      and_false, exists_false, or_false, false_or] at hmin hmax
    subst hmin hmax
    exact hversion
  · exact fun hversion => ⟨_, _, by simp [Policy.mem_allCalls], by simp [Policy.mem_allCalls],
      hversion⟩

/-- What the calls to the TLS library say of a choice of suites. -/
structure Told (names : NameSet) (calls : List Call) : Prop where
  /-- The text for versions up to 1.2 reads back as the names that belong to them, in order. -/
  legacy : ∀ text, .cipherList text ∈ calls → readBack text = (legacyNames names).map some
  /-- The text for version 1.3 reads back as the names that belong to it, in order. -/
  tls13 : ∀ text, .ciphersuites text ∈ calls → readBack text = (tls13Names names).map some
  /-- Together these are the chosen names: none is lost, added or repeated. -/
  whole : (legacyNames names ++ tls13Names names).Perm names.toList
  ascending : (legacyNames names).Pairwise (· < ·) ∧ (tls13Names names).Pairwise (· < ·)
  legacyUnset : (∀ text, .cipherList text ∉ calls) ↔ legacyNames names = []
  tls13Unset : (∀ text, .ciphersuites text ∉ calls) ↔ tls13Names names = []
  /-- A text is left unset only if no version on offer would use it. -/
  legacyUnused : legacyNames names = [] → ∀ version, OfferedIn calls version → version = .tls13
  tls13Unused : tls13Names names = [] → ∀ version, OfferedIn calls version → version ≠ .tls13
  /-- A suite that is named to the library is reported under a name that was chosen. -/
  reported : ∀ text, .cipherList text ∈ calls ∨ .ciphersuites text ∈ calls →
    ∀ part ∈ suiteNames text, ∀ version,
      ∃ name ∈ names, (negotiated version (some part)).suite = some name

theorem reported_of_suiteNames {policy : Policy} {names : NameSet} (h : policy.suites = .only names)
    {suites : List CipherSuite} (hsuites : ∀ suite ∈ suites, suite ∈ policy.knownSuites)
    {text part : String} (htext : suiteNames text = suites.map (·.libraryName))
    (hmem : part ∈ suiteNames text) (version : Option ReportedVersion) :
    ∃ name ∈ names, (negotiated version (some part)).suite = some name := by
  rw [htext] at hmem
  obtain ⟨suite, hsuite, rfl⟩ := List.mem_map.mp hmem
  have hknown := hsuites suite hsuite
  refine ⟨suite.name, Policy.name_mem_of_mem_knownSuites h hknown, ?_⟩
  have hreported := CipherSuite.reportedSuite_libraryName
    (Policy.mem_known_of_mem_knownSuites hknown)
  rw [negotiated, Option.map_some, hreported]

theorem told_allCalls {policy : Policy} {names : NameSet} (hvalid : policy.validate = .ok ())
    (h : policy.suites = .only names) : Told names policy.allCalls := by
  have hlist : ∀ {text}, .cipherList text ∈ policy.allCalls →
      policy.settings.cipherList = some text := by simp [Policy.mem_allCalls]
  have hsuites : ∀ {text}, .ciphersuites text ∈ policy.allCalls →
      policy.settings.ciphersuites = some text := by simp [Policy.mem_allCalls]
  have hknown := ((Policy.validate_eq_ok_iff.mp hvalid).2 names h).2.1
  constructor
  case legacy =>
    intro text hmem
    rw [Policy.readBack_of_suiteNames Policy.known_of_legacySuites
      (Policy.suiteNames_cipherList h (hlist hmem)).1, Policy.map_name_legacySuites h]
  case tls13 =>
    intro text hmem
    rw [Policy.readBack_of_suiteNames Policy.known_of_tls13Suites
      (Policy.suiteNames_ciphersuites (hsuites hmem)), Policy.map_name_tls13Suites h]
  case whole => exact perm_legacyNames_append hknown
  case ascending => exact ⟨names.ascending.filter _, names.ascending.filter _⟩
  case legacyUnset =>
    rw [← Policy.legacySuites_eq_nil_iff h, ← Policy.cipherList_eq_none_iff h,
      Option.eq_none_iff_forall_ne_some]
    simp [Policy.mem_allCalls]
  case tls13Unset =>
    rw [← Policy.tls13Suites_eq_nil_iff h, ← Policy.ciphersuites_eq_none_iff,
      Option.eq_none_iff_forall_ne_some]
    simp [Policy.mem_allCalls]
  case legacyUnused =>
    intro hempty version hoffered
    have hmin := ((Policy.offeredMin_le_iff h).mp (offeredIn_allCalls.mp hoffered).1).2
    exact Classical.byContradiction fun hne =>
      hmin hne ((Policy.legacySuites_eq_nil_iff h).mpr hempty)
  case tls13Unused =>
    intro hempty version hoffered heq
    have hmax := ((Policy.le_offeredMax_iff h).mp (offeredIn_allCalls.mp hoffered).2).2
    exact hmax heq ((Policy.tls13Suites_eq_nil_iff h).mpr hempty)
  case reported =>
    rintro text (hmem | hmem) part hpart version
    · exact reported_of_suiteNames h (fun _ hmem => (Policy.mem_legacySuites.mp hmem).1)
        (Policy.suiteNames_cipherList h (hlist hmem)).1 hpart version
    · exact reported_of_suiteNames h (fun _ hmem => (Policy.mem_tls13Suites.mp hmem).1)
        (Policy.suiteNames_ciphersuites (hsuites hmem)) hpart version

/-- For an accepted policy a client names exactly the suites that are allowed to the library, and
lowers the security level exactly if it offers a version below 1.2. -/
theorem offered_suites {policy : Policy} (hvalid : policy.validate = .ok ()) :
    ∃ calls, Makes policy calls ∧
      (∀ names, policy.suites = .only names → Told names calls) ∧
      ((∃ text, .cipherList text ∈ calls ∧ lowersSecurity text = true) ↔
        ∃ version, OfferedIn calls version ∧ version < .tls12) := by
  refine ⟨policy.allCalls, makes_allCalls policy, fun names => told_allCalls hvalid, ?_⟩
  simp only [offeredIn_allCalls, ← Policy.exists_lowersSecurity_iff_offers hvalid]
  simp [Policy.mem_allCalls]

/-- Two suites for the versions up to 1.2 and one for 1.3. -/
def Sample.suites : NameSet :=
  .ofList ["TLS_RSA_WITH_RC4_128_SHA", "TLS_AES_128_GCM_SHA256", "TLS_RSA_WITH_AES_128_GCM_SHA256"]

/-- They are named to the library in byte order of their IANA names, which is not that of the names
in the texts.  The security level is lowered, as 1.1 is on offer. -/
theorem offered_suites_sample :
    ∃ calls,
      (Policy.mk .tls11 .tls13 (.only Sample.suites) false).validate = .ok () ∧
        Makes ⟨.tls11, .tls13, .only Sample.suites, false⟩ calls ∧
        calls = [.builder, .minVersion .tls11, .maxVersion .tls13,
          .cipherList "AES128-GCM-SHA256:RC4-SHA:@SECLEVEL=0",
          .ciphersuites "TLS_AES_128_GCM_SHA256"] ∧
        Told Sample.suites calls ∧ ∃ version, OfferedIn calls version ∧ version < .tls12 := by
  have hvalid : (Policy.mk .tls11 .tls13 (.only Sample.suites) false).validate = .ok () := rfl
  obtain ⟨calls, hmakes, htold, hlowered⟩ := offered_suites hvalid
  obtain ⟨taken, connector, hbuild⟩ := hmakes.possible
  have hcalls : calls = [.builder, .minVersion .tls11, .maxVersion .tls13,
      .cipherList "AES128-GCM-SHA256:RC4-SHA:@SECLEVEL=0",
      .ciphersuites "TLS_AES_128_GCM_SHA256"] :=
    (hmakes.inFull _ _ hbuild).symm.trans ((makes_allCalls _).inFull _ _ hbuild)
  refine ⟨calls, hvalid, hmakes, hcalls, htold _ rfl, hlowered.mp ?_⟩
  exact ⟨"AES128-GCM-SHA256:RC4-SHA:@SECLEVEL=0", by simp [hcalls], by decide +kernel⟩

end Net.Connector

end LoadHarness
