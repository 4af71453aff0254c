import LoadHarness.Failure.Treatment

/-! What a failure is made of, and how that decides its treatment.

Two searches go through a failure and neither sees what the other looks at.  Marks are
shutdowns and bails; they are looked for at the root and in the layers around it, and
never below the root (`isShutdown_iff`, `isBail_iff`).  Failures of the network are looked
for on the way from the root through its sources, and never in the layers:

    failure.netClass? = some c ↔ ∃ error, failure.root.Outermost error ∧ error.class = c

So layers without a mark change nothing (`treatment_addLayers`), and neither do marks below
the root (`treatment_unmarked`). -/

namespace LoadHarness

namespace Cause

/-! ## The way through the sources -/

/-- What a cause was caused by.  A disguise hides the cause inside and leads on to what that one was
caused by. -/
def source? : Cause → Option Cause
  | wrapping _ source => some source
  | net error => error.source?.map fun fault => .text fault.message
  | carried _ inner => some (.disguised inner)
  | disguised inner => inner.source?
  | text _ | bail _ | shutdown | config _ => none

/-- The first failure of the network on the way from a cause through its sources. -/
inductive Outermost : Cause → NetError → Prop where
  | here {cause : Cause} {error : NetError} (hself : cause.netError? = some error) :
      Outermost cause error
  | through {cause source : Cause} {error : NetError} (hself : cause.netError? = none)
      (hsource : cause.source? = some source) (h : Outermost source error) :
      Outermost cause error

variable {cause inner : Cause} {error : NetError}

theorem outermost_of_netError? (h : cause.netError? = some error) {other : NetError} :
    cause.Outermost other ↔ other = error := by
  constructor
  · intro hother
    cases hother with
    | here hself => exact Option.some.inj (hself.symm.trans h)
    | through hself =>
      rw [hself] at h
      cases h
  · rintro rfl
    exact .here h

theorem outermost_of_netError?_eq_none (h : cause.netError? = none) :
    cause.Outermost error ↔ ∃ source, cause.source? = some source ∧ source.Outermost error := by
  constructor
  · intro herror
    cases herror with
    | here hself =>
      rw [hself] at h
      cases h
    | through _ hsource hbelow => exact ⟨_, hsource, hbelow⟩
  · rintro ⟨source, hsource, hbelow⟩
    exact .through h hsource hbelow

/-- The class that the entries of a chain show first is that of the outermost failure, if the
entries below the first show that of what lies below. -/
theorem findSome?_link_sources {c : NetClass}
    (hbelow : cause.sources.findSome? (·.class) = some c ↔
      ∃ source error, cause.source? = some source ∧ source.Outermost error ∧ error.class = c) :
    cause.chain.findSome? (·.class) = some c ↔
      ∃ error, cause.Outermost error ∧ error.class = c := by
  cases hself : cause.netError? with
  | some error =>
    have hlink : cause.link.class = some error.class := by rw [link, hself, Option.map_some]
    simp only [outermost_of_netError? hself, exists_eq_left]
    rw [chain, List.findSome?_cons, hlink, Option.some.injEq]
  | none =>
    have hlink : cause.link.class = none := by rw [link, hself, Option.map_none]
    simp only [outermost_of_netError?_eq_none hself]
    rw [chain, List.findSome?_cons, hlink, hbelow]
    constructor
    · rintro ⟨source, error, hsource, herror, hclass⟩
      exact ⟨error, ⟨source, hsource, herror⟩, hclass⟩
    · rintro ⟨error, ⟨source, hsource, herror⟩, hclass⟩
      exact ⟨source, error, hsource, herror, hclass⟩

theorem findSome?_sources_iff (cause : Cause) (c : NetClass) :
    cause.sources.findSome? (·.class) = some c ↔
      ∃ source error, cause.source? = some source ∧ source.Outermost error ∧ error.class = c := by
  induction cause with
  | wrapping message source ih =>
    have hchain := findSome?_link_sources ih
    simp only [source?, Option.some.injEq, exists_eq_left', exists_and_left]
    simpa [sources, chain] using hchain
  | disguised inner ih => exact ih
  | carried carrier inner ih =>
    -- the way leads through the disguise of the cause inside
    have hchain := @findSome?_link_sources (disguised inner) c ih
    simpa [sources, chain, source?, link, netError?] using hchain
  | net error =>
    have hnone : ∀ message error, ¬ (text message).Outermost error := by
      intro message error herror
      obtain ⟨source, hsource, -⟩ := (outermost_of_netError?_eq_none rfl).mp herror
      cases hsource
    cases hsource : error.source? <;> simp [sources, source?, hsource, hnone]
  | text | bail | shutdown | config => simp [sources, source?]

theorem findSome?_chain_iff (cause : Cause) (c : NetClass) :
    cause.chain.findSome? (·.class) = some c ↔
      ∃ error, cause.Outermost error ∧ error.class = c :=
  findSome?_link_sources (findSome?_sources_iff cause c)

/-! ## Marks below the root -/

/-- A cause with a plain message in place of every mark. -/
def unmarked : Cause → Cause
  | bail message => text message
  | shutdown => text shutdownMessage
  | wrapping message source => wrapping message source.unmarked
  | carried carrier inner => carried carrier inner.unmarked
  | disguised inner => disguised inner.unmarked
  | text message => text message
  | net error => net error
  | config message => config message

theorem message_unmarked (cause : Cause) : cause.unmarked.message = cause.message := by
  induction cause with
  | carried carrier inner ih => rw [unmarked, message, message, ih]
  | disguised inner ih => exact ih
  | text | wrapping | net | bail | shutdown | config => rfl

theorem netError?_unmarked (cause : Cause) : cause.unmarked.netError? = cause.netError? := by
  cases cause with
  | carried carrier inner => rw [unmarked, netError?, netError?, message_unmarked]
  | text | wrapping | net | disguised | bail | shutdown | config => rfl

theorem link_unmarked (cause : Cause) : cause.unmarked.link = cause.link := by
  rw [link, link, message_unmarked, netError?_unmarked]

/-- Marks show in a chain as their messages and as nothing else. -/
theorem chain_unmarked (cause : Cause) : cause.unmarked.chain = cause.chain := by
  have hsources : cause.unmarked.sources = cause.sources := by
    induction cause with
    | wrapping message source ih => simp only [unmarked, sources, link_unmarked, ih]
    | carried carrier inner ih => simp only [unmarked, sources, message_unmarked, ih]
    | disguised inner ih => exact ih
    | text | net | bail | shutdown | config => rfl
  rw [chain, chain, link_unmarked, hsources]

/-- Whether a cause is a mark itself. -/
def IsMark : Cause → Prop
  | shutdown | bail _ => True
  | _ => False

end Cause

/-- Whether a layer of context says something other than a mark. -/
def Context.IsPlain : Context → Prop
  | text _ | net _ => True
  | bail _ | shutdown => False

namespace Failure

variable {failure : Failure} {c : NetClass}

/-! ## The two searches -/

/-- Whether the root itself or what some layer says is a shutdown. -/
def SaysShutdown (failure : Failure) : Prop :=
  failure.root = .shutdown ∨ .shutdown ∈ failure.layers

/-- Whether the root itself or what some layer says is a bail. -/
def SaysBail (failure : Failure) : Prop :=
  (∃ message, failure.root = .bail message) ∨ ∃ message, .bail message ∈ failure.layers

theorem isShutdown_iff : failure.isShutdown = true ↔ failure.SaysShutdown := by
  simp [isShutdown, SaysShutdown]

theorem isBail_iff : failure.isBail = true ↔ failure.SaysBail := by
  rw [isBail, Bool.or_eq_true, SaysBail]
  refine or_congr ?_ ?_
  · cases failure.root <;> simp
  · rw [List.any_eq_true]
    constructor
    · rintro ⟨layer, hmem, hlayer⟩
      cases layer with
      | bail message => exact ⟨message, hmem⟩
      | text | shutdown | net => cases hlayer
    · rintro ⟨message, hmem⟩
      exact ⟨_, hmem, rfl⟩

/-- Layers show no class, whatever they say. -/
theorem netClass?_eq (failure : Failure) :
    failure.netClass? = failure.root.chain.findSome? (·.class) := by
  have hlayers : (failure.layers.reverse.map fun layer => (⟨layer.message, none⟩ : Link)).findSome?
      (·.class) = none := by
    rw [List.findSome?_eq_none_iff]
    intro link hmem
    obtain ⟨layer, -, rfl⟩ := List.mem_map.mp hmem
    rfl
  rw [netClass?, chain, List.findSome?_append, hlayers, Option.none_or]

theorem netClass?_eq_some_iff :
    failure.netClass? = some c ↔ ∃ error, failure.root.Outermost error ∧ error.class = c := by
  rw [netClass?_eq, Cause.findSome?_chain_iff]

theorem netClass?_eq_none_iff :
    failure.netClass? = none ↔ ∀ error, ¬ failure.root.Outermost error := by
  rw [Option.eq_none_iff_forall_ne_some]
  constructor
  · intro h error herror
    exact h error.class (netClass?_eq_some_iff.mpr ⟨error, herror, rfl⟩)
  · intro h c hsome
    obtain ⟨error, herror, -⟩ := netClass?_eq_some_iff.mp hsome
    exact h error herror

/-! ## The treatment -/

/-- The treatment is a matter of the two marks and of the class. -/
theorem treatment_congr {other : Failure} (hshutdown : failure.isShutdown = other.isShutdown)
    (hbail : failure.isBail = other.isBail) (hclass : failure.netClass? = other.netClass?) :
    failure.treatment = other.treatment := by
  rw [treatment, treatment, hshutdown, hbail, hclass]

theorem treatment_eq_network_iff :
    failure.treatment = .network c ↔ ¬ failure.SaysShutdown ∧ ¬ failure.SaysBail ∧
      ∃ error, failure.root.Outermost error ∧ error.class = c := by
  rw [← isShutdown_iff, ← isBail_iff, ← netClass?_eq_some_iff, treatment]
  cases failure.isShutdown <;> cases failure.isBail <;> cases failure.netClass? <;> simp

theorem treatment_eq_behaviour_iff :
    failure.treatment = .behaviour ↔ ¬ failure.SaysShutdown ∧ ¬ failure.SaysBail ∧
      ∀ error, ¬ failure.root.Outermost error := by
  rw [← isShutdown_iff, ← isBail_iff, ← netClass?_eq_none_iff, treatment]
  cases failure.isShutdown <;> cases failure.isBail <;> cases failure.netClass? <;> simp

/-- One more layer that is no mark changes nothing. -/
theorem treatment_context {layer : Context} (h : layer.IsPlain) :
    (failure.context layer).treatment = failure.treatment := by
  apply treatment_congr
  · rw [Bool.eq_iff_iff, isShutdown_iff, isShutdown_iff, SaysShutdown, SaysShutdown]
    cases layer with
    | text | net => simp [context]
    | bail | shutdown => exact h.elim
  · rw [Bool.eq_iff_iff, isBail_iff, isBail_iff, SaysBail, SaysBail]
    cases layer with
    | text | net => simp [context]
    | bail | shutdown => exact h.elim
  · rw [netClass?_eq, netClass?_eq, context]

theorem treatment_addLayers (failure : Failure) (extra : List Context)
    (h : ∀ layer ∈ extra, layer.IsPlain) :
    (extra.foldl context failure).treatment = failure.treatment := by
  induction extra generalizing failure with
  | nil => rfl
  | cons layer extra ih =>
    obtain ⟨hlayer, hextra⟩ := List.forall_mem_cons.mp h
    rw [List.foldl_cons, ih _ hextra, treatment_context hlayer]

/-- Marks below the root might as well be plain messages. -/
theorem treatment_unmarked {root : Cause} (h : ¬ root.IsMark) (layers : List Context) :
    (⟨root.unmarked, layers⟩ : Failure).treatment = (⟨root, layers⟩ : Failure).treatment := by
  apply treatment_congr
  · cases root with
    | bail | shutdown => exact absurd trivial h
    | text | wrapping | net | carried | config | disguised => rfl
  · cases root with
    | bail | shutdown => exact absurd trivial h
    | text | wrapping | net | carried | config | disguised => rfl
  · rw [netClass?_eq, netClass?_eq, Cause.chain_unmarked]

end Failure

end LoadHarness
