import LoadHarness.Proofs.Failure.Chain
import LoadHarness.Proofs.Run.Trace

/-! How a run treats a failure of the behaviour.

What a failure is made of decides its treatment (`Failure.treatment_congr` and what comes
before it), and the treatment decides what is recorded of the iteration and whether the user
goes on (`Follows`). -/

namespace LoadHarness.Run

variable {G V : Type}

/-- What a treatment leaves of the recorder and of the user. -/
inductive Follows (setting : Setting G V) (user : User V) (recorder : Recorder) :
    Treatment → Recorder → User V → Prop where
  /-- Nothing is recorded, and the user goes on. -/
  | skips : Follows setting user recorder .skip recorder { user with point := .advance }
  /-- The user stops in bad health and goes to its teardown. -/
  | stops : Follows setting user recorder .bail (recorder.recordIteration (some "bail"))
      ({ user with healthy := false }.toTeardown setting)
  | network («class» : NetClass) : Follows setting user recorder (.network «class»)
      (recorder.recordIteration (some «class».name)) { user with point := .advance }
  | behaviour : Follows setting user recorder .behaviour
      (recorder.recordIteration (some "behaviour")) { user with point := .advance }

theorem follows_settle (setting : Setting G V) (user : User V) (shared : Shared)
    (failure : Failure) :
    ∃ recorder log, (user.settle setting shared (.error failure)).1 =
        { shared with recorder := recorder, log := log } ∧
      Follows setting user shared.recorder failure.treatment recorder
        (user.settle setting shared (.error failure)).2 := by
  unfold User.settle
  cases htreatment : failure.treatment with
  | skip =>
    simp only [htreatment]
    exact ⟨_, _, rfl, .skips⟩
  | bail =>
    simp only [htreatment]
    exact ⟨_, _, rfl, .stops⟩
  | network «class» =>
    simp only [htreatment]
    exact ⟨_, _, rfl, .network «class»⟩
  | behaviour =>
    simp only [htreatment]
    exact ⟨_, _, rfl, .behaviour⟩

/-- A user whose behaviour comes to a failure has nothing recorded if the root or a layer is a
shutdown, stops if one of them is a bail, and otherwise has the iteration recorded under the class
of the outermost failure of the network among the root and its sources.  Marks below the root and
layers that are none change nothing, and a disguise hides what it is made of but not what is below
that. -/
theorem failure_treated (setting : Setting G V) (user : User V) (shared : Shared)
    (outside : Outside) (value : V) (failure : Failure) :
    (failure.treatment = .skip ↔ failure.SaysShutdown) ∧
    (failure.treatment = .bail ↔ ¬ failure.SaysShutdown ∧ failure.SaysBail) ∧
    (∀ c, failure.treatment = .network c ↔ ¬ failure.SaysShutdown ∧ ¬ failure.SaysBail ∧
      ∃ error, failure.root.Outermost error ∧ error.class = c) ∧
    (failure.treatment = .behaviour ↔ ¬ failure.SaysShutdown ∧ ¬ failure.SaysBail ∧
      ∀ error, ¬ failure.root.Outermost error) ∧
    (¬ failure.root.IsMark →
      (⟨failure.root.unmarked, failure.layers⟩ : Failure).treatment = failure.treatment) ∧
    (∀ extra : List Context, (∀ layer ∈ extra, layer.IsPlain) →
      (extra.foldl Failure.context failure).treatment = failure.treatment) ∧
    (∀ inner error, (Cause.disguised inner).Outermost error ↔
      ∃ source, inner.source? = some source ∧ source.Outermost error) ∧
    ∃ returned recorder log next,
      { user with point := .behaviour (.done (.error (.failure failure), value)) }.step setting
          shared outside =
        some ⟨shared, returned, user.calledNote .behaviour (.error (.failure failure))⟩ ∧
      returned.step setting shared outside =
        some ⟨{ shared with recorder := recorder, log := log }, next, []⟩ ∧
      Follows setting { user with value := value } shared.recorder failure.treatment recorder
        next := by
  refine ⟨?_, ?_, fun c => Failure.treatment_eq_network_iff, Failure.treatment_eq_behaviour_iff,
    fun hroot => Failure.treatment_unmarked hroot failure.layers,
    fun extra hextra => Failure.treatment_addLayers failure extra hextra,
    fun inner error => Cause.outermost_of_netError?_eq_none rfl, ?_⟩
  · rw [failure.treatment_eq_skip_iff, Failure.isShutdown_iff]
  · rw [failure.treatment_eq_bail_iff, Failure.isBail_iff, ← Failure.isShutdown_iff,
      Bool.not_eq_true]
  · obtain ⟨recorder, log, hshared, hfollows⟩ :=
      follows_settle setting { user with value := value } shared failure
    refine ⟨{ user with value := value, point := .settle (.error failure) }, recorder, log,
      _, rfl, ?_, hfollows⟩
    rw [← hshared]
    unfold User.settle
    cases failure.treatment <;> rfl

namespace Sample

/-- A greeting that was not sent, in the guise of a fault, since the connection timed out while the
run was already stopping. -/
def tangled : Failure :=
  ⟨.wrapping "greeting" (.disguised (.wrapping "sending" (.carried .io
    (.wrapping "flushing" .shutdown)))), [.text "first iteration"]⟩

end Sample

/-- Of a shutdown under a fault of the network, the fault counts, and layers that speak of another
do not change that. -/
theorem failure_treated_sample :
    Sample.tangled.treatment = .network .io ∧
    (⟨Sample.tangled.root.unmarked, Sample.tangled.layers⟩ : Failure).treatment = .network .io ∧
    ([.net (.http "late"), .text "again"].foldl Failure.context Sample.tangled).treatment =
      .network .io := by
  obtain ⟨-, -, hnetwork, -, hunmarked, hlayers, -, -⟩ :=
    failure_treated ⟨Sample.scenario, Sample.options 1 none, ()⟩
      (User.start ⟨Sample.scenario, Sample.options 1 none, ()⟩ 0)
      (.start "sample" (.start 0 false)) .offline () Sample.tangled
  have htreatment : Sample.tangled.treatment = .network .io := by
    refine (hnetwork .io).mpr ⟨?_, ?_, ?_⟩
    · rw [← Failure.isShutdown_iff]
      decide
    · rw [← Failure.isBail_iff]
      decide
    · exact ⟨_, .through rfl rfl (.through rfl rfl (.here rfl)), rfl⟩
  refine ⟨htreatment, (hunmarked id).trans htreatment, (hlayers _ ?_).trans htreatment⟩
  intro layer hmem
  rcases List.mem_cons.mp hmem with rfl | hmem
  · trivial
  · rw [List.mem_singleton.mp hmem]
    trivial

end LoadHarness.Run
