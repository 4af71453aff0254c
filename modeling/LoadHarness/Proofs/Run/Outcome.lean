import LoadHarness.Proofs.Run.Step

/-! What comes of an iteration: what is recorded of it, and whether the user goes on.

An outcome that counts is recorded with the class of its failure, if it failed
(`recordOf`).  One that bails ends the cycle of its user (`bails`); every other
one leads on.  `User.settle` is these two and lines of the log. -/

namespace LoadHarness

/-- The class under which a failed iteration is counted. -/
def Failure.className (failure : Failure) : String :=
  if failure.isBail then "bail"
  else match failure.netClass? with
    | some «class» => «class».name
    | none => "behaviour"

theorem Failure.className?_treatment (failure : Failure) :
    failure.treatment.className? =
      if failure.isShutdown then none else some failure.className := by
  unfold Failure.treatment Failure.className
  cases failure.isShutdown with
  | true => rfl
  | false =>
    cases failure.isBail with
    | true => rfl
    | false => cases failure.netClass? <;> rfl

theorem Failure.treatment_eq_bail_iff (failure : Failure) :
    failure.treatment = .bail ↔ failure.isShutdown = false ∧ failure.isBail = true := by
  unfold Failure.treatment
  cases failure.isShutdown with
  | true => simp
  | false =>
    cases failure.isBail with
    | true => simp
    | false => cases failure.netClass? <;> simp

theorem Failure.treatment_eq_skip_iff (failure : Failure) :
    failure.treatment = .skip ↔ failure.isShutdown = true := by
  unfold Failure.treatment
  cases failure.isShutdown with
  | true => simp
  | false =>
    cases failure.isBail with
    | true => simp
    | false => cases failure.netClass? <;> simp

namespace Run

/-- What is recorded of an iteration: the class of its failure, if it failed, and nothing at all of
one that was cut short because the run is stopping. -/
def recordOf : Except Failure Unit → Option (Option String)
  | .ok () => some none
  | .error failure => if failure.isShutdown then none else some (some failure.className)

/-- Whether an iteration is the last of its user because the user gives up. -/
def bails : Except Failure Unit → Bool
  | .ok () => false
  | .error failure => !failure.isShutdown && failure.isBail

theorem bails_error (failure : Failure) :
    bails (.error failure) = true ↔ failure.treatment = .bail := by
  rw [failure.treatment_eq_bail_iff, bails, Bool.and_eq_true, Bool.not_eq_true']

theorem recordOf_error (failure : Failure) :
    recordOf (.error failure) =
      if failure.treatment = .skip then none else some failure.treatment.className? := by
  have hskip := failure.treatment_eq_skip_iff
  rw [failure.className?_treatment, recordOf]
  cases hshutdown : failure.isShutdown with
  | true => rw [if_pos rfl, if_pos (hskip.mpr hshutdown)]
  | false =>
    have hne : ¬ failure.treatment = .skip := fun h => by
      rw [hskip.mp h] at hshutdown
      cases hshutdown
    rw [if_neg hne]
    rfl

namespace User

variable {G V : Type}

theorem settle_user (setting : Setting G V) (user : User V) (shared : Shared)
    (outcome : Except Failure Unit) :
    (user.settle setting shared outcome).2 =
      if bails outcome then { user with healthy := false }.toTeardown setting
      else { user with point := .advance } := by
  match outcome with
  | .ok () => rfl
  | .error failure =>
    have hbails := bails_error failure
    unfold settle
    cases htreatment : failure.treatment with
    | bail =>
      rw [if_pos (hbails.mpr htreatment)]
      simp only [htreatment]
    | skip | network «class» | behaviour =>
      rw [if_neg fun h => by rw [hbails.mp h] at htreatment; cases htreatment]
      simp only [htreatment]

/-- Settling touches nothing that parties share but the recorder and the log. -/
theorem settle_shared (setting : Setting G V) (user : User V) (shared : Shared)
    (outcome : Except Failure Unit) :
    ∃ log, (user.settle setting shared outcome).1 = { shared with
      recorder := match recordOf outcome with
        | some failure => shared.recorder.recordIteration failure
        | none => shared.recorder
      log := log } := by
  match outcome with
  | .ok () => exact ⟨shared.log, rfl⟩
  | .error failure =>
    rw [recordOf_error]
    unfold settle
    cases htreatment : failure.treatment <;> (simp only [htreatment]; exact ⟨_, rfl⟩)

end User

end Run

end LoadHarness
