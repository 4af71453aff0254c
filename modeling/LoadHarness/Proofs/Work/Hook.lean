import LoadHarness.Proofs.Work.Taken
import LoadHarness.Run.Hook

/-! What a hook has done when it is over.

A hook that is given a value comes to a result and leaves a value, once it has
taken some actions with some answers (`Hook.Takes`).  Each way of making a hook
has one law, and no law says anything about the answers. -/

namespace LoadHarness.Hook

open Work

variable {σ α β : Type} {value last : σ} {taken : List Taken}

/-- A hook that is given a value can come to a result and leave another value, once it has taken
these actions with these answers. -/
def Takes (hook : Hook σ α) (value : σ) (taken : List Taken) (result : Except Fault α)
    (last : σ) : Prop :=
  (hook.run.run value).Takes taken (result, last)

theorem takes_pure_iff {a : α} {result : Except Fault α} :
    Takes (pure a) value taken result last ↔ taken = [] ∧ result = .ok a ∧ last = value := by
  rw [← Prod.mk.injEq]
  exact Work.takes_pure_iff

theorem takes_get_iff {result : Except Fault σ} :
    Takes get value taken result last ↔ taken = [] ∧ result = .ok value ∧ last = value := by
  rw [← Prod.mk.injEq]
  exact Work.takes_pure_iff

theorem takes_modify_iff {change : σ → σ} {result : Except Fault PUnit} :
    Takes (modify change) value taken result last ↔
      taken = [] ∧ result = .ok ⟨⟩ ∧ last = change value := by
  rw [← Prod.mk.injEq]
  exact Work.takes_pure_iff

theorem takes_throw_iff {fault : Fault} {result : Except Fault α} :
    Takes (throw fault : Hook σ α) value taken result last ↔
      taken = [] ∧ result = .error fault ∧ last = value := by
  rw [← Prod.mk.injEq]
  exact Work.takes_pure_iff

theorem takes_ofWork_iff {work : Work α} {result : Except Fault α} :
    Takes (ofWork work) value taken result last ↔
      ∃ a, work.Takes taken a ∧ result = .ok a ∧ last = value := by
  constructor
  · intro h
    obtain ⟨lifted, done, middle, rfl, hlifted, hdone⟩ := Work.takes_bind_iff.mp h
    obtain ⟨first, rest, a, rfl, hfirst, hrest⟩ := Work.takes_bind_iff.mp hlifted
    obtain ⟨rfl, rfl⟩ := Work.takes_pure_iff.mp hrest
    obtain ⟨rfl, heq⟩ := Work.takes_pure_iff.mp hdone
    obtain ⟨rfl, rfl⟩ := Prod.mk.inj heq
    rw [List.append_nil, List.append_nil]
    exact ⟨a, hfirst, rfl, rfl⟩
  · rintro ⟨a, h, rfl, rfl⟩
    have hlifted : ((StateT.lift work : StateT σ Work α) last).Takes (taken ++ []) (a, last) :=
      Work.Takes.bind h (.done _)
    have hdone : Takes (ofWork work) last (taken ++ [] ++ []) (.ok a) last :=
      Work.Takes.bind hlifted (.done _)
    rwa [List.append_nil, List.append_nil] at hdone

theorem takes_bind_iff {hook : Hook σ α} {next : α → Hook σ β} {result : Except Fault β} :
    Takes (hook >>= next) value taken result last ↔
      (∃ fault, Takes hook value taken (.error fault) last ∧ result = .error fault) ∨
        ∃ first rest a middle, taken = first ++ rest ∧ Takes hook value first (.ok a) middle ∧
          Takes (next a) middle rest result last := by
  constructor
  · intro h
    obtain ⟨first, rest, ⟨outcome, middle⟩, rfl, hfirst, hrest⟩ := Work.takes_bind_iff.mp h
    cases outcome with
    | error fault =>
      obtain ⟨rfl, heq⟩ := Work.takes_pure_iff.mp hrest
      obtain ⟨rfl, rfl⟩ := Prod.mk.inj heq
      rw [List.append_nil]
      exact .inl ⟨fault, hfirst, rfl⟩
    | ok a => exact .inr ⟨first, rest, a, middle, rfl, hfirst, hrest⟩
  · rintro (⟨fault, h, rfl⟩ | ⟨first, rest, a, middle, rfl, hfirst, hrest⟩)
    · rw [← List.append_nil taken]
      exact Work.Takes.bind h (.done _)
    · exact Work.Takes.bind hfirst hrest

/-! ## Parts that cannot fail -/

theorem takes_get_bind_iff {next : σ → Hook σ β} {result : Except Fault β} :
    Takes (get >>= next) value taken result last ↔ Takes (next value) value taken result last :=
  Iff.rfl

theorem takes_modify_bind_iff {change : σ → σ} {next : PUnit → Hook σ β}
    {result : Except Fault β} :
    Takes (modify change >>= next) value taken result last ↔
      Takes (next ⟨⟩) (change value) taken result last :=
  Iff.rfl

theorem takes_ofWork_bind_iff {work : Work α} {next : α → Hook σ β} {result : Except Fault β} :
    Takes (ofWork work >>= next) value taken result last ↔
      ∃ first rest a, taken = first ++ rest ∧ work.Takes first a ∧
        Takes (next a) value rest result last := by
  rw [takes_bind_iff]
  constructor
  · rintro (⟨fault, h, -⟩ | ⟨first, rest, a, middle, rfl, hfirst, hrest⟩)
    · obtain ⟨a, -, hresult, -⟩ := takes_ofWork_iff.mp h
      cases hresult
    · obtain ⟨a, hwork, hresult, rfl⟩ := takes_ofWork_iff.mp hfirst
      cases hresult
      exact ⟨first, rest, a, rfl, hwork, hrest⟩
  · rintro ⟨first, rest, a, rfl, hwork, hrest⟩
    exact .inr ⟨first, rest, a, value, rfl, takes_ofWork_iff.mpr ⟨a, hwork, rfl, rfl⟩, hrest⟩

/-! ## Parts that only may fail -/

theorem takes_ofOption_bind_iff {missing : String} {option : Option α} {next : α → Hook σ β}
    {result : Except Fault β} :
    Takes (ofOption missing option >>= next) value taken result last ↔
      (option = none ∧ taken = [] ∧ result = .error (.failure (.ofText missing)) ∧ last = value) ∨
        ∃ a, option = some a ∧ Takes (next a) value taken result last := by
  cases option with
  | none =>
    have hfail : Takes (ofOption missing none >>= next) value taken result last ↔
        taken = [] ∧ result = .error (.failure (.ofText missing)) ∧ last = value :=
      takes_throw_iff
    simp only [hfail, true_and, reduceCtorEq, false_and, exists_false, or_false]
  | some a =>
    have hgo : Takes (ofOption missing (some a) >>= next) value taken result last ↔
        Takes (next a) value taken result last := Iff.rfl
    simp only [hgo, reduceCtorEq, false_and, Option.some.injEq, false_or, exists_eq_left']

/-- The result of a network operation, as that of a hook. -/
def netResult (outcome : Except NetError α) : Except Fault α :=
  outcome.mapError fun e => .failure (.ofNet e)

theorem isOk_netResult (outcome : Except NetError α) : (netResult outcome).isOk = outcome.isOk := by
  cases outcome <;> rfl

theorem takes_ofNet_iff {outcome : Except NetError α} {result : Except Fault α} :
    Takes (ofNet outcome) value taken result last ↔
      taken = [] ∧ result = netResult outcome ∧ last = value := by
  cases outcome with
  | ok => exact takes_pure_iff
  | error => exact takes_throw_iff

theorem takes_ofNet_bind_iff {outcome : Except NetError α} {next : α → Hook σ β}
    {result : Except Fault β} :
    Takes (ofNet outcome >>= next) value taken result last ↔
      (∃ e, outcome = .error e ∧ taken = [] ∧ result = .error (.failure (.ofNet e)) ∧
          last = value) ∨
        ∃ a, outcome = .ok a ∧ Takes (next a) value taken result last := by
  cases outcome with
  | error e =>
    have hfail : Takes (ofNet (.error e) >>= next) value taken result last ↔
        taken = [] ∧ result = .error (.failure (.ofNet e)) ∧ last = value :=
      takes_throw_iff
    simp only [hfail, Except.error.injEq, exists_eq_left', reduceCtorEq, false_and, exists_false,
      or_false]
  | ok a =>
    have hgo : Takes (ofNet (.ok a) >>= next) value taken result last ↔
        Takes (next a) value taken result last := Iff.rfl
    simp only [hgo, reduceCtorEq, false_and, exists_false, false_or, Except.ok.injEq,
      exists_eq_left']

/-! ## Records of checks -/

/-- The outcome of a check, recorded. -/
def checked (name : String) (passed : Bool) : Taken := ⟨.check name passed, ()⟩

theorem takes_perform_iff {action : Action} {result : Except Fault (Answer action)} :
    Takes (perform action) value taken result last ↔
      ∃ answer, taken = [⟨action, answer⟩] ∧ result = .ok answer ∧ last = value := by
  rw [perform, takes_ofWork_iff]
  simp only [Work.takes_perform_iff]

theorem takes_record_iff {name : String} {passed : Bool} {result : Except Fault Unit} :
    Takes (record name passed) value taken result last ↔
      taken = [checked name passed] ∧ result = .ok () ∧ last = value := by
  constructor
  · intro h
    obtain ⟨-, rfl, rfl, rfl⟩ := takes_perform_iff.mp h
    exact ⟨rfl, rfl, rfl⟩
  · rintro ⟨rfl, rfl, rfl⟩
    exact takes_perform_iff.mpr ⟨(), rfl, rfl, rfl⟩

theorem takes_record_bind_iff {name : String} {passed : Bool} {next : Unit → Hook σ β}
    {result : Except Fault β} :
    Takes (record name passed >>= next) value taken result last ↔
      ∃ rest, taken = checked name passed :: rest ∧ Takes (next ()) value rest result last := by
  rw [takes_bind_iff]
  constructor
  · rintro (⟨fault, h, -⟩ | ⟨first, rest, a, middle, rfl, hfirst, hrest⟩)
    · cases (takes_record_iff.mp h).2.1
    · obtain ⟨rfl, -, rfl⟩ := takes_record_iff.mp hfirst
      exact ⟨rest, rfl, hrest⟩
  · rintro ⟨rest, rfl, hrest⟩
    exact .inr ⟨_, rest, (), value, rfl, takes_record_iff.mpr ⟨rfl, rfl, rfl⟩, hrest⟩

theorem takes_check_iff {b : β} {name : String} {test : β → Bool} {result : Except Fault Bool} :
    Takes (check b name test) value taken result last ↔
      taken = [checked name (test b)] ∧ result = .ok (test b) ∧ last = value := by
  rw [check, takes_record_bind_iff]
  constructor
  · rintro ⟨rest, rfl, h⟩
    obtain ⟨rfl, rfl, rfl⟩ := takes_pure_iff.mp h
    exact ⟨rfl, rfl, rfl⟩
  · rintro ⟨rfl, rfl, rfl⟩
    exact ⟨[], rfl, takes_pure_iff.mpr ⟨rfl, rfl, rfl⟩⟩

theorem takes_check_bind_iff {b : β} {name : String} {test : β → Bool} {next : Bool → Hook σ α}
    {result : Except Fault α} :
    Takes (check b name test >>= next) value taken result last ↔
      ∃ rest, taken = checked name (test b) :: rest ∧
        Takes (next (test b)) value rest result last := by
  rw [Hook.takes_bind_iff]
  constructor
  · rintro (⟨fault, h, -⟩ | ⟨first, rest, a, middle, rfl, hfirst, hrest⟩)
    · cases (takes_check_iff.mp h).2.1
    · obtain ⟨rfl, hresult, rfl⟩ := takes_check_iff.mp hfirst
      cases hresult
      exact ⟨rest, rfl, hrest⟩
  · rintro ⟨rest, rfl, hrest⟩
    exact .inr ⟨_, rest, _, value, rfl, takes_check_iff.mpr ⟨rfl, rfl, rfl⟩, hrest⟩

/-- Every test is made and recorded, whatever came of those before it. -/
theorem takes_checkAll_iff {b : β} {tests : List (String × (β → Bool))}
    {result : Except Fault Bool} :
    Takes (checkAll b tests) value taken result last ↔
      taken = tests.map (fun test => checked test.1 (test.2 b)) ∧
        result = .ok (tests.all fun test => test.2 b) ∧ last = value := by
  induction tests generalizing taken result last with
  | nil => exact takes_pure_iff
  | cons test tests ih =>
    obtain ⟨name, test⟩ := test
    rw [checkAll, takes_check_bind_iff]
    simp only [Hook.takes_bind_iff, ih, Hook.takes_pure_iff]
    constructor
    · rintro ⟨_, rfl, ⟨fault, ⟨-, hresult, -⟩, -⟩ |
        ⟨_, _, _, _, rfl, ⟨rfl, hothers, rfl⟩, rfl, rfl, rfl⟩⟩
      · cases hresult
      · cases hothers
        exact ⟨by rw [List.append_nil]; rfl, rfl, rfl⟩
    · rintro ⟨rfl, rfl, rfl⟩
      exact ⟨_, rfl, .inr ⟨_, [], _, _, (List.append_nil _).symm, ⟨rfl, rfl, rfl⟩, rfl, rfl, rfl⟩⟩

/-! ## Going on after a failure -/

/-- What an attempt makes of the result of a hook. -/
def attempted : Except Fault α → Except Fault (Except Failure α)
  | .ok a => .ok (.ok a)
  | .error (.failure failure) => .ok (.error failure)
  | .error (.panic text) => .error (.panic text)

/-- A hook that is attempted does what it does, and nothing else. -/
theorem takes_attempt_iff {hook : Hook σ α} {result : Except Fault (Except Failure α)} :
    Takes (attempt hook) value taken result last ↔
      ∃ outcome, Takes hook value taken outcome last ∧ result = attempted outcome := by
  constructor
  · intro h
    obtain ⟨first, rest, ⟨tried, middle⟩, rfl, hfirst, hrest⟩ := Work.takes_bind_iff.mp h
    rcases takes_bind_iff.mp hfirst with ⟨fault, hhook, htried⟩ |
      ⟨hooked, done, a, left, rfl, hhook, hdone⟩
    · obtain rfl := htried
      cases fault with
      | failure | panic =>
        obtain ⟨rfl, heq⟩ := Work.takes_pure_iff.mp hrest
        obtain ⟨rfl, rfl⟩ := Prod.mk.inj heq
        rw [List.append_nil]
        exact ⟨_, hhook, rfl⟩
    · obtain ⟨rfl, htried, rfl⟩ := takes_pure_iff.mp hdone
      obtain rfl := htried
      obtain ⟨rfl, heq⟩ := Work.takes_pure_iff.mp hrest
      obtain ⟨rfl, rfl⟩ := Prod.mk.inj heq
      rw [List.append_nil, List.append_nil]
      exact ⟨_, hhook, rfl⟩
  · rintro ⟨outcome, h, rfl⟩
    rw [← List.append_nil taken]
    cases outcome with
    | ok a =>
      have htried : Takes (do return .ok (← hook) : Hook σ (Except Failure α)) value taken
          (.ok (.ok a)) last :=
        takes_bind_iff.mpr (.inr ⟨taken, [], a, last, (List.append_nil taken).symm, h,
          takes_pure_iff.mpr ⟨rfl, rfl, rfl⟩⟩)
      exact Work.Takes.bind htried (.done _)
    | error fault =>
      have htried : Takes (do return .ok (← hook) : Hook σ (Except Failure α)) value taken
          (.error fault) last :=
        takes_bind_iff.mpr (.inl ⟨fault, h, rfl⟩)
      cases fault <;> exact Work.Takes.bind htried (.done _)

end LoadHarness.Hook
