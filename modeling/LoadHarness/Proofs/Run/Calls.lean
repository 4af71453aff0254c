import LoadHarness.Proofs.Run.Hooks
import LoadHarness.Proofs.Run.Life

/-! The calls of hooks that the journal tells of, and what they can come to.

A call is noted when it comes to its end, with the iteration in which it was made.
No note is made up: the hook, called in that iteration by that user, does come to
that result under some answers to its actions (`yields_of_mem_notes`). -/

namespace LoadHarness

/-- Whether work can end with a value: some answers to its actions lead there. -/
inductive Work.Yields {α : Type} : Work α → α → Prop where
  | done (value : α) : Yields (.done value) value
  | act {action : Action} {next : Answer action → Work α} {value : α} (answer : Answer action)
      (h : (next answer).Yields value) : Yields (.act action next) value

namespace Run

variable {G V : Type}

/-! ## Where results come from -/

namespace UserHook

/-- A hook that user `id` calls in this iteration can come to this result. -/
def CanYield (scenario : Scenario G V) (options : Options) (hook : UserHook) (id iteration : Nat)
    (result : Except Fault Unit) : Prop :=
  ∃ body global value last, hook.ofScenario scenario = some body ∧
    ((body ⟨id, iteration, options, global⟩).run.run value).Yields (result, last)

theorem kind_injective {hook other : UserHook} (h : hook.kind = other.kind) : hook = other := by
  cases hook <;> cases other <;> cases h <;> rfl

end UserHook

/-- All that the work of a user can end with is what the hook that it is in can end with, called
in the iteration of the user. -/
def User.InHook (scenario : Scenario G V) (options : Options) (user : User V) : Prop :=
  ∀ (hook : UserHook) (work : Begun V), user.point = hook.point work →
    ∃ body global value, hook.ofScenario scenario = some body ∧
      ∀ last, work.Yields last →
        ((body ⟨user.id, user.iteration, options, global⟩).run.run value).Yields last

section Step

variable {setting : Setting G V} {user : User V} {shared : Shared} {stepped : Stepped V}

theorem keeps_inHook (setting : Setting G V) (id : Nat) :
    setting.Keeps id (fun _ => True) fun hook iteration work =>
      ∃ body global value, hook.ofScenario setting.scenario = some body ∧
        ∀ last, work.Yields last →
          ((body ⟨id, iteration, setting.options, global⟩).run.run value).Yields last where
  fresh := trivial
  begins := fun _ body hbody _ value _ => ⟨body, setting.global, value, hbody, fun _ h => h⟩
  acts := by
    rintro hook iteration _ _ _ _ _ _ answer _ _ _ ⟨body, global, value, hbody, hyields⟩
    exact ⟨body, global, value, hbody, fun last hlast => hyields last (.act answer hlast)⟩
  ends := fun _ _ _ _ _ => trivial

theorem inHook_start (setting : Setting G V) (id : Nat) :
    (User.start setting id).InHook setting.scenario setting.options := by
  rw [User.InHook, User.id_start]
  exact (User.Working.start (keeps_inHook setting id)).work

theorem User.InHook.step (h : user.InHook setting.scenario setting.options)
    (hstep : user.Step setting shared stepped) :
    stepped.user.InHook setting.scenario setting.options := by
  rw [User.InHook, hstep.id]
  refine (User.Working.step ?_ (keeps_inHook setting user.id) hstep).work
  exact ⟨trivial, h⟩

/-- A call that a step notes is one that the hook of the user can come to. -/
theorem yields_of_step (h : user.InHook setting.scenario setting.options)
    (hstep : user.Step setting shared stepped) {party : Party} {hook : UserHook} {iteration : Nat}
    {result : Except Fault Unit}
    (hmem : .called party hook.kind iteration result ∈ stepped.entries) :
    hook.CanYield setting.scenario setting.options user.id iteration result := by
  have hdone : ∀ (other : UserHook) (last : Except Fault Unit × V),
      user.point = other.point (.done last) →
      .called party hook.kind iteration result ∈ user.calledNote other.kind last.1 →
      hook.CanYield setting.scenario setting.options user.id iteration result := by
    intro other last hpoint hmem
    obtain ⟨body, global, value, hbody, hyields⟩ := h other _ hpoint
    have heq := List.mem_singleton.mp hmem
    simp only [Entry.called.injEq] at heq
    obtain ⟨-, hkind, rfl, rfl⟩ := heq
    obtain rfl := UserHook.kind_injective hkind
    exact ⟨body, global, value, last.2, hbody, hyields last (.done last)⟩
  cases hstep with
  | setUp hpoint | setupFailed hpoint => exact hdone .setup _ hpoint hmem
  | returned hpoint => exact hdone .behaviour _ hpoint hmem
  | tornDown hpoint | teardownFailed hpoint => exact hdone .teardown _ hpoint hmem
  | brokeOff other hpoint => exact hdone other _ hpoint hmem
  | acts | sawSignal | sawNoSignal => simp at hmem
  | capped | calls | lacksBehaviour | settled | advanced | paced | left => cases hmem

end Step

namespace State

theorem yields_of_mem_notes (scenario : Scenario G V) (options : Options) (startedAt : Int)
    (moves : List Move) {id : Nat} {user : User V}
    (h : ((start scenario options startedAt).after moves).users[id]? = some user)
    {party : Party} {hook : UserHook} {iteration : Nat} {result : Except Fault Unit}
    (hmem : .called party hook.kind iteration result ∈
      ((start scenario options startedAt).after moves).notes id) :
    hook.CanYield scenario options id iteration result := by
  have hall := user_induction (P := fun user notes => user.InHook scenario options ∧
    ∀ (party : Party) (hook : UserHook) (iteration : Nat) (result : Except Fault Unit),
      .called party hook.kind iteration result ∈ notes →
        hook.CanYield scenario options user.id iteration result) ?_ ?_ moves h
  · obtain ⟨rfl, -, hyields⟩ := hall
    exact hyields party hook iteration result hmem
  · rintro setting rfl rfl id
    exact ⟨inHook_start setting id, fun _ _ _ _ hmem => absurd hmem List.not_mem_nil⟩
  · rintro setting rfl rfl user shared stepped notes ⟨hinside, hyields⟩ hstep
    refine ⟨hinside.step hstep, fun party hook iteration result hmem => ?_⟩
    rw [hstep.id]
    rcases List.mem_append.mp hmem with hmem | hmem
    · exact hyields party hook iteration result hmem
    · exact yields_of_step hinside hstep hmem

end State

end Run

end LoadHarness
