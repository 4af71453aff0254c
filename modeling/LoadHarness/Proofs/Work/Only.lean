import LoadHarness.Proofs.Work.Hook

/-! Work that keeps to some actions.

Which actions work can take at all is read off its tree, part by part (`Work.Only.bind`,
`Hook.only_bind`).  What it has taken is among them (`Work.Only.of_takes`), so a kind of
action that a hook does not have leaves nothing behind, whatever the answers. -/

namespace LoadHarness

namespace Work

variable {α β : Type} {which other : Action → Prop}

/-- Whatever is answered, work takes only such actions. -/
def Only (which : Action → Prop) : Work α → Prop
  | .done _ => True
  | .act action next => which action ∧ ∀ answer, (next answer).Only which

theorem only_pure (value : α) : (pure value : Work α).Only which := trivial

theorem only_perform {action : Action} (h : which action) : (perform action).Only which :=
  ⟨h, fun _ => trivial⟩

theorem Only.bind {work : Work α} {next : α → Work β} (h : work.Only which)
    (hnext : ∀ value, (next value).Only which) : (work >>= next).Only which := by
  induction work with
  | done value => exact hnext value
  | act action continuation ih => exact ⟨h.1, fun answer => ih answer (h.2 answer)⟩

theorem Only.imp {work : Work α} (h : work.Only which)
    (himp : ∀ action, which action → other action) : work.Only other := by
  induction work with
  | done => trivial
  | act action next ih => exact ⟨himp action h.1, fun answer => ih answer (h.2 answer)⟩

theorem Only.of_takes {work : Work α} {taken : List Taken} {value : α} (h : work.Only which)
    (htakes : work.Takes taken value) : ∀ first ∈ taken, which first.action := by
  induction htakes with
  | done => exact fun _ hmem => absurd hmem List.not_mem_nil
  | act answer _ ih =>
    intro first hmem
    rcases List.mem_cons.mp hmem with rfl | hmem
    · exact h.1
    · exact ih (h.2 answer) first hmem

/-- What work has taken by the time it is left somewhere is among them, and so is what is left. -/
theorem Only.of_leaves {work rest : Work α} {taken : List Taken} (h : work.Only which)
    (hleaves : work.Leaves taken rest) :
    (∀ first ∈ taken, which first.action) ∧ rest.Only which := by
  induction hleaves with
  | start => exact ⟨fun _ hmem => absurd hmem List.not_mem_nil, h⟩
  | act answer _ ih =>
    obtain ⟨htaken, hrest⟩ := ih (h.2 answer)
    exact ⟨List.forall_mem_cons.mpr ⟨h.1, htaken⟩, hrest⟩

end Work

namespace Hook

open Work

variable {σ α β : Type} {which other : Action → Prop}

/-- Whatever its value and the answers are, a hook takes only such actions. -/
def Only (which : Action → Prop) (hook : Hook σ α) : Prop :=
  ∀ value, (hook.run.run value).Only which

theorem only_pure (a : α) : Only which (pure a : Hook σ α) := fun _ => trivial

theorem only_get : Only which (get : Hook σ σ) := fun _ => trivial

theorem only_modify (change : σ → σ) : Only which (modify change : Hook σ PUnit) := fun _ => trivial

theorem only_throw (fault : Fault) : Only which (throw fault : Hook σ α) := fun _ => trivial

theorem only_ofWork {work : Work α} (h : work.Only which) :
    Only which (ofWork work : Hook σ α) := by
  intro value
  have hlifted : ((StateT.lift work : StateT σ Work α) value).Only which :=
    h.bind fun _ => Work.only_pure _
  exact hlifted.bind fun _ => Work.only_pure _

theorem only_perform {action : Action} (h : which action) :
    Only which (perform action : Hook σ (Answer action)) :=
  only_ofWork (Work.only_perform h)

theorem Only.imp {hook : Hook σ α} (h : Only which hook)
    (himp : ∀ action, which action → other action) : Only other hook :=
  fun value => Work.Only.imp (h value) himp

theorem only_bind {hook : Hook σ α} {next : α → Hook σ β} (h : Only which hook)
    (hnext : ∀ a, Only which (next a)) : Only which (hook >>= next) := by
  intro value
  refine Work.Only.bind (h value) fun (result, last) => ?_
  cases result with
  | ok a => exact hnext a last
  | error fault => exact Work.only_pure _

theorem only_ofOption (missing : String) (option : Option α) :
    Only which (ofOption missing option : Hook σ α) := by
  cases option with
  | some a => exact only_pure a
  | none => exact only_throw _

theorem only_ofNet (outcome : Except NetError α) : Only which (ofNet outcome : Hook σ α) := by
  cases outcome with
  | ok a => exact only_pure a
  | error => exact only_throw _

theorem only_attempt {hook : Hook σ α} (h : Only which hook) : Only which (attempt hook) := by
  intro value
  refine Work.Only.bind (only_bind h (fun a => only_pure _) value) fun (tried, last) => ?_
  cases tried with
  | ok => exact Work.only_pure _
  | error fault => cases fault <;> exact Work.only_pure _

theorem only_checkAll (h : ∀ name passed, which (.check name passed)) (b : β)
    (tests : List (String × (β → Bool))) : Only which (checkAll b tests : Hook σ Bool) := by
  induction tests with
  | nil => exact only_pure _
  | cons test tests ih =>
    exact only_bind (only_bind (only_perform (h _ _)) fun _ => only_pure _) fun _ =>
      only_bind ih fun _ => only_pure _

end Hook

end LoadHarness
