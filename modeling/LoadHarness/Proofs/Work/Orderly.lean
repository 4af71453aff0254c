import LoadHarness.Proofs.Work.Taken

/-! Work that holds at most one connection at a time.

What work holds is followed from one action to the next: an opened connection is held
until it is closed.  Actions are orderly if none opens a connection while one is held
(`Orderly`).  Work is tidy if all that it can do is orderly, and it ends well with what
it holds then; every action of tidy work leaves tidy work (`Work.Tidy.next`). -/

namespace LoadHarness

/-- Whether an action opens a connection. -/
def Action.isOpening : Action → Bool
  | .connect _ => true
  | _ => false

/-- What is held after an action. -/
def Taken.heldAfter (held : Option Token) : Taken → Option Token
  | ⟨.connect _, token⟩ => some (show Token from token)
  | ⟨.disconnect token, _⟩ => if held = some token then none else held
  | _ => held

/-- From one held connection, or none, to another: no connection is opened while one is held. -/
def Orderly : Option Token → List Taken → Option Token → Prop
  | held, [], last => last = held
  | held, first :: taken, last =>
    (first.action.isOpening = true → held = none) ∧ Orderly (first.heldAfter held) taken last

theorem orderly_append {held last : Option Token} {taken more : List Taken} :
    Orderly held (taken ++ more) last ↔
      ∃ middle, Orderly held taken middle ∧ Orderly middle more last := by
  induction taken generalizing held with
  | nil =>
    constructor
    · exact fun h => ⟨held, rfl, h⟩
    · rintro ⟨middle, rfl, h⟩
      exact h
  | cons first taken ih => simp only [List.cons_append, Orderly, ih, exists_and_left, and_assoc]

theorem Taken.heldAfter_of_not_isEntry {taken : Taken} (h : ¬ taken.action.isEntry = true)
    (held : Option Token) :
    taken.heldAfter held = held ∧ ¬ taken.action.isOpening = true := by
  obtain ⟨action, answer⟩ := taken
  cases action with
  | connect | disconnect => exact absurd rfl h
  | log | check | stop | stopping | awaitStop | phase | counts | now | sleep | report | ask =>
    exact ⟨rfl, Bool.false_ne_true⟩

/-- Only entries in the books matter. -/
theorem orderly_entries {held last : Option Token} {taken : List Taken} :
    Orderly held (entries taken) last ↔ Orderly held taken last := by
  induction taken generalizing held with
  | nil => exact Iff.rfl
  | cons first taken ih =>
    rw [entries_cons]
    split
    · rw [Orderly, Orderly, ih]
    · rename_i hentry
      obtain ⟨hheld, hopening⟩ := Taken.heldAfter_of_not_isEntry hentry held
      rw [Orderly, hheld, ih]
      exact ⟨fun h => ⟨fun h => absurd h hopening, h⟩, fun h => h.2⟩

theorem orderly_wire {held last : Option Token} {taken : List Taken} :
    Orderly held (wire taken) last ↔ Orderly held taken last := by
  rw [← orderly_entries, entries_wire, orderly_entries]

/-- Every action can be answered. -/
instance (action : Action) : Nonempty (Answer action) := by
  cases action with
  | connect => exact ⟨(⟨.run, 0, false⟩ : Token)⟩
  | stopping => exact ⟨false⟩
  | phase => exact ⟨Phase.idle⟩
  | counts => exact ⟨(⟨0, 0, 0, 0, ""⟩ : Counts)⟩
  | now => exact ⟨Duration.zero⟩
  | ask request =>
    cases request with
    | dial | send | receive | head | body | finish => exact ⟨Net.Outcome.timedOut⟩
    | tls | startExchange => exact ⟨Except.ok ()⟩
    | handshake => exact ⟨Net.Handshake.timedOut⟩
  | log | check | disconnect | stop | awaitStop | sleep | report => exact ⟨()⟩

namespace Work

variable {α : Type}

/-- Some answers lead work to its end. -/
theorem exists_takes (work : Work α) : ∃ taken value, work.Takes taken value := by
  induction work with
  | done value => exact ⟨[], value, .done value⟩
  | act action next ih =>
    obtain ⟨answer⟩ := (inferInstance : Nonempty (Answer action))
    obtain ⟨taken, value, h⟩ := ih answer
    exact ⟨_, value, .act answer h⟩

/-- Work that neither opens nor closes a connection, whatever the answers. -/
def Quiet (work : Work α) : Prop := ∀ taken value, work.Takes taken value → entries taken = []

/-- Work that is orderly, whatever the answers, and has a good end with what it holds then. -/
def Tidy (good : Option Token → α → Prop) (held : Option Token) (work : Work α) : Prop :=
  ∀ taken value, work.Takes taken value → ∃ last, Orderly held taken last ∧ good last value

theorem Tidy.next {good : Option Token → α → Prop} {held : Option Token} {action : Action}
    {next : Answer action → Work α} (h : Tidy good held (.act action next)) :
    (action.isOpening = true → held = none) ∧
      ∀ answer, Tidy good (Taken.heldAfter held ⟨action, answer⟩) (next answer) := by
  constructor
  · obtain ⟨taken, value, htakes⟩ := exists_takes (.act action next)
    obtain ⟨last, horderly, -⟩ := h taken value htakes
    obtain ⟨answer, rest, rfl, -⟩ := takes_act_iff.mp htakes
    exact horderly.1
  · intro answer taken value htakes
    obtain ⟨last, horderly, hgood⟩ := h _ value (.act answer htakes)
    exact ⟨last, horderly.2, hgood⟩

end Work

end LoadHarness
