import LoadHarness.Work

/-! What work has done when it is over: its actions, with the answers that came.

`work.Takes taken value` holds of every way in which answers can lead work to its end.
Nothing is assumed of the answers, so what follows from it holds whatever the network,
the clock and the other parties do.

    (work >>= next).Takes taken value ↔ the first takes some, and the rest takes what is left -/

namespace LoadHarness

/-- An action that was taken, with what came back. -/
structure Taken where
  action : Action
  answer : Answer action

/-- Whether an action opens or closes a connection in the books. -/
def Action.isEntry : Action → Bool
  | .connect _ | .disconnect _ => true
  | _ => false

namespace Taken

/-- Whether an action asks the network for something, or opens or closes a connection in the
books. -/
def isWire (taken : Taken) : Bool :=
  match taken.action with
  | .ask _ => true
  | action => action.isEntry

/-- The record of an operation that is handed to the reporter, if one is. -/
def record? (taken : Taken) : Option Operation :=
  match taken.action with
  | .report operation => some operation
  | _ => none

/-- The name and the outcome of a check that is recorded, if one is. -/
def check? (taken : Taken) : Option (String × Bool) :=
  match taken.action with
  | .check name passed => some (name, passed)
  | _ => none

end Taken

/-- What is done with the network and with the books on connections, in order. -/
def wire (taken : List Taken) : List Taken := taken.filter Taken.isWire

/-- What is done with the books on connections, in order. -/
def entries (taken : List Taken) : List Taken := taken.filter (·.action.isEntry)

/-- The records that are handed to the reporter, in order. -/
def records (taken : List Taken) : List Operation := taken.filterMap Taken.record?

/-- The outcomes of checks that are recorded, by name and in order. -/
def checks (taken : List Taken) : List (String × Bool) := taken.filterMap Taken.check?

@[simp] theorem wire_nil : wire [] = [] := rfl

@[simp] theorem records_nil : records [] = [] := rfl

@[simp] theorem entries_nil : entries [] = [] := rfl

theorem entries_cons (first : Taken) (taken : List Taken) :
    entries (first :: taken) =
      if first.action.isEntry then first :: entries taken else entries taken :=
  List.filter_cons

theorem entries_wire (taken : List Taken) : entries (wire taken) = entries taken := by
  rw [entries, wire, List.filter_filter]
  refine List.filter_congr fun ⟨action, answer⟩ _ => ?_
  cases action <;> rfl

@[simp] theorem wire_append (first rest : List Taken) :
    wire (first ++ rest) = wire first ++ wire rest := List.filter_append ..

theorem wire_singleton {taken : Taken} (h : taken.isWire = true) : wire [taken] = [taken] :=
  List.filter_cons_of_pos h

@[simp] theorem entries_append (first rest : List Taken) :
    entries (first ++ rest) = entries first ++ entries rest := List.filter_append ..

@[simp] theorem records_append (first rest : List Taken) :
    records (first ++ rest) = records first ++ records rest := List.filterMap_append

@[simp] theorem checks_append (first rest : List Taken) :
    checks (first ++ rest) = checks first ++ checks rest := List.filterMap_append

namespace Work

variable {α β : Type}

/-- Work can end with a value, once it has taken these actions with these answers. -/
inductive Takes {α : Type} : Work α → List Taken → α → Prop where
  | done (value : α) : Takes (.done value) [] value
  | act {action : Action} {next : Answer action → Work α} (answer : Answer action)
      {taken : List Taken} {value : α} (h : (next answer).Takes taken value) :
      Takes (.act action next) (⟨action, answer⟩ :: taken) value

theorem takes_done_iff {value last : α} {taken : List Taken} :
    (done value).Takes taken last ↔ taken = [] ∧ last = value := by
  constructor
  · rintro ⟨⟩
    exact ⟨rfl, rfl⟩
  · rintro ⟨rfl, rfl⟩
    exact .done _

theorem takes_act_iff {action : Action} {next : Answer action → Work α} {taken : List Taken}
    {value : α} :
    (act action next).Takes taken value ↔
      ∃ answer rest, taken = ⟨action, answer⟩ :: rest ∧ (next answer).Takes rest value := by
  constructor
  · rintro (_ | ⟨answer, h⟩)
    exact ⟨answer, _, rfl, h⟩
  · rintro ⟨answer, rest, rfl, h⟩
    exact .act answer h

theorem takes_pure_iff {value last : α} {taken : List Taken} :
    (pure value : Work α).Takes taken last ↔ taken = [] ∧ last = value :=
  takes_done_iff

theorem takes_perform_iff {action : Action} {answer : Answer action} {taken : List Taken} :
    (perform action).Takes taken answer ↔ taken = [⟨action, answer⟩] := by
  rw [perform, takes_act_iff]
  constructor
  · rintro ⟨answer', rest, rfl, h⟩
    obtain ⟨rfl, rfl⟩ := takes_done_iff.mp h
    rfl
  · rintro rfl
    exact ⟨answer, [], rfl, .done _⟩

theorem Takes.bind {work : Work α} {next : α → Work β} {first rest : List Taken} {middle : α}
    {value : β} (h : work.Takes first middle) (hrest : (next middle).Takes rest value) :
    (work >>= next).Takes (first ++ rest) value := by
  induction h with
  | done => exact hrest
  | act answer _ ih => exact .act answer (ih hrest)

theorem takes_bind_iff {work : Work α} {next : α → Work β} {taken : List Taken} {value : β} :
    (work >>= next).Takes taken value ↔
      ∃ first rest middle, taken = first ++ rest ∧ work.Takes first middle ∧
        (next middle).Takes rest value := by
  constructor
  · intro h
    induction work generalizing taken with
    | done middle => exact ⟨[], taken, middle, rfl, .done middle, h⟩
    | act action continuation ih =>
      obtain ⟨answer, later, rfl, hlater⟩ := takes_act_iff.mp h
      obtain ⟨first, rest, middle, rfl, hfirst, hrest⟩ := ih answer hlater
      exact ⟨_ :: first, rest, middle, rfl, .act answer hfirst, hrest⟩
  · rintro ⟨first, rest, middle, rfl, hfirst, hrest⟩
    exact hfirst.bind hrest

/-- Work has this left to do, once it has taken these actions with these answers. -/
inductive Leaves {α : Type} : Work α → List Taken → Work α → Prop where
  | start (work : Work α) : Leaves work [] work
  | act {action : Action} {next : Answer action → Work α} (answer : Answer action)
      {taken : List Taken} {rest : Work α} (h : (next answer).Leaves taken rest) :
      Leaves (.act action next) (⟨action, answer⟩ :: taken) rest

/-- One more action is taken. -/
theorem Leaves.concat {work : Work α} {taken : List Taken} {action : Action}
    {next : Answer action → Work α} (h : work.Leaves taken (.act action next))
    (answer : Answer action) : work.Leaves (taken ++ [⟨action, answer⟩]) (next answer) := by
  generalize hrest : Work.act action next = rest at h
  induction h with
  | start =>
    subst hrest
    exact .act answer (.start _)
  | act first _ ih => exact .act first (ih hrest)

/-- Work that has been left somewhere goes on from there. -/
theorem Leaves.takes {work rest : Work α} {taken more : List Taken} {value : α}
    (h : work.Leaves taken rest) (hrest : rest.Takes more value) :
    work.Takes (taken ++ more) value := by
  induction h with
  | start => exact hrest
  | act answer _ ih => exact .act answer (ih hrest)

theorem Leaves.takes_of_done {work : Work α} {taken : List Taken} {value : α}
    (h : work.Leaves taken (.done value)) : work.Takes taken value := by
  rw [← List.append_nil taken]
  exact h.takes (.done value)

/-- Work that begins with an action. -/
theorem takes_perform_bind_iff {action : Action} {next : Answer action → Work α}
    {taken : List Taken} {value : α} :
    (perform action >>= next).Takes taken value ↔
      ∃ answer rest, taken = ⟨action, answer⟩ :: rest ∧ (next answer).Takes rest value :=
  takes_act_iff

end Work

end LoadHarness
