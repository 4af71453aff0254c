import LoadHarness.Proofs.Histories
import LoadHarness.Shutdown
import Mathlib.Data.List.Induction

/-! The signal that ends a run, seen through the history of its endpoints.

What is there and what was raised are said of the actions that were taken, and not of the state that
they have led to:

    (start.after actions).has endpoint = true ↔ There actions endpoint     (has_after_iff)
    (start.after actions).raised = true ↔ RaisedIn actions                 (raised_after_iff)

So an answer depends on whether the signal was ever raised, and not on when the endpoint that is
asked was made or asked before (`level_triggered`). -/

namespace LoadHarness.Shutdown

/-- An endpoint by its kind and number. -/
inductive Endpoint where
  | handle (number : Nat)
  | listener (number : Nat)
deriving DecidableEq, Repr

/-- Whether an endpoint is there. -/
def has (signal : Shutdown) : Endpoint → Bool
  | .handle number => signal.hasHandle number
  | .listener number => signal.hasListener number

namespace Action

/-- The endpoint through which an action is taken. -/
def endpoint : Action → Endpoint
  | raise number | isRaised number | listen number | cloneHandle number | dropHandle number =>
    .handle number
  | poll number | wait number | cloneListener number | dropListener number => .listener number

/-- The endpoint that an action makes, if it is given this number. -/
def makes? (number : Nat) : Action → Option Endpoint
  | cloneHandle _ => some (.handle number)
  | listen _ | cloneListener _ => some (.listener number)
  | raise _ | isRaised _ | dropHandle _ | poll _ | wait _ | dropListener _ => none

/-- The endpoint that an action drops. -/
def drops? : Action → Option Endpoint
  | dropHandle number => some (.handle number)
  | dropListener number => some (.listener number)
  | raise _ | isRaised _ | listen _ | cloneHandle _ | poll _ | wait _ | cloneListener _ => none

/-- Whether an action does nothing but ask. -/
def asks : Action → Bool
  | isRaised _ | poll _ | wait _ => true
  | raise _ | listen _ | cloneHandle _ | dropHandle _ | cloneListener _ | dropListener _ => false

end Action

/-- What an action answers after others. -/
def answerAfter (actions : List Action) (action : Action) : Answer :=
  ((start.after actions).step action).2

/-- An endpoint was made in the course of the actions, and was not dropped since. -/
inductive There : List Action → Endpoint → Prop where
  | first : There [] (.handle 0)
  | made {actions : List Action} {action : Action} {number : Nat} {endpoint : Endpoint}
      (hanswer : answerAfter actions action = .made number)
      (hmakes : action.makes? number = some endpoint) : There (actions ++ [action]) endpoint
  | kept {actions : List Action} {action : Action} {endpoint : Endpoint}
      (h : There actions endpoint) (hdrops : action.drops? ≠ some endpoint) :
      There (actions ++ [action]) endpoint

/-- The signal was raised through a handle that was there. -/
def RaisedIn (actions : List Action) : Prop :=
  ∃ before number later, actions = before ++ .raise number :: later ∧
    There before (.handle number)

variable {signal : Shutdown} {actions : List Action} {action : Action} {endpoint : Endpoint}

theorem ready_eq (signal : Shutdown) (action : Action) :
    signal.ready action = signal.has action.endpoint := by
  cases action <;> rfl

theorem after_append (signal : Shutdown) (actions later : List Action) :
    signal.after (actions ++ later) = (signal.after actions).after later :=
  List.foldl_append

/-! ## One step -/

theorem getD_concat_iff {entries : List Bool} {number : Nat} :
    (entries ++ [true]).getD number false = true ↔
      entries.length = number ∨ entries.getD number false = true := by
  simp only [List.getD_eq_getElem?_getD]
  rcases Nat.lt_trichotomy number entries.length with hlt | heq | hgt
  · rw [List.getElem?_append_left hlt]
    exact (or_iff_right (Nat.ne_of_gt hlt)).symm
  · rw [heq, List.getElem?_concat_length]
    simp
  · have hge : (entries ++ [true]).length ≤ number := by
      rw [List.length_append]
      exact hgt
    rw [List.getElem?_eq_none hge, List.getElem?_eq_none (Nat.le_of_lt hgt)]
    simp [Nat.ne_of_lt hgt]

theorem getD_set_false_iff {entries : List Bool} {dropped number : Nat} :
    (entries.set dropped false).getD number false = true ↔
      entries.getD number false = true ∧ dropped ≠ number := by
  simp only [List.getD_eq_getElem?_getD, List.getElem?_set]
  by_cases h : dropped = number
  · rw [if_pos h]
    split <;> simp [h]
  · rw [if_neg h]
    exact (and_iff_left h).symm

theorem has_raise : { signal with raised := true }.has endpoint = signal.has endpoint := by
  cases endpoint <;> rfl

theorem has_concat_handles :
    { signal with handles := signal.handles ++ [true] }.has endpoint = true ↔
      .handle signal.handles.length = endpoint ∨ signal.has endpoint = true := by
  cases endpoint with
  | handle number =>
    rw [Endpoint.handle.injEq]
    exact getD_concat_iff
  | listener number => exact (or_iff_right nofun).symm

theorem has_concat_listeners :
    { signal with listeners := signal.listeners ++ [true] }.has endpoint = true ↔
      .listener signal.listeners.length = endpoint ∨ signal.has endpoint = true := by
  cases endpoint with
  | handle number => exact (or_iff_right nofun).symm
  | listener number =>
    rw [Endpoint.listener.injEq]
    exact getD_concat_iff

theorem has_drop_handle {dropped : Nat} :
    { signal with handles := signal.handles.set dropped false }.has endpoint = true ↔
      signal.has endpoint = true ∧ .handle dropped ≠ endpoint := by
  cases endpoint with
  | handle number =>
    rw [Ne, Endpoint.handle.injEq]
    exact getD_set_false_iff
  | listener number => exact (and_iff_left nofun).symm

theorem has_drop_listener {dropped : Nat} :
    { signal with listeners := signal.listeners.set dropped false }.has endpoint = true ↔
      signal.has endpoint = true ∧ .listener dropped ≠ endpoint := by
  cases endpoint with
  | handle number => exact (and_iff_left nofun).symm
  | listener number =>
    rw [Ne, Endpoint.listener.injEq]
    exact getD_set_false_iff

theorem endpoint_of_drops? (h : action.drops? = some endpoint) : action.endpoint = endpoint := by
  cases action <;> simp_all [Action.drops?, Action.endpoint]

/-- A step leaves what it makes, and of what was there all but what it drops. -/
theorem has_step_iff :
    (signal.step action).1.has endpoint = true ↔
      (∃ number, (signal.step action).2 = .made number ∧
        action.makes? number = some endpoint) ∨
      signal.has endpoint = true ∧ action.drops? ≠ some endpoint := by
  unfold step
  split
  · cases action with
    | raise | isRaised | poll | wait =>
      simp only [act, has_raise, reduceCtorEq, false_and, exists_false, false_or, Action.drops?,
        ne_eq, not_false_eq_true, and_true]
    | listen | cloneListener =>
      simp only [act, has_concat_listeners, Answer.made.injEq, exists_eq_left', Action.makes?,
        Option.some.injEq, Action.drops?, ne_eq, reduceCtorEq, not_false_eq_true, and_true]
    | cloneHandle =>
      simp only [act, has_concat_handles, Answer.made.injEq, exists_eq_left', Action.makes?,
        Option.some.injEq, Action.drops?, ne_eq, reduceCtorEq, not_false_eq_true, and_true]
    | dropHandle =>
      simp only [act, has_drop_handle, reduceCtorEq, false_and, exists_false, false_or,
        Action.drops?, ne_eq, Option.some.injEq]
    | dropListener =>
      simp only [act, has_drop_listener, reduceCtorEq, false_and, exists_false, false_or,
        Action.drops?, ne_eq, Option.some.injEq]
  · rename_i hready
    rw [ready_eq] at hready
    have hdrops : signal.has endpoint = true → action.drops? ≠ some endpoint := by
      intro hthere hdrops
      exact hready (endpoint_of_drops? hdrops ▸ hthere)
    simp only [reduceCtorEq, false_and, exists_false, false_or]
    exact (and_iff_left_of_imp hdrops).symm

/-- A step that asks leaves everything as it is. -/
theorem step_of_asks (h : action.asks = true) : (signal.step action).1 = signal := by
  unfold step
  split
  · cases action with
    | isRaised | poll | wait => rfl
    | raise | listen | cloneHandle | dropHandle | cloneListener | dropListener => cases h
  · rfl

theorem raised_step_iff :
    (signal.step action).1.raised = true ↔
      signal.raised = true ∨
        ∃ number, action = .raise number ∧ signal.has (.handle number) = true := by
  unfold step
  split
  · rename_i hready
    rw [ready_eq] at hready
    cases action with
    | raise number => simpa [act] using .inr hready
    | isRaised | listen | cloneHandle | dropHandle | poll | wait | cloneListener | dropListener =>
      simp [act]
  · rename_i hready
    rw [ready_eq] at hready
    refine (or_iff_left ?_).symm
    rintro ⟨number, rfl, hthere⟩
    exact hready hthere

/-! ## Histories -/

theorem after_concat (actions : List Action) (action : Action) :
    start.after (actions ++ [action]) = ((start.after actions).step action).1 :=
  after_append start actions [action]

theorem there_concat_iff :
    There (actions ++ [action]) endpoint ↔
      (∃ number, answerAfter actions action = .made number ∧
        action.makes? number = some endpoint) ∨
      There actions endpoint ∧ action.drops? ≠ some endpoint := by
  constructor
  · intro h
    generalize hlist : actions ++ [action] = list at h
    cases h with
    | first => simp at hlist
    | made hanswer hmakes =>
      obtain ⟨rfl, hlast⟩ := List.append_inj' hlist rfl
      obtain rfl := List.singleton_inj.mp hlast
      exact .inl ⟨_, hanswer, hmakes⟩
    | kept h hdrops =>
      obtain ⟨rfl, hlast⟩ := List.append_inj' hlist rfl
      obtain rfl := List.singleton_inj.mp hlast
      exact .inr ⟨h, hdrops⟩
  · rintro (⟨number, hanswer, hmakes⟩ | ⟨h, hdrops⟩)
    · exact .made hanswer hmakes
    · exact .kept h hdrops

theorem there_nil_iff : There [] endpoint ↔ endpoint = .handle 0 := by
  constructor
  · intro h
    generalize hlist : ([] : List Action) = list at h
    cases h with
    | first => rfl
    | made | kept => simp at hlist
  · rintro rfl
    exact .first

theorem has_start_iff : start.has endpoint = true ↔ endpoint = .handle 0 := by
  cases endpoint with
  | handle number => cases number <;> simp [has, hasHandle, start]
  | listener number => simp [has, hasListener, start]

/-- An endpoint is there if it was made and not dropped since. -/
theorem has_after_iff : (start.after actions).has endpoint = true ↔ There actions endpoint := by
  induction actions using List.reverseRecOn with
  | nil => exact has_start_iff.trans there_nil_iff.symm
  | append_singleton actions action ih =>
    rw [after_concat, has_step_iff, there_concat_iff, ih]
    rfl

theorem raisedIn_concat_iff :
    RaisedIn (actions ++ [action]) ↔
      RaisedIn actions ∨ ∃ number, action = .raise number ∧ There actions (.handle number) := by
  constructor
  · rintro ⟨before, number, later, hsplit, hthere⟩
    rcases concat_eq_append_cons_iff.mp hsplit with ⟨rfl, rfl, rfl⟩ | ⟨rest, rfl, rfl⟩
    · exact .inr ⟨number, rfl, hthere⟩
    · exact .inl ⟨before, number, rest, rfl, hthere⟩
  · rintro (⟨before, number, later, rfl, hthere⟩ | ⟨number, rfl, hthere⟩)
    · exact ⟨before, number, later ++ [action], by simp, hthere⟩
    · exact ⟨actions, number, [], rfl, hthere⟩

/-- The signal is raised if it ever was. -/
theorem raised_after_iff : (start.after actions).raised = true ↔ RaisedIn actions := by
  induction actions using List.reverseRecOn with
  | nil =>
    refine ⟨nofun, ?_⟩
    rintro ⟨before, number, later, hsplit, -⟩
    simp at hsplit
  | append_singleton actions action ih =>
    rw [after_concat, raised_step_iff, raisedIn_concat_iff, ih]
    simp only [has_after_iff]

theorem RaisedIn.append (h : RaisedIn actions) (later : List Action) :
    RaisedIn (actions ++ later) := by
  obtain ⟨before, number, rest, rfl, hthere⟩ := h
  exact ⟨before, number, rest ++ later, by simp, hthere⟩

theorem any_handles_eq_false_iff :
    (start.after actions).handles.any id = false ↔
      ∀ number, ¬ There actions (.handle number) := by
  simp only [← has_after_iff, has, hasHandle, List.any_eq_false, List.getD_eq_getElem?_getD]
  constructor
  · intro h number hthere
    cases hfound : (start.after actions).handles[number]? with
    | none => simp [hfound] at hthere
    | some found => exact h found (List.mem_of_getElem? hfound) (by simpa [hfound] using hthere)
  · rintro h found hmem rfl
    obtain ⟨number, hnumber⟩ := List.mem_iff_getElem?.mp hmem
    exact h number (by rw [hnumber]; rfl)

theorem waitOver_after_iff :
    (start.after actions).waitOver = true ↔
      RaisedIn actions ∨ ∀ number, ¬ There actions (.handle number) := by
  rw [waitOver, Bool.or_eq_true, Bool.not_eq_true', any_handles_eq_false_iff, raised_after_iff]

theorem answerAfter_of_there (h : There actions action.endpoint) :
    answerAfter actions action = ((start.after actions).act action).2 := by
  rw [answerAfter, step, if_pos]
  rw [ready_eq]
  exact has_after_iff.mpr h

/-! ## What the endpoints say -/

/-- After any history, all endpoints that are there say the same, and it is that the signal was
raised if it ever was; a wait is over if it was, or if there is no handle left.  To have asked makes
no difference to what is answered later, and a signal that was raised is not taken back. -/
theorem level_triggered (actions : List Action) :
    (∃ raised released : Bool, (raised = true ↔ RaisedIn actions) ∧
      (released = true ↔ RaisedIn actions ∨ ∀ number, ¬ There actions (.handle number)) ∧
      (∀ number, There actions (.handle number) →
        answerAfter actions (.isRaised number) = .seen raised) ∧
      ∀ number, There actions (.listener number) →
        answerAfter actions (.poll number) = .seen raised ∧
          answerAfter actions (.wait number) = .seen released) ∧
    (∀ question : Action, question.asks = true → ∀ later,
      (start.after (actions ++ [question])).answers later =
        (start.after actions).answers later) ∧
    (RaisedIn actions → ∀ later,
      (∀ number, There (actions ++ later) (.handle number) →
        answerAfter (actions ++ later) (.isRaised number) = .seen true) ∧
      ∀ number, There (actions ++ later) (.listener number) →
        answerAfter (actions ++ later) (.poll number) = .seen true ∧
          answerAfter (actions ++ later) (.wait number) = .seen true) := by
  refine ⟨⟨_, _, raised_after_iff, waitOver_after_iff, fun number h => answerAfter_of_there h,
    fun number h => ⟨answerAfter_of_there h, answerAfter_of_there h⟩⟩, ?_, ?_⟩
  · intro question hasks later
    rw [after_concat, step_of_asks hasks]
  · intro hraised later
    have hlater := hraised.append later
    have hseen := raised_after_iff.mpr hlater
    have hover := waitOver_after_iff.mpr (.inl hlater)
    refine ⟨fun number h => ?_, fun number h => ⟨?_, ?_⟩⟩
    · rw [answerAfter_of_there h, act, hseen]
    · rw [answerAfter_of_there h, act, hseen]
    · rw [answerAfter_of_there h, act, hover]

namespace Sample

/-- The signal is raised through a handle that is gone at the end, as is the first one.  The last
listener was made of one that was asked before. -/
def history : List Action := [
  .cloneHandle 0, .listen 1, .poll 0, .wait 0, .raise 1, .dropHandle 1, .dropHandle 0,
  .cloneListener 0, .dropListener 0]

end Sample

theorem level_triggered_sample :
    RaisedIn Sample.history ∧ (∀ number, ¬ There Sample.history (.handle number)) ∧
      There Sample.history (.listener 1) ∧
      answerAfter Sample.history (.poll 1) = .seen true ∧
      answerAfter Sample.history (.wait 1) = .seen true ∧
      (start.after (Sample.history ++ [.wait 1])).answers [.poll 1] =
        (start.after Sample.history).answers [.poll 1] := by
  obtain ⟨-, hasked, hkept⟩ := level_triggered Sample.history
  have hraised : RaisedIn Sample.history := raised_after_iff.mp (by decide)
  have hgone : ∀ number, ¬ There Sample.history (.handle number) :=
    any_handles_eq_false_iff.mp (by decide)
  have hthere : There Sample.history (.listener 1) := has_after_iff.mp (by decide)
  obtain ⟨-, hlisteners⟩ := hkept hraised []
  obtain ⟨hpoll, hwait⟩ := hlisteners 1 hthere
  exact ⟨hraised, hgone, hthere, hpoll, hwait, hasked (.wait 1) rfl _⟩

end LoadHarness.Shutdown
