import LoadHarness.Proofs.Run.Hooks
import LoadHarness.Proofs.Scenario.Calls
import LoadHarness.Proofs.Work.Orderly
import LoadHarness.Scenario.TcpEcho

/-! Hooks that are made of calls.

A hook is made of calls if that is the only way in which it touches connections: it may
do other work between them, look at its value, keep what it likes beside the connection,
and fail or go on after a failure (`Made`).  Such a hook holds at most one connection at
any time, and what it holds is in its value when it is over (`Made.orderly`). -/

namespace LoadHarness.Network

open Net Hook

variable {S : Type} {α β : Type}

/-- Hooks that touch connections by calls only. -/
inductive Made (context : UserContext RunValue) : {α : Type} → Hook (UserValue S) α → Prop where
  | call (call : Call) : Made context (call.hook context)
  | returns {α : Type} (a : α) : Made context (pure a : Hook (UserValue S) α)
  | follows {α β : Type} {hook : Hook (UserValue S) α} {next : α → Hook (UserValue S) β}
      (h : Made context hook) (hnext : ∀ a, Made context (next a)) : Made context (hook >>= next)
  /-- Work that opens and closes nothing. -/
  | works {α : Type} {work : Work α} (h : work.Quiet) : Made context (ofWork work)
  | looks : Made context (get : Hook (UserValue S) (UserValue S))
  /-- A change of the value that leaves its connection in place. -/
  | keeps {change : UserValue S → UserValue S} (h : ∀ value, (change value).tcp = value.tcp) :
      Made context (modify change : Hook (UserValue S) PUnit)
  | fails {α : Type} (fault : Fault) : Made context (throw fault : Hook (UserValue S) α)
  | attempts {α : Type} {hook : Hook (UserValue S) α} (h : Made context hook) :
      Made context (attempt hook)

/-- What is held is the connection in a value, if anything is. -/
def Fits (held : Option Token) (tcp : Option TcpConnection) : Prop :=
  ∀ token, held = some token → (openStream tcp).map (·.token) = some token

theorem Fits.eq_none {held : Option Token} {tcp : Option TcpConnection} (h : Fits held tcp)
    (hclosed : openStream tcp = none) : held = none := by
  cases held with
  | none => rfl
  | some token =>
    have htoken := h token rfl
    rw [hclosed] at htoken
    cases htoken

theorem fits_none (tcp : Option TcpConnection) : Fits none tcp := nofun

section Orderly

variable {context : UserContext RunValue} {held : Option Token} {taken : List Taken}

theorem orderly_release {tcp : Option TcpConnection} (h : Fits held tcp) :
    Orderly held (release tcp) none := by
  rw [release]
  cases hopen : openStream tcp with
  | none => exact (h.eq_none hopen).symm
  | some stream =>
    refine ⟨fun hopens => absurd hopens Bool.false_ne_true, ?_⟩
    cases held with
    | none => rfl
    | some token =>
      have htoken := h token rfl
      rw [hopen] at htoken
      obtain rfl := Option.some.inj htoken
      exact (if_pos rfl).symm

theorem Attempt.orderly {opened : Except Failure TcpConnection} (h : Attempt context taken opened) :
    ∃ left, Orderly none taken left ∧ Fits left opened.toOption := by
  cases h with
  | opened stream =>
    refine ⟨some stream.token, ⟨nofun, fun _ => rfl, rfl⟩, ?_⟩
    rintro token ⟨⟩
    rfl
  | failed => exact ⟨none, ⟨nofun, rfl⟩, fits_none _⟩
  | unconfigured => exact ⟨none, rfl, fits_none _⟩

theorem Operates.orderly {limit : Duration} {connection : TcpConnection} {stream : Stream}
    {act : Use} {result : act.Result} {rest : Option Stream}
    (h : Operates limit stream act taken result rest) (hopen : connection.stream = some stream)
    (hheld : Fits held (some connection)) :
    ∃ left, Orderly held taken left ∧ Fits left (some { connection with stream := rest }) := by
  cases h with
  | succeeds h =>
    refine ⟨held, ?_, ?_⟩
    · rw [← orderly_entries, h.entries]
      rfl
    · rw [← hopen]
      exact hheld
  | ends h =>
    refine ⟨none, ?_, fits_none _⟩
    have hrelease : release (some connection) = [⟨.disconnect stream.token, ()⟩] := by
      rw [release, openStream, Option.bind_some, hopen]
      rfl
    rw [← orderly_entries, h.entries, ← hrelease]
    exact orderly_release hheld

/-- A call holds at most one connection, and leaves what it holds in the value. -/
theorem Does.orderly {call : Call} {tcp rest : Option TcpConnection}
    {result : Except Fault call.Result} (h : Does context call tcp taken result rest)
    (hheld : Fits held tcp) : ∃ left, Orderly held taken left ∧ Fits left rest := by
  cases h with
  | closed => exact ⟨none, orderly_release hheld, fits_none _⟩
  | connected h | notConnected h =>
    obtain ⟨left, horderly, hleft⟩ := h.orderly
    exact ⟨left, orderly_append.mpr ⟨none, orderly_release hheld, horderly⟩, hleft⟩
  | wrote hopen h | read hopen h => exact h.orderly hopen hheld
  | wroteAfresh hclosed hattempt hopen h =>
    obtain rfl := hheld.eq_none hclosed
    obtain ⟨middle, hdialled, hmiddle⟩ := hattempt.orderly
    obtain ⟨left, hwritten, hleft⟩ := h.orderly hopen hmiddle
    exact ⟨left, orderly_append.mpr ⟨middle, hdialled, hwritten⟩, hleft⟩
  | notWritten hclosed hattempt =>
    obtain rfl := hheld.eq_none hclosed
    exact hattempt.orderly
  | readClosed | readNone => exact ⟨held, rfl, hheld⟩

/-- A hook that is made of calls holds at most one connection, and leaves what it holds in the
value. -/
theorem Made.orderly {α : Type} {hook : Hook (UserValue S) α} (h : Made context hook)
    {value last : UserValue S} {result : Except Fault α}
    (htakes : Takes hook value taken result last) (hheld : Fits held value.tcp) :
    ∃ left, Orderly held taken left ∧ Fits left last.tcp := by
  -- on how the hook is made: each part begins with what the part before it has left
  induction h generalizing held taken value last with
  | call call =>
    obtain ⟨left, horderly, hleft⟩ := (does_of_takes htakes).1.orderly hheld
    exact ⟨left, orderly_wire.mp horderly, hleft⟩
  | returns =>
    obtain ⟨rfl, -, rfl⟩ := takes_pure_iff.mp htakes
    exact ⟨held, rfl, hheld⟩
  | follows _ _ ih ihnext =>
    rcases takes_bind_iff.mp htakes with ⟨fault, hfailed, -⟩ |
      ⟨first, rest, a, middle, rfl, hfirst, hrest⟩
    · exact ih hfailed hheld
    · obtain ⟨between, hbefore, hbetween⟩ := ih hfirst hheld
      obtain ⟨left, hafter, hleft⟩ := ihnext a hrest hbetween
      exact ⟨left, orderly_append.mpr ⟨between, hbefore, hafter⟩, hleft⟩
  | works hquiet =>
    obtain ⟨a, hwork, -, rfl⟩ := takes_ofWork_iff.mp htakes
    refine ⟨held, ?_, hheld⟩
    rw [← orderly_entries, hquiet taken a hwork]
    rfl
  | looks =>
    obtain ⟨rfl, -, rfl⟩ := takes_get_iff.mp htakes
    exact ⟨held, rfl, hheld⟩
  | keeps hkeeps =>
    obtain ⟨rfl, -, rfl⟩ := takes_modify_iff.mp htakes
    refine ⟨held, rfl, ?_⟩
    rw [hkeeps]
    exact hheld
  | fails =>
    obtain ⟨rfl, -, rfl⟩ := takes_throw_iff.mp htakes
    exact ⟨held, rfl, hheld⟩
  | attempts _ ih =>
    obtain ⟨outcome, hhook, -⟩ := takes_attempt_iff.mp htakes
    exact ih hhook hheld

end Orderly

/-- Hooks of virtual users that touch connections by calls only. -/
structure MadeOfCalls (scenario : Scenario RunValue (UserValue S)) : Prop where
  fresh : openStream scenario.fresh.tcp = none
  hooks : ∀ hook : Run.UserHook, ∀ body ∈ hook.ofScenario scenario, ∀ context,
    Made context (body context)

/-- An action that opens and closes nothing. -/
theorem made_perform {context : UserContext RunValue} {action : Action}
    (h : action.isEntry = false) :
    Made context (Hook.perform action : Hook (UserValue S) (Answer action)) := by
  refine .works fun taken answer htakes => ?_
  obtain rfl := Work.takes_perform_iff.mp htakes
  rw [entries_cons, if_neg (ne_true_of_eq_false h), entries_nil]

theorem TcpEcho.madeOfCalls : MadeOfCalls TcpEcho.scenario := by
  refine ⟨rfl, fun hook body hbody context => ?_⟩
  cases hook with
  | setup => cases hbody
  | behaviour =>
    obtain rfl := Option.some.inj hbody
    refine .follows (.call (.writeLine "Say Hello")) fun _ => ?_
    refine .follows (.call (.readUpTo TcpEcho.replyLimit)) fun reply => ?_
    refine .follows (.follows (made_perform rfl) fun _ => .returns _) fun passed => ?_
    cases passed with
    | true => exact .call .close
    | false => exact .follows (made_perform rfl) fun _ => .call .close
  | teardown =>
    obtain rfl := Option.some.inj hbody
    exact .call .close

end LoadHarness.Network
