import LoadHarness.Net.Https
import LoadHarness.Proofs.Work.Taken

/-! The calls to the TLS library with which a client is built.

The library may refuse any of them but the one that skips the validation of certificates,
and the first refusal is the last call.  So there is one list of calls for each policy: it
is made in order, and made in full whenever the client is built (`makes_allCalls`). -/

namespace LoadHarness

/-- The call to the TLS library that an action makes, if it makes one. -/
def Taken.call? : Taken → Option Tls.Call
  | ⟨.ask (.tls call), _⟩ => some call
  | _ => none

/-- The calls to the TLS library among actions. -/
def callsOf (taken : List Taken) : List Tls.Call := taken.filterMap Taken.call?

theorem callsOf_append (first rest : List Taken) :
    callsOf (first ++ rest) = callsOf first ++ callsOf rest :=
  List.filterMap_append

/-- The calls that pass a policy on to the TLS library, if it refuses none. -/
def Tls.Policy.allCalls (policy : Tls.Policy) : List Tls.Call :=
  policy.calls.map (·.1) ++ if policy.insecure then [.verifyNone] else []

namespace Net.Connector

open Work

variable {calls : List (Tls.Call × String)} {policy : Tls.Policy} {taken : List Taken}

theorem calls_of_configure {result : Except Failure Unit}
    (h : (configure calls).Takes taken result) :
    callsOf taken <+: calls.map (·.1) ∧
      (result.isOk = true → callsOf taken = calls.map (·.1)) := by
  induction calls generalizing taken with
  | nil =>
    obtain ⟨rfl, rfl⟩ := takes_pure_iff.mp h
    exact ⟨List.prefix_refl _, fun _ => rfl⟩
  | cons entry calls ih =>
    obtain ⟨answer, rest, rfl, hrest⟩ := takes_perform_bind_iff.mp h
    cases answer with
    | error text =>
      obtain ⟨rfl, rfl⟩ := takes_pure_iff.mp hrest
      exact ⟨⟨calls.map (·.1), rfl⟩, nofun⟩
    | ok =>
      obtain ⟨hfront, hall⟩ := ih hrest
      exact ⟨List.cons_prefix_cons.mpr ⟨rfl, hfront⟩, fun hok => congrArg (List.cons _) (hall hok)⟩

theorem exists_configure (calls : List (Tls.Call × String)) :
    ∃ taken, (configure calls).Takes taken (.ok ()) := by
  induction calls with
  | nil => exact ⟨[], .done _⟩
  | cons entry calls ih =>
    obtain ⟨taken, h⟩ := ih
    exact ⟨_, takes_perform_bind_iff.mpr ⟨.ok (), taken, rfl, h⟩⟩

/-- Building a client makes the calls of its policy in order, up to the first that is refused. -/
theorem calls_of_build {result : Except Failure Connector}
    (h : (build policy).Takes taken result) :
    callsOf taken <+: policy.allCalls ∧
      (result.isOk = true → callsOf taken = policy.allCalls) := by
  obtain ⟨first, rest, configured, rfl, hfirst, hrest⟩ := takes_bind_iff.mp h
  obtain ⟨hfront, hall⟩ := calls_of_configure hfirst
  rw [callsOf_append, Tls.Policy.allCalls]
  cases configured with
  | error failure =>
    obtain ⟨rfl, rfl⟩ := takes_pure_iff.mp hrest
    exact ⟨(List.append_nil _).symm ▸ hfront.trans (List.prefix_append _ _), nofun⟩
  | ok =>
    rw [hall rfl]
    cases hinsecure : policy.insecure with
    | false =>
      simp only [hinsecure] at hrest
      obtain ⟨rfl, rfl⟩ := takes_pure_iff.mp hrest
      exact ⟨List.prefix_refl _, fun _ => rfl⟩
    | true =>
      simp only [hinsecure, if_true] at hrest
      obtain ⟨_, later, rfl, hlater⟩ := takes_perform_bind_iff.mp hrest
      obtain ⟨_, last, rfl, hlast⟩ := takes_perform_bind_iff.mp hlater
      obtain ⟨rfl, rfl⟩ := takes_pure_iff.mp hlast
      exact ⟨List.prefix_refl _, fun _ => rfl⟩

/-- A library that refuses nothing lets the client be built. -/
theorem exists_build (policy : Tls.Policy) :
    ∃ taken connector, (build policy).Takes taken (.ok connector) := by
  obtain ⟨taken, hconfigured⟩ := exists_configure policy.calls
  rw [build]
  cases policy.insecure with
  | false => exact ⟨_, _, hconfigured.bind (.done _)⟩
  | true =>
    have hask : (do
        let _ ← Work.ask (.tls .verifyNone)
        return .ok ⟨false⟩ : Work (Except Failure Connector)).Takes
          [⟨.ask (.tls .verifyNone), .ok ()⟩] (.ok ⟨false⟩) :=
      takes_perform_bind_iff.mpr ⟨.ok (), [], rfl, .done _⟩
    exact ⟨_, _, hconfigured.bind (takes_perform_bind_iff.mpr ⟨(), _, rfl, hask⟩)⟩

/-- These are the calls with which a client for a policy is built. -/
structure Makes (policy : Tls.Policy) (calls : List Tls.Call) : Prop where
  inOrder : ∀ taken result, (build policy).Takes taken result → callsOf taken <+: calls
  inFull : ∀ taken connector, (build policy).Takes taken (.ok connector) → callsOf taken = calls
  possible : ∃ taken connector, (build policy).Takes taken (.ok connector)

theorem makes_allCalls (policy : Tls.Policy) : Makes policy policy.allCalls where
  inOrder _ _ h := (calls_of_build h).1
  inFull _ _ h := (calls_of_build h).2 rfl
  possible := exists_build policy

end Net.Connector

end LoadHarness
