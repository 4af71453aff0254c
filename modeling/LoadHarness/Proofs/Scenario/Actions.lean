import LoadHarness.Proofs.Net.Https
import LoadHarness.Proofs.Run.Totals
import LoadHarness.Scenario.Network

/-! What scenarios over a network do at all.

The calls of virtual users keep to the actions of work over connections (`Action.Working`).
Their setup only asks the network and writes to the log, and when it comes to its end in good
order there is a client (`provides_client`). -/

namespace LoadHarness

open Work Hook

namespace Network

variable {S : Type} {context : UserContext RunValue}

/-! ## Calls of virtual users -/

theorem only_client : Only Action.Working (client context : Hook (UserValue S) Net.Client) :=
  only_ofOption _ _

theorem only_close : Only Action.Working (close : Hook (UserValue S) Unit) := by
  refine only_bind only_get fun value => ?_
  split
  · exact only_bind (only_modify _) fun _ => only_bind (only_ofWork (Net.TcpConnection.only_close _))
      fun _ => only_pure _
  · exact only_pure _

theorem only_connect : Only Action.Working (connect context : Hook (UserValue S) Unit) :=
  only_bind only_close fun _ => only_bind (only_ofOption _ _) fun _ =>
    only_bind only_client fun _ => only_bind (only_ofWork Net.TcpConnection.only_connect) fun _ =>
      only_bind (only_ofNet _) fun _ => only_modify _

theorem only_ensureConnected :
    Only Action.Working (ensureConnected context : Hook (UserValue S) Unit) := by
  refine only_bind only_get fun value => ?_
  split
  · exact only_pure _
  · exact only_bind (only_ofWork (Work.only_perform trivial)) fun _ => only_connect

theorem only_writeLine (text : String) :
    Only Action.Working (writeLine context text : Hook (UserValue S) Unit) :=
  only_bind only_ensureConnected fun _ => only_bind only_get fun _ =>
    only_bind (only_ofOption _ _) fun connection =>
      only_bind (only_ofWork (connection.only_writeLine)) fun _ =>
        only_bind (only_modify _) fun _ => only_ofNet _

theorem only_readUpTo (max : Nat) :
    Only Action.Working (readUpTo context max : Hook (UserValue S) (List UInt8)) :=
  only_bind only_get fun _ => only_bind (only_ofOption _ _) fun connection =>
    only_bind (only_ofWork (connection.only_readUpTo)) fun _ =>
      only_bind (only_modify _) fun _ => only_ofNet _

theorem only_httpsGetTarget :
    Only Action.Working (httpsGetTarget context : Hook (UserValue S) Net.HttpsResponse) :=
  only_bind (only_ofOption _ _) fun url => only_bind only_client fun client =>
    only_bind (only_ofWork (client.only_httpsGet url)) fun _ => only_ofNet _

/-! ## The setup of the run -/

section

open Net

theorem only_configure (calls : List (Tls.Call × String)) : (Connector.configure calls).Only Action.Asks := by
  induction calls with
  | nil => exact Work.only_pure _
  | cons call calls ih =>
    refine .bind (Work.only_perform trivial) fun answer => ?_
    cases answer with
    | error => exact Work.only_pure _
    | ok => exact ih

theorem only_build (limit : Duration) (policy : Tls.Policy) :
    (Client.build limit policy).Only Action.Asks := by
  refine .bind (.bind (only_configure policy.calls) fun configured => ?_) fun built => ?_
  · cases configured with
    | error => exact Work.only_pure _
    | ok =>
      dsimp only
      split
      · exact .bind (Work.only_perform trivial) fun _ => .bind (Work.only_perform trivial) fun _ =>
          Work.only_pure _
      · exact Work.only_pure _
  · cases built <;> exact Work.only_pure _

theorem only_configureClient (context : RunContext) :
    Only Action.Asks (configureClient context) := by
  refine only_bind (only_ofWork (only_build _ _)) fun built => ?_
  cases built with
  | error => exact only_throw _
  | ok => exact fun _ => trivial

/-- A setup that comes to its end in good order has built a client. -/
theorem client_of_configureClient {context : RunContext} {value last : RunValue}
    {taken : List Taken} (h : Takes (configureClient context) value taken (.ok ()) last) :
    last.client.isSome = true := by
  obtain ⟨first, rest, built, rfl, hbuilt, hrest⟩ := takes_ofWork_bind_iff.mp h
  cases built with
  | error failure => cases (takes_throw_iff.mp hrest).2.1
  | ok client =>
    obtain ⟨rfl, heq⟩ := Work.takes_pure_iff.mp hrest
    obtain ⟨-, rfl⟩ := Prod.mk.inj heq
    rfl

/-- A run whose only hook builds the client has one for its users. -/
theorem provides_client {V : Type} {scenario : Scenario RunValue V}
    (hsetup : scenario.setup = some configureClient) (hteardown : scenario.teardown = none)
    (options : Options) :
    Run.Provides scenario options Action.Asks fun value => value.client.isSome = true where
  setup := by
    intro body hbody
    cases hsetup.symm.trans hbody
    exact only_configureClient _
  teardown := by
    intro body hbody
    cases hteardown.symm.trans hbody
  given := by
    intro body taken value hbody h
    cases hsetup.symm.trans hbody
    exact client_of_configureClient h
  untouched := by
    intro hnone
    cases hsetup.symm.trans hnone

end

end Network

end LoadHarness
