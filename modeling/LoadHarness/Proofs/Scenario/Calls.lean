import LoadHarness.Proofs.Net.Lifecycle
import LoadHarness.Proofs.Work.Hook
import LoadHarness.Scenario.Network

/-! What virtual users do over TCP, call by call.

A virtual user has no connection, a closed one or an open one.  What a call does in
each case, whatever the network replies, is said once (`Does`), and what follows
about calls goes through these cases. -/

namespace LoadHarness.Network

open Net Hook

variable {S : Type}

/-- What a virtual user can do over TCP. -/
inductive Call where
  | connect
  | writeLine (text : String)
  | readUpTo (max : Nat)
  /-- Close the connection, which is also what a teardown does. -/
  | close

namespace Call

/-- What a call returns. -/
def Result : Call → Type
  | readUpTo _ => List UInt8
  | connect | writeLine _ | close => Unit

/-- The hook of a call. -/
def hook (context : UserContext RunValue) : (call : Call) → Hook (UserValue S) call.Result
  | connect => Network.connect context
  | writeLine text => Network.writeLine context text
  | readUpTo max => Network.readUpTo context max
  | close => Network.close

end Call

/-- The stream of a connection that a user may have, if it is open. -/
def openStream (tcp : Option TcpConnection) : Option Stream := tcp.bind (·.stream)

theorem any_isOpen (tcp : Option TcpConnection) :
    tcp.any (·.isOpen) = (openStream tcp).isSome := by
  cases tcp <;> rfl

/-- How a connection that a user may have is released. -/
def release (tcp : Option TcpConnection) : List Taken :=
  (openStream tcp).toList.map fun stream => ⟨.disconnect stream.token, ()⟩

/-- An attempt to open a connection to the target of the run. -/
inductive Attempt (context : UserContext RunValue) :
    List Taken → Except Failure TcpConnection → Prop where
  | opened {target : String} {client : Client} (stream : Stream)
      (htarget : context.options.target = some target)
      (hclient : context.global.client = some client) :
      Attempt context
        [⟨.ask (.dial (Client.bareAddress target)), .ok stream.socket⟩,
          ⟨.connect false, stream.token⟩]
        (.ok ⟨Client.bareAddress target, some stream⟩)
  | failed {target : String} {client : Client} {reply : Outcome IoFault Socket} {e : NetError}
      (htarget : context.options.target = some target)
      (hclient : context.global.client = some client)
      (hreply : reply.within "connect" client.ioTimeout (.connect (Client.bareAddress target)) =
        .error e) :
      Attempt context [⟨.ask (.dial (Client.bareAddress target)), reply⟩] (.error (.ofNet e))
  | unconfigured {failure : Failure}
      (h : context.options.target = none ∨ context.global.client = none) :
      Attempt context [] (.error failure)

theorem Attempt.isOpen {context : UserContext RunValue} {attempt : List Taken}
    {connection : TcpConnection} (h : Attempt context attempt (.ok connection)) :
    ∃ stream, connection.stream = some stream := by
  cases h with
  | opened stream => exact ⟨stream, rfl⟩

/-- An operation on an open connection, and what it leaves of the stream. -/
inductive Operates (limit : Duration) (stream : Stream) (act : Use) :
    List Taken → act.Result → Option Stream → Prop where
  | succeeds {taken : List Taken} {result : act.Result}
      (h : TcpConnection.Succeeds stream.socket act result taken) :
      Operates limit stream act taken result (some stream)
  | ends {taken : List Taken} {result : act.Result}
      (h : TcpConnection.Ends limit stream act result taken) :
      Operates limit stream act taken result none

theorem operates_of_use {limit : Duration} {connection next : TcpConnection} {stream : Stream}
    {act : Use} {result : act.Result} {taken : List Taken}
    (hopen : connection.stream = some stream)
    (h : (connection.use limit act).Takes taken (next, result)) :
    ∃ left, Operates limit stream act (wire taken) result left ∧
      next = { connection with stream := left } := by
  rcases TcpConnection.use_cases h with ⟨hclosed, -⟩ | ⟨other, hother, hcases⟩
  · rw [hopen] at hclosed
    cases hclosed
  obtain rfl := Option.some.inj (hopen.symm.trans hother)
  rcases hcases with ⟨rfl, hsucceeds⟩ | ⟨rfl, hends⟩
  · refine ⟨some stream, .succeeds hsucceeds, ?_⟩
    rw [← hopen]
  · exact ⟨none, .ends hends, rfl⟩

/-- What a call does with the network and with the books, for each connection that the user may
have, what it comes to, and the connection that the user has then. -/
inductive Does (context : UserContext RunValue) : (call : Call) → Option TcpConnection →
    List Taken → Except Fault call.Result → Option TcpConnection → Prop where
  | closed {tcp : Option TcpConnection} : Does context .close tcp (release tcp) (.ok ()) none
  | connected {tcp : Option TcpConnection} {attempt : List Taken} {connection : TcpConnection}
      (h : Attempt context attempt (.ok connection)) :
      Does context .connect tcp (release tcp ++ attempt) (.ok ()) (some connection)
  | notConnected {tcp : Option TcpConnection} {attempt : List Taken} {failure : Failure}
      (h : Attempt context attempt (.error failure)) :
      Does context .connect tcp (release tcp ++ attempt) (.error (.failure failure)) none
  | wrote {text : String} {connection : TcpConnection} {stream : Stream} {taken : List Taken}
      {result : Except NetError Unit} {left : Option Stream}
      (hopen : connection.stream = some stream)
      (h : Operates context.options.ioTimeout stream (.writeLine text) taken result left) :
      Does context (.writeLine text) (some connection) taken (netResult result)
        (some { connection with stream := left })
  | wroteAfresh {text : String} {tcp : Option TcpConnection} {attempt : List Taken}
      {connection : TcpConnection} {stream : Stream} {taken : List Taken}
      {result : Except NetError Unit} {left : Option Stream} (hclosed : openStream tcp = none)
      (hattempt : Attempt context attempt (.ok connection))
      (hopen : connection.stream = some stream)
      (h : Operates context.options.ioTimeout stream (.writeLine text) taken result left) :
      Does context (.writeLine text) tcp (attempt ++ taken) (netResult result)
        (some { connection with stream := left })
  | notWritten {text : String} {tcp : Option TcpConnection} {attempt : List Taken}
      {failure : Failure} (hclosed : openStream tcp = none)
      (hattempt : Attempt context attempt (.error failure)) :
      Does context (.writeLine text) tcp attempt (.error (.failure failure)) none
  | read {max : Nat} {connection : TcpConnection} {stream : Stream} {taken : List Taken}
      {result : Except NetError (List UInt8)} {left : Option Stream}
      (hopen : connection.stream = some stream)
      (h : Operates context.options.ioTimeout stream (.readUpTo max) taken result left) :
      Does context (.readUpTo max) (some connection) taken (netResult result)
        (some { connection with stream := left })
  | readClosed {max : Nat} {connection : TcpConnection} (hclosed : connection.stream = none) :
      Does context (.readUpTo max) (some connection) [] (.error (.failure (.ofNet .closed)))
        (some connection)
  | readNone {max : Nat} :
      Does context (.readUpTo max) none []
        (.error (.failure (.ofText "No TCP connection, write before reading"))) none

section Takes

variable {context : UserContext RunValue} {value last : UserValue S} {taken : List Taken}

theorem takes_close {result : Except Fault Unit}
    (h : Takes close value taken result last) :
    result = .ok () ∧ last = { value with tcp := none } ∧ wire taken = release value.tcp := by
  replace h := takes_get_bind_iff.mp h
  obtain ⟨tcp, own⟩ := value
  cases tcp with
  | none =>
    obtain ⟨rfl, rfl, rfl⟩ := takes_pure_iff.mp h
    exact ⟨rfl, rfl, rfl⟩
  | some connection =>
    obtain ⟨first, rest, closed, rfl, hclosing, hrest⟩ :=
      takes_ofWork_bind_iff.mp (takes_modify_bind_iff.mp h)
    obtain ⟨rfl, rfl, rfl⟩ := takes_pure_iff.mp hrest
    obtain ⟨-, hwire, -⟩ := TcpConnection.takes_close hclosing
    rw [List.append_nil, hwire]
    exact ⟨rfl, rfl, rfl⟩

theorem takes_connect {result : Except Fault Unit}
    (h : Takes (connect context) value taken result last) :
    ∃ attempt opened, Attempt context attempt opened ∧
      wire taken = release value.tcp ++ attempt ∧
      result = (opened.map fun _ => ()).mapError .failure ∧
      last = { value with tcp := opened.toOption } := by
  rcases takes_bind_iff.mp h with ⟨fault, hclosing, -⟩ |
    ⟨first, rest, _, middle, rfl, hclosing, hrest⟩
  · cases (takes_close hclosing).1
  obtain ⟨-, rfl, hrelease⟩ := takes_close hclosing
  rw [wire_append, hrelease]
  rcases takes_ofOption_bind_iff.mp hrest with ⟨htarget, rfl, rfl, rfl⟩ | ⟨target, htarget, hrest⟩
  · exact ⟨[], .error _, .unconfigured (.inl htarget), rfl, rfl, rfl⟩
  rcases takes_ofOption_bind_iff.mp hrest with ⟨hclient, rfl, rfl, rfl⟩ | ⟨client, hclient, hrest⟩
  · exact ⟨[], .error _, .unconfigured (.inr hclient), rfl, rfl, rfl⟩
  obtain ⟨dialling, done, outcome, rfl, hdialling, hdone⟩ := takes_ofWork_bind_iff.mp hrest
  cases TcpConnection.connected_of_takes hdialling with
  | opened stream hwire =>
    rcases takes_ofNet_bind_iff.mp hdone with ⟨e, herror, -⟩ | ⟨connection, hok, hdone⟩
    · cases herror
    obtain rfl := Except.ok.inj hok
    obtain ⟨rfl, rfl, rfl⟩ := takes_modify_iff.mp hdone
    rw [List.append_nil, hwire]
    exact ⟨_, .ok _, .opened stream htarget hclient, rfl, rfl, rfl⟩
  | failed hreply hwire =>
    rcases takes_ofNet_bind_iff.mp hdone with ⟨e, herror, rfl, rfl, rfl⟩ | ⟨connection, hok, -⟩
    · obtain rfl := Except.error.inj herror
      rw [List.append_nil, hwire]
      exact ⟨_, .error _, .failed htarget hclient hreply, rfl, rfl, rfl⟩
    · cases hok

/-- An open connection is left alone, and in place of any other a new one is opened. -/
theorem takes_ensureConnected {result : Except Fault Unit}
    (h : Takes (ensureConnected context) value taken result last) :
    (∃ connection stream, value.tcp = some connection ∧ connection.stream = some stream ∧
        wire taken = [] ∧ result = .ok () ∧ last = value) ∨
      openStream value.tcp = none ∧ ∃ attempt opened, Attempt context attempt opened ∧
        wire taken = attempt ∧ result = (opened.map fun _ => ()).mapError .failure ∧
        last = { value with tcp := opened.toOption } := by
  replace h := takes_get_bind_iff.mp h
  rw [any_isOpen] at h
  cases hopen : openStream value.tcp with
  | some stream =>
    rw [hopen] at h
    obtain ⟨rfl, rfl, rfl⟩ := takes_pure_iff.mp h
    obtain ⟨connection, htcp, hstream⟩ := Option.bind_eq_some_iff.mp hopen
    exact .inl ⟨connection, stream, htcp, hstream, rfl, rfl, rfl⟩
  | none =>
    rw [hopen] at h
    obtain ⟨first, rest, _, rfl, hlog, hconnect⟩ := takes_ofWork_bind_iff.mp h
    obtain rfl := Work.takes_perform_iff.mp hlog
    obtain ⟨attempt, opened, hattempt, hwire, hresult, hlast⟩ := takes_connect hconnect
    rw [release, hopen, Option.toList_none, List.map_nil, List.nil_append] at hwire
    exact .inr ⟨rfl, attempt, opened, hattempt, hwire, hresult, hlast⟩

/-- An operation on the connection that a user has, if it has one. -/
theorem takes_operation {α : Type} {missing : String}
    {operation : TcpConnection → Work (TcpConnection × Except NetError α)}
    {result : Except Fault α}
    (h : Takes (do
      let connection ← Hook.ofOption missing (← get).tcp
      let (connection, result) ← Hook.ofWork (operation connection)
      modify fun value => { value with tcp := some connection }
      Hook.ofNet result : Hook (UserValue S) α) value taken result last) :
    (value.tcp = none ∧ taken = [] ∧ result = .error (.failure (.ofText missing)) ∧
        last = value) ∨
      ∃ connection next outcome, value.tcp = some connection ∧
        (operation connection).Takes taken (next, outcome) ∧ result = netResult outcome ∧
        last = { value with tcp := some next } := by
  rcases takes_ofOption_bind_iff.mp (takes_get_bind_iff.mp h) with hmissing | ⟨connection, htcp, h⟩
  · exact .inl hmissing
  obtain ⟨first, rest, ⟨next, outcome⟩, rfl, hoperation, h⟩ := takes_ofWork_bind_iff.mp h
  obtain ⟨rfl, rfl, rfl⟩ := takes_ofNet_iff.mp (takes_modify_bind_iff.mp h)
  rw [List.append_nil]
  exact .inr ⟨connection, next, outcome, htcp, hoperation, rfl, rfl⟩

/-- Writing over the connection that a user has. -/
theorem takes_write {text : String} {connection : TcpConnection} {stream : Stream}
    {result : Except Fault Unit} (htcp : value.tcp = some connection)
    (hopen : connection.stream = some stream)
    (h : Takes (do
      let connection ← Hook.ofOption "No TCP connection" (← get).tcp
      let (connection, result) ← Hook.ofWork (connection.writeLine context.options.ioTimeout text)
      modify fun value => { value with tcp := some connection }
      Hook.ofNet result : Hook (UserValue S) Unit) value taken result last) :
    ∃ outcome left, Operates context.options.ioTimeout stream (.writeLine text) (wire taken)
        outcome left ∧
      result = netResult outcome ∧
      last = { value with tcp := some { connection with stream := left } } := by
  rcases takes_operation h with ⟨hnone, -⟩ | ⟨held, next, outcome, hheld, hwrite, rfl, rfl⟩
  · rw [htcp] at hnone
    cases hnone
  obtain rfl := Option.some.inj (htcp.symm.trans hheld)
  have huse : (connection.use context.options.ioTimeout (.writeLine text)).Takes taken
      (next, outcome) := hwrite
  obtain ⟨left, hoperates, rfl⟩ := operates_of_use hopen huse
  exact ⟨outcome, left, hoperates, rfl, rfl⟩

theorem takes_writeLine {text : String} {result : Except Fault Unit}
    (h : Takes (writeLine context text) value taken result last) :
    Does context (.writeLine text) value.tcp (wire taken) result last.tcp ∧
      last.own = value.own := by
  rcases takes_bind_iff.mp h with ⟨fault, hensure, rfl⟩ |
    ⟨first, rest, _, middle, rfl, hensure, hwrite⟩
  · rcases takes_ensureConnected hensure with ⟨_, _, -, -, -, hresult, -⟩ |
      ⟨hclosed, attempt, opened, hattempt, hwire, hresult, rfl⟩
    · cases hresult
    · cases opened with
      | ok => cases hresult
      | error failure =>
        obtain rfl := Except.error.inj hresult
        rw [hwire]
        exact ⟨.notWritten hclosed hattempt, rfl⟩
  · rw [wire_append]
    rcases takes_ensureConnected hensure with
      ⟨connection, stream, htcp, hopen, hwire, -, rfl⟩ |
      ⟨hclosed, attempt, opened, hattempt, hwire, hresult, rfl⟩
    · obtain ⟨outcome, left, hoperates, rfl, rfl⟩ := takes_write htcp hopen hwrite
      rw [hwire, htcp, List.nil_append]
      exact ⟨.wrote hopen hoperates, rfl⟩
    · cases opened with
      | error => cases hresult
      | ok connection =>
        obtain ⟨stream, hopen⟩ := hattempt.isOpen
        obtain ⟨outcome, left, hoperates, rfl, rfl⟩ := takes_write rfl hopen hwrite
        rw [hwire]
        exact ⟨.wroteAfresh hclosed hattempt hopen hoperates, rfl⟩

theorem takes_readUpTo {max : Nat} {result : Except Fault (List UInt8)}
    (h : Takes (readUpTo context max) value taken result last) :
    Does context (.readUpTo max) value.tcp (wire taken) result last.tcp ∧
      last.own = value.own := by
  rcases takes_operation h with ⟨hnone, rfl, rfl, rfl⟩ |
    ⟨connection, next, outcome, htcp, hread, rfl, rfl⟩
  · rw [hnone]
    exact ⟨.readNone, rfl⟩
  have huse : (connection.use context.options.ioTimeout (.readUpTo max)).Takes taken
      (next, outcome) := hread
  rw [htcp]
  cases hstream : connection.stream with
  | some stream =>
    obtain ⟨left, hoperates, rfl⟩ := operates_of_use hstream huse
    exact ⟨.read hstream hoperates, rfl⟩
  | none =>
    rcases TcpConnection.use_cases huse with ⟨-, rfl, hrefused, hwire⟩ | ⟨stream, hopen, -⟩
    · cases hrefused
      rw [hwire]
      exact ⟨.readClosed hstream, rfl⟩
    · rw [hstream] at hopen
      cases hopen

theorem does_of_takes {call : Call} {result : Except Fault call.Result}
    (h : Takes (call.hook context) value taken result last) :
    Does context call value.tcp (wire taken) result last.tcp ∧ last.own = value.own := by
  cases call with
  | connect =>
    obtain ⟨attempt, opened, hattempt, hwire, rfl, rfl⟩ := takes_connect h
    rw [hwire]
    cases opened with
    | ok => exact ⟨.connected hattempt, rfl⟩
    | error => exact ⟨.notConnected hattempt, rfl⟩
  | writeLine text => exact takes_writeLine h
  | readUpTo max => exact takes_readUpTo h
  | close =>
    obtain ⟨rfl, rfl, hwire⟩ := takes_close h
    rw [hwire]
    exact ⟨.closed, rfl⟩

end Takes

end LoadHarness.Network
