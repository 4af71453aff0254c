import LoadHarness.Net.Tcp
import LoadHarness.Proofs.Work.Only

/-! What the operations on a connection do.

On an open connection an operation does its work, and closes the connection if that
fails.  On a closed one it touches nothing and fails.  Either way it hands one record
to the reporter.  `Operated` says this of all operations at once, and what a write and
a read ask of the network is said beside it.

Whatever comes of it, an operation keeps to the actions of such work (`Action.Working`): it
records no checks, leaks no connection and never waits for the end of the run. -/

namespace LoadHarness

namespace Net

theorem Outcome.within_eq_ok_iff {ε α : Type} {operation : String} {limit : Duration}
    {fault : ε → NetError} {outcome : Outcome ε α} {value : α} :
    outcome.within operation limit fault = .ok value ↔ outcome = .ok value := by
  cases outcome with
  | ok => simp only [within, Except.ok.injEq, ok.injEq]
  | failed | timedOut => exact ⟨nofun, nofun⟩

namespace TcpConnection

open Work

variable {α : Type} {connection next : TcpConnection} {stream : Stream} {limit : Duration}
  {taken : List Taken}

/-- Closing takes the token of an open connection out of the books, and does nothing to a closed
one. -/
theorem takes_close (h : connection.close.Takes taken next) :
    next = { connection with stream := none } ∧
      wire taken = connection.stream.toList.map (fun stream => ⟨.disconnect stream.token, ()⟩) ∧
      records taken = [] := by
  obtain ⟨address, stream⟩ := connection
  cases stream with
  | none =>
    obtain ⟨rfl, rfl⟩ := takes_pure_iff.mp h
    exact ⟨rfl, rfl, rfl⟩
  | some stream =>
    obtain ⟨_, rest, rfl, hrest⟩ := takes_perform_bind_iff.mp h
    obtain ⟨_, last, rfl, hlast⟩ := takes_perform_bind_iff.mp hrest
    obtain ⟨rfl, rfl⟩ := takes_pure_iff.mp hlast
    exact ⟨rfl, rfl, rfl⟩

theorem takes_report {id : String} {start : Duration} {failed : Bool} {answer : Unit}
    (h : (Work.report id start failed).Takes taken answer) :
    wire taken = [] ∧ ∃ length, records taken = [⟨id, failed, some length⟩] := by
  obtain ⟨stop, rest, rfl, hrest⟩ := takes_perform_bind_iff.mp h
  obtain rfl := takes_perform_iff.mp hrest
  exact ⟨rfl, _, rfl⟩

/-- What is left of a connection once an operation on it has come to a result. -/
def afterResult (connection : TcpConnection) (result : Except NetError α) : TcpConnection :=
  if result.isOk then connection else { connection with stream := none }

theorem takes_closeOnError {result : Except NetError α}
    (h : (connection.closeOnError result).Takes taken next) :
    next = connection.afterResult result ∧
      wire taken = (if result.isOk then [] else
        connection.stream.toList.map fun stream => ⟨.disconnect stream.token, ()⟩) ∧
      records taken = [] := by
  cases result with
  | ok value =>
    obtain ⟨rfl, rfl⟩ := takes_pure_iff.mp h
    exact ⟨rfl, rfl, rfl⟩
  | error e =>
    obtain ⟨_, rest, rfl, hrest⟩ := takes_perform_bind_iff.mp h
    obtain ⟨rfl, hwire, hrecords⟩ := takes_close hrest
    exact ⟨rfl, hwire, hrecords⟩

/-- What an operation does once its work has come to a result. -/
theorem takes_settled {id : String} {start : Duration} {settled result : Except NetError α}
    (h : Takes (do
      let connection ← connection.closeOnError settled
      Work.report id start !settled.isOk
      return (connection, settled)) taken (next, result)) :
    result = settled ∧ next = connection.afterResult settled ∧
      wire taken = (if settled.isOk then [] else
        connection.stream.toList.map fun stream => ⟨.disconnect stream.token, ()⟩) ∧
      ∃ length, records taken = [⟨id, !settled.isOk, some length⟩] := by
  obtain ⟨closed, rest, after, rfl, hclosed, hrest⟩ := takes_bind_iff.mp h
  obtain ⟨reported, last, _, rfl, hreported, hlast⟩ := takes_bind_iff.mp hrest
  obtain ⟨rfl, heq⟩ := takes_pure_iff.mp hlast
  obtain ⟨rfl, rfl⟩ := Prod.mk.inj heq
  obtain ⟨rfl, hwired, hrecorded⟩ := takes_closeOnError hclosed
  obtain ⟨hwire, length, hrecords⟩ := takes_report hreported
  refine ⟨rfl, rfl, ?_, length, ?_⟩
  · rw [wire_append, wire_append, hwired, hwire, wire_nil, List.append_nil, List.append_nil]
  · rw [records_append, records_append, hrecorded, hrecords, records_nil, List.append_nil,
      List.nil_append]

/-- What can become of an operation that asks one thing of the network.  A closed connection refuses
it without asking.  On an open one it succeeds, or it fails and closes the connection. -/
inductive Operated (connection : TcpConnection) (id : String) (request : Socket → Request)
    (settle : (socket : Socket) → Reply (request socket) → Except NetError α) :
    List Taken → TcpConnection → Except NetError α → Prop where
  | refused {taken : List Taken} {length : Duration} (hclosed : connection.stream = none)
      (hwire : wire taken = []) (hrecords : records taken = [⟨id, true, some length⟩]) :
      Operated connection id request settle taken connection (.error .closed)
  | succeeded {taken : List Taken} {length : Duration} {stream : Stream}
      {reply : Reply (request stream.socket)} {value : α} (hopen : connection.stream = some stream)
      (hsettle : settle stream.socket reply = .ok value)
      (hwire : wire taken = [⟨.ask (request stream.socket), reply⟩])
      (hrecords : records taken = [⟨id, false, some length⟩]) :
      Operated connection id request settle taken connection (.ok value)
  | failed {taken : List Taken} {length : Duration} {stream : Stream}
      {reply : Reply (request stream.socket)} {e : NetError}
      (hopen : connection.stream = some stream) (hsettle : settle stream.socket reply = .error e)
      (hwire : wire taken = [⟨.ask (request stream.socket), reply⟩,
        ⟨.disconnect stream.token, ()⟩])
      (hrecords : records taken = [⟨id, true, some length⟩]) :
      Operated connection id request settle taken { connection with stream := none } (.error e)

/-- Every operation makes one record, which says whether it failed. -/
theorem Operated.records {id : String} {request : Socket → Request}
    {settle : (socket : Socket) → Reply (request socket) → Except NetError α}
    {result : Except NetError α} (h : Operated connection id request settle taken next result) :
    ∃ length, records taken = [⟨id, !result.isOk, some length⟩] := by
  cases h with
  | refused _ _ hrecords => exact ⟨_, hrecords⟩
  | succeeded _ _ _ hrecords => exact ⟨_, hrecords⟩
  | failed _ _ _ hrecords => exact ⟨_, hrecords⟩

theorem operated_of_takes {id : String} {request : Socket → Request}
    {settle : (socket : Socket) → Reply (request socket) → Except NetError α}
    {result : Except NetError α}
    (h : (connection.operate id fun socket => do
      let reply ← Work.ask (request socket)
      return settle socket reply).Takes taken (next, result)) :
    Operated connection id request settle taken next result := by
  obtain ⟨start, rest, rfl, hrest⟩ := takes_perform_bind_iff.mp h
  obtain ⟨address, stream⟩ := connection
  cases stream with
  | none =>
    obtain ⟨rfl, rfl, hwire, length, hrecords⟩ := takes_settled hrest
    exact .refused rfl hwire hrecords
  | some stream =>
    obtain ⟨asked, later, settled, rfl, hasked, hlater⟩ := takes_bind_iff.mp hrest
    obtain ⟨reply, done, rfl, hdone⟩ := takes_perform_bind_iff.mp hasked
    obtain ⟨rfl, rfl⟩ := takes_pure_iff.mp hdone
    obtain ⟨rfl, rfl, hwire, length, hrecords⟩ := takes_settled hlater
    cases hsettle : settle stream.socket reply with
    | ok value =>
      rw [hsettle] at hwire hrecords
      exact .succeeded rfl hsettle (congrArg (List.cons _) hwire) hrecords
    | error e =>
      rw [hsettle] at hwire hrecords
      exact .failed rfl hsettle (congrArg (List.cons _) hwire) hrecords

/-! ## Opening -/

/-- What can become of an attempt to open a connection. -/
inductive Connected (limit : Duration) (address : String) :
    List Taken → Except NetError TcpConnection → Prop where
  | opened {taken : List Taken} {length : Duration} (stream : Stream)
      (hwire : wire taken = [⟨.ask (.dial address), .ok stream.socket⟩,
        ⟨.connect false, stream.token⟩])
      (hrecords : records taken = [⟨"tcp_connect", false, some length⟩]) :
      Connected limit address taken (.ok ⟨address, some stream⟩)
  | failed {taken : List Taken} {length : Duration} {reply : Outcome IoFault Socket}
      {e : NetError} (hreply : reply.within "connect" limit (.connect address) = .error e)
      (hwire : wire taken = [⟨.ask (.dial address), reply⟩])
      (hrecords : records taken = [⟨"tcp_connect", true, some length⟩]) :
      Connected limit address taken (.error e)

theorem connected_of_takes {address : String} {result : Except NetError TcpConnection}
    (h : (connect limit address).Takes taken result) : Connected limit address taken result := by
  obtain ⟨start, rest, rfl, hrest⟩ := takes_perform_bind_iff.mp h
  obtain ⟨reply, later, rfl, hlater⟩ := takes_perform_bind_iff.mp hrest
  obtain ⟨reported, last, _, rfl, hreported, hlast⟩ := takes_bind_iff.mp hlater
  obtain ⟨hwire, length, hrecords⟩ := takes_report hreported
  cases hreply : (show Outcome IoFault Socket from reply).within "connect" limit
      (.connect address) with
  | error e =>
    rw [hreply] at hlast hrecords
    obtain ⟨rfl, rfl⟩ := takes_pure_iff.mp hlast
    rw [List.append_nil]
    exact .failed hreply (congrArg (List.cons _) hwire) hrecords
  | ok socket =>
    rw [hreply] at hlast hrecords
    obtain rfl := Outcome.within_eq_ok_iff.mp hreply
    obtain ⟨_, more, rfl, hmore⟩ := takes_perform_bind_iff.mp hlast
    obtain ⟨token, done, rfl, hdone⟩ := takes_perform_bind_iff.mp hmore
    obtain ⟨rfl, rfl⟩ := takes_pure_iff.mp hdone
    have hentered : wire (reported ++ [⟨.log .debug ("Connected to " ++ address), ()⟩,
        ⟨.connect false, token⟩]) = [⟨.connect false, token⟩] := by
      rw [wire_append, hwire]
      rfl
    have hrecorded : records (reported ++ [⟨.log .debug ("Connected to " ++ address), ()⟩,
        ⟨.connect false, token⟩]) = [⟨"tcp_connect", false, some length⟩] := by
      rw [records_append, hrecords]
      rfl
    exact .opened ⟨socket, token⟩ (congrArg (List.cons _) hentered) hrecorded

/-! ## What is asked -/

/-- What a line is on the wire: its text, and one terminator. -/
def lineBytes (text : String) : List UInt8 := text.toUTF8.toList ++ lineTerminator.toUTF8.toList

theorem toList_loop (bytes : ByteArray) (i : Nat) (front : List UInt8) :
    ByteArray.toList.loop bytes i front = front.reverse ++ bytes.data.toList.drop i := by
  fun_induction ByteArray.toList.loop bytes i front with
  | case1 i front h ih =>
    have hlt : i < bytes.data.toList.length := h
    have hget : bytes.get! i = bytes.data.toList[i] := by
      rw [Array.getElem_toList]
      exact getElem!_pos bytes.data i h
    rw [ih, List.reverse_cons, List.append_assoc, List.drop_eq_getElem_cons hlt, hget]
    rfl
  | case2 i front h => rw [List.drop_eq_nil_of_le (Nat.le_of_not_lt h), List.append_nil]

theorem toList_append (first rest : ByteArray) :
    (first ++ rest).toList = first.toList ++ rest.toList := by
  simp only [ByteArray.toList, toList_loop, List.reverse_nil, List.nil_append, List.drop_zero,
    ByteArray.data_append, Array.toList_append]

theorem toUTF8_line (text : String) : (text ++ lineTerminator).toUTF8.toList = lineBytes text := by
  rw [lineBytes, ← toList_append]
  exact congrArg ByteArray.toList String.toByteArray_append

theorem operated_of_writeLine {text : String} {result : Except NetError Unit}
    (h : (connection.writeLine limit text).Takes taken (next, result)) :
    Operated connection "tcp_write_line" (fun socket => .send socket (lineBytes text))
      (fun _ reply => reply.within "write" limit .io) taken next result := by
  rw [writeLine, toUTF8_line] at h
  exact operated_of_takes h

/-- What a read comes to.  Nothing where something was asked for is a failure. -/
def readResult (limit : Duration) (max : Nat) (reply : Outcome IoFault (Chunk max)) :
    Except NetError (List UInt8) :=
  match reply.within "read" limit .io with
  | .error e => .error e
  | .ok chunk =>
    if chunk.val.isEmpty && 0 < max then
      .error (.io (.custom .unexpectedEof "connection closed by peer"))
    else .ok chunk.val

theorem readResult_eq_ok {max : Nat} {reply : Outcome IoFault (Chunk max)} {bytes : List UInt8}
    (h : readResult limit max reply = .ok bytes) :
    ∃ chunk : Chunk max, reply = .ok chunk ∧ chunk.val = bytes ∧ (chunk.val = [] → max = 0) := by
  unfold readResult at h
  split at h
  · cases h
  · rename_i chunk hreply
    split at h
    · cases h
    · rename_i hnonempty
      cases h
      refine ⟨chunk, Outcome.within_eq_ok_iff.mp hreply, rfl, fun hempty => ?_⟩
      rw [hempty, List.isEmpty_nil, Bool.true_and, decide_eq_true_eq] at hnonempty
      omega

theorem readResult_eq_error {max : Nat} {reply : Outcome IoFault (Chunk max)} {e : NetError}
    (h : readResult limit max reply = .error e) :
    reply.within "read" limit .io = .error e ∨
      reply = .ok ⟨[], Nat.zero_le max⟩ ∧ 0 < max ∧
        e = .io (.custom .unexpectedEof "connection closed by peer") := by
  unfold readResult at h
  split at h
  · rename_i hreply
    cases h
    exact .inl hreply
  · rename_i chunk hreply
    split at h
    · rename_i hempty
      cases h
      rw [Bool.and_eq_true, List.isEmpty_iff, decide_eq_true_eq] at hempty
      obtain ⟨bytes, hlength⟩ := chunk
      obtain ⟨rfl, hmax⟩ := hempty
      exact .inr ⟨Outcome.within_eq_ok_iff.mp hreply, hmax, rfl⟩
    · cases h

theorem operated_of_readUpTo {max : Nat} {result : Except NetError (List UInt8)}
    (h : (connection.readUpTo limit max).Takes taken (next, result)) :
    Operated connection "tcp_read" (fun socket => .receive socket max)
      (fun _ reply => readResult limit max reply) taken next result :=
  operated_of_takes h

end TcpConnection

end Net

/-! ## What operations do at all -/

/-- An action of a call over a network: it asks the network, keeps the books on a connection that is
its own, makes a record or writes to the log. -/
def Action.Working : Action → Prop
  | .log .. | .ask _ | .connect false | .disconnect _ | .now | .report _ => True
  | _ => False

theorem Action.Working.ne_leak {action : Action} (h : action.Working) : action ≠ .connect true := by
  rintro rfl
  exact h

theorem checks_of_working {taken : List Taken} (h : ∀ first ∈ taken, first.action.Working) :
    checks taken = [] := by
  refine List.filterMap_eq_nil_iff.mpr fun ⟨action, answer⟩ hmem => ?_
  cases action with
  | check => exact (h _ hmem).elim
  | _ => rfl

namespace Net

open Work

theorem only_report {id : String} {start : Duration} {failed : Bool} :
    (Work.report id start failed).Only Action.Working :=
  .bind (only_perform trivial) fun _ => only_perform trivial

namespace TcpConnection

variable {limit : Duration}

theorem only_connect {address : String} : (connect limit address).Only Action.Working := by
  refine .bind (only_perform trivial) fun _ => .bind (only_perform trivial) fun outcome =>
    .bind only_report fun _ => ?_
  split
  · exact only_pure _
  · exact .bind (only_perform trivial) fun _ => .bind (only_perform trivial) fun _ =>
      only_pure _

theorem only_close (connection : TcpConnection) : connection.close.Only Action.Working := by
  obtain ⟨address, stream⟩ := connection
  cases stream with
  | none => exact only_pure _
  | some stream =>
    exact .bind (only_perform trivial) fun _ => .bind (only_perform trivial) fun _ =>
      only_pure _

theorem only_closeOnError {α : Type} (connection : TcpConnection) (result : Except NetError α) :
    (connection.closeOnError result).Only Action.Working := by
  cases result with
  | ok => exact only_pure _
  | error => exact .bind (only_perform trivial) fun _ => only_close connection

theorem only_operate {α : Type} {id : String} {work : Socket → Work (Except NetError α)}
    (connection : TcpConnection) (hwork : ∀ socket, (work socket).Only Action.Working) :
    (connection.operate id work).Only Action.Working := by
  obtain ⟨address, stream⟩ := connection
  refine .bind (only_perform trivial) fun _ => ?_
  have hsettle (connection : TcpConnection) (start : Duration) (result : Except NetError α) :
      (do
        let connection ← connection.closeOnError result
        Work.report id start !result.isOk
        return (connection, result)).Only Action.Working :=
    .bind (only_closeOnError connection result) fun _ => .bind only_report fun _ => only_pure _
  cases stream with
  | none => exact hsettle _ _ _
  | some stream => exact .bind (hwork _) fun _ => hsettle _ _ _

theorem only_writeLine {text : String} (connection : TcpConnection) :
    (connection.writeLine limit text).Only Action.Working :=
  only_operate connection fun _ => .bind (only_perform trivial) fun _ => only_pure _

theorem only_readUpTo {max : Nat} (connection : TcpConnection) :
    (connection.readUpTo limit max).Only Action.Working :=
  only_operate connection fun _ => .bind (only_perform trivial) fun _ => only_pure _

end TcpConnection

end Net

end LoadHarness
