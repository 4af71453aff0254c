import LoadHarness.Net.Host
import LoadHarness.Proofs.Net.Tcp
import LoadHarness.Proofs.Run.Moments

/-! The life of a connection over TCP.

    opened → used, as long as every use succeeds → ended → refused, whatever is tried

What is done with a connection is a list of events, each of which is played among the
work of others (`Used`).  An event on an open connection leaves it open or ends it, and
an event on a closed one finds it closed (`use_cases`).  So the events of every
connection are those that succeed, the one that ends it, and those that are refused
(`lifecycle`). -/

namespace LoadHarness

namespace Net

/-- What can be done with a connection. -/
inductive Use where
  | writeLine (text : String)
  | readUpTo (max : Nat)
  | close
  /-- The connection is given up, which closes it. -/
  | drop

/-- What comes of a use. -/
def Use.Result : Use → Type
  | writeLine _ => Except NetError Unit
  | readUpTo _ => Except NetError (List UInt8)
  | close | drop => Unit

/-- Whether an open connection is closed after a use with this result. -/
def Use.ends : (use : Use) → use.Result → Bool
  | writeLine _, (result : Except NetError Unit) => !result.isOk
  | readUpTo _, (result : Except NetError (List UInt8)) => !result.isOk
  | close, _ | drop, _ => true

/-- The name of the operation that a use is recorded as, and whether it failed. -/
def Use.record? : (use : Use) → use.Result → Option (String × Bool)
  | writeLine _, (result : Except NetError Unit) => some ("tcp_write_line", !result.isOk)
  | readUpTo _, (result : Except NetError (List UInt8)) => some ("tcp_read", !result.isOk)
  | close, _ | drop, _ => none

namespace TcpConnection

open Run Work

/-- Do something with a connection. -/
def use (limit : Duration) (connection : TcpConnection) :
    (use : Use) → Work (TcpConnection × use.Result)
  | .writeLine text => connection.writeLine limit text
  | .readUpTo max => connection.readUpTo limit max
  | .close | .drop => do return (← connection.close, ())

/-- Something that was done with a connection, and what it has left of it. -/
structure Event where
  use : Use
  result : use.Result
  next : TcpConnection
  moments : List Moment

/-- Events follow one another on a connection.  Each begins at whatever desk it may. -/
def Used (limit : Duration) : TcpConnection → List Event → Prop
  | _, [] => True
  | connection, event :: events =>
    (∃ desk, Plays desk (connection.use limit event.use) event.moments
      (event.next, event.result)) ∧ Used limit event.next events

/-- A use of an open connection that succeeds, with what it asks of the network. -/
inductive Succeeds (socket : Socket) : (use : Use) → use.Result → List Taken → Prop where
  | wrote {text : String} :
      Succeeds socket (.writeLine text) (.ok ()) [⟨.ask (.send socket (lineBytes text)), .ok ()⟩]
  | read {max : Nat} (chunk : Chunk max) (hmax : chunk.val = [] → max = 0) :
      Succeeds socket (.readUpTo max) (.ok chunk.val)
        [⟨.ask (.receive socket max), .ok chunk⟩]

/-- A use that closes an open connection, with all that it does outside. -/
inductive Ends (limit : Duration) (stream : Stream) :
    (use : Use) → use.Result → List Taken → Prop where
  | writeFailed {text : String} {reply : Outcome IoFault Unit} {e : NetError}
      (hreply : reply.within "write" limit .io = .error e) :
      Ends limit stream (.writeLine text) (.error e)
        [⟨.ask (.send stream.socket (lineBytes text)), reply⟩, ⟨.disconnect stream.token, ()⟩]
  | readFailed {max : Nat} {reply : Outcome IoFault (Chunk max)} {e : NetError}
      (hreply : reply.within "read" limit .io = .error e) :
      Ends limit stream (.readUpTo max) (.error e)
        [⟨.ask (.receive stream.socket max), reply⟩, ⟨.disconnect stream.token, ()⟩]
  | readNothing {max : Nat} (hmax : 0 < max) :
      Ends limit stream (.readUpTo max)
        (.error (.io (.custom .unexpectedEof "connection closed by peer")))
        [⟨.ask (.receive stream.socket max), .ok ⟨[], Nat.zero_le max⟩⟩,
          ⟨.disconnect stream.token, ()⟩]
  | closed : Ends limit stream .close () [⟨.disconnect stream.token, ()⟩]
  | dropped : Ends limit stream .drop () [⟨.disconnect stream.token, ()⟩]

/-- A use of a closed connection. -/
inductive Refused : (use : Use) → use.Result → Prop where
  | write {text : String} : Refused (.writeLine text) (.error .closed)
  | read {max : Nat} : Refused (.readUpTo max) (.error .closed)
  | close : Refused .close ()
  | drop : Refused .drop ()

theorem Succeeds.ends_eq_false {socket : Socket} {act : Use} {result : act.Result}
    {taken : List Taken} (h : Succeeds socket act result taken) : act.ends result = false := by
  cases h <;> rfl

theorem Ends.ends_eq_true {limit : Duration} {stream : Stream} {act : Use} {result : act.Result}
    {taken : List Taken} (h : Ends limit stream act result taken) : act.ends result = true := by
  cases h <;> rfl

theorem Succeeds.entries {socket : Socket} {act : Use} {result : act.Result} {taken : List Taken}
    (h : Succeeds socket act result taken) : entries taken = [] := by
  cases h <;> rfl

theorem Ends.entries {limit : Duration} {stream : Stream} {act : Use} {result : act.Result}
    {taken : List Taken} (h : Ends limit stream act result taken) :
    entries taken = [⟨.disconnect stream.token, ()⟩] := by
  cases h <;> rfl

section Step

variable {connection next : TcpConnection} {limit : Duration} {stream : Stream} {act : Use}
  {result : act.Result} {taken : List Taken}

/-- Closing once more does nothing. -/
theorem takes_release
    (h : (do return (← connection.close, ()) : Work (TcpConnection × Unit)).Takes taken
      (next, ())) :
    (connection.stream = none ∧ next = connection ∧ wire taken = [] ∨
      ∃ stream, connection.stream = some stream ∧ next = { connection with stream := none } ∧
        wire taken = [⟨.disconnect stream.token, ()⟩]) ∧
      records taken = [] := by
  obtain ⟨closing, rest, closed, rfl, hclosing, hrest⟩ := takes_bind_iff.mp h
  obtain ⟨rfl, hnext⟩ := takes_pure_iff.mp hrest
  obtain ⟨rfl, hwire, hrecords⟩ := takes_close hclosing
  obtain ⟨rfl, -⟩ := Prod.mk.inj hnext
  rw [List.append_nil]
  obtain ⟨address, stream⟩ := connection
  cases stream with
  | none => exact ⟨.inl ⟨rfl, rfl, hwire⟩, hrecords⟩
  | some stream => exact ⟨.inr ⟨stream, rfl, rfl, hwire⟩, hrecords⟩

/-- What a use of a connection can be. -/
theorem use_cases (h : (connection.use limit act).Takes taken (next, result)) :
    (connection.stream = none ∧ next = connection ∧ Refused act result ∧ wire taken = []) ∨
    ∃ stream, connection.stream = some stream ∧
      (next = connection ∧ Succeeds stream.socket act result (wire taken) ∨
        next = { connection with stream := none } ∧
          Ends limit stream act result (wire taken)) := by
  cases act with
  | writeLine text =>
    cases operated_of_writeLine h with
    | refused hclosed hwire => exact .inl ⟨hclosed, rfl, .write, hwire⟩
    | succeeded hopen hsettle hwire =>
      rw [Outcome.within_eq_ok_iff.mp hsettle] at hwire
      refine .inr ⟨_, hopen, .inl ⟨rfl, ?_⟩⟩
      rw [hwire]
      exact .wrote
    | failed hopen hsettle hwire =>
      refine .inr ⟨_, hopen, .inr ⟨rfl, ?_⟩⟩
      rw [hwire]
      exact .writeFailed hsettle
  | readUpTo max =>
    cases operated_of_readUpTo h with
    | refused hclosed hwire => exact .inl ⟨hclosed, rfl, .read, hwire⟩
    | succeeded hopen hsettle hwire =>
      obtain ⟨chunk, rfl, rfl, hmax⟩ := readResult_eq_ok hsettle
      refine .inr ⟨_, hopen, .inl ⟨rfl, ?_⟩⟩
      rw [hwire]
      exact .read chunk hmax
    | failed hopen hsettle hwire =>
      refine .inr ⟨_, hopen, .inr ⟨rfl, ?_⟩⟩
      rcases readResult_eq_error hsettle with hreply | ⟨rfl, hmax, rfl⟩
      · rw [hwire]
        exact .readFailed hreply
      · rw [hwire]
        exact .readNothing hmax
  | close | drop =>
    rcases (takes_release h).1 with ⟨hclosed, rfl, hwire⟩ | ⟨stream, hopen, hnext, hwire⟩
    · exact .inl ⟨hclosed, rfl, by constructor, hwire⟩
    · refine .inr ⟨stream, hopen, .inr ⟨hnext, ?_⟩⟩
      rw [hwire]
      constructor

/-- A use of a connection is recorded if it is an operation. -/
theorem records_of_use (h : (connection.use limit act).Takes taken (next, result)) :
    (records taken).map (fun operation => (operation.id, operation.failed)) =
      (act.record? result).toList := by
  cases act with
  | writeLine text =>
    obtain ⟨length, hrecords⟩ := (operated_of_writeLine h).records
    rw [hrecords]
    rfl
  | readUpTo max =>
    obtain ⟨length, hrecords⟩ := (operated_of_readUpTo h).records
    rw [hrecords]
    rfl
  | close | drop =>
    rw [(takes_release h).2]
    rfl

end Step

/-! ## Every use comes to its end -/

section

variable {limit : Duration} {connection : TcpConnection}

theorem only_use (act : Use) : (connection.use limit act).Only Action.Working := by
  cases act with
  | writeLine text => exact connection.only_writeLine
  | readUpTo max => exact connection.only_readUpTo
  | close | drop => exact .bind connection.only_close fun _ => only_pure _

theorem neverWaits_use (act : Use) : (connection.use limit act).NeverWaits :=
  (only_use act).neverWaits id

end

section Run

variable {connection : TcpConnection} {limit : Duration} {stream : Stream} {events : List Event}

/-- An event that some use of a connection has come to. -/
def Event.Played (limit : Duration) (event : Event) : Prop :=
  ∃ (desk : Desk) (connection : TcpConnection),
    Plays desk (connection.use limit event.use) event.moments (event.next, event.result)

theorem Used.played (h : Used limit connection events) : ∀ event ∈ events, event.Played limit := by
  induction events generalizing connection with
  | nil => exact List.forall_mem_nil _
  | cons event events ih =>
    obtain ⟨⟨desk, hplays⟩, hrest⟩ := h
    rintro other (_ | ⟨_, hmem⟩)
    · exact ⟨desk, connection, hplays⟩
    · exact ih hrest other hmem

/-- An event that leaves an open connection as it is. -/
structure Event.Succeeds (stream : Stream) (event : Event) : Prop where
  stays : event.next.stream = some stream
  goesOn : event.use.ends event.result = false
  asks : TcpConnection.Succeeds stream.socket event.use event.result (wire (taken event.moments))

/-- An event that closes an open connection. -/
structure Event.Ends (limit : Duration) (stream : Stream) (event : Event) : Prop where
  closes : event.next.stream = none
  ends : event.use.ends event.result = true
  asks : TcpConnection.Ends limit stream event.use event.result (wire (taken event.moments))

/-- An event on a closed connection. -/
structure Event.Refused (event : Event) : Prop where
  stays : event.next.stream = none
  fails : TcpConnection.Refused event.use event.result
  asksNothing : wire (taken event.moments) = []

/-- Nothing reopens a closed connection. -/
theorem Used.refused (h : Used limit connection events) (hclosed : connection.stream = none) :
    ∀ event ∈ events, event.Refused := by
  induction events generalizing connection with
  | nil => exact List.forall_mem_nil _
  | cons event events ih =>
    obtain ⟨⟨desk, hplays⟩, hrest⟩ := h
    rcases use_cases hplays.takes with ⟨-, hnext, hrefused, hwire⟩ | ⟨stream, hopen, -⟩
    · rintro other (_ | ⟨_, hmem⟩)
      · exact ⟨by rw [hnext, hclosed], hrefused, hwire⟩
      · exact ih hrest (by rw [hnext, hclosed]) other hmem
    · rw [hclosed] at hopen
      cases hopen

/-- The uses of an open connection succeed up to the one that closes it. -/
theorem Used.split (h : Used limit connection events) (hopen : connection.stream = some stream) :
    ∃ alive rest, events = alive ++ rest ∧ (∀ event ∈ alive, event.Succeeds stream) ∧
      (∀ event ∈ rest.head?, event.Ends limit stream) ∧ ∀ event ∈ rest.tail, event.Refused := by
  induction events generalizing connection with
  | nil =>
    exact ⟨[], [], rfl, List.forall_mem_nil _, fun _ hmem => absurd hmem (Option.not_mem_none _),
      List.forall_mem_nil _⟩
  | cons event events ih =>
    obtain ⟨⟨desk, hplays⟩, hrest⟩ := h
    rcases use_cases hplays.takes with ⟨hclosed, -⟩ | ⟨other, hother, hcases⟩
    · rw [hopen] at hclosed
      cases hclosed
    obtain rfl := Option.some.inj (hopen.symm.trans hother)
    rcases hcases with ⟨hnext, hsucceeds⟩ | ⟨hnext, hends⟩
    · obtain ⟨alive, rest, rfl, halive, hrests⟩ := ih hrest (by rw [hnext, hopen])
      refine ⟨event :: alive, rest, rfl, ?_, hrests⟩
      rintro other (_ | ⟨_, hmem⟩)
      · exact ⟨by rw [hnext, hopen], hsucceeds.ends_eq_false, hsucceeds⟩
      · exact halive other hmem
    · -- this use ends the connection, so that all that follow find it closed
      have hclosed : event.next.stream = none := by rw [hnext]
      refine ⟨[], event :: events, rfl, List.forall_mem_nil _, ?_, hrest.refused hclosed⟩
      intro other hmem
      obtain rfl := Option.some.inj hmem
      exact ⟨hclosed, hends.ends_eq_true, hends⟩

/-- What events do with the network and the books, in order. -/
def moments (events : List Event) : List Moment := events.flatMap (·.moments)

theorem moments_append (first rest : List Event) :
    moments (first ++ rest) = moments first ++ moments rest := List.flatMap_append

/-- The events are recorded in order, each operation once. -/
theorem Used.recorded (h : Used limit connection events) :
    (records (taken (moments events))).map (fun operation => (operation.id, operation.failed)) =
      events.filterMap fun event => event.use.record? event.result := by
  induction events generalizing connection with
  | nil => rfl
  | cons event events ih =>
    obtain ⟨⟨desk, hplays⟩, hrest⟩ := h
    rw [moments, List.flatMap_cons, taken_append, records_append, List.map_append,
      records_of_use hplays.takes, ← moments, ih hrest, List.filterMap_cons]
    cases event.use.record? event.result <;> rfl

/-- Events without an entry leave the books as they are. -/
theorem quiet_of_entries (hplayed : ∀ event ∈ events, event.Played limit)
    (hentries : ∀ event ∈ events, entries (taken event.moments) = []) {token : Token}
    {first last : Nat} (hundisturbed : Undisturbed token first (moments events) last) :
    (∀ event ∈ events, changes event.moments = []) ∧ last = first := by
  induction events generalizing first with
  | nil => exact ⟨List.forall_mem_nil _, hundisturbed⟩
  | cons event events ih =>
    rw [List.forall_mem_cons] at hplayed hentries
    obtain ⟨middle, hnow, hlater⟩ := undisturbed_append.mp hundisturbed
    obtain ⟨desk, connection, hplays⟩ := hplayed.1
    obtain ⟨hquiet, hlast⟩ := hplays.of_entries_eq_nil hentries.1
    obtain rfl := hlast hnow
    obtain ⟨hrest, rfl⟩ := ih hplayed.2 hentries.2 hlater
    exact ⟨List.forall_mem_cons.mpr ⟨hquiet, hrest⟩, rfl⟩

theorem Event.Succeeds.entries {event : Event} (h : event.Succeeds stream) :
    entries (taken event.moments) = [] := by
  rw [← entries_wire, h.asks.entries]

theorem Event.Ends.entries {event : Event} (h : event.Ends limit stream) :
    entries (taken event.moments) = [⟨.disconnect stream.token, ()⟩] := by
  rw [← entries_wire, h.asks.entries]

theorem Event.Refused.entries {event : Event} (h : event.Refused) :
    entries (taken event.moments) = [] := by
  rw [← entries_wire, h.asksNothing, entries_nil]

/-- The books on a connection change with the use that closes it, and not before or after. -/
theorem counted_of_ended {rest : List Event} {last : Nat}
    (hplayed : ∀ event ∈ rest, event.Played limit)
    (hend : ∀ event ∈ rest.head?, event.Ends limit stream)
    (hrefuse : ∀ event ∈ rest.tail, event.Refused)
    (hundisturbed : Undisturbed stream.token 1 (moments rest) last) :
    (∀ event ∈ rest.head?, ∃ moment, changes event.moments = [moment] ∧
        moment.Releases stream.token) ∧
      (∀ event ∈ rest.tail, changes event.moments = []) ∧
      last = if rest.isEmpty then 1 else 0 := by
  cases rest with
  | nil =>
    exact ⟨fun _ hmem => absurd hmem (Option.not_mem_none _), List.forall_mem_nil _, hundisturbed⟩
  | cons ending dead =>
    rw [List.forall_mem_cons] at hplayed
    obtain ⟨desk, connection, hplays⟩ := hplayed.1
    obtain ⟨middle, hnow, hlater⟩ := undisturbed_append.mp hundisturbed
    obtain ⟨rfl, moment, hchanges, hreleases⟩ :=
      hplays.of_entries_eq_disconnect (hend ending rfl).entries hnow
    obtain ⟨hquiet, rfl⟩ := quiet_of_entries hplayed.2
      (fun event hmem => (hrefuse event hmem).entries) hlater
    refine ⟨fun event hmem => ?_, hquiet, rfl⟩
    obtain rfl := Option.some.inj hmem
    exact ⟨moment, hchanges, hreleases⟩

/-- The life of a connection that was opened at a desk, up to its last success and from there. -/
structure Life (limit : Duration) (desk : Desk) (address : String) (opening : List Moment)
    (stream : Stream) (alive rest : List Event) : Prop where
  /-- The connection is dialled and entered in the books once. -/
  opened : wire (taken opening) =
    [⟨.ask (.dial address), .ok stream.socket⟩, ⟨.connect false, stream.token⟩]
  named : stream.token = ⟨desk.party, desk.connects, false⟩
  succeed : ∀ event ∈ alive, event.Succeeds stream
  ended : ∀ event ∈ rest.head?, event.Ends limit stream
  refuse : ∀ event ∈ rest.tail, event.Refused
  /-- Every operation makes one record, in order, which says whether it failed. -/
  recorded :
    (records (taken (moments (alive ++ rest)))).map
        (fun operation => (operation.id, operation.failed)) =
      (alive ++ rest).filterMap fun event => event.use.record? event.result
  /-- The books change when the connection is opened and when it ends, whatever else others enter
  in them. -/
  counted : ∀ last, Undisturbed stream.token 0 (opening ++ moments (alive ++ rest)) last →
    (∃ moment, changes opening = [moment] ∧ moment.Opens stream.token) ∧
      (∀ event ∈ alive, changes event.moments = []) ∧
      (∀ event ∈ rest.head?, ∃ moment, changes event.moments = [moment] ∧
        moment.Releases stream.token) ∧
      (∀ event ∈ rest.tail, changes event.moments = []) ∧
      last = if rest.isEmpty then 1 else 0

/-- Every connection is open up to the first use that fails or closes it, and closed from there on.
Whatever a use finds at each of its actions, it comes to a result. -/
theorem lifecycle {limit : Duration} {address : String} {desk : Desk} {opening : List Moment}
    {connection : TcpConnection} {events : List Event}
    (hconnect : Plays desk (connect limit address) opening (.ok connection))
    (hused : Used limit connection events) :
    (∃ stream alive rest, connection = ⟨address, some stream⟩ ∧ events = alive ++ rest ∧
        Life limit desk address opening stream alive rest) ∧
      ∀ (connection : TcpConnection) (act : Use) (desk : Desk) (world : Nat → Shared × Outside),
        ∃ moments last, Plays desk (connection.use limit act) moments last ∧
          moments.map (fun moment => (moment.before, moment.outside)) =
            (List.range moments.length).map world := by
  refine ⟨?_, fun connection act => exists_plays (neverWaits_use act)⟩
  have hconnected := connected_of_takes hconnect.takes
  generalize hresult : Except.ok connection = result at hconnected
  cases hconnected with
  | failed => cases hresult
  | opened stream hwire =>
    obtain rfl := Except.ok.inj hresult
    obtain ⟨alive, rest, rfl, hsucceed, hend, hrefuse⟩ := hused.split rfl
    have hentries : entries (taken opening) = [⟨.connect false, stream.token⟩] := by
      rw [← entries_wire, hwire]
      rfl
    have hnamed := hconnect.token_of_entries hentries
    refine ⟨stream, alive, rest, rfl, rfl, hwire, hnamed, hsucceed, hend, hrefuse, hused.recorded,
      fun last hundisturbed => ?_⟩
    have hplayed := hused.played
    rw [List.forall_mem_append] at hplayed
    rw [moments_append] at hundisturbed
    obtain ⟨dialled, hdialling, hafter⟩ := undisturbed_append.mp hundisturbed
    obtain ⟨middle, hliving, hending⟩ := undisturbed_append.mp hafter
    obtain ⟨rfl, hopens⟩ := hconnect.of_entries_eq_connect hentries hdialling
    obtain ⟨hquiet, rfl⟩ := quiet_of_entries hplayed.1
      (fun event hmem => (hsucceed event hmem).entries) hliving
    exact ⟨hopens, hquiet, counted_of_ended hplayed.2 hend hrefuse hending⟩

/-- A peer that takes what is sent to it, and sends nothing. -/
def silentPeer : Outside :=
  ⟨.zero, fun
    | .dial _ => .ok ⟨7⟩
    | .send .. => .ok ()
    | .receive .. => .ok ⟨[], Nat.zero_le _⟩
    | request => (Offline.host.answer ⟨[], #[]⟩ request).1⟩

/-- What parties share before anyone has opened a connection, and while one is open. -/
def noneOpen : Shared := .start "sample" (.start 0 false)

def oneOpen : Shared := { noneOpen with ledger := ⟨1, 0, [⟨.user 0, 0, false⟩]⟩ }

/-- The connection while it is open. -/
def held : TcpConnection := ⟨"peer:7", some ⟨⟨7⟩, ⟨.user 0, 0, false⟩⟩⟩

/-- Of what is done with a silent peer, a line is sent and a read of nothing succeeds.  The next
read ends the connection, and no other line is sent. -/
theorem lifecycle_sample :
    ∃ opening connection events,
      Plays ⟨.user 0, 0, 0⟩ (connect (.ofSecs 1) "peer:7") opening (.ok connection) ∧
        Used (.ofSecs 1) connection events ∧
        events.map (·.use) = [.writeLine "hi", .readUpTo 0, .readUpTo 4, .writeLine "more", .drop] ∧
        Undisturbed ⟨.user 0, 0, false⟩ 0 (opening ++ moments events) 0 ∧
        ∃ stream alive rest, connection = ⟨"peer:7", some stream⟩ ∧ events = alive ++ rest ∧
          Life (.ofSecs 1) ⟨.user 0, 0, 0⟩ "peer:7" opening stream alive rest := by
  have hconnect : Plays ⟨.user 0, 0, 0⟩ (connect (.ofSecs 1) "peer:7") _ _ :=
    .act noneOpen silentPeer rfl (.act noneOpen silentPeer rfl (.act noneOpen silentPeer rfl
      (.act noneOpen silentPeer rfl (.act noneOpen silentPeer rfl
        (.act noneOpen silentPeer rfl .done)))))
  have hwrote : Plays ⟨.user 0, 0, 1⟩ (use (.ofSecs 1) held (.writeLine "hi")) _ _ :=
    .act oneOpen silentPeer rfl (.act oneOpen silentPeer rfl
      (.act oneOpen silentPeer rfl (.act oneOpen silentPeer rfl .done)))
  have hread : Plays ⟨.user 0, 0, 1⟩ (use (.ofSecs 1) held (.readUpTo 0)) _ _ :=
    .act oneOpen silentPeer rfl (.act oneOpen silentPeer rfl
      (.act oneOpen silentPeer rfl (.act oneOpen silentPeer rfl .done)))
  have hended : Plays ⟨.user 0, 0, 1⟩ (use (.ofSecs 1) held (.readUpTo 4)) _ _ :=
    .act oneOpen silentPeer rfl (.act oneOpen silentPeer rfl (.act oneOpen silentPeer rfl
      (.act oneOpen silentPeer rfl (.act noneOpen silentPeer rfl
        (.act noneOpen silentPeer rfl (.act noneOpen silentPeer rfl .done))))))
  have hrefused : Plays ⟨.user 0, 0, 1⟩
      (use (.ofSecs 1) { held with stream := none } (.writeLine "more")) _ _ :=
    .act noneOpen silentPeer rfl (.act noneOpen silentPeer rfl
      (.act noneOpen silentPeer rfl (.act noneOpen silentPeer rfl .done)))
  have hdropped : Plays ⟨.user 0, 0, 1⟩ (use (.ofSecs 1) { held with stream := none } .drop) _ _ :=
    .done
  have hused : Used (.ofSecs 1) held [⟨_, _, _, _⟩, ⟨_, _, _, _⟩, ⟨_, _, _, _⟩, ⟨_, _, _, _⟩,
      ⟨_, _, _, _⟩] :=
    ⟨⟨_, hwrote⟩, ⟨_, hread⟩, ⟨_, hended⟩, ⟨_, hrefused⟩, ⟨_, hdropped⟩, trivial⟩
  exact ⟨_, _, _, hconnect, hused, rfl, by repeat' constructor, (lifecycle hconnect hused).1⟩

end Run

end TcpConnection

end Net

end LoadHarness
