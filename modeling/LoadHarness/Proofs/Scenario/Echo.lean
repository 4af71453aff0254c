import LoadHarness.Proofs.Run.Holding
import LoadHarness.Proofs.Scenario.Actions

/-! The echo scenario adds up.

An iteration that begins without a connection goes one of four ways, as far as the network
lets it (`Course`): it is refused, or it cannot send, or it is not answered, or it puts the
answer to the test.  Whichever way it goes, it makes one record for every step it came to,
fails if and only if its last record has failed, and leaves no connection behind
(`course_of_takes`).  So every iteration begins like the first one, and the totals of a run
satisfy what each of its iterations does (`tcp_echo_adds_up`). -/

namespace LoadHarness

open Net Hook

namespace Network

variable {S : Type} {context : UserContext RunValue} {value last : UserValue S}
  {taken : List Taken} {target : String} {client : Client}

/-! ## Records of calls -/

theorem marks_close {result : Except Fault Unit} (h : Takes close value taken result last) :
    marks taken = [] := by
  replace h := takes_get_bind_iff.mp h
  obtain ⟨tcp, own⟩ := value
  cases tcp with
  | none =>
    obtain ⟨rfl, -, -⟩ := takes_pure_iff.mp h
    rfl
  | some connection =>
    obtain ⟨first, rest, closed, rfl, hclosing, hrest⟩ :=
      takes_ofWork_bind_iff.mp (takes_modify_bind_iff.mp h)
    obtain ⟨rfl, -, -⟩ := takes_pure_iff.mp hrest
    rw [List.append_nil, marks, (TcpConnection.takes_close hclosing).2.2]
    rfl

/-- Where there is a target and a client, an attempt to connect makes one record. -/
theorem marks_connect {result : Except Fault Unit}
    (h : Takes (connect context) value taken result last)
    (htarget : context.options.target = some target)
    (hclient : context.global.client = some client) :
    marks taken = [("tcp_connect", !result.isOk)] := by
  rcases takes_bind_iff.mp h with ⟨fault, hclosing, -⟩ |
    ⟨first, rest, _, middle, rfl, hclosing, hrest⟩
  · cases (takes_close hclosing).1
  rw [marks_append, marks_close hclosing, List.nil_append]
  rcases takes_ofOption_bind_iff.mp hrest with ⟨hnone, -⟩ | ⟨_, -, hrest⟩
  · rw [htarget] at hnone
    cases hnone
  rcases takes_ofOption_bind_iff.mp hrest with ⟨hnone, -⟩ | ⟨_, -, hrest⟩
  · rw [hclient] at hnone
    cases hnone
  obtain ⟨dialling, done, outcome, rfl, hdialling, hdone⟩ := takes_ofWork_bind_iff.mp hrest
  cases TcpConnection.connected_of_takes hdialling with
  | opened stream _ hrecords =>
    rcases takes_ofNet_bind_iff.mp hdone with ⟨e, herror, -⟩ | ⟨connection, -, hdone⟩
    · cases herror
    obtain ⟨rfl, rfl, -⟩ := takes_modify_iff.mp hdone
    rw [List.append_nil, marks, hrecords]
    rfl
  | failed _ _ hrecords =>
    rcases takes_ofNet_bind_iff.mp hdone with ⟨e, -, rfl, rfl, -⟩ | ⟨connection, hok, -⟩
    · rw [List.append_nil, marks, hrecords]
      rfl
    · cases hok

theorem marks_ensureConnected {result : Except Fault Unit}
    (h : Takes (ensureConnected context) value taken result last)
    (htarget : context.options.target = some target)
    (hclient : context.global.client = some client) (hclosed : openStream value.tcp = none) :
    marks taken = [("tcp_connect", !result.isOk)] := by
  replace h := takes_get_bind_iff.mp h
  rw [any_isOpen, hclosed] at h
  obtain ⟨first, rest, _, rfl, hlog, hconnect⟩ := takes_ofWork_bind_iff.mp h
  obtain rfl := Work.takes_perform_iff.mp hlog
  have hmarks := marks_connect hconnect htarget hclient
  exact hmarks

/-- An operation on a connection that there is makes one record. -/
theorem marks_operation {α : Type} {missing id : String}
    {operation : TcpConnection → Work (TcpConnection × Except NetError α)}
    {result : Except Fault α}
    (h : Takes (do
      let connection ← Hook.ofOption missing (← get).tcp
      let (connection, result) ← Hook.ofWork (operation connection)
      modify fun value => { value with tcp := some connection }
      Hook.ofNet result : Hook (UserValue S) α) value taken result last)
    (hheld : value.tcp ≠ none)
    (hrecord : ∀ {connection next : TcpConnection} {taken : List Taken}
      {outcome : Except NetError α}, (operation connection).Takes taken (next, outcome) →
        ∃ length, records taken = [⟨id, !outcome.isOk, some length⟩]) :
    marks taken = [(id, !result.isOk)] := by
  rcases takes_operation h with ⟨hnone, -⟩ | ⟨connection, next, outcome, -, hoperation, rfl, -⟩
  · exact absurd hnone hheld
  · obtain ⟨length, hrecords⟩ := hrecord hoperation
    rw [marks, hrecords, isOk_netResult]
    rfl

/-- A line that is written without a connection goes over a fresh one, if there is to be one. -/
theorem marks_writeLine {text : String} {result : Except Fault Unit}
    (h : Takes (writeLine context text) value taken result last)
    (htarget : context.options.target = some target)
    (hclient : context.global.client = some client) (hclosed : openStream value.tcp = none) :
    last.tcp = none ∧ marks taken = [("tcp_connect", true)] ∨
      last.tcp ≠ none ∧
        marks taken = [("tcp_connect", false), ("tcp_write_line", !result.isOk)] := by
  rcases takes_bind_iff.mp h with ⟨fault, hensure, rfl⟩ |
    ⟨first, rest, _, middle, rfl, hensure, hwrite⟩
  · refine .inl ⟨?_, marks_ensureConnected hensure htarget hclient hclosed⟩
    rcases takes_ensureConnected hensure with ⟨_, _, -, -, -, hresult, -⟩ |
      ⟨-, attempt, opened, -, -, hresult, rfl⟩
    · cases hresult
    · cases opened with
      | ok => cases hresult
      | error => rfl
  · have hmiddle : middle.tcp ≠ none := by
      rcases takes_ensureConnected hensure with ⟨connection, _, htcp, -, -, -, rfl⟩ |
        ⟨-, attempt, opened, -, -, hresult, rfl⟩
      · rw [htcp]
        exact Option.some_ne_none _
      · cases opened with
        | ok => exact Option.some_ne_none _
        | error => cases hresult
    refine .inr ⟨?_, ?_⟩
    · rcases takes_operation hwrite with ⟨hnone, -⟩ | ⟨_, _, _, -, -, -, rfl⟩
      · exact absurd hnone hmiddle
      · exact Option.some_ne_none _
    · rw [marks_append, marks_ensureConnected hensure htarget hclient hclosed,
        marks_operation hwrite hmiddle fun hoperation =>
          (TcpConnection.operated_of_writeLine hoperation).records]
      rfl

theorem marks_readUpTo {max : Nat} {result : Except Fault (List UInt8)}
    (h : Takes (readUpTo context max) value taken result last) (hheld : value.tcp ≠ none) :
    marks taken = [("tcp_read", !result.isOk)] :=
  marks_operation h hheld fun hoperation => (TcpConnection.operated_of_readUpTo hoperation).records

/-! ## What calls come to -/

theorem openings_release (tcp : Option TcpConnection) : openings (release tcp) = 0 := by
  rw [release]
  cases openStream tcp <;> rfl

theorem Operates.openings {limit : Duration} {stream : Stream} {act : Use} {result : act.Result}
    {left : Option Stream} (h : Operates limit stream act taken result left) :
    openings taken = 0 := by
  rw [← openings_entries]
  cases h with
  | succeeds h => rw [h.entries]; rfl
  | ends h => rw [h.entries]; rfl

/-- What becomes of a line that is written without a connection, and of the connection. -/
inductive Sent (taken : List Taken) : Except Fault Unit → Option TcpConnection → Prop where
  | refused {e : NetError} (hmarks : marks taken = [("tcp_connect", true)])
      (hopened : openings taken = 0) : Sent taken (.error (.failure (.ofNet e))) none
  | unsent {e : NetError} {tcp : Option TcpConnection} (hclosed : openStream tcp = none)
      (hmarks : marks taken = [("tcp_connect", false), ("tcp_write_line", true)])
      (hopened : openings taken = 1) : Sent taken (.error (.failure (.ofNet e))) tcp
  | sent {connection : TcpConnection} {stream : Stream} (hopen : connection.stream = some stream)
      (hmarks : marks taken = [("tcp_connect", false), ("tcp_write_line", false)])
      (hopened : openings taken = 1) : Sent taken (.ok ()) (some connection)

/-- The first thing that is done with the network is to dial an address. -/
def Dials (address : String) (taken : List Taken) : Prop :=
  ∃ reply rest, wire taken = ⟨.ask (.dial address), reply⟩ :: rest

theorem Attempt.dials {attempt : List Taken} {opened : Except Failure TcpConnection}
    (h : Attempt context attempt opened) (htarget : context.options.target = some target)
    (hclient : context.global.client = some client) :
    ∃ reply rest, attempt = ⟨.ask (.dial (Client.bareAddress target)), reply⟩ :: rest := by
  cases h with
  | opened stream hsame =>
    cases htarget.symm.trans hsame
    exact ⟨_, _, rfl⟩
  | failed hsame =>
    cases htarget.symm.trans hsame
    exact ⟨_, _, rfl⟩
  | unconfigured hnone =>
    rw [htarget, hclient] at hnone
    rcases hnone with hnone | hnone <;> cases hnone

theorem dials_of_writeLine {text : String} {result : Except Fault Unit}
    (h : Takes (writeLine context text) value taken result last)
    (htarget : context.options.target = some target)
    (hclient : context.global.client = some client) (hclosed : openStream value.tcp = none) :
    Dials (Client.bareAddress target) taken := by
  have hdoes := (takes_writeLine h).1
  generalize hwire : wire taken = done at hdoes
  generalize value.tcp = tcp at hdoes hclosed
  generalize last.tcp = left at hdoes
  cases hdoes with
  | wrote hopen => cases hopen.symm.trans hclosed
  | wroteAfresh _ hattempt =>
    obtain ⟨reply, rest, rfl⟩ := hattempt.dials htarget hclient
    exact ⟨reply, _, hwire⟩
  | notWritten _ hattempt =>
    obtain ⟨reply, rest, rfl⟩ := hattempt.dials htarget hclient
    exact ⟨reply, _, hwire⟩

theorem sent_of_takes {text : String} {result : Except Fault Unit}
    (h : Takes (writeLine context text) value taken result last)
    (htarget : context.options.target = some target)
    (hclient : context.global.client = some client) (hclosed : openStream value.tcp = none) :
    Sent taken result last.tcp := by
  have hdoes := (takes_writeLine h).1
  have hmarks := marks_writeLine h htarget hclient hclosed
  have hopenings := openings_wire taken
  generalize wire taken = done at hdoes hopenings
  generalize value.tcp = tcp at hdoes hclosed
  generalize last.tcp = left at hdoes hmarks ⊢
  cases hdoes with
  | wrote hopen => cases hopen.symm.trans hclosed
  | wroteAfresh _ hattempt hopen hoperates =>
    rcases hmarks with ⟨hnone, -⟩ | ⟨-, hmarks⟩
    · cases hnone
    rw [openings_append, hoperates.openings, Nat.add_zero] at hopenings
    cases hattempt with
    | opened stream =>
      cases hoperates with
      | succeeds hsucceeds =>
        cases hsucceeds
        exact .sent rfl hmarks hopenings.symm
      | ends hends =>
        cases hends
        exact .unsent rfl hmarks hopenings.symm
  | notWritten _ hattempt =>
    rcases hmarks with ⟨-, hmarks⟩ | ⟨hsome, -⟩
    · cases hattempt with
      | failed => exact .refused hmarks hopenings.symm
      | unconfigured hnone =>
        rw [htarget, hclient] at hnone
        rcases hnone with hnone | hnone <;> cases hnone
    · exact absurd rfl hsome

/-- What becomes of a read over an open connection, and of the connection. -/
theorem read_cases {max : Nat} {connection : TcpConnection} {stream : Stream}
    {result : Except Fault (List UInt8)}
    (h : Takes (readUpTo context max) value taken result last)
    (htcp : value.tcp = some connection) (hopen : connection.stream = some stream) :
    openings taken = 0 ∧
      ((∃ e, result = .error (.failure (.ofNet e)) ∧ openStream last.tcp = none) ∨
        ∃ reply, result = .ok reply ∧ openStream last.tcp = some stream) := by
  have hdoes := (takes_readUpTo h).1
  have hopenings := openings_wire taken
  rw [htcp] at hdoes
  generalize wire taken = done at hdoes hopenings
  generalize last.tcp = left at hdoes ⊢
  cases hdoes with
  | read hsame hoperates =>
    rw [hoperates.openings] at hopenings
    refine ⟨hopenings.symm, ?_⟩
    cases hoperates with
    | succeeds hsucceeds =>
      cases hsucceeds
      exact .inr ⟨_, rfl, hsame.symm.trans hopen⟩
    | ends hends => cases hends <;> exact .inl ⟨_, rfl, rfl⟩
  | readClosed hclosed => cases hopen.symm.trans hclosed

end Network

namespace TcpEcho

open Network Run

variable {context : UserContext RunValue} {value last : UserValue Unit} {taken : List Taken}
  {target : String} {client : Client}

/-! ## One iteration -/

/-- The ways of an iteration that begins without a connection. -/
inductive Course (taken : List Taken) : Except Fault Unit → Prop where
  | refused {e : NetError} (hmarks : marks taken = [("tcp_connect", true)])
      (hchecks : checks taken = []) (hopened : openings taken = 0) :
      Course taken (.error (.failure (.ofNet e)))
  | unsent {e : NetError}
      (hmarks : marks taken = [("tcp_connect", false), ("tcp_write_line", true)])
      (hchecks : checks taken = []) (hopened : openings taken = 1) :
      Course taken (.error (.failure (.ofNet e)))
  | unanswered {e : NetError}
      (hmarks : marks taken =
        [("tcp_connect", false), ("tcp_write_line", false), ("tcp_read", true)])
      (hchecks : checks taken = []) (hopened : openings taken = 1) :
      Course taken (.error (.failure (.ofNet e)))
  | answered {passed : Bool}
      (hmarks : marks taken =
        [("tcp_connect", false), ("tcp_write_line", false), ("tcp_read", false)])
      (hchecks : checks taken = [(checkName, passed)]) (hopened : openings taken = 1) :
      Course taken (.ok ())

/-- What an iteration does with the answer: it records one check, and closes the connection. -/
theorem takes_verdict {reply : List UInt8} {result : Except Fault Unit}
    (h : Takes (do
      let passed ← Hook.check reply checkName greets
      unless passed do
        Hook.log .debug ("Unexpected reply for " ++ context.name ++ ": " ++ replyText reply)
      close : Hook (UserValue Unit) Unit) value taken result last) :
    result = .ok () ∧ openStream last.tcp = none ∧ marks taken = [] ∧
      checks taken = [(checkName, greets reply)] ∧ openings taken = 0 := by
  have hclose {taken : List Taken} (h : Takes close value taken result last) :
      result = .ok () ∧ openStream last.tcp = none ∧ marks taken = [] ∧ checks taken = [] ∧
        openings taken = 0 := by
    obtain ⟨rfl, rfl, hwire⟩ := takes_close h
    refine ⟨rfl, rfl, marks_close h, checks_of_working ((only_close value).of_takes h), ?_⟩
    rw [← openings_wire, hwire, openings_release]
  obtain ⟨rest, rfl, hrest⟩ := takes_check_bind_iff.mp h
  generalize greets reply = passed at hrest ⊢
  cases passed with
  | true =>
    obtain ⟨hresult, hlast, hmarks, hchecks, hopened⟩ := hclose hrest
    exact ⟨hresult, hlast, hmarks, congrArg (List.cons _) hchecks, hopened⟩
  | false =>
    obtain ⟨first, later, _, rfl, hlog, hlater⟩ := takes_ofWork_bind_iff.mp hrest
    obtain rfl := Work.takes_perform_iff.mp hlog
    obtain ⟨hresult, hlast, hmarks, hchecks, hopened⟩ := hclose hlater
    exact ⟨hresult, hlast, hmarks, congrArg (List.cons _) hchecks, hopened⟩

/-- What an iteration does once its line is sent: it is not answered, or it comes to a verdict. -/
theorem answer_cases {connection : TcpConnection} {stream : Stream} {result : Except Fault Unit}
    (h : Takes (do
      let reply ← readUpTo context replyLimit
      let passed ← Hook.check reply checkName greets
      unless passed do
        Hook.log .debug ("Unexpected reply for " ++ context.name ++ ": " ++ replyText reply)
      close : Hook (UserValue Unit) Unit) value taken result last)
    (htcp : value.tcp = some connection) (hopen : connection.stream = some stream) :
    openings taken = 0 ∧ openStream last.tcp = none ∧
      ((∃ e, result = .error (.failure (.ofNet e)) ∧ marks taken = [("tcp_read", true)] ∧
          checks taken = []) ∨
        ∃ passed, result = .ok () ∧ marks taken = [("tcp_read", false)] ∧
          checks taken = [(checkName, passed)]) := by
  have hheld : value.tcp ≠ none := by
    rw [htcp]
    exact Option.some_ne_none _
  rcases Hook.takes_bind_iff.mp h with ⟨fault, hread, rfl⟩ |
    ⟨read, later, reply, between, rfl, hread, hlater⟩
  · have hchecks := checks_of_working ((only_readUpTo _ value).of_takes hread)
    obtain ⟨hopened, ⟨e, hresult, hend⟩ | ⟨reply, hresult, -⟩⟩ := read_cases hread htcp hopen
    · obtain rfl := Except.error.inj hresult
      exact ⟨hopened, hend, .inl ⟨e, rfl, marks_readUpTo hread hheld, hchecks⟩⟩
    · cases hresult
  · have hchecks := checks_of_working ((only_readUpTo _ value).of_takes hread)
    obtain ⟨hopened, -⟩ := read_cases hread htcp hopen
    obtain ⟨rfl, hend, hmarks, hchecked, hclosing⟩ := takes_verdict hlater
    refine ⟨?_, hend, .inr ⟨greets reply, rfl, ?_, ?_⟩⟩
    · rw [openings_append, hopened, hclosing]
    · rw [marks_append, marks_readUpTo hread hheld, hmarks]
      rfl
    · rw [checks_append, hchecks, hchecked, List.nil_append]

theorem course_of_takes {result : Except Fault Unit}
    (h : Takes (behaviour context) value taken result last)
    (htarget : context.options.target = some target)
    (hclient : context.global.client = some client) (hclosed : openStream value.tcp = none) :
    Course taken result ∧ Dials (Client.bareAddress target) taken ∧
      openStream last.tcp = none := by
  rcases Hook.takes_bind_iff.mp h with ⟨fault, hwrite, rfl⟩ |
    ⟨written, rest, _, middle, rfl, hwrite, hrest⟩
  · have hchecks := checks_of_working ((only_writeLine _ value).of_takes hwrite)
    have hdials := dials_of_writeLine hwrite htarget hclient hclosed
    have hsent := sent_of_takes hwrite htarget hclient hclosed
    generalize last.tcp = tcp at hsent ⊢
    cases hsent with
    | refused hmarks hopened => exact ⟨.refused hmarks hchecks hopened, hdials, rfl⟩
    | unsent hend hmarks hopened => exact ⟨.unsent hmarks hchecks hopened, hdials, hend⟩
  · have hwritten := checks_of_working ((only_writeLine _ value).of_takes hwrite)
    obtain ⟨dialled, more, hdials⟩ := dials_of_writeLine hwrite htarget hclient hclosed
    have hsent := sent_of_takes hwrite htarget hclient hclosed
    generalize htcp : middle.tcp = tcp at hsent
    cases hsent with
    | sent hopen hsent hopened =>
      have hdials : Dials (Client.bareAddress target) (written ++ rest) :=
        ⟨dialled, _, by rw [wire_append, hdials, List.cons_append]⟩
      obtain ⟨hquiet, hend, hanswer⟩ := answer_cases hrest htcp hopen
      have hopenings : openings (written ++ rest) = 1 := by rw [openings_append, hopened, hquiet]
      rcases hanswer with ⟨e, rfl, hmarks, hchecks⟩ | ⟨passed, rfl, hmarks, hchecks⟩
      · refine ⟨.unanswered ?_ ?_ hopenings, hdials, hend⟩
        · rw [marks_append, hsent, hmarks]
          rfl
        · rw [checks_append, hwritten, hchecks]
          rfl
      · have hrecorded : checks (written ++ rest) = [(checkName, passed)] := by
          rw [checks_append, hwritten, hchecks, List.nil_append]
        refine ⟨.answered ?_ hrecorded hopenings, hdials, hend⟩
        rw [marks_append, hsent, hmarks]
        rfl

/-! ## All iterations -/

/-- The operations that there are records of. -/
def operationIds : List String := ["tcp_connect", "tcp_write_line", "tcp_read"]

/-- What records and checks say, and how many connections were opened, against the iterations that
all this was done in. -/
structure Balanced (said checked : List (String × Bool)) (opened : Nat)
    (recorded : List (Option String)) : Prop where
  known : ∀ mark ∈ said, mark.1 ∈ operationIds
  iterations : recorded.length =
    checked.countP (·.1 == checkName) + recorded.countP Option.isSome
  connects : said.countP (·.1 == "tcp_connect") = recorded.length
  writes : said.countP (·.1 == "tcp_write_line") =
    said.countP fun mark => mark.1 == "tcp_connect" && !mark.2
  reads : said.countP (·.1 == "tcp_read") =
    said.countP fun mark => mark.1 == "tcp_write_line" && !mark.2
  verified : (said.countP fun mark => mark.1 == "tcp_read" && !mark.2) =
    checked.countP (·.1 == checkName)
  failures : said.countP (·.2) = recorded.countP Option.isSome
  opened : opened = said.countP fun mark => mark.1 == "tcp_connect" && !mark.2

theorem balanced_nil : Balanced [] [] 0 [] := ⟨nofun, rfl, rfl, rfl, rfl, rfl, rfl, rfl⟩

theorem Balanced.append {said said' checked checked' : List (String × Bool)} {opened opened' : Nat}
    {recorded recorded' : List (Option String)} (h : Balanced said checked opened recorded)
    (h' : Balanced said' checked' opened' recorded') :
    Balanced (said ++ said') (checked ++ checked') (opened + opened') (recorded ++ recorded') where
  known := List.forall_mem_append.mpr ⟨h.known, h'.known⟩
  iterations := by
    simp only [List.length_append, List.countP_append, h.iterations, h'.iterations]
    omega
  connects := by rw [List.countP_append, List.length_append, h.connects, h'.connects]
  writes := by rw [List.countP_append, List.countP_append, h.writes, h'.writes]
  reads := by rw [List.countP_append, List.countP_append, h.reads, h'.reads]
  verified := by rw [List.countP_append, List.countP_append, h.verified, h'.verified]
  failures := by rw [List.countP_append, List.countP_append, h.failures, h'.failures]
  opened := by rw [List.countP_append, ← h.opened, ← h'.opened]

/-- Whether the counts of one call are balanced. -/
def Balances (visit : Visit RunValue (UserValue Unit)) : Prop :=
  Balanced (marks visit.taken) (checks visit.taken) (openings visit.taken) visit.recorded?.toList

theorem Course.balances {visit : Visit RunValue (UserValue Unit)} {result : Except Fault Unit}
    {next : UserValue Unit} (h : Course visit.taken result) (hhook : visit.hook = .behaviour)
    (hending : visit.ending = some (result, next)) : Balances visit := by
  obtain ⟨hook, context, value, taken, ending⟩ := visit
  subst hhook hending
  unfold Balances
  cases h with
  | refused hmarks hchecks hopened | unsent hmarks hchecks hopened
  | unanswered hmarks hchecks hopened | answered hmarks hchecks hopened =>
    rw [hmarks, hchecks, hopened]
    exact ⟨by decide, rfl, rfl, rfl, rfl, rfl, rfl, rfl⟩

/-- A hook that begins without a connection is balanced, and ends without one. -/
theorem balances_of_made {options : Options} {visit : Visit RunValue (UserValue Unit)}
    {result : Except Fault Unit} {next : UserValue Unit}
    (hmade : visit.Made scenario options fun value => value.client.isSome = true)
    (htarget : options.target = some target) (hclosed : openStream visit.value.tcp = none)
    (hending : visit.ending = some (result, next)) :
    Balances visit ∧ openStream next.tcp = none := by
  obtain ⟨client, hclient⟩ := Option.isSome_iff_exists.mp hmade.global
  rw [← hmade.options] at htarget
  obtain ⟨body, hbody, htakes⟩ := hmade.takes hending
  cases hhook : visit.hook with
  | setup =>
    rw [hhook] at hbody
    cases hbody
  | behaviour =>
    rw [hhook] at hbody
    obtain rfl := Option.some.inj hbody
    obtain ⟨hcourse, -, hend⟩ := course_of_takes htakes htarget hclient hclosed
    exact ⟨hcourse.balances hhook hending, hend⟩
  | teardown =>
    rw [hhook] at hbody
    obtain rfl := Option.some.inj hbody
    obtain ⟨rfl, rfl, hwire⟩ := takes_close htakes
    refine ⟨?_, rfl⟩
    have hrecorded : visit.recorded? = none := by
      rw [Visit.recorded?, Visit.outcome?, hhook]
      rfl
    rw [Balances, marks_close htakes, checks_of_working ((only_close visit.value).of_takes htakes),
      ← openings_wire, hwire, openings_release, hrecorded]
    exact balanced_nil

theorem balanced_flatMap {calls : List (Visit RunValue (UserValue Unit))}
    (h : ∀ visit ∈ calls, Balances visit) :
    Balanced (marks (calls.flatMap (·.taken))) (checks (calls.flatMap (·.taken)))
      (openings (calls.flatMap (·.taken))) (calls.filterMap Visit.recorded?) := by
  induction calls with
  | nil => exact balanced_nil
  | cons visit calls ih =>
    obtain ⟨hvisit, hrest⟩ := List.forall_mem_cons.mp h
    have hrecorded : (visit :: calls).filterMap Visit.recorded? =
        visit.recorded?.toList ++ calls.filterMap Visit.recorded? := by
      cases hvisit : visit.recorded? <;> simp [hvisit]
    rw [List.flatMap_cons, marks_append, checks_append, openings_append, hrecorded]
    exact hvisit.append (ih hrest)

/-! ## Between iterations -/

/-- A call of the behaviour that begins without a connection has not come to the network yet, or
it has dialled the target first. -/
theorem dials_of_made {options : Options} {visit : Visit RunValue (UserValue Unit)}
    (hmade : visit.Made scenario options fun value => value.client.isSome = true)
    (htarget : options.target = some target) (hclosed : openStream visit.value.tcp = none)
    (hhook : visit.hook = .behaviour) :
    wire visit.taken = [] ∧ visit.ending = none ∨
      Dials (Client.bareAddress target) visit.taken := by
  obtain ⟨client, hclient⟩ := Option.isSome_iff_exists.mp hmade.global
  rw [← hmade.options] at htarget
  cases hending : visit.ending with
  | some ended =>
    obtain ⟨result, next⟩ := ended
    obtain ⟨body, hbody, htakes⟩ := hmade.takes hending
    rw [hhook] at hbody
    obtain rfl := Option.some.inj hbody
    exact .inr (course_of_takes htakes htarget hclient hclosed).2.1
  | none =>
    -- however it goes on from here, it will have dialled first
    obtain ⟨rest, body, hbody, hleaves⟩ := hmade.leaves
    obtain ⟨more, ⟨result, next⟩, hmore⟩ := Work.exists_takes rest
    rw [hhook] at hbody
    obtain rfl := Option.some.inj hbody
    obtain ⟨reply, later, hdials⟩ :=
      (course_of_takes (hleaves.takes hmore) htarget hclient hclosed).2.1
    rw [wire_append] at hdials
    cases hwire : wire visit.taken with
    | nil => exact .inl ⟨rfl, rfl⟩
    | cons first done =>
      rw [hwire, List.cons_append] at hdials
      obtain ⟨rfl, -⟩ := List.cons.inj hdials
      exact .inr ⟨reply, done, hwire⟩

/-- Closing is over at once where nothing is open. -/
theorem run_close (hclosed : openStream value.tcp = none) :
    (close : Hook (UserValue Unit) Unit).run.run value =
      .done (.ok (), { value with tcp := none }) := by
  obtain ⟨tcp, own⟩ := value
  cases tcp with
  | none => rfl
  | some connection =>
    obtain ⟨address, stream⟩ := connection
    obtain rfl : stream = none := hclosed
    rfl

/-- Outside of the behaviour a user holds nothing. -/
theorem eq_none_of_holds {options : Options} {good : RunValue → Prop}
    {user : User (UserValue Unit)} {notes : List Entry} {took : List Taken}
    {visits : List (Visit RunValue (UserValue Unit))} {held : Option Token}
    (hrecounted : Recounted scenario options good user notes took visits)
    (hclosed : openStream user.value.tcp = none) (houtside : ∀ work, user.point ≠ .behaviour work)
    (hholds : user.Holds held) : held = none := by
  have hstands := hrecounted.stands
  unfold User.Holds at hholds
  unfold Stands at hstands
  cases hpoint : user.point with
  | setup work =>
    rw [hpoint] at hstands
    obtain ⟨_, _, _, _, _, _, _, body, hbody, _⟩ := hstands
    cases hbody
  | behaviour work => exact absurd hpoint (houtside work)
  | teardown work =>
    rw [hpoint] at hstands hholds
    obtain ⟨_, _, _, _, _, _, _, body, hbody, hleaves⟩ := hstands
    obtain rfl := Option.some.inj hbody
    dsimp only at hleaves
    rw [run_close hclosed] at hleaves
    cases hleaves
    exact hholds.of_done.eq_none rfl
  | _ =>
    rw [hpoint] at hholds
    exact hholds.eq_none hclosed

/-! ## A run -/

/-- No hook leaks a connection. -/
theorem leaks_nothing (hook : UserHook) (body : UserContext RunValue → Hook (UserValue Unit) Unit)
    (hbody : hook.ofScenario scenario = some body) (context : UserContext RunValue) :
    Hook.Only (· ≠ .connect true) (body context) := by
  have hclose : Hook.Only (· ≠ .connect true) (close : Hook (UserValue Unit) Unit) :=
    only_close.imp fun _ => Action.Working.ne_leak
  cases hook with
  | setup => cases hbody
  | behaviour =>
    obtain rfl := Option.some.inj hbody
    refine only_bind ((only_writeLine _).imp fun _ => Action.Working.ne_leak) fun _ =>
      only_bind ((only_readUpTo _).imp fun _ => Action.Working.ne_leak) fun reply =>
        only_bind (only_bind (only_perform nofun) fun _ => only_pure _) fun passed => ?_
    cases passed with
    | true => exact hclose
    | false => exact only_bind (only_perform nofun) fun _ => hclose
  | teardown =>
    obtain rfl := Option.some.inj hbody
    exact hclose

/-- What a summary and the records of operations have to do with each other. -/
structure AddsUp (operations : List Operation) (summary : Summary) : Prop where
  known : ∀ operation ∈ operations, operation.id ∈ operationIds
  iterations : summary.iterations = (summary.countsOf checkName).total + summary.totalFailed
  connects : tried "tcp_connect" operations = summary.iterations
  writes : tried "tcp_write_line" operations = succeeded "tcp_connect" operations
  reads : tried "tcp_read" operations = succeeded "tcp_write_line" operations
  verified : succeeded "tcp_read" operations = (summary.countsOf checkName).total
  failures : operations.countP (·.failed) = summary.totalFailed

theorem Balanced.addsUp {state : State RunValue (UserValue Unit)} {summary : Summary}
    {calls : List (Visit RunValue (UserValue Unit))}
    (h : Balanced (marks (calls.flatMap (·.taken))) (checks (calls.flatMap (·.taken)))
      (openings (calls.flatMap (·.taken))) (calls.filterMap Visit.recorded?))
    (htotals : state.Totals calls summary) : AddsUp state.operations summary := by
  have htried (id : String) : tried id state.operations =
      (marks (calls.flatMap (·.taken))).countP (·.1 == id) := by
    rw [← tried_records]
    exact htotals.operations.countP_eq _
  have hsucceeded (id : String) : succeeded id state.operations =
      (marks (calls.flatMap (·.taken))).countP fun mark => mark.1 == id && !mark.2 := by
    rw [← succeeded_records]
    exact htotals.operations.countP_eq _
  have hverdicts : (summary.countsOf checkName).total =
      (checks (calls.flatMap (·.taken))).countP (·.1 == checkName) := by
    rw [Summary.countsOf, htotals.checks, getD_get?_summarize, Visit.total_countsOf_results]
  constructor
  case known =>
    intro operation hmem
    exact h.known operation.mark (List.mem_map_of_mem (htotals.operations.mem_iff.mp hmem))
  case iterations => rw [htotals.iterations, htotals.failed, hverdicts, h.iterations]
  case connects => rw [htried, h.connects, htotals.iterations]
  case writes => rw [htried, hsucceeded, h.writes]
  case reads => rw [htried, hsucceeded, h.reads]
  case verified => rw [hsucceeded, hverdicts, h.verified]
  case failures =>
    rw [htotals.failed, ← h.failures, ← countP_failed_records]
    exact htotals.operations.countP_eq _

/-- The echo scenario adds up.  Between two iterations no virtual user holds a connection, so each
iteration dials first.  Every collector has all records of operations, and when the run is finished
they fit what its summary counts.  The hooks leave no work behind that opens connections of its
own, and in a run with no such work the connections that were dialled are all there are, and all
are closed. -/
theorem tcp_echo_adds_up (options : Options) (startedAt : Int) (moves : List Move)
    (htarget : options.target = some target) {state : State RunValue (UserValue Unit)}
    (hstate : (State.start scenario options startedAt).after moves = state) :
    (∀ id user, state.users[id]? = some user → (∀ work, user.point ≠ .behaviour work) →
      openStream user.value.tcp = none ∧
        ∀ token ∈ state.shared.ledger.live, token.owner ≠ .user id) ∧
    (∃ visits, state.Visited scenario options (fun value => value.client.isSome = true)
        (fun id => (State.start scenario options startedAt).took id moves) visits ∧
      ∀ visit ∈ state.allVisits visits, visit.hook = .behaviour →
        openStream visit.value.tcp = none ∧
          (wire visit.taken = [] ∧ visit.ending = none ∨
            Dials (Client.bareAddress target) visit.taken)) ∧
    state.shared.reporter.Holds state.operations ∧
    ∀ summary, state.conclusion? = some (.finished summary) →
      AddsUp state.operations summary ∧
        ((∀ move ∈ moves, move.isBackground = false) →
          summary.connectionsOpened = succeeded "tcp_connect" state.operations ∧
            summary.connectionsClosed = summary.connectionsOpened) := by
  have hprovides : Provides scenario options Action.Asks fun value =>
      value.client.isSome = true := provides_client rfl rfl options
  obtain ⟨visits, hvisited⟩ := State.exists_visits scenario options startedAt _
    (State.equipped_after hprovides startedAt) moves
  have hholding := State.holding_after Network.TcpEcho.madeOfCalls options startedAt moves
  have hoperations := State.holds_operations_after scenario options startedAt moves
  rw [hstate] at hvisited hholding hoperations
  obtain ⟨hclosed, hbegun⟩ := hvisited.keep (P := fun value => openStream value.tcp = none) rfl
    fun visit hmade result next hending hvalue =>
      (balances_of_made hmade htarget hvalue hending).2
  refine ⟨?between, ⟨visits, hvisited, ?begin⟩, hoperations, ?total⟩
  case between =>
    intro id user huser houtside
    obtain ⟨held, hholds, howned⟩ := hholding id user huser
    obtain rfl := eq_none_of_holds (hvisited.present id user huser).2 (hclosed id user huser)
      houtside hholds
    exact ⟨hclosed id user huser, fun token hmem howner => nomatch howned token hmem howner⟩
  case begin =>
    intro visit hmem hhook
    obtain ⟨hmade, hvalue⟩ := hbegun visit hmem
    exact ⟨hvalue, dials_of_made hmade htarget hvalue hhook⟩
  case total =>
    intro summary hfinished
    have hended := hvisited.ended (State.allOver_of_finished hstate hfinished)
    have htotals := State.totals_of_finished hprovides hstate hfinished hvisited
    have hbalanced := balanced_flatMap fun visit hmem => by
      obtain ⟨hmade, result, next, hending⟩ := hended visit hmem
      exact (balances_of_made hmade htarget (hbegun visit hmem).2 hending).1
    refine ⟨hbalanced.addsUp htotals, fun hquiet => ?_⟩
    obtain ⟨hopened, hclosings⟩ := State.connections_of_finished hprovides leaks_nothing hquiet
      hstate hfinished hvisited
    refine ⟨?_, hclosings⟩
    rw [hopened, hbalanced.opened, ← succeeded_records]
    exact (htotals.operations.countP_eq _).symm

open Net.TcpConnection (silentPeer)

/-- A peer that answers with the greeting alone. -/
def greetingPeer : Outside :=
  { silentPeer with
    reply := fun
      | .receive _ max =>
        if h : 5 ≤ max then .ok ⟨[72, 101, 108, 108, 111], h⟩ else .ok ⟨[], Nat.zero_le max⟩
      | request => silentPeer.reply request }

/-- One user is greeted, and another one is not answered. -/
def twoVisitors : List Move :=
  .replicate 9 (.control silentPeer) ++ .replicate 27 (.user 0 greetingPeer) ++
    .replicate 27 (.user 1 silentPeer) ++ .replicate 5 (.control silentPeer)

theorem tcp_echo_adds_up_sample :
    ∃ (state : State RunValue (UserValue Unit)) (summary : Summary),
      (State.start scenario
          { Sample.options 2 none with target := some "127.0.0.1:8080" } 0).after twoVisitors =
        state ∧
      state.conclusion? = some (.finished summary) ∧
      (summary.iterations = 2 ∧ summary.totalFailed = 1 ∧ summary.countsOf checkName = ⟨1, 0⟩) ∧
      AddsUp state.operations summary ∧
      summary.connectionsOpened = succeeded "tcp_connect" state.operations ∧
      summary.connectionsClosed = summary.connectionsOpened := by
  have hcounts : ((((State.start scenario
        { Sample.options 2 none with target := some "127.0.0.1:8080" } 0).after
      twoVisitors).conclusion?.bind Conclusion.summary?).map fun summary =>
        (summary.iterations, summary.totalFailed, summary.countsOf checkName)) = some (2, 1, ⟨1, 0⟩) := by
    decide +kernel
  obtain ⟨summary, hsummary, hcounts⟩ := Option.map_eq_some_iff.mp hcounts
  obtain ⟨conclusion, hconclusion, hfinished⟩ := Option.bind_eq_some_iff.mp hsummary
  obtain rfl := Conclusion.summary?_eq_some_iff.mp hfinished
  obtain ⟨-, -, -, hadds⟩ :=
    tcp_echo_adds_up { Sample.options 2 none with target := some "127.0.0.1:8080" } 0 twoVisitors
      rfl rfl
  obtain ⟨hadds, hconnections⟩ := hadds summary hconclusion
  simp only [Prod.mk.injEq] at hcounts
  exact ⟨_, summary, rfl, hconclusion, hcounts, hadds, hconnections (by decide)⟩

end TcpEcho

end LoadHarness
