import LoadHarness.Net.Client
import LoadHarness.Proofs.Net.Tcp
import LoadHarness.Proofs.Run.Moments

/-! One request over HTTPS, on every path it can take.

A request stops at the first stage that fails.  Each way in which it can go has a case, with
all that is asked of the network and of the books on the way (`Fetched`).  What follows about
records, failures and connections goes through these cases, and so holds whatever is replied
at each stage (`https_get_on_every_path`). -/

namespace LoadHarness.Net

open Work

/-! ## The handshake -/

namespace Connector

variable {connector : Connector} {limit : Duration} {host : String} {socket : Socket}
  {calls : List Tls.Call} {taken : List Taken}

/-- A call to the TLS library that is not refused. -/
def agreed (call : Tls.Call) : Taken := ⟨.ask (.tls call), (.ok () : Except String Unit)⟩

/-- A call that the TLS library refuses. -/
def refused (call : Tls.Call) (text : String) : Taken :=
  ⟨.ask (.tls call), (.error text : Except String Unit)⟩

/-- The calls for one handshake. -/
def handshakeCalls (connector : Connector) (host : String) : List Tls.Call :=
  [.configure, .intoSsl host connector.verifyHostname, .stream]

/-- What can become of calls: all are made, or one is refused and is the last. -/
inductive Prepared (calls : List Tls.Call) : List Taken → Except NetError Unit → Prop where
  | ready : Prepared calls (calls.map agreed) (.ok ())
  | refused {front back : List Tls.Call} {call : Tls.Call} {text : String}
      (hcalls : calls = front ++ call :: back) :
      Prepared calls (front.map agreed ++ [refused call text]) (.error (.tlsNegotiation text))

theorem prepared_of_takes {result : Except NetError Unit} (h : (prepare calls).Takes taken result) :
    Prepared calls taken result := by
  induction calls generalizing taken with
  | nil =>
    obtain ⟨rfl, rfl⟩ := takes_pure_iff.mp h
    exact .ready
  | cons call calls ih =>
    obtain ⟨answer, rest, rfl, hrest⟩ := takes_perform_bind_iff.mp h
    cases answer with
    | error text =>
      obtain ⟨rfl, rfl⟩ := takes_pure_iff.mp hrest
      exact .refused (List.nil_append _).symm
    | ok =>
      cases ih hrest with
      | ready => exact .ready
      | refused hcalls =>
        rename_i front back last text
        have hall : call :: calls = (call :: front) ++ last :: back :=
          congrArg (List.cons call) hcalls
        exact .refused hall

/-- What can become of a handshake. -/
inductive Shaken (connector : Connector) (limit : Duration) (host : String) (socket : Socket) :
    List Taken → Except NetError Tls.Negotiated → Prop where
  | unprepared {asked : List Taken} {e : NetError}
      (hprepared : Prepared (connector.handshakeCalls host) asked (.error e)) :
      Shaken connector limit host socket asked (.error e)
  | settled (reply : Handshake) :
      Shaken connector limit host socket
        ((connector.handshakeCalls host).map agreed ++ [⟨.ask (.handshake socket), reply⟩])
        (settle limit reply)

theorem shaken_of_takes {result : Except NetError Tls.Negotiated}
    (h : (connector.handshake limit host socket).Takes taken result) :
    Shaken connector limit host socket taken result := by
  obtain ⟨asked, rest, prepared, rfl, hasked, hrest⟩ := takes_bind_iff.mp h
  replace hasked := prepared_of_takes hasked
  cases prepared with
  | error e =>
    obtain ⟨rfl, rfl⟩ := takes_pure_iff.mp hrest
    rw [List.append_nil]
    exact .unprepared hasked
  | ok =>
    obtain ⟨reply, done, rfl, hdone⟩ := takes_perform_bind_iff.mp hrest
    obtain ⟨rfl, rfl⟩ := takes_pure_iff.mp hdone
    cases hasked with
    | ready => exact .settled reply

theorem wire_agreed (calls : List Tls.Call) : wire (calls.map agreed) = calls.map agreed := by
  rw [wire, List.filter_eq_self]
  intro taken hmem
  obtain ⟨call, -, rfl⟩ := List.mem_map.mp hmem
  rfl

/-- All that a handshake does is asked of the network. -/
theorem Shaken.wire_eq {result : Except NetError Tls.Negotiated}
    (h : Shaken connector limit host socket taken result) : wire taken = taken := by
  cases h with
  | settled => rw [wire_append, wire_agreed, wire_singleton rfl]
  | unprepared hprepared =>
    cases hprepared with
    | refused => rw [wire_append, wire_agreed, wire_singleton rfl]

/-- The failures of a handshake, by the way in which it ended. -/
theorem Shaken.class_mem {e : NetError}
    (h : Shaken connector limit host socket taken (.error e)) :
    e.class ∈ [NetClass.tlsNegotiation, .io, .timeout] := by
  generalize hresult : Except.error e = result at h
  cases h with
  | unprepared hprepared =>
    cases hresult
    cases hprepared
    simp [NetError.class]
  | settled reply => cases reply <;> cases hresult <;> simp [NetError.class]

end Connector

/-! ## The exchange -/

namespace HttpsResponse

/-- What is said of a body that cannot be read. -/
def bodyError (text : String) : NetError := .http ("failed to read response body: " ++ text)

/-- How an exchange can go once the handshake has settled on something. -/
inductive Exchanged (limit : Duration) (tls : Tls.Negotiated) (request : HttpRequest)
    (socket : Socket) : List Taken → Except NetError HttpsResponse → Prop where
  | notStarted {text : String} :
      Exchanged limit tls request socket
        [⟨.ask (.startExchange socket), (.error text : Except String Unit)⟩]
        (.error (exchangeError text))
  | noHead {reply : Outcome String HttpHead} {e : NetError}
      (hreply : reply.within "read_head" limit exchangeError = .error e) :
      Exchanged limit tls request socket
        [⟨.ask (.startExchange socket), (.ok () : Except String Unit)⟩,
          ⟨.ask (.head socket request), reply⟩]
        (.error e)
  | noBody {head : HttpHead} {reply : Outcome String (List UInt8)} {e : NetError}
      (hreply : reply.within "read_body" limit bodyError = .error e) :
      Exchanged limit tls request socket
        [⟨.ask (.startExchange socket), (.ok () : Except String Unit)⟩,
          ⟨.ask (.head socket request), (.ok head : Outcome String HttpHead)⟩,
          ⟨.ask (.body socket), reply⟩]
        (.error e)
  | tooLong {head : HttpHead} {body : List UInt8} (hlong : maxBody < body.length) :
      Exchanged limit tls request socket
        [⟨.ask (.startExchange socket), (.ok () : Except String Unit)⟩,
          ⟨.ask (.head socket request), (.ok head : Outcome String HttpHead)⟩,
          ⟨.ask (.body socket), (.ok body : Outcome String (List UInt8))⟩]
        (.error (bodyError "length limit exceeded"))
  /-- Whatever becomes of the end of the session, the response stands. -/
  | answered {head : HttpHead} {body : List UInt8} (hfits : body.length ≤ maxBody)
      (ended : Outcome String Unit) :
      Exchanged limit tls request socket
        [⟨.ask (.startExchange socket), (.ok () : Except String Unit)⟩,
          ⟨.ask (.head socket request), (.ok head : Outcome String HttpHead)⟩,
          ⟨.ask (.body socket), (.ok body : Outcome String (List UInt8))⟩,
          ⟨.ask (.finish socket), ended⟩]
        (.ok ⟨head.status, tls, head.headers, body⟩)

variable {connector : Connector} {limit : Duration} {target : HttpsTarget} {socket : Socket}
  {tls : Tls.Negotiated} {request : HttpRequest} {taken : List Taken}
  {result : Except NetError HttpsResponse}

/-- What is asked once the exchange has started. -/
theorem exchanged_of_takes
    (h : (do
      let result ← exchange limit tls request socket
      if result.isOk then
        let _ ← Work.ask (.finish socket)
      return result : Work (Except NetError HttpsResponse)).Takes taken result) :
    Exchanged limit tls request socket
      (⟨.ask (.startExchange socket), (.ok () : Except String Unit)⟩ :: taken) result := by
  obtain ⟨asked, later, outcome, rfl, hasked, hlater⟩ := takes_bind_iff.mp h
  obtain ⟨headed, more, rfl, hmore⟩ := takes_perform_bind_iff.mp hasked
  cases hhead : (show Outcome String HttpHead from headed).within "read_head" limit
      exchangeError with
  | error e =>
    rw [hhead] at hmore
    obtain ⟨rfl, rfl⟩ := takes_pure_iff.mp hmore
    obtain ⟨rfl, rfl⟩ := takes_pure_iff.mp hlater
    exact .noHead hhead
  | ok head =>
    rw [hhead] at hmore
    obtain rfl := Outcome.within_eq_ok_iff.mp hhead
    dsimp only at hmore
    obtain ⟨read, last, rfl, hlast⟩ := takes_perform_bind_iff.mp hmore
    have hfold : (fun text => NetError.http ("failed to read response body: " ++ text)) =
        bodyError := rfl
    rw [hfold] at hlast
    cases hbody : (show Outcome String (List UInt8) from read).within "read_body" limit
        bodyError with
    | error e =>
      rw [hbody] at hlast
      obtain ⟨rfl, rfl⟩ := takes_pure_iff.mp hlast
      obtain ⟨rfl, rfl⟩ := takes_pure_iff.mp hlater
      exact .noBody hbody
    | ok body =>
      rw [hbody] at hlast
      obtain rfl := Outcome.within_eq_ok_iff.mp hbody
      by_cases hlong : maxBody < body.length
      · simp only [hlong, if_true] at hlast
        obtain ⟨rfl, rfl⟩ := takes_pure_iff.mp hlast
        obtain ⟨rfl, rfl⟩ := takes_pure_iff.mp hlater
        exact .tooLong hlong
      · simp only [hlong, if_false] at hlast
        obtain ⟨rfl, rfl⟩ := takes_pure_iff.mp hlast
        obtain ⟨ended, done, rfl, hdone⟩ := takes_perform_bind_iff.mp hlater
        obtain ⟨rfl, rfl⟩ := takes_pure_iff.mp hdone
        exact .answered (Nat.le_of_not_lt hlong) ended

/-- How all stages over an open socket can go. -/
inductive Conversed (connector : Connector) (limit : Duration) (target : HttpsTarget)
    (socket : Socket) : List Taken → Except NetError HttpsResponse → Prop where
  | notShaken {asked : List Taken} {e : NetError}
      (hshaken : Connector.Shaken connector limit target.bareHost socket asked (.error e)) :
      Conversed connector limit target socket asked (.error e)
  | exchanged {shaken asked : List Taken} {tls : Tls.Negotiated}
      {result : Except NetError HttpsResponse}
      (hshaken : Connector.Shaken connector limit target.bareHost socket shaken (.ok tls))
      (hexchanged : Exchanged limit tls target.request socket asked result) :
      Conversed connector limit target socket (shaken ++ asked) result

theorem Exchanged.wire_eq (h : Exchanged limit tls request socket taken result) :
    wire taken = taken := by
  cases h <;> rfl

theorem conversed_of_takes (h : (converse connector limit target socket).Takes taken result) :
    Conversed connector limit target socket (wire taken) result := by
  obtain ⟨shaken, rest, settled, rfl, hshaken, hrest⟩ := takes_bind_iff.mp h
  replace hshaken := Connector.shaken_of_takes hshaken
  rw [wire_append, hshaken.wire_eq]
  cases settled with
  | error e =>
    obtain ⟨rfl, rfl⟩ := takes_pure_iff.mp hrest
    rw [wire_nil, List.append_nil]
    exact .notShaken hshaken
  | ok tls =>
    obtain ⟨_, asked, rfl, hasked⟩ := takes_perform_bind_iff.mp hrest
    obtain ⟨started, rest, rfl, hstarted⟩ := takes_perform_bind_iff.mp hasked
    cases started with
    | error text =>
      obtain ⟨rfl, rfl⟩ := takes_pure_iff.mp hstarted
      exact .exchanged hshaken .notStarted
    | ok =>
      replace hstarted := exchanged_of_takes hstarted
      change Conversed connector limit target socket
        (shaken ++ wire (⟨.ask (.startExchange socket), _⟩ :: rest)) result
      rw [hstarted.wire_eq]
      exact .exchanged hshaken hstarted

/-- How a request can go, with all that is asked of the network and of the books. -/
inductive Fetched (connector : Connector) (limit : Duration) (text : String) :
    List Taken → Except NetError HttpsResponse → Prop where
  /-- What cannot be requested touches nothing. -/
  | refused {e : NetError} (htext : HttpsTarget.ofText text = .error e) :
      Fetched connector limit text [] (.error e)
  | notConnected {target : HttpsTarget} {reply : Outcome IoFault Socket} {e : NetError}
      (htext : HttpsTarget.ofText text = .ok target)
      (hreply : reply.within "connect" limit (.connect target.address) = .error e) :
      Fetched connector limit text [⟨.ask (.dial target.address), reply⟩] (.error e)
  /-- Whatever comes of an open socket, its connection is released. -/
  | conversed {target : HttpsTarget} {socket : Socket} {token : Token} {asked : List Taken}
      {result : Except NetError HttpsResponse} (htext : HttpsTarget.ofText text = .ok target)
      (hconversed : Conversed connector limit target socket asked result) :
      Fetched connector limit text
        (⟨.ask (.dial target.address), (.ok socket : Outcome IoFault Socket)⟩ ::
          ⟨.connect false, token⟩ :: asked ++ [⟨.disconnect token, ()⟩])
        result

theorem fetched_of_takes {text : String} (h : (fetch connector limit text).Takes taken result) :
    Fetched connector limit text (wire taken) result := by
  unfold fetch at h
  cases htext : HttpsTarget.ofText text with
  | error e =>
    rw [htext] at h
    obtain ⟨rfl, rfl⟩ := takes_pure_iff.mp h
    exact .refused htext
  | ok target =>
    rw [htext] at h
    obtain ⟨reply, rest, rfl, hrest⟩ := takes_perform_bind_iff.mp h
    cases hreply : (show Outcome IoFault Socket from reply).within "connect" limit
        (.connect target.address) with
    | error e =>
      rw [hreply] at hrest
      obtain ⟨rfl, rfl⟩ := takes_pure_iff.mp hrest
      exact .notConnected htext hreply
    | ok socket =>
      rw [hreply] at hrest
      obtain rfl := Outcome.within_eq_ok_iff.mp hreply
      obtain ⟨token, later, rfl, hlater⟩ := takes_perform_bind_iff.mp hrest
      obtain ⟨asked, last, outcome, rfl, hasked, hlast⟩ := takes_bind_iff.mp hlater
      obtain ⟨_, done, rfl, hdone⟩ := takes_perform_bind_iff.mp hlast
      obtain ⟨rfl, rfl⟩ := takes_pure_iff.mp hdone
      change Fetched connector limit text (_ :: _ :: wire (asked ++ [_])) result
      rw [wire_append]
      exact .conversed htext (conversed_of_takes hasked)

/-! ## What a request does at all -/

/-- An action by which a request is made: it asks the network, enters a connection that is its own
or writes to the log. -/
def Traffic : Action → Prop
  | .log .. | .ask _ | .connect false | .disconnect _ => True
  | _ => False

theorem only_prepare (calls : List Tls.Call) : (Connector.prepare calls).Only Traffic := by
  induction calls with
  | nil => exact only_pure _
  | cons call calls ih =>
    refine .bind (only_perform trivial) fun answer => ?_
    cases answer with
    | error => exact only_pure _
    | ok => exact ih

theorem only_handshake {host : String} :
    (connector.handshake limit host socket).Only Traffic := by
  refine .bind (only_prepare _) fun prepared => ?_
  cases prepared with
  | error => exact only_pure _
  | ok => exact .bind (only_perform trivial) fun _ => only_pure _

theorem only_exchange : (exchange limit tls request socket).Only Traffic := by
  refine .bind (only_perform trivial) fun head => ?_
  split
  · exact only_pure _
  · refine .bind (only_perform trivial) fun body => ?_
    split
    · exact only_pure _
    · split <;> exact only_pure _

theorem only_converse : (converse connector limit target socket).Only Traffic := by
  refine .bind only_handshake fun settled => ?_
  cases settled with
  | error => exact only_pure _
  | ok tls =>
    refine .bind (only_perform trivial) fun _ => .bind (only_perform trivial) fun started => ?_
    cases started with
    | error => exact only_pure _
    | ok =>
      refine .bind only_exchange fun result => ?_
      cases result.isOk with
      | true => exact .bind (only_perform trivial) fun _ => only_pure _
      | false => exact only_pure _

theorem only_fetch (text : String) : (fetch connector limit text).Only Traffic := by
  unfold fetch
  cases HttpsTarget.ofText text with
  | error => exact only_pure _
  | ok target =>
    refine .bind (only_perform trivial) fun dialled => ?_
    split
    · exact only_pure _
    · exact .bind (only_perform trivial) fun _ => .bind only_converse fun _ =>
        .bind (only_perform trivial) fun _ => only_pure _

/-! ## Failures, by how far a request came -/

end HttpsResponse

/-- How far a request came. -/
inductive FetchStage where
  /-- Nothing was asked of the network: the URL cannot be requested. -/
  | text
  | connect
  | handshake
  | exchange
deriving DecidableEq, Repr

/-- The classes of the failures with which a request can end at a stage. -/
def FetchStage.classes : FetchStage → List NetClass
  | text => [.http]
  | connect => [.connect, .timeout]
  | handshake => [.tlsNegotiation, .io, .timeout]
  | exchange => [.http, .timeout]

/-- The stage at which an action stands. -/
def fetchStage? (taken : Taken) : Option FetchStage :=
  match taken.action with
  | .ask (.dial _) => some .connect
  | .ask (.tls _) | .ask (.handshake _) => some .handshake
  | .ask (.startExchange _) | .ask (.head ..) | .ask (.body _) | .ask (.finish _) => some .exchange
  | _ => none

/-- The stage of the last request that was made of the network. -/
def reached (taken : List Taken) : FetchStage := (taken.filterMap fetchStage?).getLastD .text

theorem reached_of_getLast? {taken : List Taken} {stage : FetchStage}
    (h : taken.getLast?.bind fetchStage? = some stage) : reached taken = stage := by
  obtain ⟨last, hlast, hstage⟩ := Option.bind_eq_some_iff.mp h
  obtain ⟨front, rfl⟩ := List.getLast?_eq_some_iff.mp hlast
  rw [reached, List.filterMap_append, List.filterMap_cons_some hstage]
  exact List.getLastD_concat ..

theorem reached_of_no_stage {taken rest : List Taken} (h : ∀ last ∈ rest, fetchStage? last = none) :
    reached (taken ++ rest) = reached taken := by
  rw [reached, List.filterMap_append, List.filterMap_eq_nil_iff.mpr h, List.append_nil, reached]

theorem Connector.Shaken.reached {connector : Connector} {limit : Duration} {host : String}
    {socket : Socket} {asked : List Taken} {result : Except NetError Tls.Negotiated}
    (h : Shaken connector limit host socket asked result) (taken : List Taken) :
    reached (taken ++ asked) = .handshake := by
  cases h with
  | settled => exact reached_of_getLast? (by simp [fetchStage?])
  | unprepared hprepared =>
    cases hprepared
    exact reached_of_getLast? (by simp [fetchStage?, refused])

theorem Outcome.class_of_within {ε α : Type} {operation : String} {limit : Duration}
    {fault : ε → NetError} {reply : Outcome ε α} {e : NetError}
    (h : reply.within operation limit fault = .error e) :
    e.class = .timeout ∨ ∃ cause, e = fault cause := by
  cases reply with
  | ok => cases h
  | failed cause =>
    cases h
    exact .inr ⟨cause, rfl⟩
  | timedOut =>
    cases h
    exact .inl rfl

theorem HttpsTarget.class_of_ofText {text : String} {e : NetError} (h : ofText text = .error e) :
    e.class = .http := by
  unfold ofText at h
  split at h
  · cases h
    rfl
  · split at h
    · cases h
      rfl
    · split at h
      · cases h
        rfl
      · dsimp only at h
        split at h
        · cases h
          rfl
        · cases h

namespace HttpsResponse

variable {connector : Connector} {limit : Duration} {target : HttpsTarget} {socket : Socket}
  {tls : Tls.Negotiated} {request : HttpRequest} {text : String} {taken : List Taken}
  {result : Except NetError HttpsResponse}

theorem Exchanged.reached (h : Exchanged limit tls request socket taken result)
    (before : List Taken) : reached (before ++ taken) = .exchange := by
  cases h <;> exact reached_of_getLast? (by simp [fetchStage?])

theorem Exchanged.class_mem {e : NetError}
    (h : Exchanged limit tls request socket taken (.error e)) :
    e.class ∈ FetchStage.exchange.classes := by
  generalize hresult : Except.error e = result at h
  cases h with
  | answered => cases hresult
  | notStarted | tooLong =>
    cases hresult
    simp [FetchStage.classes, exchangeError, bodyError, NetError.class]
  | noHead hreply | noBody hreply =>
    cases hresult
    rcases Outcome.class_of_within hreply with htimeout | ⟨cause, rfl⟩
    · simp [FetchStage.classes, htimeout]
    · simp [FetchStage.classes, exchangeError, bodyError, NetError.class]

/-- The stages of a conversation follow the one at which a request stood before it. -/
theorem Conversed.reached_cases (h : Conversed connector limit target socket taken result)
    (before : List Taken) :
    (∀ e, result = .error e → e.class ∈ (reached (before ++ taken)).classes) ∧
      reached (before ++ taken) ≠ .text := by
  cases h with
  | notShaken hshaken =>
    rw [hshaken.reached]
    refine ⟨?_, nofun⟩
    rintro e ⟨⟩
    exact hshaken.class_mem
  | exchanged hshaken hexchanged =>
    rw [← List.append_assoc, hexchanged.reached]
    refine ⟨?_, nofun⟩
    rintro e rfl
    exact hexchanged.class_mem

/-- A request fails as it can fail at the stage that it reached, and one that asked nothing has
touched nothing. -/
theorem Fetched.reached_cases (h : Fetched connector limit text taken result) :
    (∀ e, result = .error e → e.class ∈ (reached taken).classes) ∧
      (reached taken = .text → taken = []) := by
  cases h with
  | refused htext =>
    refine ⟨?_, fun _ => rfl⟩
    rintro e ⟨⟩
    rw [HttpsTarget.class_of_ofText htext]
    exact List.mem_singleton_self _
  | notConnected htext hreply =>
    refine ⟨?_, nofun⟩
    rintro e ⟨⟩
    rcases Outcome.class_of_within hreply with htimeout | ⟨cause, rfl⟩
    · simp [reached, fetchStage?, FetchStage.classes, htimeout]
    · simp [reached, fetchStage?, FetchStage.classes, NetError.class]
  | conversed htext hconversed =>
    rename_i target socket token asked
    rw [reached_of_no_stage (by simp [fetchStage?])]
    have hcases := hconversed.reached_cases
      [⟨.ask (.dial target.address), (.ok socket : Outcome IoFault Socket)⟩, ⟨.connect false, token⟩]
    exact ⟨hcases.1, fun hnone => absurd hnone hcases.2⟩

theorem Exchanged.of_finish {reply : Outcome String Unit}
    (h : Exchanged limit tls request socket taken result) {other : Socket}
    (hmem : ⟨.ask (.finish other), reply⟩ ∈ taken) : result.isOk = true := by
  cases h with
  | answered => rfl
  | notStarted => cases List.mem_singleton.mp hmem
  | noHead =>
    simp only [List.mem_cons, List.not_mem_nil, or_false] at hmem
    rcases hmem with heq | heq <;> cases heq
  | noBody | tooLong =>
    simp only [List.mem_cons, List.not_mem_nil, or_false] at hmem
    rcases hmem with heq | heq | heq <;> cases heq

theorem Exchanged.of_body {body : List UInt8}
    (h : Exchanged limit tls request socket taken result) {other : Socket}
    (hmem : ⟨.ask (.body other), (.ok body : Outcome String (List UInt8))⟩ ∈ taken)
    (hlong : maxBody < body.length) : ∃ e, result = .error e ∧ e.class = .http := by
  cases h with
  | tooLong => exact ⟨_, rfl, rfl⟩
  | notStarted => cases List.mem_singleton.mp hmem
  | noHead =>
    simp only [List.mem_cons, List.not_mem_nil, or_false] at hmem
    rcases hmem with heq | heq <;> cases heq
  | noBody hreply =>
    simp only [List.mem_cons, List.not_mem_nil, or_false] at hmem
    rcases hmem with heq | heq | heq <;> cases heq
    cases hreply
  | answered hfits =>
    simp only [List.mem_cons, List.not_mem_nil, or_false] at hmem
    rcases hmem with heq | heq | heq | heq <;> cases heq
    omega

theorem Exchanged.fits {response : HttpsResponse}
    (h : Exchanged limit tls request socket taken (.ok response)) :
    response.body.length ≤ maxBody := by
  generalize hresult : Except.ok response = result at h
  cases h with
  | answered hfits =>
    cases hresult
    exact hfits
  | notStarted | noHead | noBody | tooLong => cases hresult

end HttpsResponse

theorem Connector.Shaken.stage_of_mem {connector : Connector} {limit : Duration} {host : String}
    {socket : Socket} {asked : List Taken} {result : Except NetError Tls.Negotiated}
    (h : Shaken connector limit host socket asked result) :
    ∀ taken ∈ asked, fetchStage? taken = some .handshake := by
  have hagreed : ∀ calls : List Tls.Call, ∀ taken ∈ calls.map agreed,
      fetchStage? taken = some .handshake := by
    intro calls taken hmem
    obtain ⟨call, -, rfl⟩ := List.mem_map.mp hmem
    rfl
  intro taken hmem
  cases h with
  | settled =>
    rcases List.mem_append.mp hmem with hmem | hmem
    · exact hagreed _ taken hmem
    · rw [List.mem_singleton.mp hmem]
      rfl
  | unprepared hprepared =>
    cases hprepared
    rcases List.mem_append.mp hmem with hmem | hmem
    · exact hagreed _ taken hmem
    · rw [List.mem_singleton.mp hmem]
      rfl

namespace HttpsResponse

variable {connector : Connector} {limit : Duration} {text : String} {taken : List Taken}
  {result : Except NetError HttpsResponse}

theorem isEntry_of_stage {asked : Taken} {stage : FetchStage}
    (h : fetchStage? asked = some stage) : asked.action.isEntry = false := by
  obtain ⟨action, answer⟩ := asked
  cases action <;> first | rfl | cases h

theorem Exchanged.stage_of_mem {tls : Tls.Negotiated} {request : HttpRequest} {socket : Socket}
    (h : Exchanged limit tls request socket taken result) :
    ∀ asked ∈ taken, fetchStage? asked = some .exchange := by
  cases h <;> simp [fetchStage?]

/-- A conversation makes no entry in the books. -/
theorem Conversed.entries_eq {target : HttpsTarget} {socket : Socket}
    (h : Conversed connector limit target socket taken result) : entries taken = [] := by
  refine List.filter_eq_nil_iff.mpr fun asked hmem => ?_
  rw [Bool.not_eq_true]
  cases h with
  | notShaken hshaken => exact isEntry_of_stage (hshaken.stage_of_mem asked hmem)
  | exchanged hshaken hexchanged =>
    rcases List.mem_append.mp hmem with hmem | hmem
    · exact isEntry_of_stage (hshaken.stage_of_mem asked hmem)
    · exact isEntry_of_stage (hexchanged.stage_of_mem asked hmem)

/-- What belongs to the exchange is asked in the exchange, and the exchange decides the result. -/
theorem Fetched.exchanged_of_mem (h : Fetched connector limit text taken result) {asked : Taken}
    (hmem : asked ∈ taken) (hstage : fetchStage? asked = some .exchange) :
    ∃ tls request socket exchanged, Exchanged limit tls request socket exchanged result ∧
      asked ∈ exchanged := by
  cases h with
  | refused => cases hmem
  | notConnected =>
    rw [List.mem_singleton.mp hmem] at hstage
    cases hstage
  | conversed htext hconversed =>
    have hshaking : ∀ {host socket shaken settled},
        Connector.Shaken connector limit host socket shaken settled → asked ∉ shaken := by
      intro host socket shaken settled hshaken hmem
      rw [hshaken.stage_of_mem asked hmem] at hstage
      cases hstage
    simp only [List.cons_append, List.mem_cons, List.mem_append, List.not_mem_nil, or_false] at hmem
    rcases hmem with rfl | rfl | hmem | rfl
    · cases hstage
    · cases hstage
    · cases hconversed with
      | notShaken hshaken => exact absurd hmem (hshaking hshaken)
      | exchanged hshaken hexchanged =>
        rcases List.mem_append.mp hmem with hmem | hmem
        · exact absurd hmem (hshaking hshaken)
        · exact ⟨_, _, _, _, hexchanged, hmem⟩
    · cases hstage

theorem Fetched.fits {response : HttpsResponse}
    (h : Fetched connector limit text taken (.ok response)) : response.body.length ≤ maxBody := by
  generalize hresult : Except.ok response = result at h
  cases h with
  | refused | notConnected => cases hresult
  | conversed _ hconversed =>
    cases hconversed with
    | notShaken => cases hresult
    | exchanged _ hexchanged =>
      subst hresult
      exact hexchanged.fits

/-- Whether a request was answered with an open socket. -/
def Connects (taken : List Taken) : Prop :=
  ∃ address socket, ⟨.ask (.dial address), (.ok socket : Outcome IoFault Socket)⟩ ∈ taken

/-- A connection is entered in the books, and taken out of them, just when a socket was opened. -/
theorem Fetched.entries_cases (h : Fetched connector limit text taken result) :
    Connects taken ∧ (∃ token, entries taken = [⟨.connect false, token⟩, ⟨.disconnect token, ()⟩]) ∨
      ¬ Connects taken ∧ entries taken = [] := by
  cases h with
  | refused => exact .inr ⟨by simp [Connects], rfl⟩
  | notConnected _ hreply =>
    refine .inr ⟨?_, rfl⟩
    rintro ⟨address, socket, hmem⟩
    cases List.mem_singleton.mp hmem
    cases hreply
  | conversed _ hconversed =>
    rename_i token asked _
    refine .inl ⟨⟨_, _, List.mem_cons_self⟩, token, ?_⟩
    have hentries : entries (asked ++ [⟨.disconnect token, ()⟩]) = [⟨.disconnect token, ()⟩] := by
      rw [entries_append, hconversed.entries_eq]
      rfl
    exact congrArg (List.cons _) hentries

end HttpsResponse

theorem reached_wire (taken : List Taken) : reached (wire taken) = reached taken := by
  rw [reached, wire, List.filterMap_filter, reached]
  congr 2
  funext first
  obtain ⟨action, answer⟩ := first
  cases action <;> rfl

namespace Client

open HttpsResponse Run

variable {client : Client} {url : String} {taken : List Taken}
  {result : Except NetError HttpsResponse}

/-- What is said of one request in the course of which these actions are taken. -/
theorem fetched_of_httpsGet (h : (client.httpsGet url).Takes taken result) :
    Fetched client.connector client.ioTimeout url (wire taken) result ∧
      ∃ length, records taken = [⟨"https_get", !result.isOk, some length⟩] := by
  obtain ⟨start, rest, rfl, hrest⟩ := takes_perform_bind_iff.mp h
  obtain ⟨asked, later, outcome, rfl, hasked, hlater⟩ := takes_bind_iff.mp hrest
  obtain ⟨reported, done, _, rfl, hreported, hdone⟩ := takes_bind_iff.mp hlater
  obtain ⟨rfl, rfl⟩ := takes_pure_iff.mp hdone
  obtain ⟨hwire, length, hrecords⟩ := TcpConnection.takes_report hreported
  have hnone : records asked = [] := by
    refine List.filterMap_eq_nil_iff.mpr fun ⟨action, answer⟩ hmem => ?_
    have htraffic := (only_fetch url).of_takes hasked _ hmem
    cases action with
    | report => exact htraffic.elim
    | _ => rfl
  have hasks : wire (⟨.now, start⟩ :: (asked ++ (reported ++ []))) = wire asked := by
    change wire (asked ++ (reported ++ [])) = wire asked
    rw [wire_append, wire_append, hwire, wire_nil, List.append_nil, List.append_nil]
  have hmakes : records (⟨.now, start⟩ :: (asked ++ (reported ++ []))) =
      [⟨"https_get", !result.isOk, some length⟩] := by
    change records (asked ++ (reported ++ [])) = _
    rw [records_append, records_append, hnone, hrecords, records_nil, List.append_nil,
      List.nil_append]
  rw [hasks]
  exact ⟨fetched_of_takes hasked, length, hmakes⟩

theorem only_httpsGet (client : Client) (url : String) :
    (client.httpsGet url).Only Action.Working := by
  refine .bind (Work.only_perform trivial) fun _ =>
    .bind ((HttpsResponse.only_fetch url).imp fun action h => ?_) fun _ =>
      .bind only_report fun _ => Work.only_pure _
  cases action with
  | connect leaked =>
    cases leaked with
    | false => trivial
    | true => exact h
  | log | ask | disconnect => trivial
  | _ => exact h.elim

/-- What one request over HTTPS does at a desk, with what it comes to. -/
structure Requested (client : Client) (url : String) (desk : Desk) (moments : List Moment)
    (result : Except NetError HttpsResponse) : Prop where
  /-- It goes one of the ways that there are. -/
  course : Fetched client.connector client.ioTimeout url (wire (Run.taken moments)) result
  /-- It makes one record, which says whether it failed. -/
  recorded : ∃ length, records (Run.taken moments) = [⟨"https_get", !result.isOk, some length⟩]
  /-- How it can fail depends on how far it came. -/
  classed : ∀ e, result = .error e → e.class ∈ (reached (Run.taken moments)).classes
  /-- A URL that cannot be requested touches no socket. -/
  untouched : reached (Run.taken moments) = .text → wire (Run.taken moments) = []
  /-- The session is ended for a response only, and stays a response however that goes. -/
  ended : ∀ socket reply, ⟨.ask (.finish socket), reply⟩ ∈ Run.taken moments → result.isOk = true
  fits : ∀ response, result = .ok response → response.body.length ≤ maxBody
  tooLong : ∀ socket body,
    ⟨.ask (.body socket), (.ok body : Outcome String (List UInt8))⟩ ∈ Run.taken moments →
      maxBody < body.length → ∃ e, result = .error e ∧ e.class = .http
  /-- The books change when a socket is opened and when it is given up, and at no other time. -/
  counted : ∀ last, Undisturbed ⟨desk.party, desk.connects, false⟩ 0 moments last →
    last = 0 ∧
      (Connects (Run.taken moments) ∧ (∃ opening ending, changes moments = [opening, ending] ∧
          opening.Opens ⟨desk.party, desk.connects, false⟩ ∧
          ending.Releases ⟨desk.party, desk.connects, false⟩) ∨
        ¬ Connects (Run.taken moments) ∧ changes moments = [])

theorem mem_wire {asked : Taken} (h : asked.isWire = true) : asked ∈ wire taken ↔ asked ∈ taken := by
  rw [wire, List.mem_filter, h, and_iff_left rfl]

theorem connects_wire : Connects (wire taken) ↔ Connects taken := by
  simp only [Connects]
  refine exists_congr fun address => exists_congr fun socket => ?_
  exact mem_wire rfl

/-- On every path that a request over HTTPS can take, its connection is counted opened and closed
just if there was one, its one record says whether it failed, and its failure is one of the stage at
which it stopped.  Whatever it finds at each of its actions, it comes to a result. -/
theorem https_get_on_every_path {desk : Desk} {moments : List Moment}
    (h : Plays desk (client.httpsGet url) moments result) :
    Requested client url desk moments result ∧
      ∀ (client : Client) (url : String) (desk : Desk) (world : Nat → Shared × Outside),
        ∃ moments result, Plays desk (client.httpsGet url) moments result ∧
          moments.map (fun moment => (moment.before, moment.outside)) =
            (List.range moments.length).map world := by
  refine ⟨?_, fun client url => exists_plays ((client.only_httpsGet url).neverWaits id)⟩
  obtain ⟨hfetched, hrecorded⟩ := fetched_of_httpsGet h.takes
  obtain ⟨hclassed, huntouched⟩ := hfetched.reached_cases
  rw [reached_wire] at hclassed huntouched
  refine ⟨hfetched, hrecorded, hclassed, huntouched, ?ended, ?fits, ?tooLong, ?counted⟩
  case ended =>
    intro socket reply hmem
    obtain ⟨_, _, _, _, hexchanged, hasked⟩ := hfetched.exchanged_of_mem ((mem_wire rfl).mpr hmem) rfl
    exact hexchanged.of_finish hasked
  case fits =>
    rintro response rfl
    exact hfetched.fits
  case tooLong =>
    intro socket body hmem hlong
    obtain ⟨_, _, _, _, hexchanged, hasked⟩ := hfetched.exchanged_of_mem ((mem_wire rfl).mpr hmem) rfl
    exact hexchanged.of_body hasked hlong
  case counted =>
    intro last hundisturbed
    rw [← connects_wire]
    rcases hfetched.entries_cases with ⟨hconnects, token, hentries⟩ | ⟨hnever, hentries⟩
    · rw [entries_wire] at hentries
      obtain rfl := h.token_of_entries hentries
      obtain ⟨hlast, hchanges⟩ := h.of_entries_eq_connect_disconnect hentries hundisturbed
      exact ⟨hlast, .inl ⟨hconnects, hchanges⟩⟩
    · rw [entries_wire] at hentries
      obtain ⟨hquiet, hsame⟩ := h.of_entries_eq_nil hentries
      exact ⟨hsame hundisturbed, .inr ⟨hnever, hquiet⟩⟩

/-- A server that answers, and never closes its session. -/
def openEnded : Outside :=
  ⟨.zero, fun
    | .dial _ => .ok ⟨7⟩
    | .send .. => .timedOut
    | .receive .. => .timedOut
    | .tls _ => .ok ()
    | .handshake _ => .agreed (some (.tls .tls12)) (some "AES128-GCM-SHA256")
    | .startExchange _ => .ok ()
    | .head .. => .ok ⟨200, []⟩
    | .body _ => .ok [0x68, 0x69]
    | .finish _ => .timedOut⟩

/-- What parties share before anyone has opened a connection, and while one is open. -/
def noneOpen : Shared := .start "sample" (.start 0 false)

def oneOpen : Shared := { noneOpen with ledger := ⟨1, 0, [⟨.user 0, 0, false⟩]⟩ }

/-- The end of the session times out, and the response stands. -/
theorem https_get_sample :
    ∃ moments response, Plays ⟨.user 0, 0, 0⟩
        (httpsGet ⟨.ofSecs 1, ⟨true⟩⟩ "https://[::1]/") moments (.ok response) ∧
      response.body = [0x68, 0x69] ∧ ⟨.ask (.finish ⟨7⟩), .timedOut⟩ ∈ Run.taken moments ∧
        Requested ⟨.ofSecs 1, ⟨true⟩⟩ "https://[::1]/" ⟨.user 0, 0, 0⟩ moments (.ok response) := by
  have hplays : Plays ⟨.user 0, 0, 0⟩ (httpsGet ⟨.ofSecs 1, ⟨true⟩⟩ "https://[::1]/") _ (.ok _) :=
    .act noneOpen openEnded rfl (.act noneOpen openEnded rfl (.act noneOpen openEnded rfl
      (.act oneOpen openEnded rfl (.act oneOpen openEnded rfl (.act oneOpen openEnded rfl
      (.act oneOpen openEnded rfl (.act oneOpen openEnded rfl (.act oneOpen openEnded rfl
      (.act oneOpen openEnded rfl (.act oneOpen openEnded rfl (.act oneOpen openEnded rfl
      (.act oneOpen openEnded rfl (.act noneOpen openEnded rfl (.act noneOpen openEnded rfl
        .done))))))))))))))
  exact ⟨_, _, hplays, rfl, by repeat' constructor, (https_get_on_every_path hplays).1⟩

end Client

end LoadHarness.Net
