import LoadHarness.Proofs.Options
import LoadHarness.Proofs.Scenario.Actions
import LoadHarness.Scenario.IdleSleep
import LoadHarness.Scenario.TlsProbe

/-! Scenarios of one request an iteration add up.

In such a scenario the users have a behaviour and nothing else, and the behaviour asks for the
target once, tells something of what that has come to, and fails with it (`Requests`).  So the
calls of a finished run go with the outcomes of its requests, one by one (`Fetches`), and every
total of the run is a count of outcomes (`Requests.settled`). -/

namespace LoadHarness

open Net Hook Run

namespace Network

variable {S : Type} {context : UserContext RunValue} {value last : UserValue S}
  {taken : List Taken} {target : String} {client : Client}
  {outcome : Except NetError HttpsResponse}

/-! ## One request -/

theorem marks_httpsGet (h : (client.httpsGet target).Takes taken outcome) :
    marks taken = [("https_get", !outcome.isOk)] := by
  obtain ⟨-, length, hrecords⟩ := Client.fetched_of_httpsGet h
  rw [marks, hrecords]
  rfl

theorem checks_httpsGet (h : (client.httpsGet target).Takes taken outcome) : checks taken = [] :=
  checks_of_working ((client.only_httpsGet target).of_takes h)

theorem openings_httpsGet (h : (client.httpsGet target).Takes taken outcome) :
    openings taken ≤ 1 := by
  rw [← openings_wire, ← openings_entries]
  rcases (Client.fetched_of_httpsGet h).1.entries_cases with ⟨-, token, hentries⟩ | ⟨-, hentries⟩
  · rw [hentries]
    exact Nat.le_refl 1
  · rw [hentries]
    exact Nat.zero_le 1

/-- Where there is a target and a client, a user that fetches the target makes one request. -/
theorem takes_httpsGetTarget {result : Except Fault HttpsResponse}
    (h : Takes (httpsGetTarget context) value taken result last)
    (htarget : context.options.target = some target)
    (hclient : context.global.client = some client) :
    ∃ outcome, (client.httpsGet target).Takes taken outcome ∧ result = netResult outcome ∧
      last = value := by
  rcases takes_ofOption_bind_iff.mp h with ⟨hnone, -⟩ | ⟨url, hurl, hrest⟩
  · rw [htarget] at hnone
    cases hnone
  obtain rfl := Option.some.inj (htarget.symm.trans hurl)
  rcases takes_ofOption_bind_iff.mp hrest with ⟨hnone, -⟩ | ⟨held, hheld, hrest⟩
  · rw [hclient] at hnone
    cases hnone
  obtain rfl := Option.some.inj (hclient.symm.trans hheld)
  obtain ⟨first, rest, outcome, rfl, hfirst, hrest⟩ := takes_ofWork_bind_iff.mp hrest
  obtain ⟨rfl, rfl, rfl⟩ := takes_ofNet_iff.mp hrest
  rw [List.append_nil]
  exact ⟨outcome, hfirst, rfl, rfl⟩

/-! ## One iteration -/

/-- What a call does once its request has come to an outcome: it records checks, fails with the
request, and leaves the network alone. -/
structure Follows (tells : Except NetError HttpsResponse → List (String × Bool))
    (outcome : Except NetError HttpsResponse) (rest : List Taken)
    (result : Except Fault Unit) : Prop where
  records : marks rest = []
  tells : checks rest = tells outcome
  opened : openings rest = 0
  result : result = (netResult outcome).map fun _ => ()

/-- A scenario whose users make one request in each iteration. -/
structure Requests (scenario : Scenario RunValue (UserValue S))
    (tells : Except NetError HttpsResponse → List (String × Bool)) : Prop where
  setup : scenario.setup = some configureClient
  teardown : scenario.teardown = none
  userSetup : scenario.userSetup = none
  userTeardown : scenario.userTeardown = none
  asks : ∀ body, scenario.behaviour = some body →
    ∀ (context : UserContext RunValue) (value last : UserValue S) taken result client target,
      context.global.client = some client → context.options.target = some target →
        Takes (body context) value taken result last →
          ∃ outcome first rest, taken = first ++ rest ∧
            (client.httpsGet target).Takes first outcome ∧ Follows tells outcome rest result
  keeps : ∀ body, scenario.behaviour = some body → ∀ context,
    Hook.Only (· ≠ .connect true) (body context)

/-- A call of the behaviour, and what its request has come to. -/
structure Fetches (tells : Except NetError HttpsResponse → List (String × Bool))
    (visit : Visit RunValue (UserValue S)) (outcome : Except NetError HttpsResponse) : Prop where
  hook : visit.hook = .behaviour
  asked : ∃ client target first rest, visit.context.global.client = some client ∧
    visit.context.options.target = some target ∧ visit.taken = first ++ rest ∧
      (client.httpsGet target).Takes first outcome
  records : marks visit.taken = [("https_get", !outcome.isOk)]
  tells : checks visit.taken = tells outcome
  opened : openings visit.taken ≤ 1
  recorded : visit.recorded?.map Option.isSome = some (!outcome.isOk)

variable {scenario : Scenario RunValue (UserValue S)}
  {tells : Except NetError HttpsResponse → List (String × Bool)} {options : Options}
  {visit : Visit RunValue (UserValue S)}

theorem exists_fetches {result : Except Fault Unit} {next : UserValue S}
    (hrequests : Requests scenario tells)
    (hmade : visit.Made scenario options fun value => value.client.isSome = true)
    (htarget : options.target = some target) (hending : visit.ending = some (result, next)) :
    ∃ outcome, Fetches tells visit outcome := by
  obtain ⟨client, hclient⟩ := Option.isSome_iff_exists.mp hmade.global
  rw [← hmade.options] at htarget
  obtain ⟨body, hbody, htakes⟩ := hmade.takes hending
  cases hhook : visit.hook with
  | setup =>
    rw [hhook] at hbody
    cases hrequests.userSetup.symm.trans hbody
  | teardown =>
    rw [hhook] at hbody
    cases hrequests.userTeardown.symm.trans hbody
  | behaviour =>
    rw [hhook] at hbody
    obtain ⟨outcome, first, rest, htaken, hfirst, hrest⟩ :=
      hrequests.asks body hbody _ _ _ _ _ client target hclient htarget htakes
    refine ⟨outcome, hhook, ⟨client, target, first, rest, hclient, htarget, htaken, hfirst⟩, ?_,
      ?_, ?_, ?_⟩
    · rw [htaken, marks_append, marks_httpsGet hfirst, hrest.records, List.append_nil]
    · rw [htaken, checks_append, checks_httpsGet hfirst, hrest.tells, List.nil_append]
    · rw [htaken, openings_append, hrest.opened]
      exact openings_httpsGet hfirst
    · rw [Visit.recorded?, Visit.outcome?, hhook, hending, hrest.result]
      cases outcome <;> rfl

/-! ## All iterations -/

section

variable {calls : List (Visit RunValue (UserValue S))}
  {outcomes : List (Except NetError HttpsResponse)}

theorem map_isSome_recorded (h : List.Forall₂ (Fetches tells) calls outcomes) :
    (calls.filterMap Visit.recorded?).map Option.isSome =
      outcomes.map fun outcome => !outcome.isOk := by
  induction h with
  | nil => rfl
  | cons hfetches _ ih =>
    obtain ⟨recorded, hrecorded, hfailed⟩ := Option.map_eq_some_iff.mp hfetches.recorded
    rw [List.filterMap_cons_some hrecorded, List.map_cons, List.map_cons, ih, hfailed]

theorem marks_flatMap (h : List.Forall₂ (Fetches tells) calls outcomes) :
    marks (calls.flatMap (·.taken)) = outcomes.map fun outcome => ("https_get", !outcome.isOk) := by
  induction h with
  | nil => rfl
  | cons hfetches _ ih =>
    rw [List.flatMap_cons, marks_append, hfetches.records, ih]
    rfl

theorem checks_flatMap (h : List.Forall₂ (Fetches tells) calls outcomes) :
    checks (calls.flatMap (·.taken)) = outcomes.flatMap tells := by
  induction h with
  | nil => rfl
  | cons hfetches _ ih =>
    rw [List.flatMap_cons, checks_append, hfetches.tells, ih, List.flatMap_cons]

theorem openings_flatMap_le (h : List.Forall₂ (Fetches tells) calls outcomes) :
    openings (calls.flatMap (·.taken)) ≤ outcomes.length := by
  induction h with
  | nil => exact Nat.le_refl 0
  | cons hfetches _ ih =>
    have hopened := hfetches.opened
    rw [List.flatMap_cons, openings_append, List.length_cons]
    omega

end

/-! ## A run -/

/-- What a summary and the records of operations have to do with the outcomes of requests. -/
structure AddsUp (outcomes : List (Except NetError HttpsResponse)) (operations : List Operation)
    (summary : Summary) : Prop where
  requests : outcomes.length = summary.iterations
  refusals : (outcomes.countP fun outcome => !outcome.isOk) = summary.totalFailed
  known : ∀ operation ∈ operations, operation.id = "https_get"
  records : tried "https_get" operations = summary.iterations
  failures : operations.countP (·.failed) = summary.totalFailed

/-- A check that each iteration makes once, and that no iteration passes that fails. -/
structure Verdicts (name : String) (passes : Except NetError HttpsResponse → Bool)
    (outcomes : List (Except NetError HttpsResponse)) (summary : Summary) : Prop where
  total : (summary.countsOf name).total = summary.iterations
  passed : (summary.countsOf name).passed = outcomes.countP passes
  failed : summary.totalFailed ≤ (summary.countsOf name).failed

/-- A finished run, call by call and in total. -/
structure Settled (tells : Except NetError HttpsResponse → List (String × Bool))
    (start state : State RunValue (UserValue S)) (moves : List Move) (summary : Summary)
    (outcomes : List (Except NetError HttpsResponse)) : Prop where
  fetches : ∃ visits, state.Visited start.scenario start.options
    (fun value => value.client.isSome = true) (fun id => start.took id moves) visits ∧
      List.Forall₂ (Fetches tells) (state.allVisits visits) outcomes
  reported : state.shared.reporter.Holds state.operations
  addsUp : AddsUp outcomes state.operations summary
  connections : (∀ move ∈ moves, move.isBackground = false) →
    summary.connectionsClosed = summary.connectionsOpened ∧
      summary.connectionsOpened ≤ summary.iterations

section

variable {state : State RunValue (UserValue S)} {summary : Summary}
  {calls : List (Visit RunValue (UserValue S))} {outcomes : List (Except NetError HttpsResponse)}

theorem addsUp_of_totals (htotals : state.Totals calls summary)
    (h : List.Forall₂ (Fetches tells) calls outcomes) :
    AddsUp outcomes state.operations summary := by
  have hrecorded := map_isSome_recorded h
  have hrequests : outcomes.length = summary.iterations := by
    rw [htotals.iterations, ← List.length_map Option.isSome, hrecorded, List.length_map]
  have hrefusals : (outcomes.countP fun outcome => !outcome.isOk) = summary.totalFailed := by
    have hcounted := congrArg (List.countP id) hrecorded
    rw [List.countP_map, List.countP_map] at hcounted
    rw [htotals.failed]
    exact hcounted.symm
  constructor
  case requests => exact hrequests
  case refusals => exact hrefusals
  case known =>
    intro operation hmem
    have hmark : operation.mark ∈ marks (calls.flatMap (·.taken)) :=
      List.mem_map_of_mem (htotals.operations.mem_iff.mp hmem)
    rw [marks_flatMap h] at hmark
    obtain ⟨outcome, -, hsame⟩ := List.mem_map.mp hmark
    exact (congrArg Prod.fst hsame).symm
  case records =>
    rw [tried, htotals.operations.countP_eq, ← tried, tried_records, marks_flatMap h,
      List.countP_map, ← hrequests]
    exact List.countP_eq_length.mpr fun _ _ => rfl
  case failures =>
    rw [htotals.operations.countP_eq, countP_failed_records, marks_flatMap h, List.countP_map,
      ← hrefusals]
    rfl

/-- What is told under a name is counted by the outcomes that it is told of. -/
theorem countP_flatMap_tells {name : String} {passes : Except NetError HttpsResponse → Bool}
    (hmade : ∀ outcome, (tells outcome).filter (·.1 == name) = [(name, passes outcome)])
    (p : Bool → Bool) (outcomes : List (Except NetError HttpsResponse)) :
    ((outcomes.flatMap tells).countP fun check => check.1 == name && p check.2) =
      outcomes.countP fun outcome => p (passes outcome) := by
  induction outcomes with
  | nil => rfl
  | cons outcome outcomes ih =>
    have hone : ((tells outcome).countP fun check => check.1 == name && p check.2) =
        [(name, passes outcome)].countP fun check => p check.2 := by
      rw [← hmade, List.countP_filter]
      exact List.countP_congr fun check _ => by rw [Bool.and_comm]
    rw [List.flatMap_cons, List.countP_append, ih, hone, List.countP_cons, List.countP_cons,
      List.countP_nil, Nat.zero_add, Nat.add_comm]

theorem verdicts_of_totals (htotals : state.Totals calls summary)
    (h : List.Forall₂ (Fetches tells) calls outcomes) {name : String}
    {passes : Except NetError HttpsResponse → Bool}
    (hmade : ∀ outcome, (tells outcome).filter (·.1 == name) = [(name, passes outcome)])
    (hfails : ∀ e, passes (.error e) = false) : Verdicts name passes outcomes summary := by
  have hadds := addsUp_of_totals htotals h
  have hcounts : summary.countsOf name =
      ⟨outcomes.countP passes, outcomes.countP fun outcome => !passes outcome⟩ := by
    rw [Summary.countsOf, htotals.checks, getD_get?_summarize, Visit.countsOf_results,
      checks_flatMap h]
    exact congrArg₂ CheckCounts.mk (countP_flatMap_tells hmade id outcomes)
      (countP_flatMap_tells hmade not outcomes)
  constructor
  case total =>
    rw [hcounts, ← hadds.requests, List.length_eq_countP_add_countP passes]
    simp only [CheckCounts.total, Bool.not_eq_true, Bool.decide_eq_false]
  case passed => rw [hcounts]
  case failed =>
    rw [hcounts, ← hadds.refusals]
    refine List.countP_mono_left fun outcome _ hfailed => ?_
    cases outcome with
    | ok => cases hfailed
    | error e => rw [hfails e]; rfl

end

theorem exists_forall₂ {α β : Type} {R : α → β → Prop} {l : List α} (h : ∀ a ∈ l, ∃ b, R a b) :
    ∃ l', List.Forall₂ R l l' := by
  induction l with
  | nil => exact ⟨[], .nil⟩
  | cons a l ih =>
    obtain ⟨⟨b, hb⟩, hrest⟩ := List.forall_mem_cons.mp h
    obtain ⟨l', hl'⟩ := ih hrest
    exact ⟨b :: l', .cons hb hl'⟩

/-- A finished run of such a scenario, whatever came of its requests. -/
theorem Requests.settled (hrequests : Requests scenario tells)
    (htarget : options.target = some target) {startedAt : Int} {moves : List Move}
    {state : State RunValue (UserValue S)} {summary : Summary}
    (hstate : (State.start scenario options startedAt).after moves = state)
    (hfinished : state.conclusion? = some (.finished summary)) :
    ∃ calls outcomes, state.Totals calls summary ∧ List.Forall₂ (Fetches tells) calls outcomes ∧
      Settled tells (State.start scenario options startedAt) state moves summary outcomes := by
  have hprovides : Provides scenario options Action.Asks fun value =>
      value.client.isSome = true := provides_client hrequests.setup hrequests.teardown options
  obtain ⟨visits, hvisited⟩ := State.exists_visits scenario options startedAt _
    (State.equipped_after hprovides startedAt) moves
  have hoperations := State.holds_operations_after scenario options startedAt moves
  rw [hstate] at hvisited hoperations
  have htotals := State.totals_of_finished hprovides hstate hfinished hvisited
  have hfetched : ∀ visit ∈ state.allVisits visits, ∃ outcome, Fetches tells visit outcome := by
    intro visit hmem
    obtain ⟨hmade, result, next, hending⟩ :=
      hvisited.ended (State.allOver_of_finished hstate hfinished) visit hmem
    exact exists_fetches hrequests hmade htarget hending
  obtain ⟨outcomes, houtcomes⟩ := exists_forall₂ hfetched
  have hadds := addsUp_of_totals htotals houtcomes
  have hkept : ∀ (hook : UserHook) body, hook.ofScenario scenario = some body → ∀ context,
      Hook.Only (· ≠ .connect true) (body context) := by
    intro hook body hbody
    cases hook with
    | setup => cases hrequests.userSetup.symm.trans hbody
    | behaviour => exact hrequests.keeps body hbody
    | teardown => cases hrequests.userTeardown.symm.trans hbody
  refine ⟨_, outcomes, htotals, houtcomes, ⟨visits, hvisited, houtcomes⟩, hoperations, hadds,
    fun hquiet => ?_⟩
  obtain ⟨hopened, hclosed⟩ := State.connections_of_finished hprovides hkept hquiet hstate
    hfinished hvisited
  refine ⟨hclosed, ?_⟩
  rw [hopened, ← hadds.requests]
  exact openings_flatMap_le houtcomes

end Network

open Network

/-! ## The probe -/

namespace TlsProbe

/-- Whether a request got a response, over TLS 1.2. -/
def speaksTls12 : Except NetError HttpsResponse → Bool
  | .ok response => response.tls.version == some .tls12
  | .error _ => false

/-- Whether a request got a response, over the expected suite. -/
def usesSuite : Except NetError HttpsResponse → Bool
  | .ok response => response.tls.suite == some expectedSuite
  | .error _ => false

/-- Both checks are made of every outcome. -/
def tells (outcome : Except NetError HttpsResponse) : List (String × Bool) :=
  [(versionCheck, speaksTls12 outcome), (suiteCheck, usesSuite outcome)]

variable {value last : UserValue Unit} {rest : List Taken} {result : Except Fault Unit}

theorem follows_response {response : HttpsResponse}
    (h : Takes (do
      let _ ← Hook.checkAll response.tls [
        (versionCheck, fun tls => tls.version == some .tls12),
        (suiteCheck, fun tls => tls.suite == some expectedSuite)] : Hook (UserValue Unit) Unit)
      value rest result last) : Follows tells (.ok response) rest result := by
  rcases Hook.takes_bind_iff.mp h with ⟨fault, hchecked, -⟩ |
    ⟨first, done, _, middle, rfl, hchecked, hdone⟩
  · cases (takes_checkAll_iff.mp hchecked).2.1
  · obtain ⟨rfl, -, -⟩ := takes_checkAll_iff.mp hchecked
    obtain ⟨rfl, rfl, -⟩ := Hook.takes_pure_iff.mp hdone
    exact ⟨rfl, rfl, rfl, rfl⟩

theorem follows_failure {e : NetError}
    (h : Takes (do
      Hook.record versionCheck false
      Hook.record suiteCheck false
      Hook.fail (.ofNet e) : Hook (UserValue Unit) Unit) value rest result last) :
    Follows tells (.error e) rest result := by
  obtain ⟨later, rfl, hlater⟩ := takes_record_bind_iff.mp h
  obtain ⟨done, rfl, hdone⟩ := takes_record_bind_iff.mp hlater
  obtain ⟨rfl, rfl, -⟩ := takes_throw_iff.mp hdone
  exact ⟨rfl, rfl, rfl, rfl⟩

theorem requests : Requests scenario tells where
  setup := rfl
  teardown := rfl
  userSetup := rfl
  userTeardown := rfl
  asks := by
    intro body hbody context value last taken result client target hclient htarget h
    obtain rfl := Option.some.inj hbody
    rcases Hook.takes_bind_iff.mp h with ⟨fault, htried, rfl⟩ |
      ⟨first, rest, tried, middle, rfl, htried, hrest⟩
    · obtain ⟨tried, hrequest, hfault⟩ := takes_attempt_iff.mp htried
      obtain ⟨outcome, -, rfl, -⟩ := takes_httpsGetTarget hrequest htarget hclient
      cases outcome <;> cases hfault
    · obtain ⟨_, hrequest, htold⟩ := takes_attempt_iff.mp htried
      obtain ⟨outcome, hfirst, rfl, -⟩ := takes_httpsGetTarget hrequest htarget hclient
      refine ⟨outcome, first, rest, rfl, hfirst, ?_⟩
      cases outcome with
      | ok response =>
        cases htold
        exact follows_response hrest
      | error e =>
        cases htold
        exact follows_failure hrest
  keeps := by
    intro body hbody context
    obtain rfl := Option.some.inj hbody
    have hrequest : Hook.Only (· ≠ .connect true)
        (httpsGetTarget context : Hook (UserValue Unit) HttpsResponse) :=
      only_httpsGetTarget.imp fun _ => Action.Working.ne_leak
    refine only_bind (only_attempt hrequest) fun tried => ?_
    cases tried with
    | ok response => exact only_bind (only_checkAll (fun _ _ => nofun) _ _) fun _ => only_pure _
    | error failure =>
      exact only_bind (only_perform nofun) fun _ => only_bind (only_perform nofun) fun _ =>
        only_throw _

end TlsProbe

/-! ## The idle scenario -/

namespace IdleSleep

theorem requests : Requests scenario fun _ => [] where
  setup := rfl
  teardown := rfl
  userSetup := rfl
  userTeardown := rfl
  asks := by
    intro body hbody context value last taken result client target hclient htarget h
    obtain rfl := Option.some.inj hbody
    rcases Hook.takes_bind_iff.mp h with ⟨fault, hrequest, rfl⟩ |
      ⟨first, rest, response, middle, rfl, hrequest, hrest⟩
    · obtain ⟨outcome, hfirst, hfault, -⟩ := takes_httpsGetTarget hrequest htarget hclient
      refine ⟨outcome, taken, [], (List.append_nil _).symm, hfirst, rfl, rfl, rfl, ?_⟩
      cases outcome with
      | ok => cases hfault
      | error e => cases hfault; rfl
    · obtain ⟨outcome, hfirst, hok, -⟩ := takes_httpsGetTarget hrequest htarget hclient
      obtain ⟨answer, rfl, rfl, -⟩ := takes_perform_iff.mp hrest
      refine ⟨outcome, first, _, rfl, hfirst, rfl, rfl, rfl, ?_⟩
      cases outcome with
      | ok => rfl
      | error => cases hok
  keeps := by
    intro body hbody context
    obtain rfl := Option.some.inj hbody
    exact only_bind (only_httpsGetTarget.imp fun _ => Action.Working.ne_leak) fun _ =>
      only_perform nofun

end IdleSleep

/-! ## Both -/

/-- A scenario that has a target of its own never runs without one. -/
theorem exists_target_of_begin {G V : Type} {scenario : Scenario G V} {line : CommandLine}
    {freshId : String} {startedAt : Int} {start : State G V} {own : String}
    (h : begin scenario line freshId startedAt = .ok start)
    (hown : scenario.defaults.target = some own) :
    ∃ options target, start = .start scenario options startedAt ∧ options.target = some target := by
  unfold begin at h
  split at h
  · cases h
  · rename_i options hresolve
    cases h
    refine ⟨options, line.target.getD own, rfl, ?_⟩
    rw [(Options.merged_of_resolve hresolve).1.target, hown]
    cases line.target <;> rfl

/-- The probe and the idle scenario add up, whatever comes of their requests.  Every call of the
behaviour makes one request.  The probe checks both properties of its outcome, and a failed request
has neither; the idle scenario checks nothing. -/
theorem requests_add_up (line : CommandLine) (freshId : String) (startedAt : Int)
    (moves : List Move) :
    (∀ start state summary, begin TlsProbe.scenario line freshId startedAt = .ok start →
      start.after moves = state → state.conclusion? = some (.finished summary) →
        ∃ outcomes, Settled TlsProbe.tells start state moves summary outcomes ∧
          Verdicts TlsProbe.versionCheck TlsProbe.speaksTls12 outcomes summary ∧
          Verdicts TlsProbe.suiteCheck TlsProbe.usesSuite outcomes summary) ∧
    ∀ start state summary, begin IdleSleep.scenario line freshId startedAt = .ok start →
      start.after moves = state → state.conclusion? = some (.finished summary) →
        ∃ outcomes, Settled (fun _ => []) start state moves summary outcomes ∧
          summary.checks = .empty := by
  constructor
  · intro start state summary hbegin hstate hfinished
    obtain ⟨options, target, rfl, htarget⟩ := exists_target_of_begin hbegin rfl
    obtain ⟨calls, outcomes, htotals, houtcomes, hsettled⟩ :=
      TlsProbe.requests.settled htarget hstate hfinished
    exact ⟨outcomes, hsettled, verdicts_of_totals htotals houtcomes (fun _ => rfl) fun _ => rfl,
      verdicts_of_totals htotals houtcomes (fun _ => rfl) fun _ => rfl⟩
  · intro start state summary hbegin hstate hfinished
    obtain ⟨options, target, rfl, htarget⟩ := exists_target_of_begin hbegin rfl
    obtain ⟨calls, outcomes, htotals, houtcomes, hsettled⟩ :=
      IdleSleep.requests.settled htarget hstate hfinished
    refine ⟨outcomes, hsettled, ?_⟩
    have hnothing : calls.flatMap Visit.results = [] := by
      have hmapped := Visit.map_results calls
      rw [checks_flatMap houtcomes, List.flatMap_eq_nil_iff.mpr fun _ _ => rfl] at hmapped
      exact List.map_eq_nil_iff.mp hmapped
    rw [htotals.checks, hnothing]
    rfl

namespace Run.Sample

open Net.Client (openEnded)

/-- Two users that make one request each. -/
def pair : CommandLine :=
  { CommandLine.empty with
    target := some "https://[::1]/", virtualUsers := some 2, iterations := some 1,
    duration := some 1 }

/-- A host that no socket can be opened to. -/
def unreachable : Outside :=
  { openEnded with
    reply := fun
      | .dial _ => .timedOut
      | request => openEnded.reply request }

/-- The first user is answered, and the other one is not. -/
def answeredOnce : List Move :=
  .replicate 10 (.control openEnded) ++ .replicate 25 (.user 0 openEnded) ++
    .replicate 14 (.user 1 unreachable) ++ .replicate 5 (.control openEnded)

/-- The summary of a run that begins with a command line and goes on by some moves. -/
def summaryOf {G V : Type} (scenario : Scenario G V) (moves : List Move) : Option Summary := do
  let start ← (begin scenario pair "sample" 0).toOption
  (start.after moves).conclusion?.bind Conclusion.summary?

theorem begin_of_summaryOf {G V : Type} {scenario : Scenario G V} {moves : List Move}
    {summary : Summary} (h : summaryOf scenario moves = some summary) :
    ∃ start, begin scenario pair "sample" 0 = .ok start ∧
      (start.after moves).conclusion? = some (.finished summary) := by
  obtain ⟨start, hstart, h⟩ := Option.bind_eq_some_iff.mp h
  obtain ⟨conclusion, hconclusion, hfinished⟩ := Option.bind_eq_some_iff.mp h
  obtain rfl := Conclusion.summary?_eq_some_iff.mp hfinished
  refine ⟨start, ?_, hconclusion⟩
  cases hbegin : begin scenario pair "sample" 0 with
  | error => rw [hbegin] at hstart; cases hstart
  | ok other => rw [hbegin] at hstart; cases hstart; rfl

end Run.Sample

open Run.Sample in
theorem requests_add_up_sample :
    (∃ start summary outcomes, begin TlsProbe.scenario pair "sample" 0 = .ok start ∧
      (start.after answeredOnce).conclusion? = some (.finished summary) ∧
      (summary.iterations = 2 ∧ summary.totalFailed = 1 ∧
        summary.countsOf TlsProbe.versionCheck = ⟨1, 1⟩ ∧ summary.connectionsOpened = 1) ∧
      Settled TlsProbe.tells start (start.after answeredOnce) answeredOnce summary outcomes ∧
      Verdicts TlsProbe.versionCheck TlsProbe.speaksTls12 outcomes summary ∧
      Verdicts TlsProbe.suiteCheck TlsProbe.usesSuite outcomes summary) ∧
    ∃ start summary outcomes, begin IdleSleep.scenario pair "sample" 0 = .ok start ∧
      (start.after answeredOnce).conclusion? = some (.finished summary) ∧
      (summary.iterations = 2 ∧ summary.totalFailed = 1) ∧
      Settled (fun _ => []) start (start.after answeredOnce) answeredOnce summary outcomes ∧
      summary.checks = .empty := by
  have hprobe : (summaryOf TlsProbe.scenario answeredOnce).map (fun summary =>
      (summary.iterations, summary.totalFailed, summary.countsOf TlsProbe.versionCheck,
        summary.connectionsOpened)) = some (2, 1, ⟨1, 1⟩, 1) := by decide +kernel
  have hidle : (summaryOf IdleSleep.scenario answeredOnce).map (fun summary =>
      (summary.iterations, summary.totalFailed)) = some (2, 1) := by decide +kernel
  obtain ⟨hprobing, hidling⟩ := requests_add_up pair "sample" 0 answeredOnce
  constructor
  · obtain ⟨summary, hsummary, hcounts⟩ := Option.map_eq_some_iff.mp hprobe
    obtain ⟨start, hbegin, hfinished⟩ := begin_of_summaryOf hsummary
    obtain ⟨outcomes, hsettled⟩ := hprobing start _ summary hbegin rfl hfinished
    simp only [Prod.mk.injEq] at hcounts
    exact ⟨start, summary, outcomes, hbegin, hfinished, hcounts, hsettled⟩
  · obtain ⟨summary, hsummary, hcounts⟩ := Option.map_eq_some_iff.mp hidle
    obtain ⟨start, hbegin, hfinished⟩ := begin_of_summaryOf hsummary
    obtain ⟨outcomes, hsettled⟩ := hidling start _ summary hbegin rfl hfinished
    simp only [Prod.mk.injEq] at hcounts
    exact ⟨start, summary, outcomes, hbegin, hfinished, hcounts, hsettled⟩

end LoadHarness
