import LoadHarness.Proofs.Run.Checks
import LoadHarness.Proofs.Run.Moments
import LoadHarness.Proofs.Run.Visits
import LoadHarness.Proofs.Shuffles
import Mathlib.Data.List.Forall2

/-! The log of checks as a shuffle of what every party has recorded.

The journal names the party of every result in the log.  Tagged with it, the log falls apart
into one list for each party, and that of a user is what its visits have recorded, one
visit after the other (`State.log_shuffled`).  Visits are made in one iteration after the
other, so the stamps of a user never go back (`Timed.shape`).

What a list of tests leaves in the log is read at the moments at which it is put there, since
others record theirs in between (`appends_of_checkAll`). -/

namespace LoadHarness

namespace Run

/-! ## Who has recorded what -/

/-- The result that was recorded, with the user that did, if an entry tells of one. -/
def Entry.recorded? (entry : Entry) : Option (Option Nat × CheckResult) :=
  entry.check?.map fun result => (entry.user?, result)

/-- What one tag picks is what the entries about that party tell. -/
theorem Entry.filter_recorded? (key : Option Nat) (entry : Entry) :
    (entry.recorded?.filter fun recorded => recorded.1 == key).map Prod.snd =
      if (entry.user? == key) = true then entry.check? else none := by
  unfold recorded?
  cases entry.check? with
  | none => simp
  | some result =>
    rw [Option.map_some, Option.filter_some]
    split <;> rfl

theorem Entry.check?_of_not_isOfHook {entry : Entry} (h : entry.isOfHook = false) :
    entry.check? = none := by
  cases entry with
  | acted | called => cases h
  | looked | finalized => rfl

namespace Visit

variable {G V : Type}

/-- What a visit has recorded, in the order in which it did.  It all bears the id of the user, and
the iteration in which the visit was made. -/
def results (visit : Visit G V) : List CheckResult :=
  (checks visit.taken).map fun (name, passed) =>
    ⟨name, passed, visit.context.id, visit.context.iteration⟩

theorem of_mem_results {visit : Visit G V} {result : CheckResult} (h : result ∈ visit.results) :
    result.virtualUser = visit.context.id ∧ result.iteration = visit.context.iteration := by
  obtain ⟨_, -, rfl⟩ := List.mem_map.mp h
  exact ⟨rfl, rfl⟩

theorem check?_acted (taken : Taken) (id iteration : Nat) :
    (Entry.acted (.user id) iteration taken.action).check? =
      taken.check?.map fun (name, passed) => ⟨name, passed, id, iteration⟩ := by
  obtain ⟨action, answer⟩ := taken
  cases action <;> rfl

/-- What the journal says of a visit tells of its results. -/
theorem filterMap_check?_entries (visit : Visit G V) :
    visit.entries.filterMap Entry.check? = visit.results := by
  have hends : (visit.ending.toList.map fun last => Entry.called (.user visit.context.id)
      visit.hook.kind visit.context.iteration last.1).filterMap Entry.check? = [] := by
    cases visit.ending <;> rfl
  rw [entries, List.filterMap_append, hends, List.append_nil, List.filterMap_map, results, checks,
    List.map_filterMap]
  congr 1
  funext taken
  exact check?_acted taken _ _

end Visit

/-! ## When it was recorded -/

section

variable {G V : Type} {scenario : Scenario G V} {user : User V} {stamps : List (UserHook × Nat)}

/-- At every point of its life, the visits of a user were made in this order. -/
theorem Timed.shape (h : Timed scenario user stamps) :
    ∃ calls last, EndsAt user.iteration calls ∧
      (last = [] ∨ last = [(.teardown, user.iteration)]) ∧
      stamps = firstStamps scenario ++ behaviourStamps calls ++ last := by
  have hlast : lastStamps scenario user.iteration = [] ∨
      lastStamps scenario user.iteration = [(.teardown, user.iteration)] := by
    unfold lastStamps
    split
    · exact .inr rfl
    · exact .inl rfl
  unfold Timed at h
  split at h
  · obtain ⟨hiteration, hstamps⟩ := h
    exact ⟨0, [], .inl hiteration.symm, .inl rfl, by simpa [behaviourStamps] using hstamps⟩
  · exact ⟨_, [], .inl rfl, .inl rfl, by simpa using h⟩
  · exact ⟨_, [], .inl rfl, .inl rfl, by simpa using h⟩
  · exact ⟨_, [], .inl rfl, .inl rfl, by simpa using h⟩
  · exact ⟨_, [], .inr rfl, .inl rfl, by simpa using h⟩
  · exact ⟨_, [], .inr rfl, .inl rfl, by simpa using h⟩
  · exact ⟨_, [], .inr rfl, .inl rfl, by simpa using h⟩
  · obtain ⟨calls, hends, hstamps⟩ := h
    exact ⟨calls, _, hends, .inr rfl, hstamps⟩
  · obtain ⟨calls, hends, hstamps⟩ := h
    exact ⟨calls, _, hends, hlast, hstamps⟩
  · obtain ⟨calls, hends, hstamps⟩ := h
    exact ⟨calls, _, hends, hlast, hstamps⟩
  · obtain ⟨calls, last, hends, hlast, hstamps⟩ := h
    exact ⟨calls, last, hends, hlast, hstamps⟩

theorem mem_firstStamps {stamp : UserHook × Nat} (h : stamp ∈ firstStamps scenario) :
    stamp = (.setup, 0) := by
  unfold firstStamps at h
  split at h
  · exact List.mem_singleton.mp h
  · cases h

theorem mem_behaviourStamps {stamp : UserHook × Nat} {calls : Nat}
    (h : stamp ∈ behaviourStamps calls) : stamp.1 = .behaviour ∧ stamp.2 < calls := by
  obtain ⟨iteration, hlt, rfl⟩ := List.mem_map.mp h
  exact ⟨rfl, List.mem_range.mp hlt⟩

/-- The iterations in which visits are made never go back. -/
theorem Timed.pairwise (h : Timed scenario user stamps) :
    stamps.Pairwise fun earlier later => earlier.2 ≤ later.2 := by
  obtain ⟨calls, last, hends, hlast, rfl⟩ := h.shape
  have hbehaviour : (behaviourStamps calls).Pairwise fun earlier later => earlier.2 ≤ later.2 :=
    List.pairwise_map.mpr (List.pairwise_lt_range.imp Nat.le_of_lt)
  have hfirst : (firstStamps scenario).Pairwise fun earlier later => earlier.2 ≤ later.2 := by
    unfold firstStamps
    split
    · exact List.pairwise_singleton _ _
    · exact .nil
  have hteardown : last.Pairwise fun earlier later => earlier.2 ≤ later.2 := by
    rcases hlast with rfl | rfl
    · exact .nil
    · exact List.pairwise_singleton _ _
  rw [List.pairwise_append, List.pairwise_append]
  refine ⟨⟨hfirst, hbehaviour, ?_⟩, hteardown, ?_⟩
  · intro first hmem _ _
    rw [mem_firstStamps hmem]
    exact Nat.zero_le _
  · intro earlier hmem later hlater
    rcases hlast with rfl | rfl
    · cases hlater
    rw [List.mem_singleton.mp hlater]
    rcases List.mem_append.mp hmem with hmem | hmem
    · rw [mem_firstStamps hmem]
      exact Nat.zero_le _
    · have hlt := (mem_behaviourStamps hmem).2
      rcases hends with rfl | rfl <;> simp only <;> omega

theorem Timed.setup (h : Timed scenario user stamps) {iteration : Nat}
    (hmem : (.setup, iteration) ∈ stamps) : iteration = 0 := by
  obtain ⟨calls, last, -, hlast, rfl⟩ := h.shape
  rcases List.mem_append.mp hmem with hmem | hmem
  · rcases List.mem_append.mp hmem with hmem | hmem
    · exact congrArg Prod.snd (mem_firstStamps hmem)
    · cases (mem_behaviourStamps hmem).1
  · rcases hlast with rfl | rfl
    · cases hmem
    · cases List.mem_singleton.mp hmem

theorem Timed.teardown (h : Timed scenario user stamps) {iteration : Nat}
    (hmem : (.teardown, iteration) ∈ stamps) : iteration = user.iteration := by
  obtain ⟨calls, last, -, hlast, rfl⟩ := h.shape
  rcases List.mem_append.mp hmem with hmem | hmem
  · rcases List.mem_append.mp hmem with hmem | hmem
    · cases mem_firstStamps hmem
    · cases (mem_behaviourStamps hmem).1
  · rcases hlast with rfl | rfl
    · cases hmem
    · exact congrArg Prod.snd (List.mem_singleton.mp hmem)

/-- Among the visits, those of the behaviour are made in one iteration after the other. -/
theorem Timed.behaviour (h : Timed scenario user stamps) :
    ∃ calls, stamps.filter (fun stamp => stamp.1 == .behaviour) = behaviourStamps calls := by
  obtain ⟨calls, last, -, hlast, rfl⟩ := h.shape
  refine ⟨calls, ?_⟩
  have hfirst : (firstStamps scenario).filter (fun stamp => stamp.1 == .behaviour) = [] :=
    List.filter_eq_nil_iff.mpr fun stamp hmem => by
      rw [mem_firstStamps hmem]
      exact Bool.false_ne_true
  have hbehaviour : (behaviourStamps calls).filter (fun stamp => stamp.1 == .behaviour) =
      behaviourStamps calls :=
    List.filter_eq_self.mpr fun stamp hmem => by
      rw [(mem_behaviourStamps hmem).1]
      rfl
  have hteardown : last.filter (fun stamp => stamp.1 == .behaviour) = [] := by
    rcases hlast with rfl | rfl <;> rfl
  rw [List.filter_append, List.filter_append, hfirst, hbehaviour, hteardown, List.append_nil,
    List.nil_append]

end

/-- What a user has recorded bears its id, and the iteration of the visit in which it did. -/
structure Stamped {G V : Type} (user : User V) (visits : List (Visit G V)) : Prop where
  owner : ∀ result ∈ visits.flatMap Visit.results, result.virtualUser = user.id
  ordered : (visits.flatMap Visit.results).Pairwise fun earlier later =>
    earlier.iteration ≤ later.iteration
  setup : ∀ visit ∈ visits, visit.hook = .setup → ∀ result ∈ visit.results, result.iteration = 0
  behaviour : ∀ (i : Nat) (visit : Visit G V), (visits.filter (·.hook == .behaviour))[i]? = some visit →
    ∀ result ∈ visit.results, result.iteration = i
  teardown : ∀ visit ∈ visits, visit.hook = .teardown →
    ∀ result ∈ visit.results, result.iteration = user.iteration

theorem Recounted.stamped {G V : Type} {scenario : Scenario G V} {options : Options} {good : G → Prop}
    {user : User V} {notes : List Entry} {took : List Taken} {visits : List (Visit G V)}
    (h : Recounted scenario options good user notes took visits) : Stamped user visits := by
  have hstamp : ∀ visit ∈ visits, visit.stamp ∈ visits.map Visit.stamp :=
    fun visit hmem => List.mem_map.mpr ⟨visit, hmem, rfl⟩
  constructor
  case owner =>
    intro result hmem
    obtain ⟨visit, hvisit, hmem⟩ := List.mem_flatMap.mp hmem
    rw [(Visit.of_mem_results hmem).1]
    exact (h.accounted.made visit hvisit).2
  case ordered =>
    rw [List.pairwise_flatMap]
    constructor
    · intro visit _
      exact List.pairwise_map.mpr (List.pairwise_of_forall fun _ _ => Nat.le_refl _)
    · refine (List.pairwise_map.mp h.timed.pairwise).imp fun {first second} hle => ?_
      intro earlier hearlier later hlater
      rw [(Visit.of_mem_results hearlier).2, (Visit.of_mem_results hlater).2]
      exact hle
  case setup =>
    intro visit hvisit hhook result hmem
    have hmade := hstamp visit hvisit
    rw [Visit.stamp, hhook] at hmade
    rw [(Visit.of_mem_results hmem).2]
    exact h.timed.setup hmade
  case behaviour =>
    intro i visit hget result hmem
    obtain ⟨calls, hcalls⟩ := h.timed.behaviour
    rw [List.filter_map] at hcalls
    have hi : (behaviourStamps calls)[i]? = some visit.stamp := by
      rw [← hcalls, List.getElem?_map]
      exact congrArg (Option.map Visit.stamp) hget
    rw [behaviourStamps, List.getElem?_map] at hi
    obtain ⟨iteration, hrange, hstamp⟩ := Option.map_eq_some_iff.mp hi
    obtain ⟨hlt, hiteration⟩ := List.getElem?_eq_some_iff.mp hrange
    rw [List.getElem_range] at hiteration
    rw [(Visit.of_mem_results hmem).2, hiteration]
    exact (congrArg Prod.snd hstamp).symm
  case teardown =>
    intro visit hvisit hhook result hmem
    have hmade := hstamp visit hvisit
    rw [Visit.stamp, hhook] at hmade
    rw [(Visit.of_mem_results hmem).2]
    exact h.timed.teardown hmade

/-! ## What a list of tests leaves in the log -/

/-- What is recorded for a list of tests, one result each and in their order. -/
def tested {β : Type} (desk : Desk) (b : β) (tests : List (String × (β → Bool))) :
    List CheckResult :=
  tests.map fun (name, test) => desk.stamp name (test b)

/-- At this moment one result is put at the end of the log, and nothing else happens. -/
def Moment.Appends (moment : Moment) (result : CheckResult) : Prop :=
  moment.after =
    { moment.before with recorder := moment.before.recorder.record result }

/-- At each of its moments, a party stands at its own desk. -/
theorem Plays.performs {α : Type} {desk : Desk} {work : Work α} {moments : List Moment} {value : α}
    (h : Plays desk work moments value) :
    ∀ moment ∈ moments, ∃ connects later,
      moment.before.perform { desk with connects := connects } moment.outside moment.action =
        some (moment.after, later, moment.answer) := by
  induction h with
  | done => exact fun _ hmem => absurd hmem List.not_mem_nil
  | act before outside hperform _ ih =>
    intro moment hmem
    rcases List.mem_cons.mp hmem with rfl | hmem
    · exact ⟨_, _, hperform⟩
    · obtain ⟨connects, last, hlater⟩ := ih moment hmem
      rw [desk_of_perform hperform] at hlater
      exact ⟨connects, last, hlater⟩

theorem passed_stamp (desk : Desk) (name : String) (passed : Bool) :
    (desk.stamp name passed).passed = passed := by
  unfold Desk.stamp
  split <;> rfl

theorem Plays.appends {α : Type} {desk : Desk} {work : Work α} {moments : List Moment} {value : α}
    (h : Plays desk work moments value) {moment : Moment} (hmem : moment ∈ moments) {name : String}
    {passed : Bool} (htaken : moment.toTaken = Hook.checked name passed) :
    moment.Appends (desk.stamp name passed) := by
  obtain ⟨connects, later, hperform⟩ := h.performs moment hmem
  obtain ⟨⟨action, answer⟩, before, outside, after⟩ := moment
  cases htaken
  simp only [Shared.perform, Option.some.injEq, Prod.mk.injEq] at hperform
  exact hperform.1.symm

/-- A list of tests is recorded whole and in order, whatever else is recorded meanwhile, and comes
to the conjunction of the results that were. -/
theorem appends_of_checkAll {σ β : Type} {desk : Desk} {b : β} {tests : List (String × (β → Bool))}
    {kept last : σ} {moments : List Moment} {result : Except Fault Bool}
    (h : Plays desk ((Hook.checkAll b tests).run.run kept) moments (result, last)) :
    List.Forall₂ Moment.Appends moments (tested desk b tests) ∧
      result = .ok ((tested desk b tests).all (·.passed)) ∧ last = kept := by
  obtain ⟨htaken, hresult, hlast⟩ := Hook.takes_checkAll_iff.mp h.takes
  refine ⟨?_, ?_, hlast⟩
  · have hall : ∀ moment ∈ moments, ∀ name passed,
        moment.toTaken = Hook.checked name passed → moment.Appends (desk.stamp name passed) :=
      fun moment hmem _ _ heq => h.appends hmem heq
    have hequal : List.Forall₂ (· = ·) (moments.map Moment.toTaken)
        (tests.map fun test => Hook.checked test.1 (test.2 b)) := by
      rw [List.forall₂_eq_eq_eq]
      exact htaken
    have hpairs := List.forall₂_map_left_iff.mp (List.forall₂_map_right_iff.mp hequal)
    rw [tested, List.forall₂_map_right_iff]
    exact ((List.forall₂_and_left _ _).mpr ⟨hall, hpairs⟩).imp fun _ _ ⟨hmoment, heq⟩ =>
      hmoment _ _ heq
  · rw [hresult, tested, List.all_map]
    congr 2
    funext test
    exact (passed_stamp _ _ _).symm

/-! ## The whole log -/

namespace State

variable {G V : Type}

/-- What every party has recorded on its own: a user in its visits, and the run itself. -/
def recordedBy (state : State G V) (visits : Nat → List (Visit G V)) :
    Option Nat → List CheckResult
  | some id => (visits id).flatMap Visit.results
  | none => (state.history.filter (·.user? == none)).filterMap Entry.check?

theorem Visited.filterMap_check?_notes {scenario : Scenario G V} {options : Options}
    {good : G → Prop} {state : State G V} {took : Nat → List Taken}
    {visits : Nat → List (Visit G V)} (h : state.Visited scenario options good took visits)
    (habsent : ∀ id, state.users[id]? = none → state.notes id = []) (id : Nat) :
    (state.notes id).filterMap Entry.check? = (visits id).flatMap Visit.results := by
  cases huser : state.users[id]? with
  | none =>
    rw [habsent id huser, (h.absent id (List.getElem?_eq_none_iff.mp huser)).2]
    rfl
  | some user =>
    have hnoted := congrArg (List.filterMap Entry.check?)
      (h.present id user huser).2.accounted.noted
    rw [List.filterMap_filter, List.filterMap_flatMap] at hnoted
    simp only [Visit.filterMap_check?_entries] at hnoted
    rw [← hnoted]
    congr 1
    funext entry
    split
    · rfl
    · rename_i hother
      exact Entry.check?_of_not_isOfHook (Bool.not_eq_true _ ▸ hother)

/-- In every run the log of checks is a shuffle of what the users have recorded in their visits,
and of what the run itself has.  All that a user has recorded bears its id and the iteration of the
visit, in the order in which visits are made; and a list of tests comes to the conjunction of what
it has put in the log. -/
theorem log_shuffled (scenario : Scenario G V) (options : Options) (startedAt : Int)
    (moves : List Move) :
    (∃ visits, ((State.start scenario options startedAt).after moves).Visited scenario options
        (fun _ => True) (fun id => (State.start scenario options startedAt).took id moves) visits ∧
      Shuffles ((State.start scenario options startedAt).after moves).shared.recorder.results
        (((State.start scenario options startedAt).after moves).recordedBy visits) ∧
      ∀ id user, ((State.start scenario options startedAt).after moves).users[id]? = some user →
        Stamped user (visits id)) ∧
      ∀ {σ β : Type} (desk : Desk) (b : β) (tests : List (String × (β → Bool))) (kept last : σ)
        (moments : List Moment) (result : Except Fault Bool),
        Plays desk ((Hook.checkAll b tests).run.run kept) moments (result, last) →
          List.Forall₂ Moment.Appends moments (tested desk b tests) ∧
            result = .ok ((tested desk b tests).all (·.passed)) := by
  refine ⟨?_, fun desk b tests kept last moments result h =>
    ⟨(appends_of_checkAll h).1, (appends_of_checkAll h).2.1⟩⟩
  obtain ⟨visits, hvisited⟩ := exists_visits scenario options startedAt (fun _ => True)
    (fun _ _ => trivial) moves
  refine ⟨visits, hvisited, ?_, fun id user huser => (hvisited.present id user huser).2.stamped⟩
  have habsent : ∀ id, ((start scenario options startedAt).after moves).users[id]? = none →
      ((start scenario options startedAt).after moves).notes id = [] :=
    fun _ => notes_eq_nil scenario options startedAt moves
  rw [State.results_after]
  generalize (State.start scenario options startedAt).after moves = state at *
  refine ⟨state.history.filterMap Entry.recorded?, ?_, fun key => ?_⟩
  · rw [List.map_filterMap]
    congr 1
    funext entry
    rw [Entry.recorded?, Option.map_map]
    exact Option.map_id' 
  · have hkey : ((state.history.filterMap Entry.recorded?).filter fun recorded =>
        recorded.1 == key).map Prod.snd =
          (state.history.filter (·.user? == key)).filterMap Entry.check? := by
      rw [List.filter_filterMap, List.map_filterMap, List.filterMap_filter]
      congr 1
      funext entry
      exact Entry.filter_recorded? key entry
    rw [hkey]
    cases key with
    | none => rfl
    | some id => exact hvisited.filterMap_check?_notes habsent id

/-- Two users record one result each, the later one first, and a list of two tests of which one
fails comes to a failure. -/
theorem log_shuffled_sample :
    (∃ (visits : Nat → List (Visit Unit Unit)) (user : User Unit),
      Shuffles ((State.start Sample.scenario (Sample.options 2 none) 0).after
          (Sample.control 3 ++ Sample.user 1 12 ++ Sample.user 0 12)).shared.recorder.results
        (((State.start Sample.scenario (Sample.options 2 none) 0).after
          (Sample.control 3 ++ Sample.user 1 12 ++ Sample.user 0 12)).recordedBy visits) ∧
      ((State.start Sample.scenario (Sample.options 2 none) 0).after
          (Sample.control 3 ++ Sample.user 1 12 ++ Sample.user 0 12)).shared.recorder.results =
        [⟨"alive", true, 1, 0⟩, ⟨"alive", true, 0, 0⟩] ∧
      ((State.start Sample.scenario (Sample.options 2 none) 0).after
        (Sample.control 3 ++ Sample.user 1 12 ++ Sample.user 0 12)).users[1]? = some user ∧
      Stamped user (visits 1)) ∧
    ∃ moments, Plays ⟨.user 1, 4, 0⟩ ((Hook.checkAll 3 [("small", (· < 5)),
        ("even", (· % 2 == 0))]).run.run ()) moments (.ok false, ()) ∧
      List.Forall₂ Moment.Appends moments [⟨"small", true, 1, 4⟩, ⟨"even", false, 1, 4⟩] := by
  obtain ⟨⟨visits, -, hshuffles, hstamped⟩, htested⟩ :=
    log_shuffled Sample.scenario (Sample.options 2 none) 0
      (Sample.control 3 ++ Sample.user 1 12 ++ Sample.user 0 12)
  refine ⟨⟨visits, _, hshuffles, rfl, rfl, hstamped 1 _ rfl⟩, ?_⟩
  have hplays : Plays ⟨.user 1, 4, 0⟩ ((Hook.checkAll 3 [("small", (· < 5)),
      ("even", (· % 2 == 0))]).run.run ()) _ (.ok false, ()) :=
    .act (.start "sample" (.start 0 false)) .offline rfl
      (.act (.start "sample" (.start 0 false)) .offline rfl .done)
  exact ⟨_, hplays, (htested _ _ _ _ _ _ _ hplays).1⟩

end State

end Run

end LoadHarness
