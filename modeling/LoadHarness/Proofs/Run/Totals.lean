import LoadHarness.Proofs.Run.Accounting
import LoadHarness.Proofs.Run.Actions
import LoadHarness.Proofs.Run.Setup
import LoadHarness.Proofs.Run.Shuffle

/-! The totals of a run, as sums over the visits of its users.

The recorder, the reporter and the ledger each keep their own count, and each is a count of what
the journal tells.  In a run of which the own hooks only ask the network, the journal tells of
nothing but visits, in some order (`Visited.perm_filterMap`).  So when the run is finished,
every total is a sum over the visits (`totals_of_finished`), and an equation between totals
is a matter of one visit alone. -/

namespace LoadHarness

/-- The counts of a check in a summary; zero for one that was never made. -/
def Summary.countsOf (summary : Summary) (name : String) : CheckCounts :=
  (summary.checks.get? name).getD .zero

/-- Whether an action is a line of the log, or a question to the network. -/
def Action.Asks : Action → Prop
  | .log .. | .ask _ => True
  | _ => False

/-- How many connections were opened. -/
def openings (taken : List Taken) : Nat := taken.countP (·.action.isOpening)

@[simp] theorem openings_append (first rest : List Taken) :
    openings (first ++ rest) = openings first + openings rest := List.countP_append

theorem openings_entries (taken : List Taken) : openings (entries taken) = openings taken := by
  rw [openings, entries, List.countP_filter, openings]
  refine List.countP_congr fun first _ => ?_
  obtain ⟨action, answer⟩ := first
  cases action <;> simp [Action.isOpening, Action.isEntry]

theorem openings_wire (taken : List Taken) : openings (wire taken) = openings taken := by
  rw [← openings_entries, entries_wire, openings_entries]

/-! ## The counts of one operation -/

/-- How many records there are of an operation. -/
def tried (id : String) (operations : List Operation) : Nat := operations.countP (·.id == id)

/-- How many records of an operation say that it has not failed. -/
def succeeded (id : String) (operations : List Operation) : Nat :=
  operations.countP fun operation => operation.id == id && !operation.failed

/-- What a record says: which operation it is of, and whether that has failed. -/
def Operation.mark (operation : Operation) : String × Bool := (operation.id, operation.failed)

/-- What the records that were made say. -/
def marks (taken : List Taken) : List (String × Bool) := (records taken).map Operation.mark

@[simp] theorem marks_append (first rest : List Taken) :
    marks (first ++ rest) = marks first ++ marks rest := by
  rw [marks, records_append, List.map_append]
  rfl

theorem tried_records (id : String) (taken : List Taken) :
    tried id (records taken) = (marks taken).countP (·.1 == id) := by
  rw [marks, List.countP_map]
  rfl

theorem succeeded_records (id : String) (taken : List Taken) :
    succeeded id (records taken) = (marks taken).countP fun mark => mark.1 == id && !mark.2 := by
  rw [marks, List.countP_map]
  rfl

theorem countP_failed_records (taken : List Taken) :
    (records taken).countP (·.failed) = (marks taken).countP (·.2) := by
  rw [marks, List.countP_map]
  rfl

namespace Run

/-! ## What the journal tells of visits -/

variable {G V : Type}

/-- The summary of a run, if it is finished. -/
def Conclusion.summary? : Conclusion → Option Summary
  | .finished summary => some summary
  | .failed _ | .crashed _ | .panicked _ => none

theorem Conclusion.summary?_eq_some_iff {conclusion : Conclusion} {summary : Summary} :
    conclusion.summary? = some summary ↔ conclusion = .finished summary := by
  cases conclusion <;> simp [summary?]

namespace Visit

/-- The outcome of a call of the behaviour that returned. -/
def outcome? (visit : Visit G V) : Option (Except Failure Unit) :=
  match visit.hook, visit.ending with
  | .behaviour, some (.ok (), _) => some (.ok ())
  | .behaviour, some (.error (.failure failure), _) => some (.error failure)
  | _, _ => none

/-- What is recorded of an iteration, if the visit is one that counts. -/
def recorded? (visit : Visit G V) : Option (Option String) := visit.outcome?.bind recordOf

theorem filterMap_outcome?_entries (visit : Visit G V) :
    visit.entries.filterMap Entry.outcome? = visit.outcome?.toList := by
  have hacts : (visit.taken.map fun taken => Entry.acted (.user visit.context.id)
      visit.context.iteration taken.action).filterMap Entry.outcome? = [] := by
    rw [List.filterMap_map]
    exact List.filterMap_eq_nil_iff.mpr fun _ _ => rfl
  rw [entries, List.filterMap_append, hacts, List.nil_append]
  obtain ⟨hook, context, value, taken, ending⟩ := visit
  cases ending with
  | none => cases hook <;> rfl
  | some last =>
    obtain ⟨fault | _, next⟩ := last
    · cases hook <;> cases fault <;> rfl
    · cases hook <;> rfl

theorem filterMap_operation?_entries (visit : Visit G V) :
    visit.entries.filterMap Entry.operation? = records visit.taken := by
  have hends : (visit.ending.toList.map fun last => Entry.called (.user visit.context.id)
      visit.hook.kind visit.context.iteration last.1).filterMap Entry.operation? = [] := by
    cases visit.ending <;> rfl
  rw [entries, List.filterMap_append, hends, List.append_nil, List.filterMap_map, records]
  congr 1
  funext taken
  obtain ⟨action, answer⟩ := taken
  cases action <;> rfl

theorem countP_opens_entries (visit : Visit G V) :
    visit.entries.countP Entry.opens = openings visit.taken := by
  have hends : (visit.ending.toList.map fun last => Entry.called (.user visit.context.id)
      visit.hook.kind visit.context.iteration last.1).countP Entry.opens = 0 := by
    cases visit.ending <;> rfl
  rw [entries, List.countP_append, hends, Nat.add_zero, List.countP_map]
  rfl

theorem map_results (calls : List (Visit G V)) :
    (calls.flatMap results).map (fun result => (result.name, result.passed)) =
      checks (calls.flatMap (·.taken)) := by
  rw [List.map_flatMap, checks, List.filterMap_flatMap]
  refine List.flatMap_congr fun visit _ => ?_
  rw [results, List.map_map]
  exact List.map_id _

/-- The counts of a check are those of what was recorded under its name. -/
theorem countsOf_results (name : String) (calls : List (Visit G V)) :
    countsOf name (calls.flatMap results) =
      ⟨(checks (calls.flatMap (·.taken))).countP fun check => check.1 == name && check.2,
        (checks (calls.flatMap (·.taken))).countP fun check => check.1 == name && !check.2⟩ := by
  rw [← map_results, List.countP_map, List.countP_map]
  rfl

theorem total_countsOf_results (name : String) (calls : List (Visit G V)) :
    (countsOf name (calls.flatMap results)).total =
      (checks (calls.flatMap (·.taken))).countP (·.1 == name) := by
  rw [total_countsOf, ← map_results, List.countP_map]
  rfl

theorem Made.leaves {scenario : Scenario G V} {options : Options} {good : G → Prop}
    {visit : Visit G V} (h : visit.Made scenario options good) :
    ∃ rest, visit.Leaves scenario rest := by
  have hgoes := h.goes
  unfold Goes at hgoes
  split at hgoes
  · exact ⟨_, hgoes⟩
  · exact hgoes

/-- A visit that is over is one in which the hook has come to its end. -/
theorem Made.takes {scenario : Scenario G V} {options : Options} {good : G → Prop}
    {visit : Visit G V} {result : Except Fault Unit} {next : V}
    (h : visit.Made scenario options good) (hending : visit.ending = some (result, next)) :
    ∃ body, visit.hook.ofScenario scenario = some body ∧
      Hook.Takes (body visit.context) visit.value visit.taken result next := by
  have hgoes := h.goes
  rw [Goes, hending] at hgoes
  obtain ⟨body, hbody, hleaves⟩ := hgoes
  exact ⟨body, hbody, hleaves.takes_of_done⟩

end Visit

/-- What the values have at first and every visit keeps, all visits of a user begin with, and all
are over. -/
theorem Chained.keep {P : V → Prop} {value last : V} {visits : List (Visit G V)}
    (h : Chained value visits last) (hvalue : P value)
    (hkeep : ∀ visit ∈ visits, ∀ result next, visit.ending = some (result, next) →
      P visit.value → P next) :
    P last ∧ ∀ visit ∈ visits, P visit.value ∧ ∃ result next, visit.ending = some (result, next) := by
  induction visits generalizing value with
  | nil =>
    obtain rfl := h
    exact ⟨hvalue, fun _ hmem => absurd hmem List.not_mem_nil⟩
  | cons visit visits ih =>
    obtain ⟨rfl, result, next, hending, hrest⟩ := h
    obtain ⟨hkeepVisit, hkeepRest⟩ := List.forall_mem_cons.mp hkeep
    obtain ⟨hlast, hall⟩ := ih hrest (hkeepVisit result next hending hvalue) hkeepRest
    exact ⟨hlast, List.forall_mem_cons.mpr ⟨⟨hvalue, result, next, hending⟩, hall⟩⟩

/-- What the values have at first and every visit keeps, a user has between its visits, and all its
visits begin with. -/
theorem Recounted.keep {scenario : Scenario G V} {options : Options} {good : G → Prop}
    {user : User V} {notes : List Entry} {took : List Taken} {visits : List (Visit G V)}
    {P : V → Prop} (h : Recounted scenario options good user notes took visits)
    (hfresh : P scenario.fresh)
    (hkeep : ∀ visit : Visit G V, visit.Made scenario options good → ∀ result next,
      visit.ending = some (result, next) → P visit.value → P next) :
    P user.value ∧ ∀ visit ∈ visits, P visit.value := by
  have hmade : ∀ visit ∈ visits, ∀ result next, visit.ending = some (result, next) →
      P visit.value → P next := fun visit hmem => hkeep visit (h.accounted.made visit hmem).1
  have houtside (hchained : Chained scenario.fresh visits user.value) :
      P user.value ∧ ∀ visit ∈ visits, P visit.value := by
    obtain ⟨hlast, hall⟩ := hchained.keep hfresh hmade
    exact ⟨hlast, fun visit hmem => (hall visit hmem).1⟩
  have hinside {hook : UserHook} {work : Begun V} (hstands : Inside scenario hook user work visits) :
      P user.value ∧ ∀ visit ∈ visits, P visit.value := by
    obtain ⟨earlier, context, taken, rfl, -, -, hchained, -⟩ := hstands
    obtain ⟨hlast, hall⟩ := hchained.keep hfresh (List.forall_mem_append.mp hmade).1
    exact ⟨hlast, List.forall_mem_append.mpr
      ⟨fun visit hmem => (hall visit hmem).1, List.forall_mem_singleton.mpr hlast⟩⟩
  have hstands := h.stands
  unfold Stands at hstands
  split at hstands
  · exact hinside hstands
  · exact hinside hstands
  · exact hinside hstands
  · exact houtside hstands.1
  all_goals exact houtside hstands

/-- A user that is at its end has ended all its visits. -/
theorem Recounted.ended {scenario : Scenario G V} {options : Options} {good : G → Prop}
    {user : User V} {notes : List Entry} {took : List Taken} {visits : List (Visit G V)}
    (h : Recounted scenario options good user notes took visits) (hover : user.isOver = true) :
    ∀ visit ∈ visits, ∃ result next, visit.ending = some (result, next) := by
  have hchained : Chained scenario.fresh visits user.value := by
    have hstands := h.stands
    unfold User.isOver at hover
    split at hover
    · rename_i hpoint
      simp only [Stands, hpoint] at hstands
      exact hstands
    · rename_i hpoint
      simp only [Stands, hpoint] at hstands
      exact hstands.1
    · cases hover
  have hall := (hchained.keep (P := fun _ => True) trivial fun _ _ _ _ _ _ => trivial).2
  exact fun visit hmem => (hall visit hmem).2

namespace State

variable {scenario : Scenario G V} {options : Options} {good : G → Prop} {state : State G V}
  {took : Nat → List Taken} {visits : Nat → List (Visit G V)}

/-- The visits of all users. -/
def allVisits (state : State G V) (visits : Nat → List (Visit G V)) : List (Visit G V) :=
  (List.range state.users.length).flatMap visits

theorem Visited.of_mem_allVisits (h : state.Visited scenario options good took visits)
    {visit : Visit G V} (hmem : visit ∈ state.allVisits visits) :
    ∃ id user, state.users[id]? = some user ∧ visit ∈ visits id ∧
      Recounted scenario options good user (state.notes id) (took id) (visits id) := by
  obtain ⟨id, hid, hvisit⟩ := List.mem_flatMap.mp hmem
  obtain ⟨user, huser⟩ : ∃ user, state.users[id]? = some user :=
    ⟨_, List.getElem?_eq_getElem (List.mem_range.mp hid)⟩
  exact ⟨id, user, huser, hvisit, (h.present id user huser).2⟩

/-- What the values have at first and every visit keeps, all users have between their visits, and
all visits begin with. -/
theorem Visited.keep {P : V → Prop} (h : state.Visited scenario options good took visits)
    (hfresh : P scenario.fresh)
    (hkeep : ∀ visit : Visit G V, visit.Made scenario options good → ∀ result next,
      visit.ending = some (result, next) → P visit.value → P next) :
    (∀ (id : Nat) (user : User V), state.users[id]? = some user → P user.value) ∧
      ∀ visit ∈ state.allVisits visits, visit.Made scenario options good ∧ P visit.value := by
  have hrecounted : ∀ (id : Nat) (user : User V), state.users[id]? = some user →
      P user.value ∧ ∀ visit ∈ visits id, P visit.value := fun id user huser =>
    (h.present id user huser).2.keep hfresh hkeep
  refine ⟨fun id user huser => (hrecounted id user huser).1, fun visit hmem => ?_⟩
  obtain ⟨id, user, huser, hvisit, htold⟩ := h.of_mem_allVisits hmem
  exact ⟨(htold.accounted.made visit hvisit).1, (hrecounted id user huser).2 visit hvisit⟩

/-- Where all users are at their end, all visits are over. -/
theorem Visited.ended (h : state.Visited scenario options good took visits)
    (hover : state.allOver = true) :
    ∀ visit ∈ state.allVisits visits, visit.Made scenario options good ∧
      ∃ result next, visit.ending = some (result, next) := by
  intro visit hmem
  obtain ⟨id, user, huser, hvisit, htold⟩ := h.of_mem_allVisits hmem
  have hisover := List.all_eq_true.mp hover user (List.mem_of_getElem? huser)
  exact ⟨(htold.accounted.made visit hvisit).1, htold.ended hisover visit hvisit⟩

/-- What entries of users tell is told by the visits, in some order. -/
theorem Visited.perm_filterMap {β : Type} (h : state.Visited scenario options good took visits)
    (habsent : ∀ id, state.users[id]? = none → state.notes id = []) (f : Entry → Option β)
    (hhook : ∀ entry, entry.isOfHook = false → f entry = none)
    (hrun : ∀ entry ∈ state.history, entry.user? = none → f entry = none) :
    (state.history.filterMap f).Perm
      ((state.allVisits visits).flatMap fun visit => visit.entries.filterMap f) := by
  have hknown : ∀ entry ∈ state.history, ∀ id, entry.user? = some id → id < state.users.length := by
    intro entry hmem id hid
    by_contra hge
    have hnone := habsent id (List.getElem?_eq_none (Nat.le_of_not_lt hge))
    have hnoted : entry ∈ state.notes id := List.mem_filter.mpr ⟨hmem, by rw [hid]; simp⟩
    rw [hnone] at hnoted
    cases hnoted
  have hperm := (perm_flatMap_range Entry.user? state.history _ hknown).filterMap f
  have husers : (state.history.filter fun entry => entry.user?.isSome).filterMap f =
      state.history.filterMap f := by
    rw [List.filterMap_filter]
    refine List.filterMap_congr fun entry hmem => ?_
    cases huser : entry.user? with
    | none => exact (hrun entry hmem huser).symm
    | some id => rfl
  have hnotes : ∀ id ∈ List.range state.users.length, (state.notes id).filterMap f =
      (visits id).flatMap fun visit => visit.entries.filterMap f := by
    intro id hid
    have huser : state.users[id]? = some _ := List.getElem?_eq_getElem (List.mem_range.mp hid)
    have hnoted := congrArg (List.filterMap f) (h.present id _ huser).2.accounted.noted
    rw [List.filterMap_filter, List.filterMap_flatMap] at hnoted
    rw [← hnoted]
    refine List.filterMap_congr fun entry _ => ?_
    cases hof : entry.isOfHook with
    | false => exact hhook entry hof
    | true => rfl
  rw [husers, List.filterMap_flatMap] at hperm
  rw [allVisits, List.flatMap_assoc, ← List.flatMap_congr hnotes]
  exact hperm

/-- What a user has done is what its hooks keep to. -/
theorem Visited.which_of_acted {which : Action → Prop}
    (h : state.Visited scenario options good took visits)
    (habsent : ∀ id, state.users[id]? = none → state.notes id = [])
    (hkept : ∀ (hook : UserHook) body, hook.ofScenario scenario = some body → ∀ context,
      Hook.Only which (body context)) {id iteration : Nat} {action : Action}
    (hmem : .acted (.user id) iteration action ∈ state.history) : which action := by
  have hnoted : .acted (.user id) iteration action ∈ state.notes id :=
    List.mem_filter.mpr ⟨hmem, beq_self_eq_true _⟩
  cases huser : state.users[id]? with
  | none =>
    rw [habsent id huser] at hnoted
    cases hnoted
  | some user =>
    have haccounted := (h.present id user huser).2.accounted
    have hentry : .acted (.user id) iteration action ∈ (visits id).flatMap Visit.entries := by
      rw [← haccounted.noted]
      exact List.mem_filter.mpr ⟨hnoted, rfl⟩
    obtain ⟨visit, hvisit, hentry⟩ := List.mem_flatMap.mp hentry
    rcases List.mem_append.mp hentry with hacted | hcalled
    · obtain ⟨taken, htaken, heq⟩ := List.mem_map.mp hacted
      cases heq
      obtain ⟨rest, body, hbody, hleaves⟩ := (haccounted.made visit hvisit).1.leaves
      exact ((hkept visit.hook body hbody visit.context visit.value).of_leaves hleaves).1 taken htaken
    · obtain ⟨_, -, heq⟩ := List.mem_map.mp hcalled
      cases heq

/-! ## A finished run -/

/-- What is told of the run itself is none of what the totals count. -/
structure Aloof (entry : Entry) : Prop where
  check : entry.check? = none
  operation : entry.operation? = none
  outcome : entry.outcome? = none
  opens : entry.opens = false

theorem aloof_of_user?_eq_none (hprovides : Provides scenario options Action.Asks good)
    (startedAt : Int) (moves : List Move) :
    ∀ entry ∈ ((State.start scenario options startedAt).after moves).history,
      entry.user? = none → Aloof entry := by
  intro entry hmem huser
  cases entry with
  | looked => cases huser
  | finalized => exact ⟨rfl, rfl, rfl, rfl⟩
  | called party hook iteration result =>
    cases party with
    | user => cases huser
    | run | background => exact ⟨rfl, rfl, rfl, rfl⟩
  | acted party iteration action =>
    cases party with
    | user => cases huser
    | background => exact absurd rfl (party_of_acted scenario options startedAt moves _ _ _ hmem)
    | run =>
      have hasks := which_of_acted hprovides startedAt moves iteration action hmem
      cases action with
      | log | ask => exact ⟨rfl, rfl, rfl, rfl⟩
      | _ => cases hasks

/-- The totals of a finished run: what its summary says, what the reporter was handed, and what is
in the books, counted over visits. -/
structure Totals (state : State G V) (calls : List (Visit G V)) (summary : Summary) : Prop where
  iterations : summary.iterations = (calls.filterMap Visit.recorded?).length
  failed : summary.totalFailed = (calls.filterMap Visit.recorded?).countP Option.isSome
  checks : summary.checks = summarize (calls.flatMap Visit.results)
  operations : state.operations.Perm (records (calls.flatMap (·.taken)))
  opened : state.shared.ledger.opened =
    openings (calls.flatMap (·.taken)) + state.backgroundConnects

/-- All users are at their end once the run is finished. -/
theorem allOver_of_finished {startedAt : Int} {moves : List Move} {summary : Summary}
    (hstate : (State.start scenario options startedAt).after moves = state)
    (hfinished : state.conclusion? = some (.finished summary)) : state.allOver = true := by
  have hstaged := staged_after scenario options startedAt moves
  rw [hstate] at hstaged
  simp only [Staged, stage_of_conclusion? hfinished] at hstaged
  exact allOver_of_ended hstaged.2

theorem totals_of_finished (hprovides : Provides scenario options Action.Asks good)
    {startedAt : Int} {moves : List Move} {summary : Summary}
    (hstate : (State.start scenario options startedAt).after moves = state)
    (hfinished : state.conclusion? = some (.finished summary))
    (hvisited : state.Visited scenario options good took visits) :
    Totals state (state.allVisits visits) summary := by
  have hover := allOver_of_finished hstate hfinished
  subst hstate
  obtain ⟨counted, hrecorded⟩ := exists_recorded_after scenario options startedAt moves
  have habsent : ∀ id, ((start scenario options startedAt).after moves).users[id]? = none →
      ((start scenario options startedAt).after moves).notes id = [] :=
    fun _ => notes_eq_nil scenario options startedAt moves
  have haloof := aloof_of_user?_eq_none hprovides startedAt moves
  have hresults := State.results_after scenario options startedAt moves
  have hopened := opened_after scenario options startedAt moves
  obtain ⟨opened, rfl⟩ := summary_eq rfl hfinished
  generalize (start scenario options startedAt).after moves = state at *
  have hcalls {β : Type} (f : Entry → Option β)
      (hhook : ∀ entry, entry.isOfHook = false → f entry = none)
      (hrun : ∀ entry, Aloof entry → f entry = none) :=
    hvisited.perm_filterMap habsent f hhook fun entry hmem huser =>
      hrun entry (haloof entry hmem huser)
  have hnotHook {β : Type} {f : Entry → Option β} (hlooked : ∀ user iteration raised,
      f (.looked user iteration raised) = none) (hfinal : ∀ checks, f (.finalized checks) = none) :
      ∀ entry, entry.isOfHook = false → f entry = none := by
    intro entry hof
    cases entry with
    | acted | called => cases hof
    | looked => exact hlooked _ _ _
    | finalized => exact hfinal _
  have houtcomes := hcalls Entry.outcome? (hnotHook (fun _ _ _ => rfl) fun _ => rfl)
    fun _ h => h.outcome
  have hchecks := hcalls Entry.check? (hnotHook (fun _ _ _ => rfl) fun _ => rfl) fun _ h => h.check
  have hoperations := hcalls Entry.operation? (hnotHook (fun _ _ _ => rfl) fun _ => rfl)
    fun _ h => h.operation
  have hopens := hcalls (Option.guard Entry.opens) (hnotHook (fun _ _ _ => rfl) fun _ => rfl)
    fun entry h => by rw [Option.guard, h.opens]; rfl
  simp only [Visit.filterMap_outcome?_entries, Visit.filterMap_check?_entries,
    Visit.filterMap_operation?_entries] at houtcomes hchecks hoperations
  have hcounted : counted.Perm ((state.allVisits visits).filterMap Visit.recorded?) := by
    have hperm := (hrecorded.perm_of_allOver hover).trans (houtcomes.filterMap recordOf)
    rw [← List.filterMap_eq_flatMap_toList, List.filterMap_filterMap] at hperm
    exact hperm
  constructor
  case iterations =>
    change state.shared.recorder.iterations = _
    rw [hrecorded.1.1, iterations_iterationLog, hcounted.length_eq]
  case failed =>
    change state.shared.recorder.failed.values.foldr (· + ·) 0 = _
    rw [hrecorded.1.2, totalFailed_iterationLog, hcounted.countP_eq]
  case checks =>
    change summarize state.shared.recorder.results = _
    rw [hresults]
    exact summarize_of_perm hchecks
  case operations =>
    rw [records, List.filterMap_flatMap]
    exact hoperations
  case opened =>
    simp only [List.filterMap_eq_filter] at hopens
    rw [hopened, List.countP_eq_length_filter, hopens.length_eq, openings, List.countP_flatMap,
      List.length_flatMap]
    congr 2
    refine List.map_congr_left fun visit _ => ?_
    rw [← List.countP_eq_length_filter, Visit.countP_opens_entries]
    rfl

/-- Where nothing happens beside a run and users keep what they open, a finished run has closed all
that it has opened, and its summary says so. -/
theorem connections_of_finished (hprovides : Provides scenario options Action.Asks good)
    (hkept : ∀ (hook : UserHook) body, hook.ofScenario scenario = some body → ∀ context,
      Hook.Only (· ≠ .connect true) (body context))
    {startedAt : Int} {moves : List Move} {summary : Summary}
    (hquiet : ∀ move ∈ moves, move.isBackground = false)
    (hstate : (State.start scenario options startedAt).after moves = state)
    (hfinished : state.conclusion? = some (.finished summary))
    (hvisited : state.Visited scenario options good took visits) :
    summary.connectionsOpened = openings ((state.allVisits visits).flatMap (·.taken)) ∧
      summary.connectionsClosed = summary.connectionsOpened := by
  have htotals := totals_of_finished hprovides hstate hfinished hvisited
  have hover := allOver_of_finished hstate hfinished
  subst hstate
  have hread := (read_start scenario options startedAt).after
    (staged_start scenario options startedAt) moves (rests_of_quiet _ hquiet)
  have hhomed := homed_after scenario options startedAt moves
  obtain ⟨hconserved, hnumbered⟩ := conserved_after scenario options startedAt moves
  have hlive := mem_live_after scenario options startedAt moves
  have hown := which_of_acted hprovides startedAt moves
  have hnone : ((start scenario options startedAt).after moves).backgroundConnects = 0 :=
    backgroundConnects_after _ hquiet
  have habsent : ∀ id, ((start scenario options startedAt).after moves).users[id]? = none →
      ((start scenario options startedAt).after moves).notes id = [] :=
    fun _ => notes_eq_nil scenario options startedAt moves
  generalize (start scenario options startedAt).openedBy moves = opened at *
  generalize (start scenario options startedAt).closedBy moves = closed at *
  generalize (start scenario options startedAt).after moves = state at *
  simp only [Read, stage_of_conclusion? hfinished] at hread
  -- work beside the run has opened nothing
  have hbeside : ∀ token ∈ state.shared.ledger.live, token.owner ≠ .background := by
    intro token hmem howner
    have hserial := hnumbered token (hconserved.kept.mem_iff.mpr (List.mem_append_right _ hmem))
    rw [howner, connectsOf, hnone] at hserial
    exact Nat.not_lt_zero _ hserial
  have hempty : state.shared.ledger.live = [] := by
    refine List.eq_nil_iff_forall_not_mem.mpr fun token hmem => ?_
    have hloose := hhomed.isLoose_of_allOver hover token hmem
    obtain howner | ⟨iteration, hacted⟩ := hlive token hmem
    · exact hbeside token hmem howner
    cases howner : token.owner with
    | background => exact hbeside token hmem howner
    | run =>
      rw [howner] at hacted
      exact hown _ _ hacted
    | user id =>
      simp only [Token.isLoose, howner] at hloose
      rw [howner, hloose] at hacted
      exact hvisited.which_of_acted habsent hkept hacted rfl
  have hlength := hconserved.kept.length_eq
  rw [hempty, List.append_nil, ← hconserved.countOpened, ← hconserved.countClosed] at hlength
  refine ⟨?_, by rw [hread.1, hread.2, hlength]⟩
  rw [hread.1, htotals.opened, hnone, Nat.add_zero]

end State

end Run

end LoadHarness
