import LoadHarness.Proofs.Run.Hooks
import LoadHarness.Proofs.Run.Stages
import LoadHarness.Proofs.Work.Orderly
import LoadHarness.Run.Execute

/-! The calls of hooks that a virtual user makes, with all that was answered to it.

A visit is one call of a hook, as far as it has come: where it began, what it has taken
with what came back, and how it ended if it has (`Visit`).  The life of a user is its
visits, one after the other, each begun with the value that the one before it has left
(`Recounted`).  They are no second account beside the run: their actions are those of the
journal, and their answers those that the moves of the user were given (`State.took`).

    notes of a user, without looks  =  entries of its visits
    what its moves were answered    =  what its visits have taken          (State.exists_visits) -/

namespace LoadHarness.Run

/-! ## What the moves of a user are answered -/

namespace User

variable {G V : Type}

/-- The action that a user takes, with what comes back. -/
def took? (user : User V) (shared : Shared) (outside : Outside) : Option Taken :=
  user.action?.bind fun action =>
    (shared.perform user.desk outside action).map fun (_, _, answer) => ⟨action, answer⟩

theorem step_acts {setting : Setting G V} {user : User V} {shared : Shared} {outside : Outside}
    {stepped : Stepped V} (hook : UserHook) {action : Action} {next : Answer action → Begun V}
    (hpoint : user.point = hook.point (.act action next))
    (h : user.step setting shared outside = some stepped) :
    ∃ (after : Shared) (desk : Desk) (answer : Answer action),
      user.took? shared outside = some ⟨action, answer⟩ ∧
        stepped = ⟨after, { user with connects := desk.connects, point := hook.point (next answer) },
          [.acted user.party user.iteration action]⟩ := by
  have hperform : ∃ after desk answer,
      shared.perform user.desk outside action = some (after, desk, answer) ∧
        stepped = ⟨after, { user with connects := desk.connects, point := hook.point (next answer) },
          [.acted user.party user.iteration action]⟩ := by
    cases hook <;>
      (simp only [step, hpoint, UserHook.point, stepHook] at h
       split at h
       · cases h
       · rename_i after desk answer hperform
         exact ⟨after, desk, answer, hperform, (Option.some.inj h).symm⟩)
  obtain ⟨after, desk, answer, hperform, rfl⟩ := hperform
  have haction : user.action? = some action := by
    rw [User.action?, hpoint]
    cases hook <;> rfl
  refine ⟨after, desk, answer, ?_, rfl⟩
  rw [took?, haction, Option.bind_some, hperform]
  rfl

/-- A user that cannot move is answered nothing. -/
theorem took?_of_step_eq_none {setting : Setting G V} {user : User V} {shared : Shared}
    {outside : Outside} (h : user.step setting shared outside = none) :
    user.took? shared outside = none := by
  unfold took? User.action?
  split
  case h_4 => rfl
  all_goals
    rename_i action next hpoint
    simp only [step, hpoint, stepHook] at h
    split at h
    · rename_i hperform
      rw [Option.bind_some, hperform]
      rfl
    · cases h

end User

namespace State

variable {G V : Type}

/-- What a user takes by a move, with what comes back, if that move is its own. -/
def took? (state : State G V) (id : Nat) : Move → Option Taken
  | .user mover outside =>
    if mover = id ∧ state.conclusion? = none then
      (state.users[id]?).bind (·.took? state.shared outside)
    else none
  | _ => none

/-- All that a user takes by moves, with what comes back, in order. -/
def took (state : State G V) (id : Nat) : List Move → List Taken
  | [] => []
  | move :: moves => (state.took? id move).toList ++ (state.step move).took id moves

theorem took_concat (state : State G V) (id : Nat) (moves : List Move) (move : Move) :
    state.took id (moves ++ [move]) =
      state.took id moves ++ ((state.after moves).took? id move).toList := by
  induction moves generalizing state with
  | nil => exact List.append_nil _
  | cons first moves ih => rw [List.cons_append, took, took, ih, List.append_assoc, after_cons]

end State

/-! ## One call of a hook -/

/-- One call of a hook by a virtual user, as far as it has come. -/
structure Visit (G V : Type) where
  hook : UserHook
  /-- What the hook can look at. -/
  context : UserContext G
  /-- The value of the user when the hook began. -/
  value : V
  taken : List Taken
  /-- The result, with the value that the hook has left; nothing while it goes on. -/
  ending : Option (Except Fault Unit × V)

namespace Visit

variable {G V : Type}

/-- What the journal says of a visit. -/
def entries (visit : Visit G V) : List Entry :=
  visit.taken.map (fun taken =>
      .acted (.user visit.context.id) visit.context.iteration taken.action) ++
    visit.ending.toList.map fun last =>
      .called (.user visit.context.id) visit.hook.kind visit.context.iteration last.1

/-- When a visit was made: in which hook, and in which iteration. -/
def stamp (visit : Visit G V) : UserHook × Nat := (visit.hook, visit.context.iteration)

/-- A hook of the scenario was called, has taken what the visit says, and has this left to do. -/
def Leaves (scenario : Scenario G V) (visit : Visit G V) (rest : Begun V) : Prop :=
  ∃ body, visit.hook.ofScenario scenario = some body ∧
    ((body visit.context).run.run visit.value).Leaves visit.taken rest

/-- The hook goes on from what it has taken, or has ended there. -/
def Goes (scenario : Scenario G V) (visit : Visit G V) : Prop :=
  match visit.ending with
  | some last => visit.Leaves scenario (.done last)
  | none => ∃ rest, visit.Leaves scenario rest

/-- A visit is as the hook of the scenario makes it, under the answers that came. -/
structure Made (scenario : Scenario G V) (options : Options) (good : G → Prop)
    (visit : Visit G V) : Prop where
  options : visit.context.options = options
  global : good visit.context.global
  goes : visit.Goes scenario

end Visit

/-- Visits that are all over, each begun with what the one before it has left. -/
def Chained {G V : Type} : V → List (Visit G V) → V → Prop
  | value, [], last => last = value
  | value, visit :: visits, last =>
    visit.value = value ∧ ∃ result next, visit.ending = some (result, next) ∧
      Chained next visits last

theorem chained_concat {G V : Type} {value middle last : V} {visits : List (Visit G V)}
    {visit : Visit G V} {result : Except Fault Unit} (h : Chained value visits middle)
    (hvalue : visit.value = middle) (hending : visit.ending = some (result, last)) :
    Chained value (visits ++ [visit]) last := by
  induction visits generalizing value with
  | nil =>
    obtain rfl := h
    exact ⟨hvalue, result, last, hending, rfl⟩
  | cons first visits ih =>
    obtain ⟨hfirst, outcome, next, hnext, hrest⟩ := h
    exact ⟨hfirst, outcome, next, hnext, ih hrest⟩

/-! ## When visits are made -/

section

variable {G V : Type} (scenario : Scenario G V)

/-- The setup comes first, if there is one. -/
def firstStamps : List (UserHook × Nat) := if scenario.userSetup.isSome then [(.setup, 0)] else []

/-- The behaviour is called in one iteration after the other. -/
def behaviourStamps (calls : Nat) : List (UserHook × Nat) :=
  (List.range calls).map fun iteration => (.behaviour, iteration)

/-- The teardown comes last, if there is one. -/
def lastStamps (iteration : Nat) : List (UserHook × Nat) :=
  if scenario.userTeardown.isSome then [(.teardown, iteration)] else []

/-- The index of a user at its end is that of the next call, or of the last one if it bailed or
broke off there. -/
def EndsAt (iteration calls : Nat) : Prop := calls = iteration ∨ calls = iteration + 1

/-- When the visits of a user were made, at every point of its life. -/
def Timed (user : User V) (stamps : List (UserHook × Nat)) : Prop :=
  match user.point with
  | .setup _ => user.iteration = 0 ∧ stamps = firstStamps scenario
  | .testSignal | .testCap | .pace =>
    stamps = firstStamps scenario ++ behaviourStamps user.iteration
  | .behaviour _ | .settle _ | .advance =>
    stamps = firstStamps scenario ++ behaviourStamps (user.iteration + 1)
  | .teardown _ => ∃ calls, EndsAt user.iteration calls ∧
    stamps = firstStamps scenario ++ behaviourStamps calls ++ [(.teardown, user.iteration)]
  | .leave | .ended => ∃ calls, EndsAt user.iteration calls ∧
    stamps = firstStamps scenario ++ behaviourStamps calls ++ lastStamps scenario user.iteration
  | .panicked _ => ∃ calls last, EndsAt user.iteration calls ∧
    (last = [] ∨ last = [(.teardown, user.iteration)]) ∧
    stamps = firstStamps scenario ++ behaviourStamps calls ++ last

end

/-! ## What is told of a user -/

/-- Whether an entry tells of what a hook does, or of how it ends. -/
def Entry.isOfHook : Entry → Bool
  | .acted .. | .called .. => true
  | .looked .. | .finalized _ => false

section

variable {G V : Type} (scenario : Scenario G V) (options : Options) (good : G → Prop)

/-- Visits account for what is noted of a user, and for what it was answered. -/
structure Accounted (id : Nat) (notes : List Entry) (took : List Taken)
    (visits : List (Visit G V)) : Prop where
  noted : notes.filter Entry.isOfHook = visits.flatMap Visit.entries
  answered : visits.flatMap (·.taken) = took
  made : ∀ visit ∈ visits, visit.Made scenario options good ∧ visit.context.id = id

/-- The last of these visits is under way, with this work left. -/
def Inside (hook : UserHook) (user : User V) (work : Begun V) (visits : List (Visit G V)) : Prop :=
  ∃ earlier context taken, visits = earlier ++ [⟨hook, context, user.value, taken, none⟩] ∧
    context.id = user.id ∧ context.iteration = user.iteration ∧
    Chained scenario.fresh earlier user.value ∧
    Visit.Leaves scenario ⟨hook, context, user.value, taken, none⟩ work

/-- Where a user stands after its visits. -/
def Stands (user : User V) (visits : List (Visit G V)) : Prop :=
  match user.point with
  | .setup work => Inside scenario .setup user work visits
  | .behaviour work => Inside scenario .behaviour user work visits
  | .teardown work => Inside scenario .teardown user work visits
  | .panicked text => Chained scenario.fresh visits user.value ∧
    ∃ visit ∈ visits, ∃ value, visit.ending = some (.error (.panic text), value)
  | .testSignal | .testCap | .settle _ | .advance | .pace | .leave | .ended =>
    Chained scenario.fresh visits user.value

/-- The visits of a user tell all that it has done. -/
structure Recounted (user : User V) (notes : List Entry) (took : List Taken)
    (visits : List (Visit G V)) : Prop where
  accounted : Accounted scenario options good user.id notes took visits
  stands : Stands scenario user visits
  timed : Timed scenario user (visits.map Visit.stamp)

end

section

variable {G V : Type} {scenario : Scenario G V} {options : Options} {good : G → Prop} {id : Nat}
  {notes : List Entry} {took : List Taken} {visits : List (Visit G V)} {hook : UserHook}
  {context : UserContext G} {value : V} {taken : List Taken}

theorem Accounted.nil : Accounted scenario options good id [] [] [] :=
  ⟨rfl, rfl, fun _ hmem => absurd hmem List.not_mem_nil⟩

/-- A hook begins. -/
theorem Accounted.begins (h : Accounted scenario options good id notes took visits)
    {body : UserContext G → Hook V Unit} (hbody : hook.ofScenario scenario = some body)
    (hid : context.id = id) (hoptions : context.options = options) (hgood : good context.global)
    (value : V) :
    Accounted scenario options good id notes took
      (visits ++ [⟨hook, context, value, [], none⟩]) := by
  constructor
  case noted => simp [h.noted, Visit.entries]
  case answered => simp [h.answered]
  case made =>
    intro visit hmem
    rcases List.mem_append.mp hmem with hmem | hmem
    · exact h.made visit hmem
    · rw [List.mem_singleton.mp hmem]
      exact ⟨⟨hoptions, hgood, _, body, hbody, .start _⟩, hid⟩

/-- The last visit goes on, or comes to its end: it is told with what is added to it. -/
theorem Accounted.extends {ending : Option (Except Fault Unit × V)} {more : List Taken}
    {entries : List Entry}
    (h : Accounted scenario options good id notes took
      (visits ++ [⟨hook, context, value, taken, none⟩]))
    (hgoes : Visit.Goes scenario ⟨hook, context, value, taken ++ more, ending⟩)
    (hentries : Visit.entries ⟨hook, context, value, taken ++ more, ending⟩ =
      Visit.entries ⟨hook, context, value, taken, none⟩ ++ entries)
    (hhook : ∀ entry ∈ entries, entry.isOfHook = true) :
    Accounted scenario options good id (notes ++ entries) (took ++ more)
      (visits ++ [⟨hook, context, value, taken ++ more, ending⟩]) := by
  have hlast := h.made ⟨hook, context, value, taken, none⟩
    (List.mem_append_right _ (List.mem_singleton_self _))
  constructor
  case noted =>
    have hnoted := h.noted
    rw [List.flatMap_append, List.flatMap_singleton] at hnoted ⊢
    rw [hentries, List.filter_append, hnoted, List.filter_eq_self.mpr hhook, List.append_assoc]
  case answered =>
    have hanswered := h.answered
    rw [List.flatMap_append, List.flatMap_singleton] at hanswered ⊢
    rw [← hanswered, List.append_assoc]
  case made =>
    intro visit hmem
    rcases List.mem_append.mp hmem with hmem | hmem
    · exact h.made visit (List.mem_append_left _ hmem)
    · rw [List.mem_singleton.mp hmem]
      exact ⟨⟨hlast.1.options, hlast.1.global, hgoes⟩, hlast.2⟩

/-- What is not of a hook adds nothing. -/
theorem Accounted.aside (h : Accounted scenario options good id notes took visits)
    {entries : List Entry} (hentries : entries.filter Entry.isOfHook = []) :
    Accounted scenario options good id (notes ++ entries) took visits :=
  ⟨by rw [List.filter_append, hentries, List.append_nil, h.noted], h.answered, h.made⟩

end

section

variable {G V : Type} {setting : Setting G V} {good : G → Prop} {user : User V} {shared : Shared}
  {outside : Outside} {stepped : Stepped V} {notes : List Entry} {took : List Taken}
  {visits : List (Visit G V)}

theorem map_stamp_concat (visit : Visit G V) :
    (visits ++ [visit]).map Visit.stamp = visits.map Visit.stamp ++ [visit.stamp] :=
  List.map_append

/-- A user between two hooks begins the next. -/
theorem exists_recounted_of_begin {point : Point V} (hook : UserHook)
    {body : UserContext G → Hook V Unit} (hbody : hook.ofScenario setting.scenario = some body)
    (hpoint : point = hook.point (user.begin setting body))
    (haccounted : Accounted setting.scenario setting.options good user.id notes took visits)
    (hchained : Chained setting.scenario.fresh visits user.value) (hgood : good setting.global)
    (htimed : Timed setting.scenario { user with point := point }
      (visits.map Visit.stamp ++ [(hook, user.iteration)])) :
    ∃ visits, Recounted setting.scenario setting.options good { user with point := point } notes took
      visits := by
  refine ⟨visits ++ [⟨hook, user.context setting, user.value, [], none⟩], ?_, ?_, ?_⟩
  · exact haccounted.begins hbody rfl rfl hgood user.value
  · subst hpoint
    cases hook <;>
      exact ⟨visits, _, [], rfl, rfl, rfl, hchained, body, hbody, .start _⟩
  · rw [map_stamp_concat]
    exact htimed

/-- A user that has left its cycle goes on to its teardown, if there is one. -/
theorem exists_recounted_toTeardown {calls : Nat}
    (haccounted : Accounted setting.scenario setting.options good user.id notes took visits)
    (hchained : Chained setting.scenario.fresh visits user.value) (hgood : good setting.global)
    (hends : EndsAt user.iteration calls)
    (hstamps : visits.map Visit.stamp = firstStamps setting.scenario ++ behaviourStamps calls) :
    ∃ visits, Recounted setting.scenario setting.options good (user.toTeardown setting) notes took
      visits := by
  obtain ⟨point, heq, ⟨body, hbody, hpoint⟩ | ⟨hnone, rfl⟩⟩ := user.toTeardown_cases setting
  · rw [heq]
    refine exists_recounted_of_begin .teardown hbody hpoint haccounted hchained hgood ?_
    subst hpoint
    exact ⟨calls, hends, by rw [hstamps]⟩
  · rw [heq]
    refine ⟨visits, haccounted, hchained, calls, hends, ?_⟩
    rw [hstamps, lastStamps, hnone, Option.isSome_none, if_neg Bool.false_ne_true, List.append_nil]

theorem exists_recounted_toCycle
    (haccounted : Accounted setting.scenario setting.options good user.id notes took visits)
    (hchained : Chained setting.scenario.fresh visits user.value) (hgood : good setting.global)
    (hiteration : user.iteration = 0)
    (hstamps : visits.map Visit.stamp = firstStamps setting.scenario) :
    ∃ visits, Recounted setting.scenario setting.options good (user.toCycle setting) notes took
      visits := by
  have hnone : visits.map Visit.stamp = firstStamps setting.scenario ++ behaviourStamps 0 := by
    rw [hstamps]
    exact (List.append_nil _).symm
  rcases user.toCycle_cases setting with ⟨-, -, heq⟩ | ⟨-, heq⟩
  · rw [heq]
    refine ⟨visits, haccounted, hchained, ?_⟩
    simp only [Timed, hiteration]
    exact hnone
  · rw [heq]
    exact exists_recounted_toTeardown haccounted hchained hgood (.inl hiteration.symm) hnone

theorem exists_recounted_start (hgood : good setting.global) (id : Nat) :
    ∃ visits, Recounted setting.scenario setting.options good (User.start setting id) [] [] visits := by
  unfold User.start
  split
  · rename_i body hbody
    refine exists_recounted_of_begin .setup hbody rfl .nil rfl hgood ?_
    refine ⟨rfl, ?_⟩
    rw [firstStamps, hbody]
    rfl
  · rename_i hnone
    refine exists_recounted_toCycle .nil rfl hgood rfl ?_
    rw [firstStamps, hnone]
    rfl

/-- A hook that has come to its end is told with how it ended. -/
theorem Inside.ends {hook : UserHook} {result : Except Fault Unit} {value : V}
    (h : Inside setting.scenario hook user (.done (result, value)) visits)
    (haccounted : Accounted setting.scenario setting.options good user.id notes took visits) :
    ∃ ended, Accounted setting.scenario setting.options good user.id
        (notes ++ user.calledNote hook.kind result) took ended ∧
      Chained setting.scenario.fresh ended value ∧
      ended.map Visit.stamp = visits.map Visit.stamp ∧
      ∃ visit ∈ ended, visit.ending = some (result, value) := by
  obtain ⟨earlier, context, taken, rfl, hid, hiteration, hchained, hleaves⟩ := h
  let visit : Visit G V := ⟨hook, context, user.value, taken, some (result, value)⟩
  refine ⟨earlier ++ [visit], ?_, ?_, ?_, visit, ?_, rfl⟩
  · have hgoes : Visit.Goes setting.scenario
        ⟨hook, context, user.value, taken ++ [], some (result, value)⟩ := by
      rw [List.append_nil]
      exact hleaves
    have hends : Accounted setting.scenario setting.options good user.id
        (notes ++ user.calledNote hook.kind result) (took ++ [])
        (earlier ++ [⟨hook, context, user.value, taken ++ [], some (result, value)⟩]) :=
      haccounted.extends hgoes
        (by simp [Visit.entries, User.calledNote, User.party, hid, hiteration])
        (by simp [User.calledNote, Entry.isOfHook])
    simp only [List.append_nil] at hends
    exact hends
  · exact chained_concat hchained rfl rfl
  · rw [map_stamp_concat, map_stamp_concat]
    rfl
  · exact List.mem_append_right _ (List.mem_singleton_self _)

/-- A hook takes an action. -/
theorem Inside.acts {hook : UserHook} {action : Action} {next : Answer action → Begun V}
    (h : Inside setting.scenario hook user (.act action next) visits)
    (haccounted : Accounted setting.scenario setting.options good user.id notes took visits)
    (answer : Answer action) (connects : Nat) :
    ∃ later, Accounted setting.scenario setting.options good user.id
        (notes ++ [.acted user.party user.iteration action]) (took ++ [⟨action, answer⟩]) later ∧
      Inside setting.scenario hook
        { user with connects := connects, point := hook.point (next answer) } (next answer) later ∧
      later.map Visit.stamp = visits.map Visit.stamp := by
  obtain ⟨earlier, context, taken, rfl, hid, hiteration, hchained, body, hbody, hleaves⟩ := h
  let visit : Visit G V := ⟨hook, context, user.value, taken ++ [⟨action, answer⟩], none⟩
  have hvisit : visit.Leaves setting.scenario (next answer) :=
    ⟨body, hbody, hleaves.concat answer⟩
  refine ⟨earlier ++ [visit], ?_, ?_, ?_⟩
  · have hgoes : visit.Goes setting.scenario := ⟨_, hvisit⟩
    exact haccounted.extends hgoes (by simp [Visit.entries, User.party, hid, hiteration])
      (by simp [Entry.isOfHook])
  · exact ⟨earlier, context, _, rfl, hid, hiteration, hchained, hvisit⟩
  · rw [map_stamp_concat, map_stamp_concat]
    rfl

theorem stands_iff_inside {scenario : Scenario G V} (hook : UserHook) {work : Begun V}
    (hpoint : user.point = hook.point work) :
    Stands scenario user visits ↔ Inside scenario hook user work visits := by
  cases hook <;> rw [Stands, hpoint] <;> rfl

theorem firstStamps_of_setup {scenario : Scenario G V} {stamps : List (UserHook × Nat)}
    (h : stamps = firstStamps scenario) : stamps = firstStamps scenario ++ behaviourStamps 0 := by
  rw [h]
  exact (List.append_nil _).symm

theorem behaviourStamps_succ (calls : Nat) :
    behaviourStamps (calls + 1) = behaviourStamps calls ++ [(.behaviour, calls)] := by
  rw [behaviourStamps, List.range_succ, List.map_append]
  rfl

/-! ### What each kind of step adds -/

namespace Recounted

variable (h : Recounted setting.scenario setting.options good user notes took visits)
include h

/-- An action is told by the visit that is under way. -/
theorem acts (hook : UserHook) {action : Action} {next : Answer action → Begun V}
    (hpoint : user.point = hook.point (.act action next)) (answer : Answer action)
    (connects : Nat) :
    ∃ visits, Recounted setting.scenario setting.options good
      { user with connects := connects, point := hook.point (next answer) }
      (notes ++ [.acted user.party user.iteration action]) (took ++ [⟨action, answer⟩]) visits := by
  have hinside := (stands_iff_inside hook hpoint).mp h.stands
  have htimed := h.timed
  obtain ⟨later, hlater, hgoes, hstamps⟩ := hinside.acts h.accounted answer connects
  refine ⟨later, hlater, (stands_iff_inside hook rfl).mpr hgoes, ?_⟩
  rw [hstamps]
  cases hook <;> (simp only [Timed, hpoint, UserHook.point] at htimed ⊢; exact htimed)

/-- Where a hook has come to its end, all visits are over, and the last of them says how. -/
theorem hookOver (hook : UserHook) {result : Except Fault Unit} {value : V}
    (hpoint : user.point = hook.point (.done (result, value))) :
    ∃ ended, Accounted setting.scenario setting.options good user.id
        (notes ++ user.calledNote hook.kind result) took ended ∧
      Chained setting.scenario.fresh ended value ∧
      ended.map Visit.stamp = visits.map Visit.stamp ∧
      ∃ visit ∈ ended, visit.ending = some (result, value) :=
  ((stands_iff_inside hook hpoint).mp h.stands).ends h.accounted

theorem setUp {value : V} (hpoint : user.point = .setup (.done (.ok (), value)))
    (hgood : good setting.global) :
    ∃ visits, Recounted setting.scenario setting.options good
      ({ user with value := value }.toCycle setting)
      (notes ++ user.calledNote .userSetup (.ok ())) took visits := by
  obtain ⟨ended, hended, hchained, hstamps, -⟩ := h.hookOver .setup hpoint
  have htimed := h.timed
  simp only [Timed, hpoint] at htimed
  have hafter : Accounted setting.scenario setting.options good
      ({ user with value := value } : User V).id _ took ended := hended
  exact exists_recounted_toCycle hafter hchained hgood htimed.1 (hstamps.trans htimed.2)

theorem setupFailed {failure : Failure} {value : V}
    (hpoint : user.point = .setup (.done (.error (.failure failure), value)))
    (hgood : good setting.global) :
    ∃ visits, Recounted setting.scenario setting.options good
      ({ user with value := value, healthy := false }.toTeardown setting)
      (notes ++ user.calledNote .userSetup (.error (.failure failure))) took visits := by
  obtain ⟨ended, hended, hchained, hstamps, -⟩ := h.hookOver .setup hpoint
  have htimed := h.timed
  simp only [Timed, hpoint] at htimed
  have hafter : Accounted setting.scenario setting.options good
      ({ user with value := value, healthy := false } : User V).id _ took ended := hended
  exact exists_recounted_toTeardown hafter hchained hgood (.inl htimed.1.symm)
    (firstStamps_of_setup (hstamps.trans htimed.2))

theorem returned {outcome : Except Failure Unit} {value : V}
    (hpoint : user.point = .behaviour (.done (resultOf outcome, value))) :
    ∃ visits, Recounted setting.scenario setting.options good
      { user with value := value, point := .settle outcome }
      (notes ++ user.calledNote .behaviour (resultOf outcome)) took visits := by
  obtain ⟨ended, hended, hchained, hstamps, -⟩ := h.hookOver .behaviour hpoint
  have htimed := h.timed
  simp only [Timed, hpoint] at htimed
  exact ⟨ended, hended, hchained, hstamps.trans htimed⟩

/-- A teardown that has not broken off leaves nothing to be called, whatever its result. -/
theorem tornDown {result : Except Fault Unit} {value : V}
    (hpoint : user.point = .teardown (.done (result, value))) :
    ∃ visits, Recounted setting.scenario setting.options good
      { user with value := value, point := .leave }
      (notes ++ user.calledNote .userTeardown result) took visits := by
  have hinstalled : setting.scenario.userTeardown.isSome = true := by
    have hinside := (stands_iff_inside .teardown hpoint).mp h.stands
    obtain ⟨_, _, _, _, _, _, _, body, hbody, _⟩ := hinside
    exact Option.isSome_iff_exists.mpr ⟨body, hbody⟩
  obtain ⟨ended, hended, hchained, hstamps, -⟩ := h.hookOver .teardown hpoint
  have htimed := h.timed
  simp only [Timed, hpoint] at htimed
  obtain ⟨calls, hends, htimed⟩ := htimed
  refine ⟨ended, hended, hchained, calls, hends, ?_⟩
  rw [hstamps, htimed, lastStamps, if_pos hinstalled]

theorem brokeOff (hook : UserHook) {text : String} {value : V}
    (hpoint : user.point = hook.point (.done (.error (.panic text), value))) :
    ∃ visits, Recounted setting.scenario setting.options good
      { user with value := value, point := .panicked text }
      (notes ++ user.calledNote hook.kind (.error (.panic text))) took visits := by
  obtain ⟨ended, hended, hchained, hstamps, visit, hmem, hending⟩ := h.hookOver hook hpoint
  have htimed := h.timed
  refine ⟨ended, hended, ⟨hchained, visit, hmem, value, hending⟩, ?_⟩
  rw [hstamps]
  cases hook with
  | setup =>
    simp only [Timed, hpoint, UserHook.point] at htimed
    refine ⟨0, [], .inl htimed.1.symm, .inl rfl, ?_⟩
    rw [List.append_nil]
    exact firstStamps_of_setup htimed.2
  | behaviour =>
    simp only [Timed, hpoint, UserHook.point] at htimed
    refine ⟨_, [], .inr rfl, .inl rfl, ?_⟩
    rw [List.append_nil, htimed]
  | teardown =>
    simp only [Timed, hpoint, UserHook.point] at htimed
    obtain ⟨calls, hends, htimed⟩ := htimed
    exact ⟨calls, _, hends, .inr rfl, htimed⟩

/-- A user that leaves its cycle at one of the two tests was called in all iterations before. -/
theorem leavesCycle (hpoint : user.point = .testSignal ∨ user.point = .testCap)
    (hgood : good setting.global) {entries : List Entry}
    (hentries : entries.filter Entry.isOfHook = []) :
    ∃ visits, Recounted setting.scenario setting.options good (user.toTeardown setting)
      (notes ++ entries) took visits := by
  obtain ⟨haccounted, hstands, htimed⟩ := h
  rcases hpoint with hpoint | hpoint <;>
    (simp only [Stands, Timed, hpoint] at hstands htimed
     exact exists_recounted_toTeardown (haccounted.aside hentries) hstands hgood (.inl rfl) htimed)

theorem calls {body : UserContext G → Hook V Unit} (hpoint : user.point = .testCap)
    (hbody : setting.scenario.behaviour = some body) (hgood : good setting.global) :
    ∃ visits, Recounted setting.scenario setting.options good
      { user with point := .behaviour (user.begin setting body) } notes took visits := by
  obtain ⟨haccounted, hstands, htimed⟩ := h
  simp only [Stands, Timed, hpoint] at hstands htimed
  refine exists_recounted_of_begin .behaviour hbody rfl haccounted hstands hgood ?_
  simp only [Timed]
  rw [htimed, behaviourStamps_succ, List.append_assoc]

/-- A user that bails leaves its cycle in the iteration that it was called in. -/
theorem settled {outcome : Except Failure Unit} (hpoint : user.point = .settle outcome)
    (hgood : good setting.global) :
    ∃ visits, Recounted setting.scenario setting.options good
      (user.settle setting shared outcome).2 notes took visits := by
  obtain ⟨haccounted, hstands, htimed⟩ := h
  simp only [Stands, Timed, hpoint] at hstands htimed
  rw [User.settle_user]
  split
  · have hafter : Accounted setting.scenario setting.options good
        ({ user with healthy := false } : User V).id notes took visits := haccounted
    exact exists_recounted_toTeardown hafter hstands hgood (.inr rfl) htimed
  · exact ⟨visits, haccounted, hstands, htimed⟩

theorem advanced (hpoint : user.point = .advance) :
    Recounted setting.scenario setting.options good
      { user with
        iteration := user.iteration + 1
        point := if setting.options.pacing.isSome then .pace else .testSignal }
      notes took visits := by
  obtain ⟨haccounted, hstands, htimed⟩ := h
  simp only [Stands, Timed, hpoint] at hstands htimed
  cases hpacing : setting.options.pacing <;>
    exact ⟨haccounted, by simpa [Stands] using hstands, by simpa [Timed] using htimed⟩

/-- Whatever a user does next is told by its visits. -/
theorem step (hstep : user.step setting shared outside = some stepped)
    (hgood : good setting.global) :
    ∃ visits, Recounted setting.scenario setting.options good stepped.user (notes ++ stepped.entries)
      (took ++ (user.took? shared outside).toList) visits := by
  -- Only at an action is anything answered.
  have hquiet : user.action? = none → took ++ (user.took? shared outside).toList = took := by
    intro hnone
    rw [User.took?, hnone]
    exact List.append_nil took
  cases User.step_cases hstep with
  | acts hook hpoint hperform =>
    obtain ⟨after, desk, answer, htook, heq⟩ := User.step_acts hook hpoint hstep
    rw [heq, htook]
    exact h.acts hook hpoint answer desk.connects
  | setUp hpoint =>
    rw [hquiet (by rw [User.action?, hpoint])]
    exact h.setUp hpoint hgood
  | setupFailed hpoint =>
    rw [hquiet (by rw [User.action?, hpoint])]
    exact h.setupFailed hpoint hgood
  | returned hpoint =>
    rw [hquiet (by rw [User.action?, hpoint])]
    exact h.returned hpoint
  | tornDown hpoint | teardownFailed hpoint =>
    rw [hquiet (by rw [User.action?, hpoint])]
    exact h.tornDown hpoint
  | brokeOff hook hpoint =>
    rw [hquiet (by cases hook <;> rw [User.action?, hpoint] <;> rfl)]
    exact h.brokeOff hook hpoint
  | sawSignal hpoint =>
    rw [hquiet (by rw [User.action?, hpoint])]
    exact h.leavesCycle (.inl hpoint) hgood rfl
  | capped hpoint | lacksBehaviour hpoint =>
    rw [hquiet (by rw [User.action?, hpoint])]
    exact h.leavesCycle (.inr hpoint) hgood rfl
  | calls hpoint hcap hbody =>
    rw [hquiet (by rw [User.action?, hpoint]), List.append_nil]
    exact h.calls hpoint hbody hgood
  | settled hpoint =>
    rw [hquiet (by rw [User.action?, hpoint]), List.append_nil]
    exact h.settled hpoint hgood
  | advanced hpoint =>
    rw [hquiet (by rw [User.action?, hpoint]), List.append_nil]
    exact ⟨visits, h.advanced hpoint⟩
  | sawNoSignal hpoint | paced hpoint | left hpoint =>
    rw [hquiet (by rw [User.action?, hpoint])]
    obtain ⟨haccounted, hstands, htimed⟩ := h
    simp only [Stands, Timed, hpoint] at hstands htimed
    exact ⟨visits, haccounted.aside rfl, hstands, htimed⟩

end Recounted

end

namespace State

variable {G V : Type} {scenario : Scenario G V} {options : Options} {good : G → Prop}

/-- The visits of every user tell all that it has done. -/
structure Visited (scenario : Scenario G V) (options : Options) (good : G → Prop)
    (state : State G V) (took : Nat → List Taken) (visits : Nat → List (Visit G V)) : Prop where
  absent : ∀ id, state.users.length ≤ id → took id = [] ∧ visits id = []
  present : ∀ id user, state.users[id]? = some user →
    user.id = id ∧ Recounted scenario options good user (state.notes id) (took id) (visits id)

/-- Whether the value of the run is good while users can begin a hook. -/
def Equipped (good : G → Prop) (state : State G V) : Prop :=
  state.allOver = false ∨ state.stage = .launch → good state.global

theorem took?_of_ne {state : State G V} {id mover : Nat} {outside : Outside} (h : mover ≠ id) :
    state.took? id (.user mover outside) = none :=
  if_neg fun hboth => h hboth.1

/-- A move by which nothing changes is answered nothing. -/
theorem took?_of_move?_eq_none {state : State G V} {move : Move} (h : state.move? move = none)
    (id : Nat) : state.took? id move = none := by
  cases move with
  | user mover outside =>
    rw [took?]
    split
    · rename_i hboth
      obtain ⟨rfl, -⟩ := hboth
      cases huser : state.users[mover]? with
      | none => rfl
      | some user =>
        simp only [move?, stepUser, huser, Option.bind_eq_bind, Option.bind_some,
          Option.bind_eq_none_iff] at h
        cases hstep : user.step state.setting state.shared outside with
        | none => exact User.took?_of_step_eq_none hstep
        | some stepped => cases h stepped hstep
    · rfl
  | control | deadline | interrupt | drain | backgroundOpen | backgroundClose => rfl

variable {state : State G V} {took : Nat → List Taken} {visits : Nat → List (Visit G V)}

theorem Visited.put (h : state.Visited scenario options good took visits)
    (hscenario : state.scenario = scenario) (hoptions : state.options = options)
    (hgood : good state.global) {mover : Nat} {outside : Outside} {user : User V}
    {stepped : Stepped V} (hrunning : state.conclusion? = none)
    (huser : state.users[mover]? = some user)
    (hstep : user.step state.setting state.shared outside = some stepped) :
    ∃ visits, (state.put mover stepped).Visited scenario options good
      (fun id => took id ++ (state.took? id (.user mover outside)).toList) visits := by
  obtain ⟨hid, htold⟩ := h.present mover user huser
  subst hscenario hoptions
  obtain ⟨later, hlater⟩ := Recounted.step htold hstep hgood
  have hlt := (List.getElem?_eq_some_iff.mp huser).1
  have hnotes := notes_put (User.step_cases hstep) mover
  refine ⟨fun id => if id = mover then later else visits id, ?_, ?_⟩
  · intro id hle
    rw [users_put, List.length_set] at hle
    obtain ⟨hnone, hvisits⟩ := h.absent id hle
    have hne : mover ≠ id := by omega
    rw [took?_of_ne hne, if_neg (Ne.symm hne)]
    exact ⟨by rw [hnone]; rfl, hvisits⟩
  · intro id other hother
    by_cases hne : mover = id
    · subst hne
      rw [users_put, List.getElem?_set_self hlt, Option.some.injEq] at hother
      subst hother
      have htook : state.took? mover (.user mover outside) = user.took? state.shared outside := by
        rw [took?, if_pos ⟨rfl, hrunning⟩, huser]
        rfl
      rw [hnotes, hid, if_pos rfl, if_pos rfl, htook]
      exact ⟨(User.step_cases hstep).id.trans hid, hlater⟩
    · rw [users_put, List.getElem?_set_ne hne] at hother
      obtain ⟨hsame, hkept⟩ := h.present id other hother
      rw [hnotes, hid, if_neg hne, if_neg (Ne.symm hne), took?_of_ne hne]
      simp only [List.append_nil, Option.toList_none]
      exact ⟨hsame, hkept⟩

theorem Visited.launch (h : state.Visited scenario options good took visits)
    (hscenario : state.scenario = scenario) (hoptions : state.options = options)
    (hgood : good state.global) (hnotes : state.notes state.users.length = []) :
    ∃ visits, Visited scenario options good { state with
      users := state.users ++ [User.start state.setting state.users.length] } took visits := by
  subst hscenario hoptions
  have hstarts : ∃ visits, Recounted state.setting.scenario state.setting.options good
      (User.start state.setting state.users.length) [] [] visits :=
    exists_recounted_start hgood state.users.length
  obtain ⟨first, hfirst⟩ := hstarts
  refine ⟨fun id => if id = state.users.length then first else visits id, ?_, ?_⟩
  · intro id hle
    rw [List.length_append, List.length_singleton] at hle
    have hne : id ≠ state.users.length := by omega
    rw [if_neg hne]
    exact h.absent id (by omega)
  · intro id user huser
    rw [List.getElem?_append] at huser
    split at huser
    · rename_i hlt
      rw [if_neg (Nat.ne_of_lt hlt)]
      exact h.present id user huser
    · rename_i hge
      rw [List.getElem?_singleton] at huser
      split at huser
      · rename_i hlast
        cases huser
        have hid : state.users.length = id := by omega
        subst hid
        rw [if_pos rfl, (h.absent _ (Nat.le_refl _)).1]
        refine ⟨User.id_start _ _, ?_⟩
        rw [← hnotes] at hfirst
        exact hfirst
      · cases huser

theorem Visited.aside {next : State G V} (h : state.Visited scenario options good took visits)
    (haside : state.Aside next) : next.Visited scenario options good took visits := by
  constructor
  case absent =>
    intro id hle
    rw [haside.users] at hle
    exact h.absent id hle
  case present =>
    intro id user huser
    rw [haside.users] at huser
    rw [haside.notes]
    exact h.present id user huser

theorem took?_of_not_user {move : Move} (h : ∀ id outside, move ≠ .user id outside) (id : Nat) :
    state.took? id move = none := by
  cases move with
  | user mover outside => exact absurd rfl (h mover outside)
  | control | deadline | interrupt | drain | backgroundOpen | backgroundClose => rfl

/-- A move does nothing and is answered nothing, or it is a transition. -/
theorem step_cases_took (state : State G V) (move : Move) :
    state.step move = state ∧ (∀ id, state.took? id move = none) ∨
      state.conclusion? = none ∧ state.Transition move (state.step move) := by
  unfold step
  cases hconcluded : state.conclusion? with
  | some conclusion =>
    refine .inl ⟨rfl, fun id => ?_⟩
    cases move with
    | user mover outside =>
      refine if_neg fun hboth => ?_
      rw [hconcluded] at hboth
      cases hboth.2
    | control | deadline | interrupt | drain | backgroundOpen | backgroundClose => rfl
  | none =>
    cases hmove : state.move? move with
    | none => exact .inl ⟨rfl, took?_of_move?_eq_none hmove⟩
    | some next => exact .inr ⟨rfl, transition_of_move? hmove⟩

/-- In every run the visits of its users tell all that they have done: each is a call of a hook of
the scenario, begun where the one before it has ended, under the answers that its moves were given.
A value that the run gives its users, they find in all their hooks. -/
theorem exists_visits (scenario : Scenario G V) (options : Options) (startedAt : Int)
    (good : G → Prop)
    (hgood : ∀ moves, ((State.start scenario options startedAt).after moves).Equipped good)
    (moves : List Move) :
    ∃ visits, ((State.start scenario options startedAt).after moves).Visited scenario options good
      (fun id => (State.start scenario options startedAt).took id moves) visits := by
  induction moves using List.reverseRecOn with
  | nil => exact ⟨fun _ => [], fun _ _ => ⟨rfl, rfl⟩, fun _ _ h => by cases h⟩
  | append_singleton moves move ih =>
    obtain ⟨visits, hvisited⟩ := ih
    obtain ⟨hscenario, hoptions, -⟩ := fixed_after (start scenario options startedAt) moves
    have hequipped := hgood moves
    have hnotes := notes_eq_nil scenario options startedAt moves
      (List.getElem?_eq_none (Nat.le_refl
        ((start scenario options startedAt).after moves).users.length))
    simp only [took_concat]
    rw [after_append, after_cons, after_nil]
    generalize (start scenario options startedAt).after moves = state at *
    rcases step_cases_took state move with ⟨hsame, hnone⟩ | ⟨hrunning, htransition⟩
    · refine ⟨visits, ?_⟩
      simp only [hsame, hnone, Option.toList_none, List.append_nil]
      exact hvisited
    by_cases hmove : ∀ id outside, move ≠ .user id outside
    · simp only [took?_of_not_user hmove, Option.toList_none, List.append_nil]
      rcases htransition.users_cases with ⟨id, outside, _, _, rfl, -⟩ | ⟨hlaunch, -, heq, -⟩ |
        ⟨haside, -⟩
      · exact absurd rfl (hmove id outside)
      · rw [heq]
        exact hvisited.launch hscenario hoptions (hequipped (.inr hlaunch)) hnotes
      · exact ⟨visits, hvisited.aside haside⟩
    · obtain ⟨mover, hmover⟩ := Classical.not_forall.mp hmove
      obtain ⟨outside, rfl⟩ := Classical.not_forall_not.mp hmover
      generalize hnext : state.step (.user mover outside) = next at htransition ⊢
      cases htransition with
      | user huser hstep =>
        rename_i user stepped
        have hisover := (User.step_cases hstep).not_isOver
        have hliving : state.allOver = false := by
          rw [← Bool.not_eq_true, allOver_iff]
          intro hover
          rw [hover user (List.mem_of_getElem? huser)] at hisover
          cases hisover
        exact hvisited.put hscenario hoptions (hequipped (.inl hliving)) hrunning huser hstep

end State

end LoadHarness.Run
