import LoadHarness.Proofs.Run.Connections
import LoadHarness.Proofs.Scenario.Made
import LoadHarness.Proofs.Scenario.Sessions
import Mathlib.Data.List.Perm.Subperm

/-! Every virtual user holds at most one connection.

A virtual user of a scenario that is made of calls holds one connection or none, by
what it has done so far (`User.Holds`).  Its steps keep to that, and nobody else opens a
connection for it.  So of all connections that are open at any time, each user that has
one has no other (`one_connection_each`). -/

namespace LoadHarness

/-- The virtual user that has opened a connection, if one has. -/
def Token.user? (token : Token) : Option Nat :=
  match token.owner with
  | .user id => some id
  | .run | .background => none

theorem Token.owner_of_user? {token : Token} {id : Nat} (h : token.user? = some id) :
    token.owner = .user id := by
  unfold user? at h
  split at h
  · rename_i howner
    rw [howner, Option.some.inj h]
  · cases h
  · cases h

namespace Run

open Network

variable {S : Type} {setting : Setting RunValue (UserValue S)} {user : User (UserValue S)}
  {held : Option Token} {shared : Shared} {stepped : Stepped (UserValue S)}

/-- What an entry in the books makes of a connection that is held. -/
structure Deed.Leads (deed : Deed) (held next : Option Token) : Prop where
  opens : ∀ token ∈ deed.openings, held = .none ∧ next = some token
  keeps : ∀ token, held = some token → deed.closes token = false → next = some token

theorem Deed.leads_self {deed : Deed} (h : deed.openings = []) : deed.Leads held held := by
  refine ⟨fun token hmem => ?_, fun token heq _ => heq⟩
  rw [h] at hmem
  cases hmem

theorem leads_actionDeed {desk later : Desk} {outside : Outside} {after : Shared} {action : Action}
    {answer : Answer action} (hopening : action.isOpening = true → held = none)
    (h : shared.perform desk outside action = some (after, later, answer)) :
    (actionDeed desk action).Leads held (Taken.heldAfter held ⟨action, answer⟩) := by
  cases action with
  | connect leaked =>
    cases h
    obtain rfl := hopening rfl
    refine ⟨fun token hmem => ?_, nofun⟩
    rw [List.mem_singleton.mp hmem]
    exact ⟨rfl, rfl⟩
  | disconnect token =>
    refine ⟨nofun, fun other hother hcloses => ?_⟩
    have hne : other ≠ token := ne_of_beq_false hcloses
    rw [Taken.heldAfter, hother, if_neg fun heq => hne (Option.some.inj heq)]
  | log | check | stop | stopping | awaitStop | phase | counts | now | sleep | report | ask =>
    exact ⟨nofun, fun _ h _ => h⟩

/-! ## One user -/

/-- Whether what is left of a hook is tidy, and leaves what it holds in the value. -/
def Begun.Tidy (held : Option Token) (work : Begun (UserValue S)) : Prop :=
  Work.Tidy (fun left last => Fits left last.2.tcp) held work

theorem Begun.Tidy.of_done {result : Except Fault Unit} {value : UserValue S}
    (h : Begun.Tidy held (.done (result, value))) : Fits held value.tcp := by
  obtain ⟨last, rfl, hfits⟩ := h [] _ (.done _)
  exact hfits

/-- A user holds one connection, or none: in its value outside of hooks, and by what is left of the
hook inside. -/
def User.Holds (user : User (UserValue S)) (held : Option Token) : Prop :=
  match user.point with
  | .setup work | .behaviour work | .teardown work => Begun.Tidy held work
  | _ => Fits held user.value.tcp

namespace User

theorem holds_iff_tidy (hook : UserHook) {work : Begun (UserValue S)}
    (hpoint : user.point = hook.point work) : user.Holds held ↔ Begun.Tidy held work := by
  cases hook <;> rw [Holds, hpoint] <;> rfl

theorem Holds.begin (hook : UserHook) (hmade : MadeOfCalls setting.scenario)
    (hfits : Fits held user.value.tcp) {body : UserContext RunValue → Hook (UserValue S) Unit}
    (hbody : hook.ofScenario setting.scenario = some body)
    (hpoint : user.point = hook.point (user.begin setting body)) : user.Holds held := by
  rw [holds_iff_tidy hook hpoint]
  exact fun taken last htakes => (hmade.hooks hook body hbody _).orderly htakes hfits

theorem Holds.toTeardown (hmade : MadeOfCalls setting.scenario)
    (hfits : Fits held user.value.tcp) : (user.toTeardown setting).Holds held := by
  obtain ⟨point, heq, ⟨body, hbody, rfl⟩ | ⟨-, rfl⟩⟩ := user.toTeardown_cases setting
  · rw [heq]
    exact .begin .teardown hmade hfits hbody rfl
  · rw [heq]
    exact hfits

theorem Holds.toCycle (hmade : MadeOfCalls setting.scenario) (hfits : Fits held user.value.tcp) :
    (user.toCycle setting).Holds held := by
  rcases user.toCycle_cases setting with ⟨-, -, heq⟩ | ⟨-, heq⟩
  · rw [heq]
    exact hfits
  · rw [heq]
    exact .toTeardown hmade hfits

theorem Holds.start (hmade : MadeOfCalls setting.scenario) (id : Nat) :
    (User.start setting id).Holds none := by
  unfold User.start
  split
  · rename_i body hbody
    exact .begin .setup hmade (fits_none _) hbody rfl
  · exact .toCycle hmade (fits_none _)

/-- Whether a user is in a hook that goes on with an action. -/
def isActing (user : User (UserValue S)) : Bool :=
  match user.point with
  | .setup (.act ..) | .behaviour (.act ..) | .teardown (.act ..) => true
  | _ => false

theorem leads_deed (h : user.isActing = false) : user.deed.Leads held held := by
  refine Deed.leads_self ?_
  rw [deed]
  split
  case h_1 hpoint | h_2 hpoint | h_3 hpoint =>
    rw [isActing, hpoint] at h
    cases h
  case h_8 => split <;> rfl
  all_goals rfl

/-- What a user holds goes the way of its steps. -/
theorem Holds.step (h : user.Holds held) (hmade : MadeOfCalls setting.scenario)
    (hstep : user.Step setting shared stepped) :
    ∃ next, stepped.user.Holds next ∧ user.deed.Leads held next := by
  have hend : ∀ (hook : UserHook) {result value},
      user.point = hook.point (.done (result, value)) → Fits held value.tcp :=
    fun hook {_ _} hpoint => ((holds_iff_tidy hook hpoint).mp h).of_done
  cases hstep with
  | acts hook hpoint hperform =>
    obtain ⟨hopening, hnext⟩ := ((holds_iff_tidy hook hpoint).mp h).next
    refine ⟨_, (holds_iff_tidy hook rfl).mpr (hnext _), ?_⟩
    have hleads := leads_actionDeed hopening hperform
    cases hook <;> (rw [User.deed, hpoint]; exact hleads)
  | setUp hpoint =>
    exact ⟨held, .toCycle hmade (hend .setup hpoint), leads_deed (by rw [isActing, hpoint])⟩
  | setupFailed hpoint =>
    exact ⟨held, .toTeardown hmade (hend .setup hpoint), leads_deed (by rw [isActing, hpoint])⟩
  | returned hpoint => exact ⟨held, hend .behaviour hpoint, leads_deed (by rw [isActing, hpoint])⟩
  | tornDown hpoint | teardownFailed hpoint =>
    exact ⟨held, hend .teardown hpoint, leads_deed (by rw [isActing, hpoint])⟩
  | brokeOff hook hpoint =>
    exact ⟨held, hend hook hpoint, leads_deed (by cases hook <;> rw [isActing, hpoint] <;> rfl)⟩
  | sawSignal hpoint | capped hpoint | lacksBehaviour hpoint =>
    rw [Holds, hpoint] at h
    exact ⟨held, .toTeardown hmade h, leads_deed (by rw [isActing, hpoint])⟩
  | calls hpoint _ hbody =>
    rw [Holds, hpoint] at h
    exact ⟨held, .begin .behaviour hmade h hbody rfl, leads_deed (by rw [isActing, hpoint])⟩
  | settled hpoint =>
    rw [Holds, hpoint] at h
    refine ⟨held, ?_, leads_deed (by rw [isActing, hpoint])⟩
    rw [User.settle_user]
    split
    · exact .toTeardown hmade h
    · exact h
  | advanced hpoint =>
    rw [Holds, hpoint] at h
    refine ⟨held, ?_, leads_deed (by rw [isActing, hpoint])⟩
    cases setting.options.pacing.isSome <;> exact h
  | sawNoSignal hpoint | paced hpoint | left hpoint =>
    rw [Holds, hpoint] at h
    exact ⟨held, h, leads_deed (by rw [isActing, hpoint])⟩

end User

/-! ## All users -/

namespace State

variable {state next : State RunValue (UserValue S)} {move : Move}

/-- Every user holds all connections that are open in its name. -/
def Holding (state : State RunValue (UserValue S)) : Prop :=
  ∀ (id : Nat) (user : User (UserValue S)), state.users[id]? = some user →
    ∃ held, user.Holds held ∧
      ∀ token ∈ state.shared.ledger.live, token.owner = .user id → held = some token

/-- What is open in the name of a user that does not move was open before. -/
theorem Transition.mem_live_of_owner (h : state.Transition move next) (hplaced : state.Placed)
    {id : Nat} (hmove : ∀ outside, move ≠ .user id outside) :
    ∀ token ∈ next.shared.ledger.live, token.owner = .user id →
      token ∈ state.shared.ledger.live := by
  intro token hmem howner
  rcases h.mem_live hmem with ⟨hold, -⟩ | hnew
  · exact hold
  · obtain ⟨outside, hown⟩ := move_of_mem_openings hplaced howner hnew
    exact absurd hown (hmove outside)

/-- A user moves, and all others hold what they held. -/
theorem Holding.put (h : state.Holding) (hmade : MadeOfCalls state.scenario)
    (hplaced : state.Placed) {mover : Nat} {outside : Outside}
    (huser : state.users[mover]? = some user) (hstep : user.Step state.setting state.shared stepped)
    (htransition : state.Transition (.user mover outside) (state.put mover stepped)) :
    (state.put mover stepped).Holding := by
  intro id other hother
  obtain rfl | hne := eq_or_ne mover id
  · have hlt := (List.getElem?_eq_some_iff.mp huser).1
    rw [users_put, List.getElem?_set_self hlt, Option.some.injEq] at hother
    obtain ⟨held, hholds, howned⟩ := h mover user huser
    obtain ⟨held', hholds', hleads⟩ := hholds.step hmade hstep
    have hdeed : state.deed (.user mover outside) = user.deed := by rw [deed, huser]
    refine ⟨held', hother ▸ hholds', fun token hmem howner => ?_⟩
    rcases hdeed ▸ htransition.mem_live hmem with ⟨hold, hcloses⟩ | hnew
    · exact hleads.keeps token (howned token hold howner) hcloses
    · exact (hleads.opens token hnew).2
  · rw [users_put, List.getElem?_set_ne hne] at hother
    obtain ⟨held, hholds, howned⟩ := h id other hother
    have hstill : ∀ elsewhere, Move.user mover outside ≠ .user id elsewhere :=
      fun _ heq => hne (Move.user.inj heq).1
    exact ⟨held, hholds, fun token hmem howner =>
      howned token (htransition.mem_live_of_owner hplaced hstill token hmem howner) howner⟩

/-- A user that joins holds nothing. -/
theorem Holding.join (h : state.Holding) (hmade : MadeOfCalls state.scenario)
    (habsent : ∀ token ∈ state.shared.ledger.live, token.owner ≠ .user state.users.length) :
    Holding { state with
      users := state.users ++ [User.start state.setting state.users.length] } := by
  intro id other hother
  rw [List.getElem?_append] at hother
  split at hother
  · exact h id other hother
  · rename_i hge
    rw [List.getElem?_singleton] at hother
    split at hother
    · rename_i hlast
      cases hother
      have hid : state.users.length = id := by omega
      subst hid
      exact ⟨none, .start hmade _, fun token hmem howner => absurd howner (habsent token hmem)⟩
    · cases hother

theorem Holding.keep (h : state.Holding) (hmade : MadeOfCalls state.scenario)
    (hplaced : state.Placed)
    (habsent : ∀ token ∈ state.shared.ledger.live, token.owner ≠ .user state.users.length)
    (htransition : state.Transition move next) : next.Holding := by
  rcases htransition.users_cases with ⟨mover, outside, user, stepped, rfl, huser, hstep, rfl⟩ |
    ⟨-, -, rfl, -⟩ | ⟨haside, hstill⟩
  · exact h.put hmade hplaced huser hstep htransition
  · exact h.join hmade habsent
  · intro id other hother
    rw [haside.users] at hother
    obtain ⟨held, hholds, howned⟩ := h id other hother
    exact ⟨held, hholds, fun token hmem howner =>
      howned token (htransition.mem_live_of_owner hplaced (hstill id) token hmem howner) howner⟩

/-- Nothing is open in the name of a user that is not there yet. -/
theorem Numbered.not_owned {opened closed : List Token} (h : state.Numbered opened)
    (hconserved : state.Conserved opened closed) {id : Nat} (hle : state.users.length ≤ id) :
    ∀ token ∈ state.shared.ledger.live, token.owner ≠ .user id := by
  intro token hmem howner
  have hserial := h token (hconserved.kept.mem_iff.mpr (List.mem_append_right _ hmem))
  rw [howner, connectsOf, List.getElem?_eq_none hle] at hserial
  exact absurd hserial (Nat.not_lt_zero _)

theorem holding_after {scenario : Scenario RunValue (UserValue S)} (hmade : MadeOfCalls scenario)
    (options : Options) (startedAt : Int) (moves : List Move) :
    ((State.start scenario options startedAt).after moves).Holding := by
  induction moves using List.reverseRecOn with
  | nil => exact fun _ _ h => by cases h
  | append_singleton moves move ih =>
    obtain ⟨hconserved, hnumbered⟩ := conserved_after scenario options startedAt moves
    have hplaced := placed_after scenario options startedAt moves
    obtain ⟨hscenario, -⟩ := fixed_after (State.start scenario options startedAt) moves
    rw [after_append, after_cons, after_nil]
    generalize (State.start scenario options startedAt).after moves = state at *
    rcases step_cases state move with h | ⟨-, h⟩
    · rw [h]
      exact ih
    · exact ih.keep (hscenario ▸ hmade) hplaced
        (hnumbered.not_owned hconserved (Nat.le_refl _)) h

/-- The virtual users that have opened the connections that are open, once for each of them. -/
def holders (state : State RunValue (UserValue S)) : List Nat :=
  state.shared.ledger.live.filterMap Token.user?

theorem Holding.nodup_holders {opened closed : List Token} (h : state.Holding)
    (hconserved : state.Conserved opened closed) (hnumbered : state.Numbered opened) :
    state.holders.Nodup := by
  have hlive := (List.nodup_append.mp (hconserved.kept.nodup hconserved.openedOnce)).2.1
  refine List.pairwise_filterMap.mpr (hlive.imp_of_mem fun {token other} hmem hmem' hne => ?_)
  rintro id hid _ hid' rfl
  have howner := Token.owner_of_user? hid
  have howner' := Token.owner_of_user? hid'
  cases huser : state.users[id]? with
  | none =>
    exact hnumbered.not_owned hconserved (List.getElem?_eq_none_iff.mp huser) token hmem howner
  | some user =>
    -- both are the one connection that the user holds
    obtain ⟨held, -, howned⟩ := h id user huser
    have hheld := (howned token hmem howner).symm.trans (howned other hmem' howner')
    exact hne (Option.some.inj hheld)

/-- Only users that are there have opened connections. -/
theorem Numbered.lt_of_mem_holders {opened closed : List Token} (h : state.Numbered opened)
    (hconserved : state.Conserved opened closed) :
    ∀ id ∈ state.holders, id < state.users.length := by
  intro id hmem
  obtain ⟨token, htoken, hid⟩ := List.mem_filterMap.mp hmem
  by_contra hge
  exact h.not_owned hconserved (Nat.le_of_not_lt hge) token htoken (Token.owner_of_user? hid)

end State

/-- Virtual users that touch connections by calls only have one connection each, or none.  A call
does what the connection of its user asks for, and what is sent after a failed operation goes over a
stream that was dialled since. -/
theorem one_connection_each {scenario : Scenario RunValue (UserValue S)}
    (hmade : MadeOfCalls scenario) (options : Options) (startedAt : Int) (moves : List Move)
    {state : State RunValue (UserValue S)}
    (hstate : (State.start scenario options startedAt).after moves = state) :
    (state.Holding ∧ state.holders.Nodup ∧ state.holders.length ≤ options.virtualUsers) ∧
      (∀ (context : UserContext RunValue) (call : Call) (value last : UserValue S)
          (taken : List Taken) (result : Except Fault call.Result),
        Hook.Takes (call.hook context) value taken result last →
          Does context call value.tcp (wire taken) result last.tcp ∧ last.own = value.own) ∧
      ∀ (value last : UserValue S) (before between : List (Turn S)) (failed turn : Turn S)
          (socket : Net.Socket),
        Session value (before ++ failed :: (between ++ [turn])) last →
          failed.call.operates = true → failed.result.isOk = false →
          Sends socket (wire turn.taken) →
            ∃ stream, stream.socket = socket ∧
              Dialled stream (wire (doings (between ++ [turn]))) := by
  subst hstate
  obtain ⟨hconserved, hnumbered⟩ := State.conserved_after scenario options startedAt moves
  have hholding := State.holding_after hmade options startedAt moves
  have hstaged := (State.staged_after scenario options startedAt moves).length_le
  rw [(State.fixed_after (State.start scenario options startedAt) moves).2.1] at hstaged
  generalize (State.start scenario options startedAt).after moves = state at *
  have hnodup := hholding.nodup_holders hconserved hnumbered
  have hsubset : state.holders ⊆ List.range state.users.length := fun id hmem =>
    List.mem_range.mpr (hnumbered.lt_of_mem_holders hconserved id hmem)
  have hle := (hnodup.subperm hsubset).length_le
  rw [List.length_range] at hle
  refine ⟨⟨hholding, hnodup, Nat.le_trans hle hstaged⟩, ?_, ?_⟩
  · exact fun context call value last taken result h => does_of_takes h
  · exact fun value last before between failed turn socket h hoperates hfailed hsends =>
      h.sent_afresh hoperates hfailed hsends

open Net.TcpConnection (noneOpen oneOpen silentPeer)

/-- A silent peer, over another socket. -/
def dialledAgain : Outside :=
  { silentPeer with
    reply := fun
      | .dial _ => .ok ⟨8⟩
      | request => silentPeer.reply request }

/-- A user of a run with a target and a client. -/
def dialling : UserContext RunValue :=
  ⟨0, 0, { Sample.options 2 none with target := some "peer:7" }, ⟨some ⟨.ofSecs 1, ⟨true⟩⟩⟩⟩

/-- Two users that have each opened a connection to a silent peer hold one each.  A user that has
read nothing from such a peer sends its next line over another socket. -/
theorem one_connection_each_sample :
    ∃ state : State RunValue (UserValue Unit),
      (State.start TcpEcho.scenario
          { Sample.options 2 none with target := some "127.0.0.1:8080" } 0).after
        (.replicate 9 (.control silentPeer) ++ .replicate 9 (.user 0 silentPeer) ++
          .replicate 9 (.user 1 silentPeer)) = state ∧
        state.holders = [0, 1] ∧ state.holders.Nodup ∧ state.holders.length ≤ 2 ∧
        ∃ (failed turn : Turn Unit) (last : UserValue Unit),
          Session ⟨some Net.TcpConnection.held, ()⟩ [failed, turn] last ∧
            failed.call = .readUpTo 4 ∧ failed.result.isOk = false ∧
            turn.call = .writeLine "hi" ∧ turn.result.isOk = true ∧
            ∃ stream, stream.socket = ⟨8⟩ ∧ Dialled stream (wire (doings [turn])) := by
  have hread : Plays ⟨.user 0, 0, 1⟩ (((Call.readUpTo 4).hook dialling).run.run
      (⟨some Net.TcpConnection.held, ()⟩ : UserValue Unit)) _ _ :=
    .act oneOpen silentPeer rfl (.act oneOpen silentPeer rfl (.act oneOpen silentPeer rfl
      (.act oneOpen silentPeer rfl (.act oneOpen silentPeer rfl (.act oneOpen silentPeer rfl
      (.act oneOpen silentPeer rfl .done))))))
  have hwrote : Plays ⟨.user 0, 0, 1⟩ (((Call.writeLine "hi").hook dialling).run.run
      (⟨some { Net.TcpConnection.held with stream := none }, ()⟩ : UserValue Unit)) _ _ :=
    .act noneOpen dialledAgain rfl (.act noneOpen dialledAgain rfl (.act noneOpen dialledAgain rfl
      (.act noneOpen dialledAgain rfl (.act noneOpen dialledAgain rfl
      (.act noneOpen dialledAgain rfl (.act noneOpen dialledAgain rfl
      (.act noneOpen dialledAgain rfl (.act noneOpen dialledAgain rfl
      (.act noneOpen dialledAgain rfl (.act noneOpen dialledAgain rfl .done))))))))))
  have hsession : Session ⟨some Net.TcpConnection.held, ()⟩
      [⟨dialling, .readUpTo 4, _, _, _⟩, ⟨dialling, .writeLine "hi", _, _, _⟩] _ :=
    ⟨hread.takes, hwrote.takes, rfl⟩
  obtain ⟨⟨-, hnodup, hlength⟩, -, hafresh⟩ :=
    one_connection_each TcpEcho.madeOfCalls
      { Sample.options 2 none with target := some "127.0.0.1:8080" } 0
      (.replicate 9 (.control silentPeer) ++ .replicate 9 (.user 0 silentPeer) ++
        .replicate 9 (.user 1 silentPeer)) rfl
  refine ⟨_, rfl, rfl, hnodup, hlength, _, _, _, hsession, rfl, rfl, rfl, rfl, ?_⟩
  exact hafresh _ _ [] [] _ _ ⟨8⟩ hsession rfl rfl ⟨_, .tail _ (.tail _ (.head _))⟩

end Run

end LoadHarness
