import LoadHarness.Proofs.Run.Interleaving
import Mathlib.Data.List.Nodup

/-! No connection outlives the virtual user that keeps it.

A connection is open while its token is in the ledger.  What a move opens and closes
is read off the ledger before and after it, so the two histories of a run owe
nothing to the counters:

    opened before ++ opened by the move  ~  closed before ++ closed by the move ++ open now

No token is opened twice, because every party numbers its own (`State.Numbered`).
A user that comes to its end takes along what it keeps (`User.Step.deed_of_over`),
whichever way it ends, so that in the end only those connections are open that
nobody's value keeps (`connections_conserved`). -/

namespace LoadHarness

/-- Whether a connection is kept outside the values of virtual users: by the run itself, by work
beside it, or leaked by a hook. -/
def Token.isLoose (token : Token) : Bool :=
  match token.owner with
  | .user _ => token.leaked
  | .run | .background => true

theorem Token.owner_of_not_isLoose {token : Token} (h : token.isLoose = false) :
    ∃ id, token.owner = .user id ∧ token.leaked = false := by
  unfold isLoose at h
  split at h
  · rename_i id howner
    exact ⟨id, howner, h⟩
  · cases h
  · cases h

namespace Run

/-! ## What an entry in the books opens and closes -/

namespace Deed

/-- The connections that an entry opens. -/
def openings : Deed → List Token
  | .opened token => [token]
  | .none | .check _ | .iteration _ | .closed _ => []

/-- Whether an entry closes a connection that is open. -/
def closes : Deed → Token → Bool
  | .closed which => which
  | .none | .check _ | .iteration _ | .opened _ => fun _ => false

end Deed

/-- The ledger after an entry. -/
theorem ledger_after (books : Books) (deed : Deed) :
    (books.after deed).ledger =
      ⟨books.ledger.opened + deed.openings.length,
        books.ledger.closed + (books.ledger.live.filter deed.closes).length,
        books.ledger.live.filter (fun token => !deed.closes token) ++ deed.openings⟩ := by
  have hfalse (l : List Token) : (l.filter fun _ => false) = [] :=
    List.filter_eq_nil_iff.mpr fun _ _ => Bool.false_ne_true
  have htrue (l : List Token) : (l.filter fun _ => !false) = l :=
    List.filter_eq_self.mpr fun _ _ => rfl
  cases deed with
  | opened token =>
    simp only [Books.after, Ledger.open, Deed.openings, Deed.closes, hfalse, htrue,
      List.length_nil, Nat.add_zero, List.length_singleton]
  | closed which =>
    simp only [Books.after, Ledger.closeWhere, Deed.openings, Deed.closes, List.length_nil,
      Nat.add_zero, List.append_nil]
  | none | check | iteration =>
    simp only [Books.after, Deed.openings, Deed.closes, hfalse, htrue, List.length_nil,
      Nat.add_zero, List.append_nil]

theorem connects_of_perform {shared after : Shared} {desk next : Desk} {outside : Outside}
    {action : Action} {answer : Answer action}
    (h : shared.perform desk outside action = some (after, next, answer)) :
    next.connects = desk.connects + (actionDeed desk action).openings.length := by
  cases action with
  | awaitStop =>
    simp only [Shared.perform] at h
    split at h
    · cases h
      rfl
    · cases h
  | log | check | connect | disconnect | stop | stopping | phase | counts | now | sleep | report
  | ask =>
    cases h
    rfl

/-- A party numbers the connections that it opens. -/
theorem eq_of_mem_openings {desk : Desk} {action : Action} {token : Token}
    (h : token ∈ (actionDeed desk action).openings) :
    token.owner = desk.party ∧ token.serial = desk.connects := by
  cases action with
  | connect leaked =>
    rw [List.mem_singleton.mp h]
    exact ⟨rfl, rfl⟩
  | log | check | disconnect | stop | awaitStop | stopping | phase | counts | now | sleep | report
  | ask => cases h

namespace User

variable {G V : Type} {setting : Setting G V} {user : User V} {shared : Shared}
  {stepped : Stepped V}

@[simp] theorem connects_toTeardown (setting : Setting G V) (user : User V) :
    (user.toTeardown setting).connects = user.connects := by
  obtain ⟨point, h, -⟩ := user.toTeardown_cases setting
  rw [h]

@[simp] theorem connects_toCycle (setting : Setting G V) (user : User V) :
    (user.toCycle setting).connects = user.connects := by
  rcases user.toCycle_cases setting with ⟨-, -, h⟩ | ⟨-, h⟩
  · rw [h]
  · rw [h, connects_toTeardown]

theorem connects_start (setting : Setting G V) (id : Nat) : (start setting id).connects = 0 := by
  unfold start
  split
  · rfl
  · exact connects_toCycle _ _

/-- A user counts the connections that it opens. -/
theorem Step.connects (h : user.Step setting shared stepped) :
    stepped.user.connects = user.connects + user.deed.openings.length := by
  cases h with
  | acts hook hpoint hperform =>
    have hconnects := connects_of_perform hperform
    cases hook <;> (rw [User.deed, hpoint]; exact hconnects)
  | setUp hpoint =>
    rw [User.deed, hpoint]
    exact connects_toCycle _ _
  | setupFailed hpoint | sawSignal hpoint | capped hpoint | lacksBehaviour hpoint =>
    rw [User.deed, hpoint]
    exact connects_toTeardown _ _
  | settled hpoint =>
    rename_i outcome
    have hopenings : user.deed.openings = [] := by
      simp only [User.deed, hpoint]
      cases recordOf outcome <;> rfl
    rw [hopenings, settle_user]
    split
    · exact connects_toTeardown _ _
    · rfl
  | returned hpoint =>
    rename_i outcome value
    rw [User.deed, hpoint]
    cases outcome <;> rfl
  | brokeOff hook hpoint => cases hook <;> (rw [User.deed, hpoint]; rfl)
  | tornDown hpoint | teardownFailed hpoint | sawNoSignal hpoint | calls hpoint | advanced hpoint
  | paced hpoint | left hpoint =>
    rw [User.deed, hpoint]
    rfl

theorem eq_of_mem_openings_deed {token : Token} (h : token ∈ user.deed.openings) :
    token.owner = user.party ∧ token.serial = user.connects := by
  unfold User.deed at h
  split at h
  case h_1 | h_2 | h_3 => exact eq_of_mem_openings h
  case h_8 => split at h <;> cases h
  all_goals cases h

theorem isOver_toTeardown (setting : Setting G V) (user : User V) :
    (user.toTeardown setting).isOver = false := by
  obtain ⟨point, h, ⟨hook, -, rfl⟩ | ⟨-, rfl⟩⟩ := user.toTeardown_cases setting <;> (rw [h]; rfl)

theorem isOver_toCycle (setting : Setting G V) (user : User V) :
    (user.toCycle setting).isOver = false := by
  rcases user.toCycle_cases setting with ⟨-, -, h⟩ | ⟨-, h⟩
  · rw [h]
    rfl
  · rw [h, isOver_toTeardown]

/-- Whichever way a user ends, what it keeps is closed by the step with which it ends. -/
theorem Step.deed_of_over (h : user.Step setting shared stepped)
    (hover : stepped.user.isOver = true) : user.deed = .closed user.keeps := by
  cases h with
  | left hpoint => rw [User.deed, hpoint]
  | brokeOff hook hpoint => cases hook <;> (rw [User.deed, hpoint]; rfl)
  | acts hook => cases hook <;> cases hover
  | setUp =>
    rw [isOver_toCycle] at hover
    cases hover
  | setupFailed | sawSignal | capped | lacksBehaviour =>
    rw [isOver_toTeardown] at hover
    cases hover
  | settled =>
    rw [settle_user] at hover
    split at hover
    · rw [isOver_toTeardown] at hover
      cases hover
    · cases hover
  | advanced =>
    cases hpacing : setting.options.pacing <;> simp [isOver, hpacing] at hover
  | returned | tornDown | teardownFailed | sawNoSignal | calls | paced => cases hover

end User

namespace State

variable {G V : Type} {state next : State G V} {move : Move}

/-! ## Every party numbers its connections -/

/-- How many connections a party has opened. -/
def connectsOf (state : State G V) : Party → Nat
  | .run => state.connects
  | .user id => (state.users[id]?.map (·.connects)).getD 0
  | .background => state.backgroundConnects

theorem eq_of_mem_openings_deed (hplaced : state.Placed) {token : Token}
    (h : token ∈ (state.deed move).openings) : token.serial = state.connectsOf token.owner := by
  cases move with
  | user id outside =>
    rw [deed] at h
    cases huser : state.users[id]? with
    | none =>
      rw [huser] at h
      cases h
    | some user =>
      rw [huser] at h
      obtain ⟨howner, hserial⟩ := User.eq_of_mem_openings_deed h
      rw [howner, hserial, User.party, hplaced id user huser, connectsOf, huser]
      rfl
  | control outside =>
    rw [deed] at h
    split at h
    case h_3 => cases h
    all_goals
      obtain ⟨howner, hserial⟩ := eq_of_mem_openings h
      rw [howner, hserial]
      rfl
  | backgroundOpen =>
    rw [List.mem_singleton.mp h]
    rfl
  | deadline | interrupt | drain | backgroundClose => cases h

theorem countP_owner {tokens : List Token} {owner : Party}
    (h : ∀ token ∈ tokens, token.owner = owner) (party : Party) :
    tokens.countP (fun token => token.owner == party) =
      if owner = party then tokens.length else 0 := by
  split
  · rename_i hparty
    exact List.countP_eq_length.mpr fun token hmem => by rw [h token hmem, hparty, beq_self_eq_true]
  · rename_i hparty
    exact List.countP_eq_zero.mpr fun token hmem => by rw [h token hmem, beq_iff_eq]; exact hparty

/-- A step of a user is counted for that user. -/
theorem connectsOf_put {id : Nat} {user : User V} {stepped : Stepped V} (hplaced : state.Placed)
    (huser : state.users[id]? = some user)
    (hstep : user.Step state.setting state.shared stepped) (party : Party) :
    (state.put id stepped).connectsOf party =
      state.connectsOf party +
        user.deed.openings.countP (fun token => token.owner == party) := by
  have hlt := (List.getElem?_eq_some_iff.mp huser).1
  rw [countP_owner fun _ h => (User.eq_of_mem_openings_deed h).1, User.party,
    hplaced id user huser]
  cases party with
  | run | background => exact (Nat.add_zero _).symm
  | user other =>
    simp only [connectsOf, users_put, Party.user.injEq]
    by_cases hid : id = other
    · subst hid
      rw [List.getElem?_set_self hlt, huser, if_pos rfl]
      exact hstep.connects
    · rw [List.getElem?_set_ne hid, if_neg hid, Nat.add_zero]

theorem connectsOf_launch (state : State G V) (party : Party) :
    connectsOf { state with
      users := state.users ++ [User.start state.setting state.users.length] } party =
      state.connectsOf party := by
  cases party with
  | run | background => rfl
  | user id =>
    simp only [connectsOf]
    rcases Nat.lt_trichotomy id state.users.length with hlt | rfl | hgt
    · rw [List.getElem?_append_left hlt]
    · rw [List.getElem?_concat_length, List.getElem?_eq_none (Nat.le_refl _), Option.map_some,
        User.connects_start]
      rfl
    · rw [List.getElem?_eq_none (Nat.le_of_lt hgt), List.getElem?_eq_none]
      rw [List.length_append, List.length_singleton]
      exact hgt

@[simp] theorem connectsOf_concludeTeardown (state : State G V) (party : Party) :
    state.concludeTeardown.connectsOf party = state.connectsOf party := by
  obtain ⟨stage, h⟩ := concludeTeardown_eq state
  rw [h]
  cases party <;> rfl

@[simp] theorem connectsOf_toTeardown (state : State G V) (party : Party) :
    state.toTeardown.connectsOf party = state.connectsOf party := by
  obtain ⟨stage, h⟩ := toTeardown_eq state
  rw [h]
  cases party <;> rfl

/-- A party counts the connections that it opens. -/
theorem Transition.connectsOf (h : state.Transition move next) (hplaced : state.Placed)
    (party : Party) :
    next.connectsOf party =
      state.connectsOf party +
        (state.deed move).openings.countP (fun token => token.owner == party) := by
  cases h with
  | user huser hstep =>
    rw [deed, huser]
    exact connectsOf_put hplaced huser (User.step_cases hstep) party
  | acts hook hstage hperform =>
    rename_i outside action _ _ _ _
    have hconnects := connects_of_perform hperform
    have hdeed : state.deed (.control outside) = actionDeed state.desk action := by
      cases hook <;> (rw [deed, hstage]; rfl)
    rw [hdeed, countP_owner fun _ h => (eq_of_mem_openings h).1]
    cases party with
    | run => exact hconnects
    | user | background => rfl
  | launched hstage =>
    rw [deed, hstage]
    exact connectsOf_launch state party
  | brokeOff hook hstage => cases hook <;> (rw [deed, hstage]; cases party <;> rfl)
  | finished hstage =>
    rw [connectsOf_toTeardown, deed, hstage]
    cases party <;> rfl
  | tornDown hstage | teardownFailed hstage =>
    rw [connectsOf_concludeTeardown, deed, hstage]
    cases party <;> rfl
  | backgroundOpen => cases party <;> rfl
  | started hstage | announced hstage | halted hstage | setUp hstage | setupFailed hstage
  | launchedAll hstage | joined hstage | readOpened hstage | concluded hstage =>
    rw [deed, hstage]
    cases party <;> rfl
  | deadline | interrupt | drain | backgroundClose => cases party <;> rfl

/-! ## What a run has opened and closed -/

/-- The connections that are open after a move and were not before. -/
def opens (state : State G V) (move : Move) : List Token :=
  (state.step move).shared.ledger.live.filter fun token => token ∉ state.shared.ledger.live

/-- The connections that were open before a move and are not after it. -/
def closes (state : State G V) (move : Move) : List Token :=
  state.shared.ledger.live.filter fun token => token ∉ (state.step move).shared.ledger.live

/-- The connections opened by moves, in the order in which they were. -/
def openedBy (state : State G V) : List Move → List Token
  | [] => []
  | move :: moves => state.opens move ++ (state.step move).openedBy moves

/-- The connections closed by moves, in the order in which they were. -/
def closedBy (state : State G V) : List Move → List Token
  | [] => []
  | move :: moves => state.closes move ++ (state.step move).closedBy moves

theorem openedBy_append (state : State G V) (first second : List Move) :
    state.openedBy (first ++ second) =
      state.openedBy first ++ (state.after first).openedBy second := by
  induction first generalizing state with
  | nil => rfl
  | cons move first ih =>
    rw [List.cons_append, openedBy, openedBy, ih, List.append_assoc, after_cons]

theorem closedBy_append (state : State G V) (first second : List Move) :
    state.closedBy (first ++ second) =
      state.closedBy first ++ (state.after first).closedBy second := by
  induction first generalizing state with
  | nil => rfl
  | cons move first ih =>
    rw [List.cons_append, closedBy, closedBy, ih, List.append_assoc, after_cons]

theorem openedBy_concat (state : State G V) (moves : List Move) (move : Move) :
    state.openedBy (moves ++ [move]) = state.openedBy moves ++ (state.after moves).opens move := by
  rw [openedBy_append, openedBy, openedBy, List.append_nil]

theorem closedBy_concat (state : State G V) (moves : List Move) (move : Move) :
    state.closedBy (moves ++ [move]) = state.closedBy moves ++ (state.after moves).closes move := by
  rw [closedBy_append, closedBy, closedBy, List.append_nil]

/-- The books of a run are right: what was opened is closed or open, and each connection is counted
once. -/
structure Conserved (state : State G V) (opened closed : List Token) : Prop where
  openedOnce : opened.Nodup
  closedOnce : closed.Nodup
  /-- What was opened was closed or is open now, and nothing else was closed or is open. -/
  kept : opened.Perm (closed ++ state.shared.ledger.live)
  countOpened : state.shared.ledger.opened = opened.length
  countClosed : state.shared.ledger.closed = closed.length

/-- No party has used a number twice, or one that it has not come to. -/
def Numbered (state : State G V) (opened : List Token) : Prop :=
  ∀ token ∈ opened, token.serial < state.connectsOf token.owner

theorem Numbered.keep {opened : List Token} (h : state.Numbered opened) (hplaced : state.Placed)
    (htransition : state.Transition move next) :
    next.Numbered (opened ++ (state.deed move).openings) := by
  intro token hmem
  have hconnects := htransition.connectsOf hplaced token.owner
  rcases List.mem_append.mp hmem with hold | hnew
  · have := h token hold
    omega
  · have hserial := eq_of_mem_openings_deed hplaced hnew
    have hpos : 0 < (state.deed move).openings.countP fun other => other.owner == token.owner :=
      List.countP_pos_iff.mpr ⟨token, hnew, beq_self_eq_true _⟩
    omega

/-- A connection that a move opens has not been opened before. -/
theorem Numbered.fresh {opened : List Token} (h : state.Numbered opened) (hplaced : state.Placed) :
    ∀ token ∈ (state.deed move).openings, token ∉ opened := by
  intro token hnew hold
  have hserial := eq_of_mem_openings_deed hplaced hnew
  have := h token hold
  omega

theorem Transition.ledger (h : state.Transition move next) :
    next.shared.ledger =
      ⟨state.shared.ledger.opened + (state.deed move).openings.length,
        state.shared.ledger.closed +
          (state.shared.ledger.live.filter (state.deed move).closes).length,
        state.shared.ledger.live.filter (fun token => !(state.deed move).closes token) ++
          (state.deed move).openings⟩ := by
  have hbooks := congrArg Books.ledger h.books
  rw [ledger_after] at hbooks
  exact hbooks

theorem nodup_openings (deed : Deed) : deed.openings.Nodup := by
  cases deed with
  | opened token => exact List.nodup_singleton token
  | none | check | iteration | closed => exact List.nodup_nil

/-- What a move does to the ledger is what can be seen of it from outside. -/
theorem Transition.opens (h : state.Transition move (state.step move))
    (hfresh : ∀ token ∈ (state.deed move).openings, token ∉ state.shared.ledger.live) :
    state.opens move = (state.deed move).openings := by
  rw [State.opens, h.ledger, List.filter_append, List.filter_eq_nil_iff.mpr, List.nil_append,
    List.filter_eq_self]
  · exact fun token hmem => decide_eq_true (hfresh token hmem)
  · intro token hmem hnot
    exact of_decide_eq_true hnot (List.mem_of_mem_filter hmem)

theorem Transition.closes (h : state.Transition move (state.step move))
    (hfresh : ∀ token ∈ (state.deed move).openings, token ∉ state.shared.ledger.live) :
    state.closes move = state.shared.ledger.live.filter (state.deed move).closes := by
  rw [State.closes, h.ledger]
  refine List.filter_congr fun token hmem => ?_
  have hnew : token ∉ (state.deed move).openings := fun h => hfresh token h hmem
  cases hcloses : (state.deed move).closes token <;> simp [hmem, hnew, hcloses]

theorem Conserved.fresh {opened closed : List Token} (h : state.Conserved opened closed)
    (hnumbered : state.Numbered opened) (hplaced : state.Placed) (move : Move) :
    ∀ token ∈ (state.deed move).openings, token ∉ state.shared.ledger.live :=
  fun token hnew hlive =>
    hnumbered.fresh hplaced token hnew (h.kept.mem_iff.mpr (List.mem_append_right closed hlive))

theorem Conserved.keep {opened closed : List Token} (h : state.Conserved opened closed)
    (hnumbered : state.Numbered opened) (hplaced : state.Placed)
    (htransition : state.Transition move (state.step move)) :
    (state.step move).Conserved (opened ++ state.opens move) (closed ++ state.closes move) := by
  have hfresh := h.fresh hnumbered hplaced move
  have hledger := htransition.ledger
  rw [htransition.opens hfresh, htransition.closes hfresh]
  have hopened : (opened ++ (state.deed move).openings).Nodup :=
    List.nodup_append.mpr ⟨h.openedOnce, nodup_openings _, fun _ hold _ hnew heq =>
      hnumbered.fresh hplaced _ hnew (heq ▸ hold)⟩
  have hkept : (opened ++ (state.deed move).openings).Perm
      (closed ++ state.shared.ledger.live.filter (state.deed move).closes ++
        (state.step move).shared.ledger.live) := by
    have hsplit := List.filter_append_perm (state.deed move).closes state.shared.ledger.live
    have hclosed := (hsplit.symm.append_left closed).append_right (state.deed move).openings
    have hall := (h.kept.append_right _).trans hclosed
    simp only [List.append_assoc] at hall
    rw [hledger, List.append_assoc]
    exact hall
  exact
    { openedOnce := hopened
      closedOnce := (List.nodup_append.mp (hkept.nodup hopened)).1
      kept := hkept
      countOpened := by rw [hledger, List.length_append, h.countOpened]
      countClosed := by rw [hledger, List.length_append, h.countClosed] }

theorem opens_of_step_eq (h : state.step move = state) : state.opens move = [] := by
  rw [opens, h]
  exact List.filter_eq_nil_iff.mpr fun token hmem hnot => of_decide_eq_true hnot hmem

theorem closes_of_step_eq (h : state.step move = state) : state.closes move = [] := by
  rw [closes, h]
  exact List.filter_eq_nil_iff.mpr fun token hmem hnot => of_decide_eq_true hnot hmem

theorem conserved_after (scenario : Scenario G V) (options : Options) (startedAt : Int)
    (moves : List Move) :
    ((State.start scenario options startedAt).after moves).Conserved
        ((State.start scenario options startedAt).openedBy moves)
        ((State.start scenario options startedAt).closedBy moves) ∧
      ((State.start scenario options startedAt).after moves).Numbered
        ((State.start scenario options startedAt).openedBy moves) := by
  induction moves using List.reverseRecOn with
  | nil =>
    exact ⟨⟨List.nodup_nil, List.nodup_nil, .refl _, rfl, rfl⟩, fun _ hmem => by cases hmem⟩
  | append_singleton moves move ih =>
    obtain ⟨hconserved, hnumbered⟩ := ih
    have hplaced := placed_after scenario options startedAt moves
    rw [openedBy_concat, closedBy_concat, after_append, after_cons, after_nil]
    generalize (State.start scenario options startedAt).after moves = state at *
    rcases step_cases state move with h | ⟨-, h⟩
    · rw [opens_of_step_eq h, closes_of_step_eq h, List.append_nil, List.append_nil, h]
      exact ⟨hconserved, hnumbered⟩
    · refine ⟨hconserved.keep hnumbered hplaced h, ?_⟩
      rw [h.opens (hconserved.fresh hnumbered hplaced _)]
      exact hnumbered.keep hplaced h

/-! ## What is open when users are over -/

/-- Every connection that is kept in the value of a user is kept by one that lives. -/
def Homed (state : State G V) : Prop :=
  ∀ token ∈ state.shared.ledger.live, token.isLoose = false →
    ∃ (id : Nat) (user : User V),
      token.owner = .user id ∧ state.users[id]? = some user ∧ user.isOver = false

theorem Transition.mem_live (h : state.Transition move next) {token : Token}
    (hmem : token ∈ next.shared.ledger.live) :
    token ∈ state.shared.ledger.live ∧ (state.deed move).closes token = false ∨
      token ∈ (state.deed move).openings := by
  rw [h.ledger] at hmem
  rcases List.mem_append.mp hmem with hold | hnew
  · obtain ⟨hmem, hcloses⟩ := List.mem_filter.mp hold
    rw [Bool.not_eq_true'] at hcloses
    exact .inl ⟨hmem, hcloses⟩
  · exact .inr hnew

/-- Only a user's own moves open connections for it. -/
theorem move_of_mem_openings (hplaced : state.Placed) {token : Token} {id : Nat}
    (howner : token.owner = .user id) (h : token ∈ (state.deed move).openings) :
    ∃ outside, move = .user id outside := by
  cases move with
  | user mover outside =>
    rw [deed] at h
    cases huser : state.users[mover]? with
    | none =>
      rw [huser] at h
      cases h
    | some user =>
      rw [huser] at h
      have hparty := (User.eq_of_mem_openings_deed h).1
      rw [howner, User.party, hplaced mover user huser, Party.user.injEq] at hparty
      exact ⟨outside, by rw [hparty]⟩
  | control outside =>
    rw [deed] at h
    split at h
    case h_3 => cases h
    all_goals
      rw [(eq_of_mem_openings h).1] at howner
      cases howner
  | backgroundOpen =>
    rw [List.mem_singleton.mp h] at howner
    cases howner
  | deadline | interrupt | drain | backgroundClose => cases h

/-- A user that does not come to its end lives on with what it has opened and kept. -/
theorem not_isOver_of_kept {user : User V} {setting : Setting G V} {shared : Shared}
    {stepped : Stepped V} (hstep : user.Step setting shared stepped) {token : Token}
    (howner : token.owner = user.party) (hleaked : token.leaked = false)
    (hkept : user.deed.closes token = false ∨ token ∈ user.deed.openings) :
    stepped.user.isOver = false := by
  rw [← Bool.not_eq_true]
  intro hover
  rw [hstep.deed_of_over hover] at hkept
  rcases hkept with hkept | hnew
  · rw [Deed.closes, User.keeps, howner, hleaked, beq_self_eq_true] at hkept
    cases hkept
  · cases hnew

theorem Homed.keep (h : state.Homed) (hplaced : state.Placed)
    (htransition : state.Transition move next) : next.Homed := by
  intro token hmem hinside
  obtain ⟨id, howner, hleaked⟩ := Token.owner_of_not_isLoose hinside
  have hlive := htransition.mem_live hmem
  by_cases hmove : ∀ outside, move ≠ .user id outside
  · rcases hlive with ⟨hold, -⟩ | hnew
    · obtain ⟨other, user, hother, huser, hliving⟩ := h token hold hinside
      rw [howner, Party.user.injEq] at hother
      subst hother
      exact ⟨id, user, howner, htransition.getElem?_users huser hmove, hliving⟩
    · obtain ⟨outside, hown⟩ := move_of_mem_openings hplaced howner hnew
      exact absurd hown (hmove outside)
  · obtain ⟨outside, hown⟩ := Classical.not_forall_not.mp hmove
    subst hown
    cases htransition with
    | user huser hstep =>
      rename_i user stepped
      have hlt := (List.getElem?_eq_some_iff.mp huser).1
      have hparty : token.owner = user.party := by
        rw [howner, User.party, hplaced id user huser]
      rw [deed, huser] at hlive
      refine ⟨id, stepped.user, howner, List.getElem?_set_self hlt, ?_⟩
      exact not_isOver_of_kept (User.step_cases hstep) hparty hleaked
        (hlive.imp And.right fun hnew => hnew)

theorem homed_after (scenario : Scenario G V) (options : Options) (startedAt : Int)
    (moves : List Move) : ((State.start scenario options startedAt).after moves).Homed := by
  induction moves using List.reverseRecOn with
  | nil => exact fun _ hmem => by cases hmem
  | append_singleton moves move ih =>
    rw [after_append, after_cons, after_nil]
    rcases step_cases ((State.start scenario options startedAt).after moves) move with h | ⟨-, h⟩
    · rw [h]
      exact ih
    · exact ih.keep (placed_after scenario options startedAt moves) h

/-- Once all users are over, only loose connections are open. -/
theorem Homed.isLoose_of_allOver (h : state.Homed) (hover : state.allOver = true) :
    ∀ token ∈ state.shared.ledger.live, token.isLoose = true := by
  intro token hmem
  rw [← Bool.not_eq_false]
  intro hinside
  obtain ⟨id, user, -, huser, hliving⟩ := h token hmem hinside
  rw [(allOver_iff state).mp hover user (List.mem_of_getElem? huser)] at hliving
  cases hliving

/-! ## What the summary says -/

/-- Whether nothing happens beside a run while it reads its books. -/
def rests (state : State G V) : List Move → Bool
  | [] => true
  | move :: moves =>
    (match state.stage with
      | .readClosed _ => !move.isBackground
      | _ => true) && (state.step move).rests moves

/-- What a run has read off its books is what they say. -/
def Read (state : State G V) : Prop :=
  match state.stage with
  | .readClosed opened => state.shared.ledger.opened = opened
  | .over (.finished summary) =>
    summary.connectionsOpened = state.shared.ledger.opened ∧
      summary.connectionsClosed = state.shared.ledger.closed
  | _ => True

theorem read_start (scenario : Scenario G V) (options : Options) (startedAt : Int) :
    (State.start scenario options startedAt).Read := by
  unfold Read State.start
  cases scenario.setup <;> trivial

theorem read_concludeTeardown (state : State G V) : state.concludeTeardown.Read := by
  unfold concludeTeardown
  split <;> trivial

theorem read_toTeardown (state : State G V) : state.toTeardown.Read := by
  unfold toTeardown
  split
  · trivial
  · exact read_concludeTeardown state

theorem Read.keep (h : state.Read) (hstaged : state.Staged) (hrunning : state.conclusion? = none)
    (hrests : ∀ opened, state.stage = .readClosed opened → move.isBackground = false)
    (htransition : state.Transition move next) : next.Read := by
  have hframe (hstage : next.stage = state.stage)
      (hledger : next.shared.ledger = state.shared.ledger) : next.Read := by
    unfold Read
    rw [hstage, hledger]
    exact h
  cases htransition with
  | user huser hstep =>
    rcases stage_of_step hstaged huser (User.step_cases hstep) with hstage | hstage | hstage <;>
      (simp only [Read, put, note, hstage])
  | acts hook => cases hook <;> trivial
  | concluded hstage =>
    simp only [Read, hstage] at h
    exact ⟨h.symm, rfl⟩
  | readOpened => exact rfl
  | launched hstage => simp only [Read, hstage]
  | finished => exact read_toTeardown _
  | tornDown | teardownFailed => exact read_concludeTeardown _
  | deadline | interrupt => exact hframe rfl (congrArg Books.ledger (Shared.books_raise _ _))
  | drain => exact hframe rfl (congrArg Books.ledger (Shared.books_changePhase _ _ _))
  | backgroundOpen | backgroundClose =>
    unfold Read
    split
    · rename_i hstage
      cases hrests _ hstage
    · rename_i hstage
      rw [conclusion?, hstage] at hrunning
      cases hrunning
    · trivial
  | brokeOff | setUp | setupFailed | started | launchedAll | announced | joined | halted => trivial

theorem Read.after (h : state.Read) (hstaged : state.Staged) (moves : List Move)
    (hrests : state.rests moves = true) : (state.after moves).Read := by
  induction moves generalizing state with
  | nil => exact h
  | cons move moves ih =>
    rw [rests, Bool.and_eq_true] at hrests
    rw [after_cons]
    rcases step_cases state move with heq | ⟨hrunning, htransition⟩
    · rw [heq] at hrests ⊢
      exact ih h hstaged hrests.2
    · refine ih (h.keep hstaged hrunning (fun opened hstage => ?_) htransition)
        (hstaged.keep htransition) hrests.2
      rw [hstage, Bool.not_eq_true'] at hrests
      exact hrests.1

end State

/-- Every connection is counted opened once and closed at most once, and none outlives the user that
keeps it.  So a summary leaves those open that nobody's value keeps. -/
theorem connections_conserved {G V : Type} (scenario : Scenario G V) (options : Options)
    (startedAt : Int) (moves : List Move) {state : State G V}
    (hstate : (State.start scenario options startedAt).after moves = state) :
    state.Conserved ((State.start scenario options startedAt).openedBy moves)
        ((State.start scenario options startedAt).closedBy moves) ∧
      state.shared.ledger.closed ≤ state.shared.ledger.opened ∧
      state.shared.ledger.opened - state.shared.ledger.closed = state.shared.ledger.live.length ∧
      state.Homed ∧
      ∀ summary, state.conclusion? = some (.finished summary) →
        (State.start scenario options startedAt).rests moves = true →
        summary.connectionsClosed ≤ summary.connectionsOpened ∧
          summary.connectionsOpened - summary.connectionsClosed =
            state.shared.ledger.live.countP (·.isLoose) ∧
          ((∀ token ∈ (State.start scenario options startedAt).openedBy moves,
              token.isLoose = true →
                token ∈ (State.start scenario options startedAt).closedBy moves) →
            summary.openConnections = 0) := by
  subst hstate
  have hconserved := (State.conserved_after scenario options startedAt moves).1
  have hhomed := State.homed_after scenario options startedAt moves
  have hstaged := State.staged_after scenario options startedAt moves
  have hread := (State.read_start scenario options startedAt).after
    (State.staged_start scenario options startedAt) moves
  generalize (State.start scenario options startedAt).openedBy moves = opened at *
  generalize (State.start scenario options startedAt).closedBy moves = closed at *
  generalize (State.start scenario options startedAt).after moves = state at *
  have hlength := hconserved.kept.length_eq
  rw [List.length_append, ← hconserved.countOpened, ← hconserved.countClosed] at hlength
  refine ⟨hconserved, by omega, by omega, hhomed, fun summary hfinished hrests => ?_⟩
  have hstage := State.stage_of_conclusion? hfinished
  simp only [State.Staged, hstage] at hstaged
  have hloose := hhomed.isLoose_of_allOver (State.allOver_of_ended hstaged.2)
  replace hread := hread hrests
  simp only [State.Read, hstage] at hread
  obtain ⟨hopened, hclosed⟩ := hread
  rw [List.countP_eq_length.mpr hloose, hopened, hclosed]
  refine ⟨by omega, by omega, fun hall => ?_⟩
  have hlive : state.shared.ledger.live = [] := List.eq_nil_iff_forall_not_mem.mpr fun token hmem =>
    (List.nodup_append.mp (hconserved.kept.nodup hconserved.openedOnce)).2.2 token
      (hall token (hconserved.kept.mem_iff.mpr (List.mem_append_right _ hmem)) (hloose token hmem))
      token hmem rfl
  rw [hlive, List.length_nil, Nat.add_zero] at hlength
  rw [Summary.openConnections, hopened, hclosed, hlength, Nat.sub_self]

/-- Every user opens a connection in its setup.  The first user leaks another one, and the setup of
each other user fails.  The run keeps a connection as well. -/
def Sample.dialling : Scenario Unit Unit :=
  { Sample.scenario with
    setup := some fun _ => discard (Hook.perform (.connect false))
    userSetup := some fun context => do
      discard (Hook.perform (.connect false))
      if context.id = 0 then discard (Hook.perform (.connect true))
      else Hook.fail (.ofText "refused") }

/-- Of two users one fails in its setup and one runs to its cap.  Of their three connections only
the leaked one is left, beside that of the run. -/
theorem connections_conserved_sample :
    ∃ state summary,
      (State.start Sample.dialling (Sample.options 2 none) 0).after
          (Sample.control 7 ++ Sample.user 1 4 ++ Sample.user 0 13 ++ Sample.control 5) = state ∧
        state.conclusion? = some (.finished summary) ∧
        (State.start Sample.dialling (Sample.options 2 none) 0).rests
          (Sample.control 7 ++ Sample.user 1 4 ++ Sample.user 0 13 ++ Sample.control 5) = true ∧
        summary.connectionsOpened = 4 ∧
        state.shared.ledger.live = [⟨.run, 0, false⟩, ⟨.user 0, 1, true⟩] ∧
        summary.connectionsOpened - summary.connectionsClosed =
          state.shared.ledger.live.countP (·.isLoose) := by
  refine ⟨_, _, rfl, rfl, rfl, rfl, rfl, ?_⟩
  exact ((connections_conserved Sample.dialling (Sample.options 2 none) 0 _ rfl).2.2.2.2
    _ rfl rfl).2.1

end Run

end LoadHarness
