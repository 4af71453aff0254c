import LoadHarness.Proofs.Run.Ending
import LoadHarness.Proofs.Work.Only

/-! Work done among others, moment by moment.

Between two actions of one party any other may act.  So work that is played does
not find things as it has left them: each action is taken in whatever state there
is by then, and nothing links that state to the one before (`Plays`).

Others may open and close connections of their own meanwhile.  What they leave
alone is one token (`Undisturbed`).  From that follows when it is in the books,
and at which moments they change. -/

namespace LoadHarness

theorem Work.Only.neverWaits {α : Type} {work : Work α} {which : Action → Prop}
    (h : work.Only which) (hwaits : ¬ which .awaitStop) : work.NeverWaits := by
  induction work with
  | done => trivial
  | act action next ih =>
    refine ⟨?_, fun answer => ih answer (h.2 answer)⟩
    rintro rfl
    exact hwaits h.1

namespace Run

/-- An action at the time when it was taken: what parties shared before it, what the world outside
had to say, and what parties shared after it. -/
structure Moment extends Taken where
  before : Shared
  outside : Outside
  after : Shared

/-- The actions, with the answers that came. -/
def taken (moments : List Moment) : List Taken := moments.map Moment.toTaken

@[simp] theorem taken_append (first rest : List Moment) :
    taken (first ++ rest) = taken first ++ taken rest := List.map_append

/-- Work that begins at a desk comes to its end in these moments. -/
inductive Plays {α : Type} : Desk → Work α → List Moment → α → Prop where
  | done {desk : Desk} {value : α} : Plays desk (.done value) [] value
  | act (before : Shared) (outside : Outside) {desk later : Desk} {action : Action}
      {next : Answer action → Work α} {after : Shared} {answer : Answer action}
      {moments : List Moment} {value : α}
      (hperform : before.perform desk outside action = some (after, later, answer))
      (h : Plays later (next answer) moments value) :
      Plays desk (.act action next) (⟨⟨action, answer⟩, before, outside, after⟩ :: moments) value

theorem Plays.takes {α : Type} {desk : Desk} {work : Work α} {moments : List Moment} {value : α}
    (h : Plays desk work moments value) : work.Takes (taken moments) value := by
  induction h with
  | done => exact .done _
  | act _ _ _ _ ih => exact .act _ ih

/-- Work that never waits for the end of the run comes to its own end, whatever it finds at each of
its actions. -/
theorem exists_plays {α : Type} {work : Work α} (h : work.NeverWaits) (desk : Desk)
    (world : Nat → Shared × Outside) :
    ∃ moments value, Plays desk work moments value ∧
      moments.map (fun moment => (moment.before, moment.outside)) =
        (List.range moments.length).map world := by
  induction work generalizing desk world with
  | done value => exact ⟨[], value, .done, rfl⟩
  | act action next ih =>
    obtain ⟨hwaits, hnext⟩ := h
    have hready : action = .awaitStop → (world 0).1.stopping = true := fun h => absurd h hwaits
    have hsome : ((world 0).1.perform desk (world 0).2 action).isSome := perform_isSome hready
    obtain ⟨⟨after, later, answer⟩, hperform⟩ := Option.isSome_iff_exists.mp hsome
    obtain ⟨moments, value, hplays, hworld⟩ :=
      ih answer (hnext answer) later fun i => world (i + 1)
    refine ⟨_, value, .act _ _ hperform hplays, ?_⟩
    rw [List.map_cons, hworld, List.length_cons, List.range_succ_eq_map, List.map_cons,
      List.map_map]
    rfl

/-! ## What a moment does to the books -/

/-- What an action that is taken at a desk can have done to the ledger, and to the desk. -/
inductive Effect (desk : Desk) : Moment → Desk → Prop where
  | entered {leaked : Bool} {before after : Shared} {outside : Outside} {later : Desk}
      (hledger : after.ledger = before.ledger.open ⟨desk.party, desk.connects, leaked⟩) :
      Effect desk
        ⟨⟨.connect leaked, (⟨desk.party, desk.connects, leaked⟩ : Token)⟩, before, outside, after⟩
        later
  | closed {token : Token} {before after : Shared} {outside : Outside}
      (hledger : after.ledger = before.ledger.close token) :
      Effect desk ⟨⟨.disconnect token, ()⟩, before, outside, after⟩ desk
  | kept {moment : Moment} (hentry : moment.action.isEntry = false)
      (hledger : moment.after.ledger = moment.before.ledger) : Effect desk moment desk

theorem effect_of_perform {before after : Shared} {desk later : Desk} {outside : Outside}
    {action : Action} {answer : Answer action}
    (h : before.perform desk outside action = some (after, later, answer)) :
    Effect desk ⟨⟨action, answer⟩, before, outside, after⟩ later := by
  cases action with
  | connect leaked =>
    cases h
    exact .entered rfl
  | disconnect token =>
    cases h
    exact .closed rfl
  | stop =>
    simp only [Shared.perform, Option.some.injEq, Prod.mk.injEq] at h
    obtain ⟨rfl, rfl, -⟩ := h
    refine .kept rfl ?_
    simp only [Shared.raise]
    split <;> rfl
  | awaitStop =>
    rw [Shared.perform] at h
    split at h <;> cases h
    exact .kept rfl rfl
  | log | check | stopping | phase | counts | now | sleep | report | ask =>
    cases h
    exact .kept rfl rfl

theorem Effect.ledger_of_not_isEntry {desk later : Desk} {moment : Moment}
    (h : Effect desk moment later) (hentry : ¬ moment.action.isEntry = true) :
    moment.after.ledger = moment.before.ledger := by
  cases h with
  | entered | closed => exact absurd rfl hentry
  | kept _ hledger => exact hledger

/-- The moments at which the ledger changes. -/
def changes (moments : List Moment) : List Moment :=
  moments.filter fun moment => moment.after.ledger ≠ moment.before.ledger

theorem changes_cons_of_eq {moment : Moment} (h : moment.after.ledger = moment.before.ledger)
    (moments : List Moment) : changes (moment :: moments) = changes moments :=
  List.filter_cons_of_neg (by rw [decide_eq_true_eq]; exact not_not_intro h)

theorem changes_cons_of_ne {moment : Moment} (h : moment.after.ledger ≠ moment.before.ledger)
    (moments : List Moment) : changes (moment :: moments) = moment :: changes moments :=
  List.filter_cons_of_pos (decide_eq_true h)

namespace Moment

/-- A connection is entered in the books. -/
def Opens (moment : Moment) (token : Token) : Prop :=
  token ∉ moment.before.ledger.live ∧
    moment.after.ledger = ⟨moment.before.ledger.opened + 1, moment.before.ledger.closed,
      moment.before.ledger.live ++ [token]⟩

/-- An open connection is closed in the books. -/
def Releases (moment : Moment) (token : Token) : Prop :=
  token ∈ moment.before.ledger.live ∧
    moment.after.ledger = ⟨moment.before.ledger.opened, moment.before.ledger.closed + 1,
      moment.before.ledger.live.filter (· != token)⟩

variable {moment : Moment} {token : Token}

theorem opens_of_ledger (hledger : moment.after.ledger = moment.before.ledger.open token)
    (hcount : moment.before.ledger.live.count token = 0) :
    moment.Opens token ∧ moment.after.ledger ≠ moment.before.ledger ∧
      moment.after.ledger.live.count token = 1 := by
  refine ⟨⟨List.count_eq_zero.mp hcount, hledger⟩, fun heq => ?_, ?_⟩
  · have hopened := congrArg Ledger.opened (hledger.symm.trans heq)
    exact absurd hopened (Nat.succ_ne_self _)
  · rw [hledger, Ledger.open, List.count_append, hcount, List.count_singleton_self]

theorem releases_of_ledger (hledger : moment.after.ledger = moment.before.ledger.close token)
    (hcount : moment.before.ledger.live.count token = 1) :
    moment.Releases token ∧ moment.after.ledger ≠ moment.before.ledger ∧
      moment.after.ledger.live.count token = 0 := by
  have hpicked : (moment.before.ledger.live.filter (· == token)).length = 1 := by
    rw [← List.count_eq_length_filter, hcount]
  rw [Ledger.close, Ledger.closeWhere, hpicked] at hledger
  refine ⟨⟨List.count_pos_iff.mp (by omega), hledger⟩, fun heq => ?_, ?_⟩
  · have hclosed := congrArg Ledger.closed (hledger.symm.trans heq)
    exact absurd hclosed (Nat.succ_ne_self _)
  · rw [hledger, List.count_eq_zero]
    intro hmem
    have hne := (List.mem_filter.mp hmem).2
    rw [beq_self_eq_true] at hne
    cases hne

end Moment

theorem Effect.opens {desk later : Desk} {moment : Moment} {token : Token} {leaked : Bool}
    (h : Effect desk moment later) (heq : moment.toTaken = ⟨.connect leaked, token⟩)
    (hcount : moment.before.ledger.live.count token = 0) :
    moment.Opens token ∧ moment.after.ledger ≠ moment.before.ledger ∧
      moment.after.ledger.live.count token = 1 := by
  cases h with
  | entered hledger =>
    cases heq
    exact Moment.opens_of_ledger hledger hcount
  | closed => cases heq
  | kept hentry =>
    rw [heq] at hentry
    cases hentry

theorem Effect.releases {desk later : Desk} {moment : Moment} {token : Token}
    (h : Effect desk moment later) (heq : moment.toTaken = ⟨.disconnect token, ()⟩)
    (hcount : moment.before.ledger.live.count token = 1) :
    moment.Releases token ∧ moment.after.ledger ≠ moment.before.ledger ∧
      moment.after.ledger.live.count token = 0 := by
  cases h with
  | entered => cases heq
  | closed hledger =>
    cases heq
    exact Moment.releases_of_ledger hledger hcount
  | kept hentry =>
    rw [heq] at hentry
    cases hentry

/-- Nobody touches a token between these moments.  It is in the books `first` times before them and
`last` times after them. -/
def Undisturbed (token : Token) : Nat → List Moment → Nat → Prop
  | first, [], last => last = first
  | first, moment :: moments, last =>
    moment.before.ledger.live.count token = first ∧
      Undisturbed token (moment.after.ledger.live.count token) moments last

theorem undisturbed_append {token : Token} {moments rest : List Moment} {first last : Nat} :
    Undisturbed token first (moments ++ rest) last ↔
      ∃ middle, Undisturbed token first moments middle ∧ Undisturbed token middle rest last := by
  induction moments generalizing first with
  | nil =>
    constructor
    · exact fun h => ⟨first, rfl, h⟩
    · rintro ⟨middle, rfl, h⟩
      exact h
  | cons moment moments ih =>
    simp only [List.cons_append, Undisturbed, ih, exists_and_left, and_assoc]

namespace Plays

variable {α : Type} {desk : Desk} {work : Work α} {moments : List Moment} {value : α}
  {token : Token} {leaked : Bool} {last : Nat}

/-- Without an entry the books stay as they are. -/
theorem of_entries_eq_nil (h : Plays desk work moments value)
    (hentries : entries (taken moments) = []) :
    changes moments = [] ∧
      ∀ {token : Token} {first last : Nat}, Undisturbed token first moments last →
        last = first := by
  induction h with
  | done => exact ⟨rfl, id⟩
  | act before outside hperform _ ih =>
    rw [taken, List.map_cons, entries_cons] at hentries
    cases effect_of_perform hperform with
    | entered | closed => cases hentries
    | kept hentry hledger =>
      simp only [hentry, Bool.false_eq_true, if_false] at hentries
      obtain ⟨hquiet, hlast⟩ := ih hentries
      refine ⟨?_, fun {_ _ _} ⟨hcount, hundisturbed⟩ => ?_⟩
      · rw [changes_cons_of_eq hledger, hquiet]
      · rw [hledger, hcount] at hundisturbed
        exact hlast hundisturbed

/-- What is opened first bears the name of the desk and the number that is next there. -/
theorem token_of_entries {rest : List Taken} (h : Plays desk work moments value)
    (hentries : entries (taken moments) = ⟨.connect leaked, token⟩ :: rest) :
    token = ⟨desk.party, desk.connects, leaked⟩ := by
  induction h with
  | done => cases hentries
  | act before outside hperform _ ih =>
    rw [taken, List.map_cons, entries_cons] at hentries
    cases effect_of_perform hperform with
    | closed => cases hentries
    | entered =>
      cases (List.cons.inj hentries).1
      rfl
    | kept hentry =>
      simp only [hentry, Bool.false_eq_true, if_false] at hentries
      exact ih hentries

/-- The next entry is the next change of the books: what holds of the moment at which it is made
holds of the moment at which they change, and the other entries are made after it. -/
theorem of_entries_eq_cons {entry : Taken} {rest : List Taken} {count next : Nat}
    {P : Moment → Prop} (h : Plays desk work moments value)
    (hentries : entries (taken moments) = entry :: rest)
    (hundisturbed : Undisturbed token count moments last)
    (heffect : ∀ {desk later : Desk} {moment : Moment}, Effect desk moment later →
      moment.toTaken = entry → moment.before.ledger.live.count token = count →
        P moment ∧ moment.after.ledger ≠ moment.before.ledger ∧
          moment.after.ledger.live.count token = next) :
    ∃ (moment : Moment) (later : Desk) (left : Work α) (others : List Moment),
      P moment ∧ changes moments = moment :: changes others ∧ Plays later left others value ∧
        entries (taken others) = rest ∧ Undisturbed token next others last := by
  induction h with
  | done => cases hentries
  | act before outside hperform hrest ih =>
    rename_i desk later action _ after answer moments value
    have hact : Effect desk ⟨⟨action, answer⟩, before, outside, after⟩ later :=
      effect_of_perform hperform
    rw [taken, List.map_cons, entries_cons] at hentries
    obtain ⟨hcount, hundisturbed⟩ := hundisturbed
    split at hentries
    · obtain ⟨heq, hlater⟩ := List.cons.inj hentries
      obtain ⟨hP, hchanged, hnext⟩ := heffect hact heq hcount
      rw [hnext] at hundisturbed
      exact ⟨_, _, _, _, hP, changes_cons_of_ne hchanged _, hrest, hlater, hundisturbed⟩
    · -- the books stay as they are, and the entry is still to come
      rename_i hentry
      have hledger := hact.ledger_of_not_isEntry hentry
      rw [hledger, hcount] at hundisturbed
      rw [changes_cons_of_eq hledger]
      exact ih hentries hundisturbed

/-- One entry is one change of the books. -/
theorem of_entries_eq_singleton {entry : Taken} {count next : Nat} {P : Moment → Prop}
    (h : Plays desk work moments value) (hentries : entries (taken moments) = [entry])
    (hundisturbed : Undisturbed token count moments last)
    (heffect : ∀ {desk later : Desk} {moment : Moment}, Effect desk moment later →
      moment.toTaken = entry → moment.before.ledger.live.count token = count →
        P moment ∧ moment.after.ledger ≠ moment.before.ledger ∧
          moment.after.ledger.live.count token = next) :
    last = next ∧ ∃ moment, changes moments = [moment] ∧ P moment := by
  obtain ⟨moment, _, _, others, hP, hchanges, hothers, hnone, hlast⟩ :=
    h.of_entries_eq_cons hentries hundisturbed heffect
  obtain ⟨hquiet, hsame⟩ := hothers.of_entries_eq_nil hnone
  rw [hquiet] at hchanges
  exact ⟨hsame hlast, moment, hchanges, hP⟩

/-- A connection that is opened is entered in the books once. -/
theorem of_entries_eq_connect (h : Plays desk work moments value)
    (hentries : entries (taken moments) = [⟨.connect leaked, token⟩])
    (hundisturbed : Undisturbed token 0 moments last) :
    last = 1 ∧ ∃ moment, changes moments = [moment] ∧ moment.Opens token :=
  h.of_entries_eq_singleton hentries hundisturbed Effect.opens

/-- A connection that is closed leaves the books once. -/
theorem of_entries_eq_disconnect (h : Plays desk work moments value)
    (hentries : entries (taken moments) = [⟨.disconnect token, ()⟩])
    (hundisturbed : Undisturbed token 1 moments last) :
    last = 0 ∧ ∃ moment, changes moments = [moment] ∧ moment.Releases token :=
  h.of_entries_eq_singleton hentries hundisturbed Effect.releases

/-- A connection that is opened and closed is entered in the books and leaves them, once each. -/
theorem of_entries_eq_connect_disconnect (h : Plays desk work moments value)
    (hentries : entries (taken moments) = [⟨.connect leaked, token⟩, ⟨.disconnect token, ()⟩])
    (hundisturbed : Undisturbed token 0 moments last) :
    last = 0 ∧ ∃ opening ending, changes moments = [opening, ending] ∧ opening.Opens token ∧
      ending.Releases token := by
  obtain ⟨opening, _, _, others, hopens, hchanges, hothers, hending, hlater⟩ :=
    h.of_entries_eq_cons hentries hundisturbed Effect.opens
  obtain ⟨hlast, ending, hrest, hreleases⟩ := hothers.of_entries_eq_disconnect hending hlater
  rw [hrest] at hchanges
  exact ⟨hlast, opening, ending, hchanges, hopens, hreleases⟩

end Plays

end Run

end LoadHarness
