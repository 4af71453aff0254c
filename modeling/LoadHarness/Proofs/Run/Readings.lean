import LoadHarness.Proofs.Run.Connections

/-! What a summary can say of connections when its counts are read apart.

The count of opened connections is read first, and the count of closed ones later.  What is open at
both readings is counted by the first and not by the second; what is opened and closed again in
between is counted by the second alone:

    opened + passing between the readings = closed + open at both         (State.length_passing)

So each connection that passes hides one that stays, and what a summary says of open connections is
right exactly if none passes (`readings_hide_passing`).  The other way round nothing would be hidden
(`State.length_staying_le`). -/

namespace LoadHarness.Run

section Lists

variable {α : Type} [DecidableEq α] {live opened closed later : List α}

/-- What was there and what has come is either gone or there still.  What is gone was there before or
has only come; what was there before is gone or stays. -/
theorem length_add_length_filter (hperm : (live ++ opened).Perm (closed ++ later))
    (hnodup : (closed ++ later).Nodup) :
    live.length + (opened.filter (· ∈ closed)).length =
      closed.length + (live.filter (· ∈ later)).length := by
  have hdisjoint : ∀ a ∈ later, a ∉ closed := fun a hlater hclosed =>
    (List.nodup_append.mp hnodup).2.2 a hclosed a hlater rfl
  have hgone : closed.length = live.countP (· ∈ closed) + opened.countP (· ∈ closed) := by
    have hcount := hperm.countP_eq (· ∈ closed)
    have hall : closed.countP (· ∈ closed) = closed.length :=
      List.countP_eq_length.mpr fun a hmem => decide_eq_true hmem
    have hnone : later.countP (· ∈ closed) = 0 :=
      List.countP_eq_zero.mpr fun a hmem => by simpa using hdisjoint a hmem
    rw [List.countP_append, List.countP_append, hall, hnone] at hcount
    omega
  have hthere : live.length = live.countP (· ∈ closed) + live.countP (· ∈ later) := by
    have hsplit := List.length_eq_countP_add_countP (fun a => decide (a ∈ closed)) (l := live)
    have hstays : live.countP (fun a => ¬ decide (a ∈ closed)) = live.countP (· ∈ later) := by
      apply List.countP_congr
      intro a hmem
      have hwhere := List.mem_append.mp (hperm.mem_iff.mp (List.mem_append_left opened hmem))
      simp only [decide_eq_true_eq]
      exact ⟨fun hnot => hwhere.resolve_left hnot, hdisjoint a⟩
    omega
  rw [← List.countP_eq_length_filter, ← List.countP_eq_length_filter]
  omega

end Lists

namespace State

variable {G V : Type} {state next : State G V} {move : Move}

/-! ## Between two moments -/

/-- The connections that are open now and after the moves as well. -/
def staying (state : State G V) (moves : List Move) : List Token :=
  state.shared.ledger.live.filter (· ∈ (state.after moves).shared.ledger.live)

/-- The connections that the moves open and close again. -/
def passing (state : State G V) (moves : List Move) : List Token :=
  (state.openedBy moves).filter (· ∈ state.closedBy moves)

section

variable (scenario : Scenario G V) (options : Options) (startedAt : Int)
  (before between : List Move)

/-- What is counted opened at one moment and closed at a later one differ by what stays and by what
passes. -/
theorem length_passing :
    ((start scenario options startedAt).after before).shared.ledger.opened +
        (((start scenario options startedAt).after before).passing between).length =
      ((start scenario options startedAt).after (before ++ between)).shared.ledger.closed +
        (((start scenario options startedAt).after before).staying between).length := by
  have hfirst := (conserved_after scenario options startedAt before).1
  have hsecond := (conserved_after scenario options startedAt (before ++ between)).1
  rw [openedBy_append, closedBy_append] at hsecond
  unfold staying passing
  rw [hfirst.countOpened, hsecond.countClosed, ← after_append]
  generalize (start scenario options startedAt).after (before ++ between) = second at *
  generalize (start scenario options startedAt).openedBy before = opened at *
  generalize (start scenario options startedAt).closedBy before = closed at *
  generalize (start scenario options startedAt).after before = first at *
  have hkept : (closed ++ (first.shared.ledger.live ++ first.openedBy between)).Perm
      (closed ++ (first.closedBy between ++ second.shared.ledger.live)) := by
    have hall := (hfirst.kept.symm.append_right (first.openedBy between)).trans hsecond.kept
    rwa [List.append_assoc, List.append_assoc] at hall
  have hperm := (List.perm_append_left_iff closed).mp hkept
  have hnodup : (first.closedBy between ++ second.shared.ledger.live).Nodup := by
    have hall := hsecond.kept.nodup hsecond.openedOnce
    rw [List.append_assoc] at hall
    exact (List.nodup_append.mp hall).2.1
  have hlength := length_add_length_filter hperm hnodup
  have hopened := hfirst.kept.length_eq
  rw [List.length_append] at hopened ⊢
  omega

/-- With the count of closed connections read first, what stays is never hidden. -/
theorem length_staying_le :
    ((start scenario options startedAt).after before).shared.ledger.closed ≤
        ((start scenario options startedAt).after (before ++ between)).shared.ledger.opened ∧
      (((start scenario options startedAt).after before).staying between).length ≤
        Ledger.openCount
          ((start scenario options startedAt).after (before ++ between)).shared.ledger.opened
          ((start scenario options startedAt).after before).shared.ledger.closed := by
  have hfirst := (conserved_after scenario options startedAt before).1
  have hsecond := (conserved_after scenario options startedAt (before ++ between)).1
  rw [openedBy_append] at hsecond
  have hlength := hfirst.kept.length_eq
  have hstaying := List.length_filter_le
    (· ∈ (((start scenario options startedAt).after before).after between).shared.ledger.live)
    ((start scenario options startedAt).after before).shared.ledger.live
  unfold staying Ledger.openCount
  rw [hfirst.countClosed, hsecond.countOpened]
  rw [List.length_append] at hlength ⊢
  omega

end

/-! ## The two readings of a run -/

/-- A run that has read the count of opened connections. -/
def HasRead (state : State G V) : Prop :=
  (∃ opened, state.stage = .readClosed opened) ∨ ∃ summary, state.stage = .over (.finished summary)

/-- A run reads one count after the other, each by a move of its own. -/
theorem Transition.reads (h : state.Transition move next) (hread : next.HasRead) :
    next.stage = state.stage ∨
      ∃ outside, move = .control outside ∧
        (state.stage = .readOpened ∧ next.stage = .readClosed state.shared.ledger.opened ∨
          ∃ opened, state.stage = .readClosed opened ∧ next = state.conclude opened) := by
  have hconclude : ∀ state : State G V, ¬ state.concludeTeardown.HasRead := by
    intro state
    unfold concludeTeardown
    split <;> rintro (⟨_, h⟩ | ⟨_, h⟩) <;> cases h
  have hnot : ∀ {stage : Stage G}, next.stage = stage → (∀ opened, stage ≠ .readClosed opened) →
      (∀ summary, stage ≠ .over (.finished summary)) → ¬ next.HasRead := by
    rintro stage rfl hclosed hfinished (⟨opened, h⟩ | ⟨summary, h⟩)
    · exact hclosed opened h
    · exact hfinished summary h
  cases h with
  | user | launched | deadline | interrupt | drain | backgroundOpen | backgroundClose =>
    exact .inl rfl
  | readOpened hstage => exact .inr ⟨_, rfl, .inl ⟨hstage, rfl⟩⟩
  | concluded hstage => exact .inr ⟨_, rfl, .inr ⟨_, hstage, rfl⟩⟩
  | acts hook => cases hook <;> exact absurd hread (hnot rfl nofun nofun)
  | finished =>
    unfold toTeardown at hread
    split at hread
    · rcases hread with ⟨_, h⟩ | ⟨_, h⟩ <;> cases h
    · exact absurd hread (hconclude _)
  | tornDown | teardownFailed => exact absurd hread (hconclude _)
  | setUp | setupFailed | brokeOff | started | launchedAll | announced | joined | halted =>
    exact absurd hread (hnot rfl nofun nofun)

theorem not_hasRead_start (scenario : Scenario G V) (options : Options) (startedAt : Int) :
    ¬ (start scenario options startedAt).HasRead := by
  unfold HasRead start
  cases scenario.setup <;> rintro (⟨_, h⟩ | ⟨_, h⟩) <;> cases h

/-- Moves of a run up to its first reading, and from there on. -/
structure FirstRead (begun : State G V) (before between : List Move) (opened : Nat) : Prop where
  stage : (begun.after before).stage = .readOpened
  reads : ∃ outside rest, between = .control outside :: rest
  opened : (begun.after before).shared.ledger.opened = opened

theorem exists_firstRead {begun : State G V} (hbegun : ¬ begun.HasRead) {moves : List Move}
    {opened : Nat} (hstage : (begun.after moves).stage = .readClosed opened) :
    ∃ before between, moves = before ++ between ∧ FirstRead begun before between opened := by
  induction moves using List.reverseRecOn with
  | nil => exact absurd (.inl ⟨opened, hstage⟩) hbegun
  | append_singleton moves move ih =>
    rw [after_append, after_cons, after_nil] at hstage
    have hextend : (begun.after moves).stage = .readClosed opened → ∃ before between,
        moves ++ [move] = before ++ between ∧ FirstRead begun before between opened := by
      intro hbefore
      obtain ⟨before, between, rfl, hfirst⟩ := ih hbefore
      obtain ⟨outside, rest, rfl⟩ := hfirst.reads
      exact ⟨before, _, List.append_assoc _ _ _, hfirst.stage, ⟨outside, rest ++ [move], rfl⟩,
        hfirst.opened⟩
    rcases step_cases (begun.after moves) move with hsame | ⟨-, htransition⟩
    · rw [hsame] at hstage
      exact hextend hstage
    rcases htransition.reads (.inl ⟨opened, hstage⟩) with hsame | ⟨outside, rfl, hread⟩
    · rw [hsame] at hstage
      exact hextend hstage
    rcases hread with ⟨hfirst, hnext⟩ | ⟨earlier, -, hnext⟩
    · rw [hnext] at hstage
      cases hstage
      exact ⟨moves, _, rfl, hfirst, ⟨outside, [], rfl⟩, rfl⟩
    · rw [hnext] at hstage
      cases hstage

/-- Moves of a run up to its first reading, from there to its second, and from there on, and the
summary that was made of what was read. -/
structure Readings (begun : State G V) (before between rest : List Move) (summary : Summary) :
    Prop where
  first : FirstRead begun before between summary.connectionsOpened
  stage : (begun.after (before ++ between)).stage = .readClosed summary.connectionsOpened
  reads : ∃ outside others, rest = .control outside :: others
  closed : (begun.after (before ++ between)).shared.ledger.closed = summary.connectionsClosed

theorem exists_readings {begun : State G V} (hbegun : ¬ begun.HasRead) {moves : List Move}
    {summary : Summary} (hstage : (begun.after moves).stage = .over (.finished summary)) :
    ∃ before between rest, moves = before ++ between ++ rest ∧
      Readings begun before between rest summary := by
  induction moves using List.reverseRecOn with
  | nil => exact absurd (.inr ⟨summary, hstage⟩) hbegun
  | append_singleton moves move ih =>
    rw [after_append, after_cons, after_nil] at hstage
    rcases step_cases (begun.after moves) move with hsame | ⟨hrunning, htransition⟩
    · rw [hsame] at hstage
      obtain ⟨before, between, rest, rfl, hreadings⟩ := ih hstage
      obtain ⟨outside, others, rfl⟩ := hreadings.reads
      exact ⟨before, between, _, List.append_assoc _ _ _, hreadings.first, hreadings.stage,
        ⟨outside, others ++ [move], rfl⟩, hreadings.closed⟩
    rcases htransition.reads (.inr ⟨summary, hstage⟩) with hsame | ⟨outside, rfl, hread⟩
    · rw [conclusion?, ← hsame, hstage] at hrunning
      cases hrunning
    rcases hread with ⟨-, hnext⟩ | ⟨opened, hbefore, hnext⟩
    · rw [hnext] at hstage
      cases hstage
    · obtain ⟨before, between, rfl, hfirst⟩ := exists_firstRead hbegun hbefore
      rw [hnext] at hstage
      cases hstage
      exact ⟨before, between, _, rfl, hfirst, hbefore, ⟨outside, [], rfl⟩, rfl⟩

end State

/-- A summary is made of two readings, with moves in between.  It counts what is open at both, less
what was opened and closed again between them: so it is right about the connections that stay
exactly if none passes, and the two counts are in order exactly if no more pass than stay. -/
theorem readings_hide_passing {G V : Type} (scenario : Scenario G V) (options : Options)
    (startedAt : Int) (moves : List Move) {summary : Summary}
    (hfinished : ((State.start scenario options startedAt).after moves).conclusion? =
      some (.finished summary)) :
    (∃ before between rest, moves = before ++ between ++ rest ∧
      (State.start scenario options startedAt).Readings before between rest summary) ∧
    ∀ before between rest,
      (State.start scenario options startedAt).Readings before between rest summary →
      let first := (State.start scenario options startedAt).after before
      summary.connectionsOpened + (first.passing between).length =
          summary.connectionsClosed + (first.staying between).length ∧
        summary.openConnections =
          (first.staying between).length - (first.passing between).length ∧
        (summary.connectionsClosed ≤ summary.connectionsOpened ↔
          (first.passing between).length ≤ (first.staying between).length) ∧
        (summary.connectionsClosed ≤ summary.connectionsOpened ∧
            (first.staying between).length ≤ summary.openConnections ↔
          first.passing between = []) := by
  constructor
  · exact State.exists_readings (State.not_hasRead_start scenario options startedAt)
      (State.stage_of_conclusion? hfinished)
  intro before between rest hreadings first
  have hbalance : summary.connectionsOpened + (first.passing between).length =
      summary.connectionsClosed + (first.staying between).length := by
    rw [← hreadings.first.opened, ← hreadings.closed]
    exact State.length_passing scenario options startedAt before between
  have hnone : first.passing between = [] ↔ (first.passing between).length = 0 :=
    List.length_eq_zero_iff.symm
  unfold Summary.openConnections
  rw [hnone]
  refine ⟨hbalance, ?_, ?_, ?_⟩ <;> omega

namespace Sample

/-- Two users come to their ends, and work that is left behind keeps a connection while the run goes
on to its first reading. -/
def untilReading : List Move :=
  control 3 ++ user 1 12 ++ user 0 12 ++ [.backgroundOpen] ++ control 5

/-- The first reading, and connections opened and closed after it, so many at a time. -/
def readAndPass (serials : List Nat) : List Move :=
  control 1 ++ serials.flatMap fun serial => [.backgroundOpen, .backgroundClose serial]

end Sample

/-- With nothing that passes the connection that stays is counted. -/
theorem readings_hide_passing_none :
    ∃ summary, (State.start Sample.scenario (Sample.options 2 none) 0).Readings Sample.untilReading
        (Sample.readAndPass []) (Sample.control 1) summary ∧
      summary.connectionsClosed ≤ summary.connectionsOpened ∧ 1 ≤ summary.openConnections := by
  have hfinished : ∃ summary, ((State.start Sample.scenario (Sample.options 2 none) 0).after
      (Sample.untilReading ++ Sample.readAndPass [] ++ Sample.control 1)).conclusion? =
        some (.finished summary) ∧
      (State.start Sample.scenario (Sample.options 2 none) 0).Readings Sample.untilReading
        (Sample.readAndPass []) (Sample.control 1) summary :=
    ⟨_, rfl, ⟨rfl, ⟨_, _, rfl⟩, rfl⟩, rfl, ⟨_, _, rfl⟩, rfl⟩
  obtain ⟨summary, hfinished, hreadings⟩ := hfinished
  obtain ⟨-, hall⟩ := readings_hide_passing Sample.scenario (Sample.options 2 none) 0 _ hfinished
  obtain ⟨-, -, -, hright⟩ := hall _ _ _ hreadings
  exact ⟨summary, hreadings, hright.mpr rfl⟩

/-- Two connections that pass are counted closed and not opened.  The one that stays is hidden, and
more connections are said to be closed than opened. -/
theorem connection_hidden :
    ∃ summary, ((State.start Sample.scenario (Sample.options 2 none) 0).after
        (Sample.untilReading ++ Sample.readAndPass [1, 2] ++ Sample.control 1)).conclusion? =
          some (.finished summary) ∧
      (State.start Sample.scenario (Sample.options 2 none) 0).Readings Sample.untilReading
        (Sample.readAndPass [1, 2]) (Sample.control 1) summary ∧
      ((State.start Sample.scenario (Sample.options 2 none) 0).after
        Sample.untilReading).staying (Sample.readAndPass [1, 2]) = [⟨.background, 0, true⟩] ∧
      summary.connectionsOpened = 1 ∧ summary.connectionsClosed = 2 ∧
      summary.openConnections = 0 :=
  ⟨_, rfl, ⟨⟨rfl, ⟨_, _, rfl⟩, rfl⟩, rfl, ⟨_, _, rfl⟩, rfl⟩, rfl, rfl, rfl, rfl⟩

end LoadHarness.Run
