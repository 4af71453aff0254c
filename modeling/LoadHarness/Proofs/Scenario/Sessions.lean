import LoadHarness.Proofs.Scenario.Calls

/-! Calls of a virtual user, one after the other.

A stream that is open after some calls was open before them or was dialled by one of
them (`Session.origin`).  A failed operation leaves no stream open, so whatever is
sent later goes over a stream that was dialled since (`Session.sent_afresh`). -/

namespace LoadHarness.Network

open Net Hook

variable {S : Type}

/-- Whether a call is a read or a write. -/
def Call.operates : Call → Bool
  | writeLine _ | readUpTo _ => true
  | connect | close => false

/-- A call that was made: what it did, what came of it, and the value that it left. -/
structure Turn (S : Type) where
  context : UserContext RunValue
  call : Call
  result : Except Fault call.Result
  next : UserValue S
  taken : List Taken

/-- Calls are made in turn, and lead from one value to another. -/
def Session : UserValue S → List (Turn S) → UserValue S → Prop
  | value, [], last => last = value
  | value, turn :: turns, last =>
    Takes (turn.call.hook turn.context) value turn.taken turn.result turn.next ∧
      Session turn.next turns last

/-- What was done in all turns, in order. -/
def doings (turns : List (Turn S)) : List Taken := turns.flatMap (·.taken)

/-- A stream was dialled, and entered in the books at once. -/
def Dialled (stream : Stream) (wired : List Taken) : Prop :=
  ∃ address, [⟨.ask (.dial address), .ok stream.socket⟩, ⟨.connect false, stream.token⟩] <:+: wired

theorem Dialled.of_append_left {stream : Stream} {wired more : List Taken}
    (h : Dialled stream wired) : Dialled stream (wired ++ more) := by
  obtain ⟨address, h⟩ := h
  exact ⟨address, h.trans (List.prefix_append _ _).isInfix⟩

theorem Dialled.of_append_right {stream : Stream} {wired more : List Taken}
    (h : Dialled stream more) : Dialled stream (wired ++ more) := by
  obtain ⟨address, h⟩ := h
  exact ⟨address, h.trans (List.suffix_append _ _).isInfix⟩

section Does

variable {context : UserContext RunValue} {call : Call} {tcp left : Option TcpConnection}
  {wired : List Taken} {result : Except Fault call.Result} {stream : Stream}

theorem Attempt.dialled {opened : Except Failure TcpConnection} {attempt : List Taken}
    (h : Attempt context attempt opened) (hopen : openStream opened.toOption = some stream) :
    Dialled stream attempt := by
  cases h with
  | opened =>
    obtain rfl := Option.some.inj hopen
    exact ⟨_, List.infix_rfl⟩
  | failed | unconfigured => cases hopen

theorem Operates.eq_of_left {limit : Duration} {act : Use} {taken : List Taken}
    {result : act.Result} {other : Stream}
    (h : Operates limit stream act taken result (some other)) : other = stream := by
  cases h
  rfl

section Sends

variable {socket : Socket} {taken more : List Taken}

/-- Something is sent over a socket. -/
def Sends (socket : Socket) (taken : List Taken) : Prop :=
  ∃ bytes, .ask (.send socket bytes) ∈ taken.map (·.action)

theorem sends_append : Sends socket (taken ++ more) ↔ Sends socket taken ∨ Sends socket more := by
  simp only [Sends, List.map_append, List.mem_append, exists_or]

theorem not_sends_release (tcp : Option TcpConnection) : ¬ Sends socket (release tcp) := by
  rintro ⟨bytes, h⟩
  rw [release, List.map_map] at h
  obtain ⟨stream, -, heq⟩ := List.mem_map.mp h
  cases heq

theorem Attempt.not_sends {opened : Except Failure TcpConnection}
    (h : Attempt context taken opened) : ¬ Sends socket taken := by
  rintro ⟨bytes, hsent⟩
  cases h <;> simp at hsent

theorem Operates.socket_of_sends {limit : Duration} {act : Use} {result : act.Result}
    {left : Option Stream} (h : Operates limit stream act taken result left)
    (hsends : Sends socket taken) : stream.socket = socket := by
  obtain ⟨bytes, hsent⟩ := hsends
  cases h with
  | succeeds h =>
    cases h <;> simp at hsent
    exact hsent.1.symm
  | ends h =>
    cases h <;> simp at hsent
    exact hsent.1.symm

end Sends

/-- A stream that is open after a call was open before it, or the call has dialled it. -/
theorem Does.origin (h : Does context call tcp wired result left)
    (hopen : openStream left = some stream) :
    openStream tcp = some stream ∨ Dialled stream wired := by
  cases h with
  | closed | notConnected | notWritten | readNone => cases hopen
  | connected h => exact .inr (h.dialled hopen).of_append_right
  | wrote hheld h =>
    obtain rfl : _ = some stream := hopen
    rw [h.eq_of_left]
    exact .inl hheld
  | wroteAfresh hclosed hattempt hheld h =>
    obtain rfl : _ = some stream := hopen
    rw [h.eq_of_left]
    exact .inr (hattempt.dialled hheld).of_append_left
  | read hheld h =>
    obtain rfl : _ = some stream := hopen
    rw [h.eq_of_left]
    exact .inl hheld
  | readClosed hclosed => exact .inl hopen

/-- A failed operation leaves no stream open. -/
theorem Does.closed_of_failed (h : Does context call tcp wired result left)
    (hoperates : call.operates = true) (hfailed : result.isOk = false) :
    openStream left = none := by
  have hoperation : ∀ {limit : Duration} {stream : Stream} {act : Use} {taken : List Taken}
      {outcome : act.Result} {left : Option Stream},
      Operates limit stream act taken outcome left → act.ends outcome = true → left = none := by
    intro limit stream act taken outcome left h hends
    cases h with
    | succeeds h =>
      rw [h.ends_eq_false] at hends
      cases hends
    | ends => rfl
  cases h with
  | closed | connected | notConnected => cases hoperates
  | notWritten | readNone => rfl
  | readClosed hclosed => exact hclosed
  | wrote _ h | wroteAfresh _ _ _ h | read _ h =>
    exact hoperation h (congrArg (!·) ((isOk_netResult _).symm.trans hfailed))

/-- What is sent goes over the stream that was open, or over one that was just dialled. -/
theorem Does.of_sends (h : Does context call tcp wired result left) {socket : Socket}
    (hsends : Sends socket wired) :
    ∃ stream, stream.socket = socket ∧ (openStream tcp = some stream ∨ Dialled stream wired) := by
  cases h with
  | closed => exact absurd hsends (not_sends_release tcp)
  | connected h | notConnected h =>
    rcases sends_append.mp hsends with hsends | hsends
    · exact absurd hsends (not_sends_release tcp)
    · exact absurd hsends h.not_sends
  | notWritten _ h => exact absurd hsends h.not_sends
  | wrote hopen h | read hopen h => exact ⟨_, h.socket_of_sends hsends, .inl hopen⟩
  | wroteAfresh _ hattempt hopen h =>
    rcases sends_append.mp hsends with hsends | hsends
    · exact absurd hsends hattempt.not_sends
    · exact ⟨_, h.socket_of_sends hsends, .inr (hattempt.dialled hopen).of_append_left⟩
  | readClosed | readNone =>
    obtain ⟨bytes, hsent⟩ := hsends
    cases hsent

end Does

section Session

variable {value last : UserValue S} {turns more : List (Turn S)} {stream : Stream}

theorem session_append :
    Session value (turns ++ more) last ↔
      ∃ middle, Session value turns middle ∧ Session middle more last := by
  induction turns generalizing value with
  | nil =>
    constructor
    · exact fun h => ⟨value, rfl, h⟩
    · rintro ⟨middle, rfl, h⟩
      exact h
  | cons turn turns ih => simp only [List.cons_append, Session, ih, exists_and_left, and_assoc]

/-- A stream that is open after some turns was open before them, or one of them has dialled it. -/
theorem Session.origin (h : Session value turns last) (hopen : openStream last.tcp = some stream) :
    openStream value.tcp = some stream ∨ Dialled stream (wire (doings turns)) := by
  induction turns generalizing value with
  | nil =>
    obtain rfl := h
    exact .inl hopen
  | cons turn turns ih =>
    obtain ⟨htakes, hrest⟩ := h
    rw [doings, List.flatMap_cons, wire_append]
    rcases ih hrest with hheld | hdialled
    · exact ((does_of_takes htakes).1.origin hheld).imp_right fun h => h.of_append_left
    · exact .inr hdialled.of_append_right

/-- What is sent in a turn after a failed operation goes over a stream that was dialled since. -/
theorem Session.sent_afresh {before between : List (Turn S)} {failed turn : Turn S}
    (h : Session value (before ++ failed :: (between ++ [turn])) last)
    (hoperates : failed.call.operates = true) (hfailed : failed.result.isOk = false)
    {socket : Socket} (hsends : Sends socket (wire turn.taken)) :
    ∃ stream, stream.socket = socket ∧ Dialled stream (wire (doings (between ++ [turn]))) := by
  obtain ⟨start, -, htakes, hafter⟩ := session_append.mp h
  obtain ⟨middle, hbetween, hturn, -⟩ := session_append.mp hafter
  have hclosed := (does_of_takes htakes).1.closed_of_failed hoperates hfailed
  obtain ⟨stream, hsocket, hheld | hdialled⟩ := (does_of_takes hturn).1.of_sends hsends
  · -- the stream was not open right after the failure, so a call in between has dialled it
    rcases hbetween.origin hheld with hbefore | hdialled
    · rw [hclosed] at hbefore
      cases hbefore
    · refine ⟨stream, hsocket, ?_⟩
      rw [doings, List.flatMap_append, wire_append]
      exact hdialled.of_append_left
  · refine ⟨stream, hsocket, ?_⟩
    rw [doings, List.flatMap_append, wire_append, List.flatMap_singleton]
    exact hdialled.of_append_right

end Session

end LoadHarness.Network
