import LoadHarness.Proofs.Scenario.Echo
import LoadHarness.Proofs.Text.Utf8
import Mathlib.Data.List.Infix

/-! What the echo scenario looks for in a reply.

The greeting is sought in the text of a reply, and its letters are ASCII.  So it is in the text
where its bytes stand together in the reply, and each place in the one is a place in the other,
whatever else is in the reply and wherever the reply was cut off (`greets_iff`).

An iteration puts what it has received to the test, and nothing else (`checks_eq`). -/

namespace LoadHarness

open Net Hook

/-- What has arrived, if this is a reading that was given something. -/
def Taken.reply? : Taken → Option (List UInt8)
  | ⟨.ask (.receive _ _), .ok chunk⟩ => if chunk.val.isEmpty then none else some chunk.val
  | _ => none

/-- What has arrived, in order. -/
def replies (taken : List Taken) : List (List UInt8) := taken.filterMap Taken.reply?

theorem replies_append (first rest : List Taken) :
    replies (first ++ rest) = replies first ++ replies rest := List.filterMap_append

theorem replies_wire (taken : List Taken) : replies (wire taken) = replies taken := by
  rw [replies, wire, List.filterMap_filter]
  refine List.filterMap_congr fun entry _ => ?_
  obtain ⟨action, answer⟩ := entry
  cases action <;> rfl

namespace Network

variable {S : Type} {context : UserContext RunValue} {value last : UserValue S}
  {taken : List Taken}

theorem replies_release (tcp : Option TcpConnection) : replies (release tcp) = [] := by
  rw [release]
  cases openStream tcp <;> rfl

theorem Attempt.replies {opened : Except Failure TcpConnection}
    (h : Attempt context taken opened) : replies taken = [] := by
  cases h <;> rfl

theorem replies_of_writes {limit : Duration} {stream : Stream} {text : String}
    {result : Except NetError Unit} {left : Option Stream}
    (h : Operates limit stream (.writeLine text) taken result left) : replies taken = [] := by
  cases h with
  | succeeds h => cases h; rfl
  | ends h => cases h; rfl

theorem replies_of_reads {limit : Duration} {stream : Stream} {max : Nat} (hmax : 0 < max)
    {result : Except NetError (List UInt8)} {left : Option Stream}
    (h : Operates limit stream (.readUpTo max) taken result left) :
    replies taken = result.toOption.toList := by
  cases h with
  | succeeds h =>
    cases h with
    | read chunk hnone =>
      have hsome : chunk.val.isEmpty = false := by
        rw [Bool.eq_false_iff, ne_eq, List.isEmpty_iff]
        exact fun hempty => Nat.ne_of_gt hmax (hnone hempty)
      simp [replies, Taken.reply?, hsome, Except.toOption]
  | ends h =>
    cases h with
    | @readFailed _ reply _ hreply =>
      cases reply with
      | ok => cases hreply
      | failed | timedOut => rfl
    | readNothing => rfl

theorem replies_writeLine {text : String} {result : Except Fault Unit}
    (h : Takes (writeLine context text) value taken result last) : replies taken = [] := by
  have hdoes := (takes_writeLine h).1
  rw [← replies_wire]
  generalize wire taken = done at hdoes ⊢
  generalize value.tcp = tcp at hdoes
  generalize last.tcp = left at hdoes
  cases hdoes with
  | wrote _ hoperates => exact replies_of_writes hoperates
  | wroteAfresh _ hattempt _ hoperates =>
    rw [replies_append, hattempt.replies, replies_of_writes hoperates, List.nil_append]
  | notWritten _ hattempt => exact hattempt.replies

/-- A read that comes to something has received that and nothing else. -/
theorem replies_readUpTo {max : Nat} (hmax : 0 < max) {result : Except Fault (List UInt8)}
    (h : Takes (readUpTo context max) value taken result last) :
    replies taken = result.toOption.toList := by
  have hdoes := (takes_readUpTo h).1
  rw [← replies_wire]
  generalize wire taken = done at hdoes ⊢
  generalize value.tcp = tcp at hdoes
  generalize last.tcp = left at hdoes
  cases hdoes with
  | @read _ _ _ _ outcome _ _ hoperates =>
    rw [replies_of_reads hmax hoperates]
    cases outcome <;> rfl
  | readClosed | readNone => rfl

theorem replies_close {result : Except Fault Unit} (h : Takes close value taken result last) :
    replies taken = [] := by
  rw [← replies_wire, (takes_close h).2.2, replies_release]

end Network

namespace TcpEcho

open Network Text

variable {context : UserContext RunValue} {value last : UserValue Unit} {taken : List Taken}

/-- The greeting as it is on the wire. -/
def greetingBytes : List UInt8 := greeting.toUTF8.toList

theorem greetingBytes_eq : greetingBytes = [0x48, 0x65, 0x6C, 0x6C, 0x6F] :=
  Net.TcpConnection.toList_loop greeting.toUTF8 0 []

theorem greetingBytes_ne_nil : greetingBytes ≠ [] := by
  rw [greetingBytes_eq]
  exact List.cons_ne_nil _ _

theorem lt_of_mem_greetingBytes : ∀ byte ∈ greetingBytes, byte < 0x80 := by
  rw [greetingBytes_eq]
  simp

/-- Every letter of the greeting is a byte. -/
theorem toList_greeting : greeting.toList = greetingBytes.map Utf8.ascii := by
  rw [greetingBytes_eq]
  decide

theorem greets_iff (reply : List UInt8) : greets reply = true ↔ greetingBytes <:+: reply := by
  rw [greets, occursIn_iff, toList_greeting, Utf8.infix_decode_iff lt_of_mem_greetingBytes]

/-- What becomes of a reply makes no difference to what has been received. -/
theorem replies_verdict {reply : List UInt8} {result : Except Fault Unit}
    (h : Takes (do
      let passed ← Hook.check reply checkName greets
      unless passed do
        Hook.log .debug ("Unexpected reply for " ++ context.name ++ ": " ++ replyText reply)
      close : Hook (UserValue Unit) Unit) value taken result last) :
    replies taken = [] := by
  obtain ⟨rest, rfl, hrest⟩ := takes_check_bind_iff.mp h
  generalize greets reply = passed at hrest ⊢
  cases passed with
  | true =>
    have hclose : replies rest = [] := replies_close hrest
    exact hclose
  | false =>
    obtain ⟨first, later, _, rfl, hlog, hlater⟩ := takes_ofWork_bind_iff.mp hrest
    obtain rfl := Work.takes_perform_iff.mp hlog
    have hclose : replies later = [] := replies_close hlater
    exact hclose

/-- An iteration records one check for each reply that it has received. -/
theorem checks_eq {result : Except Fault Unit}
    (h : Takes (behaviour context) value taken result last) :
    checks taken = (replies taken).map fun reply => (checkName, greets reply) := by
  rcases takes_bind_iff.mp h with ⟨fault, hwrite, rfl⟩ |
    ⟨written, rest, _, middle, rfl, hwrite, hrest⟩
  · rw [checks_of_working ((only_writeLine _ value).of_takes hwrite), replies_writeLine hwrite]
    rfl
  rw [checks_append, replies_append, replies_writeLine hwrite,
    checks_of_working ((only_writeLine _ value).of_takes hwrite), List.nil_append, List.nil_append]
  rcases takes_bind_iff.mp hrest with ⟨fault, hread, rfl⟩ |
    ⟨read, later, reply, between, rfl, hread, hlater⟩
  · rw [checks_of_working ((only_readUpTo _ middle).of_takes hread),
      replies_readUpTo (by decide) hread]
    rfl
  · obtain ⟨-, -, -, hchecked, -⟩ := takes_verdict hlater
    rw [checks_append, replies_append, replies_readUpTo (by decide) hread, replies_verdict hlater,
      checks_of_working ((only_readUpTo _ middle).of_takes hread), hchecked]
    rfl

/-- The greeting is in the text of a reply if its bytes stand together in the reply.  A place where
they do is not lost when the reply is read as text, and every place of the text where the greeting
stands comes from one such place, with what is before and after it.  So each check that an iteration
records says whether the bytes of the greeting stand together in what it has received. -/
theorem greeting_sought_in_bytes :
    (∀ reply, greets reply = true ↔ greetingBytes <:+: reply) ∧
    (∀ before after, Utf8.decode (before ++ greetingBytes ++ after) =
      Utf8.decode before ++ greeting.toList ++ Utf8.decode after) ∧
    (∀ reply left right, Utf8.decode reply = left ++ greeting.toList ++ right →
      ∃! split : List UInt8 × List UInt8, reply = split.1 ++ greetingBytes ++ split.2 ∧
        Utf8.decode split.1 = left ∧ Utf8.decode split.2 = right) ∧
    ∀ (context : UserContext RunValue) (value last : UserValue Unit) (taken : List Taken)
      (result : Except Fault Unit), Takes (behaviour context) value taken result last →
        checks taken = (replies taken).map fun reply =>
          (checkName, decide (greetingBytes <:+: reply)) := by
  refine ⟨greets_iff, ?kept, ?found, ?recorded⟩
  case kept =>
    intro before after
    rw [toList_greeting]
    exact (Utf8.decode_eq_append_iff greetingBytes_ne_nil lt_of_mem_greetingBytes).mpr
      ⟨before, after, rfl, rfl, rfl⟩
  case found =>
    intro reply left right h
    rw [toList_greeting] at h
    exact Utf8.existsUnique_of_decode_eq_append greetingBytes_ne_nil lt_of_mem_greetingBytes h
  case recorded =>
    intro context value last taken result htakes
    rw [checks_eq htakes]
    refine List.map_congr_left fun reply _ => ?_
    rw [Bool.eq_iff_iff.mpr ((greets_iff reply).trans decide_eq_true_iff.symm)]

open Run
open Net.TcpConnection (noneOpen silentPeer)

namespace Sample

/-- The greeting between two characters that are cut off, the one before its last byte and the other
before its third. -/
def reply : List UInt8 := [0xF0, 0x9F, 0x98] ++ [0x48, 0x65, 0x6C, 0x6C, 0x6F] ++ [0xE2, 0x82]

/-- A peer that sends it. -/
def peer : Outside :=
  { silentPeer with
    reply := fun
      | .receive _ max =>
        if h : reply.length ≤ max then .ok ⟨reply, h⟩ else .ok ⟨[], Nat.zero_le max⟩
      | request => silentPeer.reply request }

/-- A user with a target, and with a client to come to it. -/
def visitor : UserContext RunValue where
  id := 0
  iteration := 0
  options := { Run.Sample.options 1 none with target := some "127.0.0.1:8080" }
  global := ⟨some ⟨.ofSecs 1, ⟨true⟩⟩⟩

/-- The connection of that user, once it has one. -/
def connected : UserValue Unit :=
  ⟨some ⟨"127.0.0.1:8080", some ⟨⟨7⟩, ⟨.user 0, 0, false⟩⟩⟩, ()⟩

end Sample

/-- The greeting is found although it stands between malformed sequences, and an iteration that
receives it so records a check that has passed. -/
theorem greeting_sought_in_bytes_cut_off :
    greetingBytes <:+: Sample.reply ∧ greets Sample.reply = true ∧
      Utf8.decode Sample.reply = [Utf8.replacement] ++ greeting.toList ++ [Utf8.replacement] ∧
      (∃! split : List UInt8 × List UInt8, Sample.reply = split.1 ++ greetingBytes ++ split.2 ∧
        Utf8.decode split.1 = [Utf8.replacement] ∧ Utf8.decode split.2 = [Utf8.replacement]) ∧
      ∃ taken last, Takes (behaviour Sample.visitor) ⟨none, ()⟩ taken (.ok ()) last ∧
        replies taken = [Sample.reply] ∧ checks taken = [(checkName, true)] := by
  obtain ⟨hfinds, hkept, hfound, hrecorded⟩ := greeting_sought_in_bytes
  have hsplit : Sample.reply = [0xF0, 0x9F, 0x98] ++ greetingBytes ++ [0xE2, 0x82] := by
    rw [greetingBytes_eq]
    rfl
  have htogether : greetingBytes <:+: Sample.reply := ⟨_, _, hsplit.symm⟩
  have hgreets : greets Sample.reply = true := (hfinds _).mpr htogether
  have htext : Utf8.decode Sample.reply =
      [Utf8.replacement] ++ greeting.toList ++ [Utf8.replacement] := by
    rw [hsplit, hkept]
    decide +kernel
  have hwrite : Plays ⟨.user 0, 0, 0⟩ ((writeLine Sample.visitor "Say Hello").run.run ⟨none, ()⟩)
      _ (.ok (), Sample.connected) :=
    .act noneOpen Sample.peer rfl (.act noneOpen Sample.peer rfl (.act noneOpen Sample.peer rfl
      (.act noneOpen Sample.peer rfl (.act noneOpen Sample.peer rfl (.act noneOpen Sample.peer rfl
        (.act noneOpen Sample.peer rfl (.act noneOpen Sample.peer rfl
          (.act noneOpen Sample.peer rfl (.act noneOpen Sample.peer rfl
            (.act noneOpen Sample.peer rfl .done))))))))))
  have hread : Plays ⟨.user 0, 0, 1⟩ ((readUpTo Sample.visitor replyLimit).run.run Sample.connected)
      _ (.ok Sample.reply, Sample.connected) :=
    .act noneOpen Sample.peer rfl (.act noneOpen Sample.peer rfl
      (.act noneOpen Sample.peer rfl (.act noneOpen Sample.peer rfl .done)))
  have hclose : Plays ⟨.user 0, 0, 1⟩
      ((close : Hook (UserValue Unit) Unit).run.run Sample.connected) _ (.ok (), ⟨none, ()⟩) :=
    .act noneOpen Sample.peer rfl (.act noneOpen Sample.peer rfl .done)
  obtain ⟨closing, hclosing⟩ :
      ∃ closing, Takes (close : Hook (UserValue Unit) Unit) Sample.connected closing (.ok ())
        ⟨none, ()⟩ := ⟨_, hclose.takes⟩
  have hverdict : Takes (do
      let passed ← Hook.check Sample.reply checkName greets
      unless passed do
        Hook.log .debug
          ("Unexpected reply for " ++ Sample.visitor.name ++ ": " ++ replyText Sample.reply)
      close : Hook (UserValue Unit) Unit) Sample.connected
      (checked checkName (greets Sample.reply) :: closing) (.ok ()) ⟨none, ()⟩ := by
    refine takes_check_bind_iff.mpr ⟨closing, rfl, ?_⟩
    rw [hgreets]
    exact hclosing
  obtain ⟨taken, htakes, hreplies⟩ :
      ∃ taken, Takes (behaviour Sample.visitor) ⟨none, ()⟩ taken (.ok ()) ⟨none, ()⟩ ∧
        replies taken = [Sample.reply] := by
    refine ⟨_, takes_bind_iff.mpr (.inr ⟨_, _, _, _, rfl, hwrite.takes,
      takes_bind_iff.mpr (.inr ⟨_, _, _, _, rfl, hread.takes, hverdict⟩)⟩), ?_⟩
    rw [replies_append, replies_append, replies_writeLine hwrite.takes,
      replies_readUpTo (by decide) hread.takes, replies_verdict hverdict]
    rfl
  refine ⟨htogether, hgreets, htext, hfound _ _ _ htext, taken, _, htakes, hreplies, ?_⟩
  rw [hrecorded _ _ _ _ _ htakes, hreplies]
  exact congrArg (fun passed => [(checkName, passed)]) (decide_eq_true htogether)

end TcpEcho

end LoadHarness
