import LoadHarness.Proofs.Names.Map
import LoadHarness.Proofs.Run.Books

/-! Deeds of different users commute.

Two books are the same when they differ at most in the order of what different
users have entered (`Books.Same`).  Entries of different users can then be made in
either order (`Books.Same.swap`), so what users enter together depends only on
what each of them enters (`Books.same_play`). -/

namespace LoadHarness.Run

namespace Books

/-- The same books, up to the order in which users entered their checks and opened their
connections. -/
structure Same (books other : Books) : Prop where
  results : ∀ id, books.recorder.results.filter (·.virtualUser == id) =
    other.recorder.results.filter (·.virtualUser == id)
  iterations : books.recorder.iterations = other.recorder.iterations
  failed : books.recorder.failed = other.recorder.failed
  opened : books.ledger.opened = other.ledger.opened
  closed : books.ledger.closed = other.ledger.closed
  live : books.ledger.live.Perm other.ledger.live

namespace Same

variable {books other third : Books}

theorem refl (books : Books) : books.Same books := ⟨fun _ => rfl, rfl, rfl, rfl, rfl, .refl _⟩

theorem symm (h : books.Same other) : other.Same books :=
  ⟨fun id => (h.results id).symm, h.iterations.symm, h.failed.symm, h.opened.symm, h.closed.symm,
    h.live.symm⟩

theorem trans (h : books.Same other) (h' : other.Same third) : books.Same third :=
  ⟨fun id => (h.results id).trans (h'.results id), h.iterations.trans h'.iterations,
    h.failed.trans h'.failed, h.opened.trans h'.opened, h.closed.trans h'.closed,
    h.live.trans h'.live⟩

/-- The same entry in the same books. -/
theorem after (h : books.Same other) (deed : Deed) :
    (books.after deed).Same (other.after deed) := by
  cases deed with
  | none => exact h
  | check result =>
    refine ⟨fun id => ?_, h.iterations, h.failed, h.opened, h.closed, h.live⟩
    simp only [Books.after, Recorder.results_record, List.filter_append, h.results id]
  | iteration failure =>
    refine ⟨h.results, congrArg (· + 1) h.iterations, ?_, h.opened, h.closed, h.live⟩
    simp only [Books.after, Recorder.recordIteration, h.failed]
  | opened token =>
    exact ⟨h.results, h.iterations, h.failed, congrArg (· + 1) h.opened, h.closed,
      h.live.append_right [token]⟩
  | closed which =>
    refine ⟨h.results, h.iterations, h.failed, h.opened, ?_, h.live.filter _⟩
    simp only [Books.after, Ledger.closeWhere, h.closed, (h.live.filter which).length_eq]

end Same

end Books

/-! ## Whose deed it is -/

/-- Whether an entry in the books is about nothing but user `id`. -/
def Deed.OwnedBy (id : Nat) : Deed → Prop
  | .none | .iteration _ => True
  | .check result => result.virtualUser = id
  | .opened token => token.owner = .user id
  | .closed which => ∀ token, which token = true → token.owner = .user id

theorem not_closed_of_owner {id other : Nat} (hne : id ≠ other) {which : Token → Bool}
    (hwhich : ∀ token, which token = true → token.owner = .user id) {token : Token}
    (htoken : token.owner = .user other) : which token = false := by
  rw [← Bool.not_eq_true]
  intro h
  have howner := (hwhich token h).symm.trans htoken
  cases howner
  exact hne rfl

namespace Books

/-- Two iterations are counted in either order. -/
theorem iteration_swap (books : Books) (first second : Option String) :
    (books.after (.iteration first)).after (.iteration second) =
      (books.after (.iteration second)).after (.iteration first) := by
  match first, second with
  | none, none | none, some _ | some _, none => rfl
  | some first, some second =>
    simp only [Books.after, Recorder.recordIteration]
    rw [NameMap.alter_alter_comm fun _ _ => rfl]

/-- Opening a connection and closing others can be done in either order. -/
theorem opened_closed_swap (books : Books) {token : Token} {which : Token → Bool}
    (h : which token = false) :
    (books.after (.opened token)).after (.closed which) =
      (books.after (.closed which)).after (.opened token) := by
  simp [Books.after, Ledger.open, Ledger.closeWhere, h]

/-- Connections of different users can be closed in either order. -/
theorem closed_swap (books : Books) {first second : Token → Bool}
    (h : ∀ token, first token = true → second token = false) :
    (books.after (.closed first)).after (.closed second) =
      (books.after (.closed second)).after (.closed first) := by
  have hfirst : ∀ token, (first token && !second token) = first token := by
    intro token
    cases htoken : first token with
    | false => rfl
    | true => rw [h token htoken, Bool.not_false, Bool.and_true]
  have hsecond : ∀ token, (second token && !first token) = second token := by
    intro token
    cases htoken : first token with
    | false => rw [Bool.not_false, Bool.and_true]
    | true => rw [h token htoken, Bool.false_and]
  simp only [Books.after, Ledger.closeWhere, List.filter_filter, hfirst, hsecond]
  simp only [Nat.add_assoc, Nat.add_comm (books.ledger.live.filter first).length, Bool.and_comm]

/-- Entries of different users can be made in either order. -/
theorem Same.swap {id other : Nat} (hne : id ≠ other) {first second : Deed}
    (hfirst : first.OwnedBy id) (hsecond : second.OwnedBy other) (books : Books) :
    ((books.after first).after second).Same ((books.after second).after first) := by
  cases first with
  | none => exact refl _
  | check result =>
    cases second with
    | check later =>
      refine ⟨fun user => ?_, rfl, rfl, rfl, rfl, .refl _⟩
      simp only [Books.after, Recorder.results_record, List.filter_append, List.append_assoc]
      congr 1
      by_cases huser : result.virtualUser = user
      · have hlater : ¬ later.virtualUser = user := fun h =>
          hne (hfirst.symm.trans (huser.trans (h.symm.trans hsecond)))
        simp [huser, hlater]
      · simp [huser]
    | none | iteration | opened | closed => exact refl _
  | iteration failure =>
    cases second with
    | iteration later =>
      rw [iteration_swap]
      exact refl _
    | none | check | opened | closed => exact refl _
  | opened token =>
    cases second with
    | opened later =>
      refine ⟨fun _ => rfl, rfl, rfl, rfl, rfl, ?_⟩
      simp only [Books.after, Ledger.open, List.append_assoc]
      exact List.perm_append_comm.append_left _
    | closed which =>
      rw [opened_closed_swap books (not_closed_of_owner hne.symm hsecond hfirst)]
      exact refl _
    | none | check | iteration => exact refl _
  | closed which =>
    cases second with
    | opened token =>
      rw [opened_closed_swap books (not_closed_of_owner hne hfirst hsecond)]
      exact refl _
    | closed later =>
      rw [closed_swap books fun token h =>
        not_closed_of_owner hne.symm hsecond (hfirst token h)]
      exact refl _
    | none | check | iteration => exact refl _

/-! ## Interleavings -/

/-- What users enter one after the other, each entry with the id of its user. -/
def play (books : Books) (entries : List (Nat × Deed)) : Books :=
  entries.foldl (fun books entry => books.after entry.2) books

theorem Same.play {books other : Books} (h : books.Same other) (entries : List (Nat × Deed)) :
    (books.play entries).Same (other.play entries) := by
  induction entries generalizing books other with
  | nil => exact h
  | cons entry entries ih => exact ih (h.after entry.2)

/-- An entry can be made before those of other users instead of after them. -/
theorem same_play_front (books : Books) {entries : List (Nat × Deed)} {id : Nat} {deed : Deed}
    (howned : ∀ entry ∈ entries, entry.2.OwnedBy entry.1) (hdeed : deed.OwnedBy id)
    (hother : ∀ entry ∈ entries, entry.1 ≠ id) :
    ((books.play entries).after deed).Same ((books.after deed).play entries) := by
  induction entries generalizing books with
  | nil => exact Same.refl _
  | cons entry entries ih =>
    have hrest := ih (books.after entry.2) (fun entry hmem => howned entry (.tail _ hmem))
      fun entry hmem => hother entry (.tail _ hmem)
    have hswap := Same.swap (hother entry (.head _)) (howned entry (.head _)) hdeed books
    exact hrest.trans (hswap.play entries)

/-- Two interleavings in which every user enters the same lead to the same books. -/
theorem same_play {entries others : List (Nat × Deed)}
    (howned : ∀ entry ∈ entries, entry.2.OwnedBy entry.1)
    (howned' : ∀ entry ∈ others, entry.2.OwnedBy entry.1)
    (h : ∀ id, entries.filter (·.1 == id) = others.filter (·.1 == id)) {books other : Books}
    (hsame : books.Same other) : (books.play entries).Same (other.play others) := by
  induction entries generalizing others books other with
  | nil =>
    have hnil : others = [] := by
      rw [List.eq_nil_iff_forall_not_mem]
      intro entry hmem
      have hmem' : entry ∈ others.filter (·.1 == entry.1) :=
        List.mem_filter.mpr ⟨hmem, beq_self_eq_true _⟩
      rw [← h entry.1] at hmem'
      cases hmem'
    rw [hnil]
    exact hsame
  | cons entry entries ih =>
    -- the first entry is also the first of its user among the others
    have hfirst : others.filter (·.1 == entry.1) = entry :: entries.filter (·.1 == entry.1) := by
      rw [← h entry.1]
      exact List.filter_cons_of_pos (beq_self_eq_true entry.1)
    obtain ⟨front, back, rfl, hfront, -, hback⟩ := List.filter_eq_cons_iff.mp hfirst
    have hother : ∀ entry' ∈ front, entry'.1 ≠ entry.1 := by
      intro entry' hmem heq
      exact hfront entry' hmem (beq_iff_eq.mpr heq)
    have hfilter : ∀ id, entries.filter (·.1 == id) = (front ++ back).filter (·.1 == id) := by
      intro id
      have hid := h id
      rw [List.filter_append] at hid ⊢
      by_cases heq : entry.1 = id
      · subst heq
        have hnone : front.filter (·.1 == entry.1) = [] :=
          List.filter_eq_nil_iff.mpr hfront
        rw [hnone, List.nil_append, ← hback]
      · have hne : (entry.1 == id) = false := beq_eq_false_iff_ne.mpr heq
        simpa only [List.filter_cons, hne, Bool.false_eq_true, if_false] using hid
    have hmoved : (other.play (front ++ entry :: back)).Same
        ((other.after entry.2).play (front ++ back)) := by
      simp only [play, List.foldl_append, List.foldl_cons]
      exact (same_play_front other (fun entry hmem => howned' entry (List.mem_append_left _ hmem))
        (howned entry (.head _)) hother).play back
    refine Same.trans ?_ hmoved.symm
    refine ih (fun entry hmem => howned entry (.tail _ hmem)) ?_ hfilter (hsame.after entry.2)
    intro entry' hmem
    rcases List.mem_append.mp hmem with hmem | hmem
    · exact howned' entry' (List.mem_append_left _ hmem)
    · exact howned' entry' (List.mem_append_right _ (.tail _ hmem))

end Books

end LoadHarness.Run
