import Reprint.Proofs.Assembly

/-!
# Going back to a mark

Going back to a mark is the same as having kept a copy of the assembly when the
mark was put out.  The journal takes the place of the copy: the changes written
down since a mark, undone newest first, lead from what stands in the assembly to
what stood in it then.  This holds of every mark that is out, for a change adds
to the front of the journal what undoes it, and keeping what was done since a
mark leaves the journal to the marks that are still out.

Nothing here looks into the pieces.  What one change writes down is said once, in
`exists_follows_change`.
-/

namespace Reprint.Assembly

/-! ## Steps -/

/-- A change to an assembly. -/
inductive Change where
  | content (d : Doc)
  | trivia (d : Doc)
  | control (d : Doc)
  | opening (bracket : Bracket)
  | closing (name : BracketName)
  | merging (other : Assembly)

/-- How a change ends, with the assembly that it leaves. -/
def perform (a : Assembly) : Change → Except NestingError Unit × Assembly
  | .content d => (.ok (), a.addContent d)
  | .trivia d => (.ok (), a.addTrivia d)
  | .control d => (.ok (), a.addControl d)
  | .opening bracket => (.ok (), a.openBracket bracket)
  | .closing name => a.close name
  | .merging other => a.absorb other

/-- The assembly after a change, whether it fails or not. -/
def change (a : Assembly) (c : Change) : Assembly := (a.perform c).2

/-- What comes of a change: the next assembly, or why it fails. -/
def attempt (a : Assembly) : Change → Except NestingError Assembly
  | .content d => .ok (a.addContent d)
  | .trivia d => .ok (a.addTrivia d)
  | .control d => .ok (a.addControl d)
  | .opening bracket => .ok (a.openBracket bracket)
  | .closing name => a.closeBracket name
  | .merging other => a.merge other

theorem attempt_eq (a : Assembly) (c : Change) :
    a.attempt c = (a.perform c).1.map fun _ => (a.perform c).2 := by
  cases c <;> rfl

theorem change_of_ok {a b : Assembly} {c : Change} (made : a.attempt c = .ok b) : a.change c = b := by
  rw [attempt_eq] at made
  cases ended : (a.perform c).1 with
  | error e =>
    rw [ended] at made
    cases made
  | ok =>
    rw [ended] at made
    exact Except.ok.inj made

/-- A change that fails leaves the assembly as it was. -/
theorem change_of_error {a : Assembly} {c : Change} {e : NestingError} (failed : a.attempt c = .error e) :
    a.change c = a := by
  rw [attempt_eq] at failed
  cases ended : (a.perform c).1 with
  | ok =>
    rw [ended] at failed
    cases failed
  | error =>
    cases c with
    | content | trivia | control | opening => cases ended
    | closing name => exact close_of_error ended
    | merging other => exact absorb_of_error ended

/-- A change, or a mark that is put out, kept or gone back to. -/
inductive Step where
  | change (c : Change)
  | mark
  | commit
  | rollback

/-- The number of marks that are out after some steps, unless one of them asks
for a mark when none is out. -/
def Step.out? : List Step → Nat → Option Nat
  | [], out => some out
  | .change _ :: steps, out => out? steps out
  | .mark :: steps, out => out? steps (out + 1)
  | .commit :: steps, out + 1 => out? steps out
  | .rollback :: steps, out + 1 => out? steps out
  | _ :: _, 0 => none

/-- An assembly at work. -/
structure Session where
  assembly : Assembly
  /-- The marks that are out, newest first. -/
  out : List Nat

/-- One step, which releases the newest mark if it releases any. -/
def Session.step? : Session → Step → Option Session
  | ⟨a, out⟩, .change c => some ⟨a.change c, out⟩
  | ⟨a, out⟩, .mark => some ⟨a.mark.2, a.mark.1 :: out⟩
  | ⟨a, mark :: out⟩, .commit => (a.commit? mark).map fun b => ⟨b, out⟩
  | ⟨a, mark :: out⟩, .rollback => some ⟨a.rollback mark, out⟩
  | ⟨_, []⟩, _ => none

/-- The steps, one after the other. -/
def Session.run? (s : Session) (steps : List Step) : Option Session := steps.foldlM Session.step? s

/-- The assemblies that come up, whatever marks are released and in whatever order. -/
inductive Reachable : Assembly → Prop
  | new : Reachable {}
  | change {a : Assembly} (c : Change) : a.Reachable → Reachable (a.change c)
  | mark {a : Assembly} : a.Reachable → Reachable a.mark.2
  | commit {a b : Assembly} {mark : Nat} : a.Reachable → a.commit? mark = some b → Reachable b
  | rollback {a : Assembly} (mark : Nat) : a.Reachable → Reachable (a.rollback mark)

/-! ## What stands in an assembly -/

/-- The assembly without its journal and its marks. -/
def bare (a : Assembly) : Assembly := { a with journal := [], marks := 0 }

theorem bare_eq_bare {a b : Assembly} : a.bare = b.bare ↔ a.root = b.root ∧ a.frames = b.frames := by
  simp [bare]

/-- An assembly is what stands in it, its journal and its marks. -/
theorem ext_bare {a b : Assembly} (same : a.bare = b.bare) (journal : a.journal = b.journal)
    (marks : a.marks = b.marks) : a = b := by
  obtain ⟨roots, frames⟩ := bare_eq_bare.1 same
  cases a
  cases b
  simp_all

@[simp] theorem bare_record (a : Assembly) (u : Undo) : (a.record u).bare = a.bare := by
  unfold record
  split <;> rfl

@[simp] theorem bare_release (a : Assembly) : a.release.bare = a.bare := rfl

@[simp] theorem bare_modifyTop (a : Assembly) (f : Pieces → Pieces) :
    (a.modifyTop f).bare = a.bare.modifyTop f := by
  rcases a with ⟨root, frames, journal, marks⟩
  cases frames <;> rfl

@[simp] theorem top_bare (a : Assembly) : a.bare.top = a.top := rfl

theorem bare_undo (a : Assembly) (u : Undo) : (a.undo u).bare = a.bare.undo u := by
  rcases a with ⟨root, frames, journal, marks⟩
  cases u <;> cases frames <;> rfl

theorem bare_undoAll (a : Assembly) (undos : List Undo) :
    (a.undoAll undos).bare = a.bare.undoAll undos := by
  induction undos generalizing a with
  | nil => rfl
  | cons u undos ih =>
    show ((a.undo u).undoAll undos).bare = (a.bare.undo u).undoAll undos
    rw [ih, bare_undo]

/-- Undoing changes neither the journal nor the marks. -/
theorem undo_notes (a : Assembly) (u : Undo) :
    (a.undo u).journal = a.journal ∧ (a.undo u).marks = a.marks := by
  rcases a with ⟨root, frames, journal, marks⟩
  cases u <;> cases frames <;> exact ⟨rfl, rfl⟩

theorem undoAll_notes (a : Assembly) (undos : List Undo) :
    (a.undoAll undos).journal = a.journal ∧ (a.undoAll undos).marks = a.marks := by
  induction undos generalizing a with
  | nil => exact ⟨rfl, rfl⟩
  | cons u undos ih =>
    obtain ⟨journal, marks⟩ := ih (a.undo u)
    exact ⟨journal.trans (undo_notes a u).1, marks.trans (undo_notes a u).2⟩

theorem undoAll_append (a : Assembly) (newer older : List Undo) :
    a.undoAll (newer ++ older) = (a.undoAll newer).undoAll older := List.foldl_append

/-! ## Changes -/

theorem modifyTop_modifyTop (a : Assembly) (f g : Pieces → Pieces) :
    (a.modifyTop f).modifyTop g = a.modifyTop (g ∘ f) := by
  rcases a with ⟨root, frames, journal, marks⟩
  cases frames <;> rfl

theorem modifyTop_eq_self {a : Assembly} {f : Pieces → Pieces} (same : f a.top = a.top) :
    a.modifyTop f = a := by
  rcases a with ⟨root, frames, journal, marks⟩
  cases frames <;> simp_all [modifyTop, top]

/-- `undos` leads back from `b` to `a`, and stands in the journal of `b` if a mark is out. -/
structure Follows (a b : Assembly) (undos : List Undo) : Prop where
  marks : b.marks = a.marks
  journal : b.journal = if a.marks = 0 then a.journal else undos ++ a.journal
  undone : b.bare.undoAll undos = a.bare

theorem Follows.refl (a : Assembly) : Follows a a [] := ⟨rfl, by simp, rfl⟩

theorem Follows.trans {a b c : Assembly} {older newer : List Undo} (first : Follows a b older)
    (second : Follows b c newer) : Follows a c (newer ++ older) := by
  refine ⟨second.marks.trans first.marks, ?_, ?_⟩
  · rw [second.journal, first.journal, first.marks]
    split_ifs
    · rfl
    · exact (List.append_assoc newer older a.journal).symm
  · rw [undoAll_append, second.undone, first.undone]

/-- A change that is written down and then made. -/
theorem follows_of_record {a b : Assembly} {u : Undo} (marks : b.marks = a.marks)
    (journal : b.journal = (a.record u).journal) (undone : b.bare.undo u = a.bare) :
    Follows a b [u] := by
  refine ⟨marks, ?_, undone⟩
  rw [journal, record]
  split <;> rfl

theorem modifyTop_notes (a : Assembly) (f : Pieces → Pieces) :
    (a.modifyTop f).journal = a.journal ∧ (a.modifyTop f).marks = a.marks := by
  unfold modifyTop
  split <;> exact ⟨rfl, rfl⟩

@[simp] theorem marks_record (a : Assembly) (u : Undo) : (a.record u).marks = a.marks := by
  unfold record
  split <;> rfl

/-- Changing the innermost frame. -/
theorem follows_modifyTop {a : Assembly} {u : Undo} {f : Pieces → Pieces}
    (undone : (a.bare.modifyTop f).undo u = a.bare) : Follows a ((a.record u).modifyTop f) [u] := by
  refine follows_of_record ?_ (modifyTop_notes _ _).1 ?_
  · rw [(modifyTop_notes _ _).2, marks_record]
  · rw [bare_modifyTop, bare_record, undone]

theorem follows_push (a : Assembly) (d : Doc) (trivia : Bool) :
    Follows a (a.push d trivia) [.pushed a.lastWasTrivia] := by
  refine follows_modifyTop ?_
  simp only [undo]
  rw [modifyTop_modifyTop]
  exact modifyTop_eq_self rfl

theorem follows_openBracket (a : Assembly) (bracket : Bracket) :
    Follows a (a.openBracket bracket) [.opened] := by
  refine follows_of_record ?_ rfl ?_
  · exact marks_record a .opened
  · rw [← bare_record a .opened]
    rfl

theorem follows_closeBracket {a b : Assembly} {name : BracketName}
    (closed : a.closeBracket name = .ok b) : ∃ undos, Follows a b undos := by
  rcases a with ⟨root, frames, journal, marks⟩
  cases frames with
  | nil => cases closed
  | cons frame outer =>
    simp only [closeBracket_eq] at closed
    split_ifs at closed
    obtain rfl := Except.ok.inj closed
    -- What is written down speaks of the frames around the closed one.
    set inner : Assembly := ⟨root, outer, journal, marks⟩ with named
    refine ⟨[.closed frame inner.lastWasTrivia], follows_of_record ?_ ?_ ?_⟩
    · rw [(modifyTop_notes _ _).2, marks_record]
    · rw [(modifyTop_notes _ _).1]
      simp only [named, record]
      split <;> rfl
    · rw [bare_modifyTop, bare_record]
      simp only [undo]
      rw [modifyTop_modifyTop, modifyTop_eq_self rfl]
      rfl

theorem follows_merge {a b other : Assembly} (merged : a.merge other = .ok b) :
    ∃ undos, Follows a b undos := by
  rw [merge_eq] at merged
  split at merged
  · cases merged
  · split_ifs at merged with nothing
    · obtain rfl := Except.ok.inj merged
      exact ⟨[], Follows.refl a⟩
    · obtain rfl := Except.ok.inj merged
      refine ⟨_, follows_modifyTop ?_⟩
      simp only [undo]
      rw [modifyTop_modifyTop]
      refine modifyTop_eq_self ?_
      simp [Pieces.truncate, lastWasTrivia]

/-- What every change writes down undoes it. -/
theorem exists_follows_change (a : Assembly) (c : Change) : ∃ undos, Follows a (a.change c) undos := by
  cases c with
  | content d => exact ⟨_, follows_push a d _⟩
  | trivia d => exact ⟨_, follows_push a d _⟩
  | control d => exact ⟨_, follows_push a d _⟩
  | opening bracket => exact ⟨_, follows_openBracket a bracket⟩
  | closing name =>
    cases made : a.attempt (.closing name) with
    | ok b =>
      rw [change_of_ok made]
      exact follows_closeBracket made
    | error e =>
      rw [change_of_error made]
      exact ⟨[], Follows.refl a⟩
  | merging other =>
    cases made : a.attempt (.merging other) with
    | ok b =>
      rw [change_of_ok made]
      exact follows_merge made
    | error e =>
      rw [change_of_error made]
      exact ⟨[], Follows.refl a⟩

/-! Without journal and marks a change does the same to the frames. -/

theorem record_bare (a : Assembly) (u : Undo) : a.bare.record u = a.bare := rfl

theorem bare_push (a : Assembly) (d : Doc) (trivia : Bool) :
    (a.push d trivia).bare = a.bare.push d trivia := by
  rw [push, bare_modifyTop, bare_record, push, record_bare]

theorem map_bare_closeBracket (a : Assembly) (name : BracketName) :
    (a.closeBracket name).map bare = a.bare.closeBracket name := by
  rcases a with ⟨root, frames, journal, marks⟩
  cases frames with
  | nil => rfl
  | cons frame outer =>
    simp only [closeBracket_eq, bare]
    split_ifs
    · simp only [Except.map, bare_modifyTop, bare_record]
      rfl
    · rfl

theorem map_bare_merge (a other : Assembly) : (a.merge other).map bare = a.bare.merge other := by
  rw [merge_eq, merge_eq]
  split
  · rfl
  · split_ifs
    · rfl
    · simp only [Except.map, bare_modifyTop, bare_record, record_bare]

theorem map_bare_attempt (a : Assembly) (c : Change) : (a.attempt c).map bare = a.bare.attempt c := by
  cases c with
  | content d => exact congrArg Except.ok (bare_push a d _)
  | trivia d => exact congrArg Except.ok (bare_push a d _)
  | control d => exact congrArg Except.ok (bare_push a d _)
  | opening bracket =>
    simp only [attempt, Except.map, openBracket, record_bare]
    simp [bare]
  | closing name => exact map_bare_closeBracket a name
  | merging other => exact map_bare_merge a other

theorem bare_change (a : Assembly) (c : Change) : (a.change c).bare = a.bare.change c := by
  have same := map_bare_attempt a c
  cases made : a.attempt c with
  | ok b =>
    rw [made] at same
    rw [change_of_ok made, change_of_ok same.symm]
  | error e =>
    rw [made] at same
    rw [change_of_error made, change_of_error same.symm]

/-! ## Copies -/

/-- An assembly at work with a copy of it for every mark that is out, newest first. -/
structure Copies where
  assembly : Assembly
  saved : List Assembly

/-- One step: going back to a mark takes the copy. -/
def Copies.step? : Copies → Step → Option Copies
  | ⟨a, saved⟩, .change c => some ⟨a.change c, saved⟩
  | ⟨a, saved⟩, .mark => some ⟨a.mark.2, a :: saved⟩
  | ⟨a, _ :: saved⟩, .commit => some ⟨a.release, saved⟩
  | ⟨_, copy :: saved⟩, .rollback => some ⟨copy, saved⟩
  | ⟨_, []⟩, _ => none

def Copies.run? (s : Copies) (steps : List Step) : Option Copies := steps.foldlM Copies.step? s

theorem Copies.run?_cons (s : Copies) (step : Step) (steps : List Step) :
    s.run? (step :: steps) = (s.step? step).bind fun t => t.run? steps := by
  simp [Copies.run?]

theorem Copies.run?_concat (s : Copies) (steps : List Step) (last : Step) :
    s.run? (steps ++ [last]) = (s.run? steps).bind fun t => t.step? last := by
  simp [Copies.run?, List.foldlM_append]

/-- Steps that ask for no mark that is not out run through, and nothing depends on
the copies below those they have. -/
theorem Copies.exists_run {steps : List Step} (a : Assembly) (saved : List Assembly) {out : Nat}
    (nested : Step.out? steps saved.length = some out) :
    ∃ b left, left.length = out ∧
      ∀ below, Copies.run? ⟨a, saved ++ below⟩ steps = some ⟨b, left ++ below⟩ := by
  induction steps generalizing a saved with
  | nil => exact ⟨a, saved, by simpa [Step.out?] using nested, fun below => rfl⟩
  | cons step steps ih =>
    cases step with
    | change c => exact ih (a.change c) saved nested
    | mark => exact ih a.mark.2 (a :: saved) nested
    | commit =>
      cases saved with
      | nil => cases nested
      | cons copy saved => exact ih a.release saved nested
    | rollback =>
      cases saved with
      | nil => cases nested
      | cons copy saved => exact ih copy saved nested

/-- The same frames, now and at every mark. -/
def Copies.Alike (s t : Copies) : Prop :=
  s.assembly.bare = t.assembly.bare ∧ s.saved.map bare = t.saved.map bare

theorem Copies.Alike.step {s t s' : Copies} {step : Step} (alike : s.Alike t)
    (took : s.step? step = some s') : ∃ t', t.step? step = some t' ∧ s'.Alike t' := by
  rcases s with ⟨a, copies⟩
  rcases t with ⟨b, others⟩
  obtain ⟨same, saved⟩ := alike
  dsimp only at same saved
  cases step with
  | change c =>
    obtain rfl := Option.some.inj took
    refine ⟨_, rfl, ?_, saved⟩
    show (a.change c).bare = (b.change c).bare
    rw [bare_change, same, bare_change]
  | mark =>
    obtain rfl := Option.some.inj took
    exact ⟨_, rfl, same, by simpa using ⟨same, saved⟩⟩
  | commit =>
    rcases copies with _ | ⟨copy, copies⟩
    · cases took
    · obtain ⟨other, others, rfl⟩ : ∃ other rest, others = other :: rest :=
        List.exists_cons_of_ne_nil fun none => by simp [none] at saved
      obtain rfl := Option.some.inj took
      exact ⟨_, rfl, same, (List.cons_eq_cons.1 saved).2⟩
  | rollback =>
    rcases copies with _ | ⟨copy, copies⟩
    · cases took
    · obtain ⟨other, others, rfl⟩ : ∃ other rest, others = other :: rest :=
        List.exists_cons_of_ne_nil fun none => by simp [none] at saved
      obtain rfl := Option.some.inj took
      obtain ⟨first, rest⟩ := List.cons_eq_cons.1 saved
      exact ⟨_, rfl, first, rest⟩

theorem Copies.Alike.run {steps : List Step} {s t s' : Copies} (alike : s.Alike t)
    (ran : s.run? steps = some s') : ∃ t', t.run? steps = some t' ∧ s'.Alike t' := by
  induction steps generalizing s t with
  | nil =>
    obtain rfl := Option.some.inj ran
    exact ⟨t, rfl, alike⟩
  | cons step steps ih =>
    rw [Copies.run?_cons] at ran
    obtain ⟨next, took, rest⟩ := Option.bind_eq_some_iff.1 ran
    obtain ⟨other, same, still⟩ := alike.step took
    obtain ⟨t', run, last⟩ := ih still rest
    exact ⟨t', by rw [Copies.run?_cons, same]; exact run, last⟩

/-! ## The journal in place of the copies -/

/-- No change is written down while no mark is out. -/
def Settled (a : Assembly) : Prop := a.marks = 0 → a.journal = []

theorem settled_release (a : Assembly) : a.release.Settled := by
  intro none
  have last : a.marks ≤ 1 := by simp only [release] at none; omega
  simp [release, last]

theorem Follows.settled {a b : Assembly} {undos : List Undo} (follows : Follows a b undos)
    (settled : a.Settled) : b.Settled := by
  intro none
  rw [follows.marks] at none
  rw [follows.journal, if_pos none, settled none]

theorem Reachable.settled {a : Assembly} (reached : a.Reachable) : a.Settled := by
  induction reached with
  | new => exact fun _ => rfl
  | change c _ before =>
    obtain ⟨undos, follows⟩ := exists_follows_change _ c
    exact follows.settled before
  | mark _ _ => exact fun none => absurd none (Nat.succ_ne_zero _)
  | commit _ kept _ =>
    unfold commit? at kept
    split_ifs at kept
    obtain rfl := Option.some.inj kept
    exact settled_release _
  | rollback mark _ _ => exact settled_release _

namespace Follows

variable {a b : Assembly} {undos : List Undo} (follows : Follows a.mark.2 b undos) (settled : a.Settled)
include follows

theorem journal_of_mark : b.journal = undos ++ a.journal :=
  follows.journal.trans (if_neg (Nat.succ_ne_zero _))

include settled

/-- What was done since a mark is kept for the marks before it. -/
theorem commit : b.commit? a.mark.1 = some b.release ∧ Follows a b.release undos := by
  have marks : b.marks = a.marks + 1 := follows.marks
  have journal := follows.journal_of_mark
  refine ⟨if_pos ?_, ?_, ?_, follows.undone⟩
  · rw [journal, List.length_append]
    exact Nat.le_add_left ..
  · rw [release, marks, Nat.add_sub_cancel]
  · rw [release, marks, journal]
    by_cases none : a.marks = 0
    · rw [if_pos none, if_pos (by omega), settled none]
    · rw [if_neg none, if_neg (by omega)]

/-- Going back to a mark gives what stood there. -/
theorem rollback : b.rollback a.mark.1 = a := by
  have marks : b.marks = a.marks + 1 := follows.marks
  have journal := follows.journal_of_mark
  have since : b.journal.length - a.mark.1 = undos.length := by
    rw [journal, List.length_append]
    exact Nat.add_sub_cancel ..
  have newer : b.journal.take undos.length = undos := by rw [journal, List.take_left]
  have older : b.journal.drop undos.length = a.journal := by rw [journal, List.drop_left]
  simp only [Assembly.rollback, since, newer, older]
  obtain ⟨written, counted⟩ := undoAll_notes { b with journal := a.journal } undos
  refine ext_bare ?_ ?_ ?_
  · rw [bare_release, bare_undoAll]
    exact follows.undone
  · simp only [release, written, counted]
    split_ifs with last
    · exact (settled (by omega)).symm
    · rfl
  · rw [release, counted, marks, Nat.add_sub_cancel]

end Follows

/-- Every mark is where the journal of its copy ends, and the journal since then
leads back to the copy. -/
inductive Backed : Assembly → List Nat → List Assembly → Prop
  | start {a : Assembly} (settled : a.Settled) : Backed a [] []
  | mark {a copy : Assembly} {out : List Nat} {saved : List Assembly} {undos : List Undo}
      (before : Backed copy out saved) (follows : Follows copy.mark.2 a undos) :
      Backed a (copy.mark.1 :: out) (copy :: saved)

namespace Backed

variable {a b copy : Assembly} {out : List Nat} {saved : List Assembly}

theorem settled (backed : Backed a out saved) : a.Settled := by
  cases backed with
  | start settled => exact settled
  | mark before follows => exact fun none => absurd (follows.marks.symm.trans none) (Nat.succ_ne_zero _)

/-- A change is written down for all marks at once. -/
theorem change (backed : Backed a out saved) (c : Change) : Backed (a.change c) out saved := by
  obtain ⟨undos, made⟩ := exists_follows_change a c
  cases backed with
  | start settled => exact .start (made.settled settled)
  | mark before follows => exact .mark before (follows.trans made)

theorem putOut (backed : Backed a out saved) : Backed a.mark.2 (a.mark.1 :: out) (a :: saved) :=
  .mark backed (.refl _)

/-- The journal since a mark that is kept belongs to the mark before it. -/
theorem release {mark : Nat} (backed : Backed a (mark :: out) (copy :: saved)) :
    a.commit? mark = some a.release ∧ Backed a.release out saved := by
  cases backed with
  | mark before follows =>
    obtain ⟨kept, since⟩ := follows.commit before.settled
    refine ⟨kept, ?_⟩
    cases before with
    | start settled => exact .start (since.settled settled)
    | mark earlier older => exact .mark earlier (older.trans since)

/-- Going back to a mark gives the copy. -/
theorem rollback {mark : Nat} (backed : Backed a (mark :: out) (copy :: saved)) :
    a.rollback mark = copy ∧ Backed copy out saved := by
  cases backed with
  | mark before follows => exact ⟨follows.rollback before.settled, before⟩

/-- One step with marks is the same step with copies. -/
theorem step {step : Step} {b : Assembly} {left : List Assembly} (backed : Backed a out saved)
    (took : Copies.step? ⟨a, saved⟩ step = some ⟨b, left⟩) :
    ∃ rest, Session.step? ⟨a, out⟩ step = some ⟨b, rest⟩ ∧ Backed b rest left := by
  cases step with
  | change c =>
    cases took
    exact ⟨out, rfl, backed.change c⟩
  | mark =>
    cases took
    exact ⟨_, rfl, backed.putOut⟩
  | commit =>
    rcases saved with _ | ⟨copy, saved⟩
    · cases took
    · cases took
      obtain ⟨mark, rest, rfl⟩ : ∃ mark rest, out = mark :: rest := by cases backed; exact ⟨_, _, rfl⟩
      obtain ⟨kept, still⟩ := backed.release
      exact ⟨rest, by simp [Session.step?, kept], still⟩
  | rollback =>
    rcases saved with _ | ⟨copy, saved⟩
    · cases took
    · cases took
      obtain ⟨mark, rest, rfl⟩ : ∃ mark rest, out = mark :: rest := by cases backed; exact ⟨_, _, rfl⟩
      obtain ⟨back, still⟩ := backed.rollback
      exact ⟨rest, by simp [Session.step?, back], still⟩

/-- A run with marks is the same run with copies. -/
theorem run {steps : List Step} {b : Assembly} {left : List Assembly} (backed : Backed a out saved)
    (ran : Copies.run? ⟨a, saved⟩ steps = some ⟨b, left⟩) :
    ∃ rest, Session.run? ⟨a, out⟩ steps = some ⟨b, rest⟩ ∧ Backed b rest left := by
  induction steps generalizing a out saved with
  | nil =>
    cases ran
    exact ⟨out, rfl, backed⟩
  | cons step steps ih =>
    rw [Copies.run?_cons] at ran
    obtain ⟨⟨next, kept⟩, took, later⟩ := Option.bind_eq_some_iff.1 ran
    obtain ⟨marks, same, still⟩ := backed.step took
    obtain ⟨rest, run, last⟩ := ih still later
    refine ⟨rest, ?_, last⟩
    simp only [Session.run?, List.foldlM_cons, same]
    exact run

/-- A run that ends without copies ends without marks. -/
theorem run_eq {steps : List Step} {b : Assembly} (settled : a.Settled)
    (ran : Copies.run? ⟨a, []⟩ steps = some ⟨b, []⟩) :
    Session.run? ⟨a, []⟩ steps = some ⟨b, []⟩ := by
  obtain ⟨rest, same, last⟩ := (Backed.start settled).run ran
  cases last
  exact same

end Backed

/-! ## Nested steps -/

/-- In every assembly that comes up, going back to a mark after steps that release
all their own marks gives the assembly as it was, and keeping what they did gives
the frames that they give without the mark.  While no mark is out, the journal is
empty. -/
theorem run_mark_rollback {a : Assembly} (reached : a.Reachable) {steps : List Step}
    (nested : Step.out? steps 0 = some 0) :
    (a.marks = 0 → a.journal = []) ∧
      Session.run? ⟨a, []⟩ (.mark :: steps ++ [.rollback]) = some ⟨a, []⟩ ∧
      ∃ kept plain, Session.run? ⟨a, []⟩ (.mark :: steps ++ [.commit]) = some ⟨kept, []⟩ ∧
        Session.run? ⟨a, []⟩ steps = some ⟨plain, []⟩ ∧
        kept.root = plain.root ∧ kept.frames = plain.frames := by
  have settled := reached.settled
  -- The copy of `a` stays below the copies that the steps make and use up.
  obtain ⟨b, left, empty, ran⟩ := Copies.exists_run a.mark.2 [] nested
  obtain rfl := List.length_eq_zero_iff.1 empty
  have marked : ∀ last, Copies.run? ⟨a, []⟩ (.mark :: steps ++ [last]) = Copies.step? ⟨b, [a]⟩ last := by
    intro last
    have inside : Copies.run? ⟨a.mark.2, [a]⟩ steps = some ⟨b, [a]⟩ := ran [a]
    show Copies.run? ⟨a.mark.2, [a]⟩ (steps ++ [last]) = _
    rw [Copies.run?_concat, inside, Option.bind_some]
  have unmarked : Copies.Alike ⟨a.mark.2, []⟩ ⟨a, []⟩ := ⟨rfl, rfl⟩
  obtain ⟨⟨plain, others⟩, alone, same, none⟩ := unmarked.run (ran [])
  obtain rfl : others = [] := by simpa using none.symm
  obtain ⟨roots, frames⟩ := bare_eq_bare.1 same
  exact ⟨settled, Backed.run_eq settled (marked .rollback), b.release, plain,
    Backed.run_eq settled (marked .commit), Backed.run_eq settled alone, roots, frames⟩

/-- With another mark out, a group that was opened before the mark is closed, a
bracket is closed that is not open, and marks inside are gone back to and kept. -/
theorem run_mark_rollback_closing :
    let a := (({} : Assembly).change (.opening .group)).mark.2.change (.content (.text "a"))
    let steps : List Step := [.change (.closing .group), .mark, .change (.trivia (.comment "b")),
      .rollback, .change (.closing .join), .mark,
      .change (.merging { root := ⟨[.text "c"], false⟩ }), .commit]
    a.Reachable ∧ Step.out? steps 0 = some 0 ∧
      Session.run? ⟨a, []⟩ (.mark :: steps ++ [.rollback]) = some ⟨a, []⟩ ∧
      ∃ kept plain, Session.run? ⟨a, []⟩ (.mark :: steps ++ [.commit]) = some ⟨kept, []⟩ ∧
        Session.run? ⟨a, []⟩ steps = some ⟨plain, []⟩ ∧
        kept.root = plain.root ∧ kept.frames = plain.frames := by
  intro a steps
  have reached : a.Reachable := .change _ (.mark (.change _ .new))
  have nested : Step.out? steps 0 = some 0 := rfl
  exact ⟨reached, nested, (run_mark_rollback reached nested).2⟩

end Reprint.Assembly
