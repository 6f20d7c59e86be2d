import Reprint.Proofs.Parse.Tiling
import Reprint.Proofs.Pattern.Lexeme

/-!
# Patterns match where they are tried

A pattern is read in a group behind `^`.  If its source is a pattern by itself,
the group stays open up to the parenthesis put behind it, so that the whole
expression is `^` with the group behind it, and its program has no thread but at
the start of a text (`anchored_of_standsAlone`).  A source that closes the group
itself can be accepted too, and then matches elsewhere (`not_anchored_escaped`).
-/

namespace Reprint.Pattern

/-! ## Programs that begin with a condition -/

namespace Program

variable {p : Program}

/-- A program that goes on only at the start of a text. -/
def StartsFirst (p : Program) : Prop := ∃ next, p.code[p.start]? = some (.look .start next)

theorem threads_of_startsFirst (starts : p.StartsFirst) (c : Char) (after : Option Char) :
    p.threads (some c) after [p.start] = [] := by
  obtain ⟨next, instr⟩ := starts
  obtain ⟨inside, -⟩ := Array.getElem?_eq_some_iff.1 instr
  obtain ⟨left, size⟩ := Nat.exists_eq_succ_of_ne_zero (Nat.ne_of_gt (Nat.zero_lt_of_lt inside))
  have unvisited : (Array.replicate p.code.size false)[p.start]? = some false := by
    simp [inside]
  rw [threads, size, follow, ← size, unvisited, instr]
  simp [Look.holds, follow]

theorem run_nil (p : Program) (taken : Nat) (cs : List Char) : p.run [] taken cs = none := by
  cases cs <;> rfl

theorem search_of_startsFirst (starts : p.StartsFirst) (c : Char) (skipped : Nat)
    (cs : List Char) : p.search (some c) skipped cs = none := by
  induction cs generalizing c skipped with
  | nil => rw [search, threads_of_startsFirst starts, run_nil]
  | cons d cs ih =>
    rw [search, threads_of_startsFirst starts, run_nil]
    exact ih d (skipped + 1)

/-- Such a program matches at the start of a text only. -/
theorem eq_of_search_eq_some (starts : p.StartsFirst) {skipped start stop : Nat}
    {cs : List Char} (found : p.search none skipped cs = some (start, stop)) : start = skipped := by
  rw [search.eq_def] at found
  split at found
  · obtain ⟨rfl, -⟩ := by simpa using found
    rfl
  · cases cs with
    | nil => simp at found
    | cons c cs => simp [search_of_startsFirst starts] at found

theorem of_run_eq_some {threads : List Thread} {taken stop : Nat} {cs : List Char}
    (found : p.run threads taken cs = some stop) : taken ≤ stop ∧ stop ≤ taken + cs.length := by
  induction cs generalizing threads taken with
  | nil =>
    rw [run] at found
    obtain ⟨-, rfl⟩ := by simpa using found
    simp
  | cons c cs ih =>
    simp only [run] at found
    split at found
    · next n later =>
      obtain rfl : n = stop := by simpa using found
      split_ifs at later
      obtain ⟨least, most⟩ := ih later
      simp only [List.length_cons]
      omega
    · obtain ⟨-, rfl⟩ := by simpa using found
      simp

/-- A match stands within the text. -/
theorem of_search_eq_some {before : Option Char} {skipped start stop : Nat} {cs : List Char}
    (found : p.search before skipped cs = some (start, stop)) :
    start ≤ stop ∧ stop ≤ skipped + cs.length := by
  induction cs generalizing before skipped with
  | nil =>
    rw [search] at found
    split at found
    · next n ran =>
      obtain ⟨rfl, rfl⟩ := by simpa using found
      exact of_run_eq_some ran
    · simp at found
  | cons c cs ih =>
    rw [search] at found
    split at found
    · next n ran =>
      obtain ⟨rfl, rfl⟩ := by simpa using found
      exact of_run_eq_some ran
    · obtain ⟨least, most⟩ := ih found
      simp only [List.length_cons]
      omega

end Program

namespace Expr

/-- An expression that is a condition to be at the start, perhaps with more behind it. -/
def StartsFirst (e : Expr) : Prop := e = .look .start ∨ ∃ b, e = .cat (.look .start) b

theorem startsFirst_inRow (es : List Expr) : (inRow (.look .start :: es)).StartsFirst := by
  cases es with
  | nil => exact .inl rfl
  | cons e es => exact .inr ⟨_, rfl⟩

theorem startsFirst_cats (e : Expr) : (cats [.look .start, e]).StartsFirst := by
  have row : ([.look .start, e].flatMap items).foldr consItem [] =
      .look .start :: (e.items).foldr consItem [] := by
    simp [items, consItem]
  rw [cats, row]
  exact startsFirst_inRow _

/-- A choice with one branch is that branch. -/
theorem alts_single {e : Expr} (starts : e.StartsFirst) : alts [e] = e := by
  obtain rfl | ⟨b, rfl⟩ := starts <;> rfl

theorem startsFirst_ofExpr {e : Expr} (starts : e.StartsFirst) :
    (Program.ofExpr e).StartsFirst := by
  obtain rfl | ⟨b, rfl⟩ := starts
  · exact ⟨0, rfl⟩
  · refine ⟨(b.emit 0 #[.accept]).1, ?_⟩
    simp [Program.ofExpr, emit, Code.push]

end Expr

/-! ## A pattern in a group -/

namespace Reading

/-- The same reading within one more group. -/
def within (r : Reading) (g : Group) : Reading := { r with outer := r.outer ++ [g] }

variable {r r' : Reading}

theorem lexeme?_within {x : Lexeme} (g : Group) (taken : r.lexeme? x = some r') :
    (r.within g).lexeme? x = some (r'.within g) := by
  cases x with
  | part expr depth =>
    obtain rfl := Option.some.inj taken
    rfl
  | rounds least most greedy =>
    obtain ⟨group, repeated, rfl⟩ := Option.map_eq_some_iff.1 taken
    exact Option.map_eq_some_iff.2 ⟨group, repeated, rfl⟩
  | bar =>
    obtain rfl := Option.some.inj taken
    rfl
  | change changes =>
    obtain rfl := Option.some.inj taken
    rfl
  | opening name =>
    cases name with
    | none =>
      obtain rfl := Option.some.inj taken
      rfl
    | some name =>
      simp only [lexeme?] at taken
      split_ifs at taken with known
      obtain rfl := Option.some.inj taken
      exact if_neg known
  | openingWith changes =>
    obtain rfl := Option.some.inj taken
    rfl
  | closing =>
    obtain ⟨outer, group, names⟩ := r
    cases outer with
    | nil => cases taken
    | cons around outer =>
      obtain rfl := Option.some.inj taken
      rfl

theorem of_finish?_eq_some {e : Expr} (finished : r.finish? = some e) :
    r.outer = [] ∧ e = r.group.inner.expr := by
  simp only [finish?] at finished
  split_ifs at finished with closed
  exact ⟨by simpa using (Bool.and_eq_true_iff.1 closed).1, (Option.some.inj finished).symm⟩

/-- A reading within a group cannot end. -/
theorem finish?_within (r : Reading) (g : Group) : (r.within g).finish? = none := by
  simp [finish?, within]

theorem rest?_ended {cs : List Char} (ended : r.group.mode.skip cs = []) :
    r.rest? cs = r.finish? := by
  rw [rest?, ended]

theorem rest?_lexeme {c : Char} {cs text rest : List Char} {x : Lexeme}
    (skipped : r.group.mode.skip cs = c :: text)
    (first : Lexeme.first? r.group.mode (c :: text) = some (x, rest))
    (shorter : rest.length < cs.length) (taken : r.lexeme? x = some r') :
    r.rest? cs = r'.rest? rest := by
  rw [rest?, skipped]
  simp only [first, if_pos shorter, taken, Option.bind_some]

/-- What a pattern that is one by itself makes of the group around it: behind
its text the group is open, and the parenthesis closes the pattern's own. -/
theorem rest?_within {cs : List Char} {e whole : Expr} (g : Group)
    (alone : r.rest? cs = some e) (read : (r.within g).rest? (cs ++ [')']) = some whole) :
    ∃ part, whole = (g.add part).inner.expr := by
  fun_induction r.rest? cs with
  | case1 r cs ended =>
    have leaves := r.group.mode.leaves_skip cs
    rw [ended] at leaves
    obtain closing | ⟨-, ended'⟩ := leaves
    · obtain ⟨closed, -⟩ := of_finish?_eq_some alone
      have taken : (r.within g).lexeme? .closing =
          some { r with outer := [], group := g.add r.group.close } := by
        simp [lexeme?, within, closed]
      rw [rest?_lexeme (r := r.within g) closing rfl (by simp) taken, rest?_ended rfl] at read
      exact ⟨_, (of_finish?_eq_some read).2⟩
    · rw [rest?_ended (r := r.within g) ended', finish?_within] at read
      cases read
  | case2 => cases alone
  | case3 r cs c text skipped x rest first shorter ih =>
    obtain ⟨r', taken, alone⟩ := Option.bind_eq_some_iff.1 alone
    obtain ⟨longer, first', leaves⟩ := Lexeme.extends_first? _ _ _ _ first
    have shorter' : longer.length < (cs ++ [')']).length := by
      obtain rfl | ⟨-, rfl⟩ := leaves
      · simpa using shorter
      · simp
    rw [rest?_lexeme (r := r.within g) (Mode.skip_append skipped) first' shorter'
      (lexeme?_within g taken)] at read
    obtain rfl | ⟨-, rfl⟩ := leaves
    · exact ih r' alone read
    · rw [rest?_ended rfl, finish?_within] at read
      cases read
  | case4 => cases alone

end Reading

/-- The group that a pattern is read in. -/
def wrapper : Group := { mode := {}, kept := false, parts := [{ expr := .look .start, depth := 0 }] }

theorem read?_anchored (source : String) :
    Expr.read? (anchored source) =
      (Reading.within { group := { mode := {}, kept := false } } wrapper).rest?
        (source.toList ++ [')']) := by
  have text : anchored source = '^' :: '(' :: '?' :: ':' :: (source.toList ++ [')']) := rfl
  rw [Expr.read?, text, Reading.rest?_lexeme rfl rfl (by simp) rfl,
    Reading.rest?_lexeme rfl rfl (by simp) rfl]
  rfl

/-- A source that is a pattern by itself. -/
def StandsAlone (source : String) : Prop := (Expr.read? source.toList).isSome

theorem startsFirst_of_standsAlone {source : String} {p : Pattern} (alone : StandsAlone source)
    (compiled : compile? source = some p) : p.program.StartsFirst := by
  obtain ⟨e, alone⟩ := Option.isSome_iff_exists.1 alone
  obtain ⟨whole, read, fits⟩ := Option.bind_eq_some_iff.1 compiled
  split_ifs at fits
  obtain rfl := Option.some.inj fits
  rw [read?_anchored] at read
  obtain ⟨part, rfl⟩ := Reading.rest?_within wrapper alone read
  have row := Expr.startsFirst_cats part.expr
  refine Expr.startsFirst_ofExpr ?_
  show (Expr.alts [Expr.cats [.look .start, part.expr]]).StartsFirst
  rwa [Expr.alts_single row]

/-- A match at an offset ends where the first match in the text from there on
ends, wherever that begins. -/
theorem matchAt?_eq_some_iff {p : Pattern} {input : String} {offset stop : Nat} :
    p.matchAt? input offset = some stop ↔
      ∃ skipped taken rest, Text.Stands input.toList offset stop (skipped ++ taken) rest ∧
        p.find? (skipped ++ taken ++ rest) =
          some (skipped.length, (skipped ++ taken).length) := by
  refine ⟨fun matched => ?_, ?_⟩
  · obtain ⟨cs, cut, matched⟩ := Option.bind_eq_some_iff.1 matched
    obtain ⟨count, taken, ended⟩ := Option.bind_eq_some_iff.1 matched
    obtain ⟨⟨start, count'⟩, found, rfl⟩ := Option.map_eq_some_iff.1 taken
    obtain ⟨before, whole, place⟩ := Text.dropBytes?_eq_some.1 cut
    obtain ⟨ordered, within⟩ := Program.of_search_eq_some found
    rw [Nat.zero_add] at within
    have front : (cs.take count').take start ++ (cs.take count').drop start = cs.take count' :=
      List.take_append_drop start _
    refine ⟨(cs.take count').take start, (cs.take count').drop start, cs.drop count', ?_, ?_⟩
    · rw [front]
      refine ⟨before, ?_, place, (Option.some.inj ended).symm⟩
      rw [List.take_append_drop, whole]
    · have length : (cs.take count').length = count' := by simp [within]
      rw [front, List.take_append_drop, List.length_take, length, Nat.min_eq_left ordered, found]
  · rintro ⟨skipped, taken, rest, ⟨before, whole, place, ended⟩, found⟩
    have cut : Text.dropBytes? offset input.toList = some (skipped ++ taken ++ rest) :=
      Text.dropBytes?_eq_some.2 ⟨before, whole, place⟩
    have count : p.taken? (skipped ++ taken ++ rest) = some (skipped ++ taken).length := by
      rw [taken?, found, Option.map_some]
    simp only [matchAt?, cut, count, Option.bind_eq_bind, Option.bind_some, List.take_left, ended]
    rfl

/-- A pattern whose source is one by itself matches at the place where it is
tried and nowhere behind it. -/
theorem anchored_of_standsAlone {source : String} {p : Pattern} (alone : StandsAlone source)
    (compiled : compile? source = some p) :
    (∀ cs start stop, p.find? cs = some (start, stop) → start = 0) ∧
      ∀ input offset stop, p.matchAt? input offset = some stop ↔
        ∃ taken rest, Text.Stands input.toList offset stop taken rest ∧
          p.find? (taken ++ rest) = some (0, taken.length) := by
  have first {cs : List Char} {start stop : Nat} (found : p.find? cs = some (start, stop)) :
      start = 0 :=
    Program.eq_of_search_eq_some (startsFirst_of_standsAlone alone compiled) found
  refine ⟨fun cs start stop => first, fun input offset stop => ?_⟩
  rw [matchAt?_eq_some_iff]
  constructor
  · rintro ⟨skipped, taken, rest, stands, found⟩
    obtain rfl := List.eq_nil_of_length_eq_zero (first found)
    exact ⟨taken, rest, stands, found⟩
  · rintro ⟨taken, rest, stands, found⟩
    exact ⟨[], taken, rest, stands, found⟩

/-- Both branches of a choice are tried at the place itself. -/
theorem anchored_of_standsAlone_choice :
    ∃ p, StandsAlone "a|b" ∧ compile? "a|b" = some p ∧ p.matchAt? "xa" 1 = some 2 ∧
      (∀ cs start stop, p.find? cs = some (start, stop) → start = 0) ∧
      ∀ input offset stop, p.matchAt? input offset = some stop ↔
        ∃ taken rest, Text.Stands input.toList offset stop taken rest ∧
          p.find? (taken ++ rest) = some (0, taken.length) := by
  have alone : (Expr.read? "a|b".toList).isSome = true := by with_unfolding_all rfl
  have joined : Text.Ranges.ofList [(97, 97), (98, 98)] = [(97, 98)] := by
    simp [Text.Ranges.ofList, Text.Ranges.join, Text.Ranges.joinFrom, List.mergeSort_of_pairwise]
  have either : Expr.alts [.literal ['a'], .literal ['b']] = .set [(97, 98)] := by
    change Expr.ofSet (.ofList [(97, 97), (98, 98)]) = _
    rw [joined]
    rfl
  have read : Expr.read? (anchored "a|b") =
      some (.alts [.cats [.look .start, .alts [.literal ['a'], .literal ['b']]]]) := by
    with_unfolding_all rfl
  have found : (compile? "a|b").bind (·.find? "a".toList) = some (0, 1) := by
    rw [compile?, read, either]
    with_unfolding_all rfl
  obtain ⟨p, compiled, found⟩ := Option.bind_eq_some_iff.1 found
  have matched : p.matchAt? "xa" 1 = some 2 :=
    matchAt?_eq_some_iff.2 ⟨[], ['a'], [], ⟨['x'], rfl, rfl, rfl⟩, found⟩
  exact ⟨p, alone, compiled, matched, anchored_of_standsAlone alone compiled⟩

/-- A source that closes the group around it and opens another one at its end:
its second branch is not behind `^`, and the match at offset 0 takes a character
that it does not match. -/
theorem not_anchored_escaped :
    ¬ StandsAlone "a)|(?:b" ∧
      ∃ p, compile? "a)|(?:b" = some p ∧ p.find? "xb".toList = some (1, 2) ∧
        p.matchAt? "xb" 0 = some 2 := by
  have refused : (Expr.read? "a)|(?:b".toList).isSome = false := by with_unfolding_all rfl
  have found : (compile? "a)|(?:b").bind (·.find? "xb".toList) = some (1, 2) := by with_unfolding_all rfl
  obtain ⟨p, compiled, found⟩ := Option.bind_eq_some_iff.1 found
  have matched : p.matchAt? "xb" 0 = some 2 :=
    matchAt?_eq_some_iff.2 ⟨['x'], ['b'], [], ⟨[], rfl, rfl, rfl⟩, found⟩
  exact ⟨by rw [StandsAlone, refused]; decide, p, compiled, found, matched⟩

end Reprint.Pattern
