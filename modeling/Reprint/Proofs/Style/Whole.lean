import Reprint.Proofs.Outcome
import Reprint.Proofs.Style.Nesting
import Reprint.Style.Sheet

/-!
# Brackets around whole rules

A statement that brackets a range stands for two commands, one that opens a bracket
and one that closes it, whatever comes before and behind in the sheet
(`stated_of_commands`).  If the ranges are whole rules, brackets are opened at one
anchor only and closed at another one only.

Openings are put behind what an entry has, and closings in front of it.  So in each
scope the brackets of a sheet are opened in the order of the statements and closed in
reverse order, and where a rule has entries of its own the general brackets enclose
the rule's (`brackets_entryAt_whole`).
-/

namespace Reprint

/-! ## Statements -/

namespace Command

/-- A bracket that a command opens in a scope. -/
def opens? (scope : Scope) : Command → Option Bracket
  | .direct other _ (.opening b) => if other = scope then some b else none
  | _ => none

/-- Brackets are opened in front of rules and closed behind them, as they are where
a statement names no other range. -/
def IsWhole : Command → Prop
  | .direct _ anchor (.opening _) => anchor = ⟨.before, .ruleStart⟩
  | .direct _ anchor (.closing _) => anchor = ⟨.after, .ruleEnd⟩
  | _ => True

/-- A command that opens no bracket and closes none. -/
def IsPlain : Command → Prop
  | .direct _ _ d => d.isSpacing
  | _ => True

end Command

/-- The brackets that commands open in a scope, in the order of the commands. -/
def openedIn (scope : Scope) (cs : List Command) : List Bracket :=
  cs.filterMap (Command.opens? scope)

/-- The brackets around the nodes of a rule, outermost first: those for all rules,
then those for the rule. -/
def bracketsAround (cs : List Command) (rule : String) : List Bracket :=
  openedIn none cs ++ openedIn (some rule) cs

namespace Sheet

/-- Commands as statements stand for them: a bracket that is opened is closed by the
next command. -/
inductive Stated : List Command → Prop
  | nil : Stated []
  | plain {c : Command} {cs : List Command} : c.IsPlain → Stated cs → Stated (c :: cs)
  | bracketed {scope : Scope} {ends : Anchor × Anchor} {b : Bracket} {cs : List Command} :
      Stated cs → Stated (bracketed scope ends b ++ cs)

theorem Stated.append {cs ds : List Command} (first : Stated cs) (second : Stated ds) :
    Stated (cs ++ ds) := by
  induction first with
  | nil => exact second
  | plain plain _ ih => exact .plain plain ih
  | bracketed _ ih => exact .bracketed ih

theorem Stated.single {c : Command} (plain : c.IsPlain) : Stated [c] := .plain plain .nil

theorem stated_bracketed (scope : Scope) (ends : Anchor × Anchor) (b : Bracket) :
    Stated (bracketed scope ends b) := .bracketed .nil

theorem stated_spacing (scope : Scope) (anchor : Anchor) (ds : List Doc) :
    Stated (ds.map fun d => .direct scope anchor (.spacing d)) := by
  induction ds with
  | nil => exact .nil
  | cons d ds ih => exact .plain rfl ih

section Readers

variable {stop : SheetEnd} {ts : List Token}

theorem stated_of_ended {α : Type} {r : ReadAny α ts} {commands : α → List Command}
    {out : ReadAny (List Command) ts} (given : ended stop r commands = .ok out)
    (stated : Stated (commands r.value)) : Stated out.value := by
  obtain ⟨_, _, given⟩ := exists_of_bind_eq_ok given
  obtain rfl := Except.ok.inj given
  exact stated

theorem stated_of_spacingStatement {scope : Scope} {side : Side} {out : ReadAny (List Command) ts}
    (given : spacingStatement stop scope side ts = .ok out) : Stated out.value := by
  obtain ⟨_, _, given⟩ := exists_of_bind_eq_ok given
  obtain ⟨_, _, given⟩ := exists_of_bind_eq_ok given
  obtain ⟨_, _, given⟩ := exists_of_bind_eq_ok given
  obtain rfl := Except.ok.inj given
  exact stated_spacing ..

theorem stated_of_statementRest {scope : Scope} {t : Token} {out : ReadAny (List Command) ts}
    (given : statementRest stop scope t ts = .ok out) : Stated out.value := by
  unfold statementRest at given
  split at given
  · obtain ⟨_, _, given⟩ := exists_of_bind_eq_ok given
    obtain ⟨_, _, given⟩ := exists_of_bind_eq_ok given
    exact stated_of_ended given (.single trivial)
  · obtain ⟨_, _, given⟩ := exists_of_bind_eq_ok given
    obtain ⟨_, _, given⟩ := exists_of_bind_eq_ok given
    exact stated_of_ended given (.single trivial)
  · exact stated_of_spacingStatement given
  · exact stated_of_spacingStatement given
  · obtain ⟨_, _, given⟩ := exists_of_bind_eq_ok given
    exact stated_of_ended given (.single trivial)
  · obtain ⟨_, _, given⟩ := exists_of_bind_eq_ok given
    obtain ⟨_, _, given⟩ := exists_of_bind_eq_ok given
    obtain ⟨_, _, given⟩ := exists_of_bind_eq_ok given
    exact stated_of_ended given (.single trivial)
  · obtain ⟨_, _, given⟩ := exists_of_bind_eq_ok given
    exact stated_of_ended given (stated_bracketed ..)
  · obtain ⟨_, _, given⟩ := exists_of_bind_eq_ok given
    obtain ⟨_, _, given⟩ := exists_of_bind_eq_ok given
    exact stated_of_ended given (stated_bracketed ..)
  · obtain ⟨_, _, given⟩ := exists_of_bind_eq_ok given
    obtain ⟨_, _, given⟩ := exists_of_bind_eq_ok given
    exact stated_of_ended given (stated_bracketed ..)
  · split_ifs at given
    obtain ⟨_, _, given⟩ := exists_of_bind_eq_ok given
    exact stated_of_ended given (.single trivial)
  · cases given
  · cases given

theorem stated_of_statement {scope : Scope} {out : Read (List Command) ts}
    (given : statement stop scope ts = .ok out) : Stated out.value := by
  unfold statement at given
  split at given
  · cases given
  · split_ifs at given
    obtain ⟨_, read, given⟩ := exists_of_bind_eq_ok given
    obtain rfl := Except.ok.inj given
    exact stated_of_statementRest read

theorem stated_of_block {rule : String} {out : ReadAny (List Command) ts}
    (given : block stop rule ts = .ok out) : Stated out.value := by
  induction size : ts.length using Nat.strongRecOn generalizing ts with
  | ind n ih =>
    subst size
    rw [block.eq_def] at given
    split at given
    · obtain rfl := Except.ok.inj given
      exact .nil
    · split_ifs at given
      · obtain rfl := Except.ok.inj given
        exact .nil
      · obtain ⟨first, read, given⟩ := exists_of_bind_eq_ok given
        obtain ⟨others, rest, given⟩ := exists_of_bind_eq_ok given
        obtain rfl := Except.ok.inj given
        exact (stated_of_statement read).append (ih _ first.shorter rest rfl)

theorem stated_of_ruleBlock {out : ReadAny (List Command) ts}
    (given : ruleBlock stop ts = .ok out) : Stated out.value := by
  obtain ⟨_, _, given⟩ := exists_of_bind_eq_ok given
  obtain ⟨_, _, given⟩ := exists_of_bind_eq_ok given
  obtain ⟨_, read, given⟩ := exists_of_bind_eq_ok given
  obtain ⟨_, _, given⟩ := exists_of_bind_eq_ok given
  obtain rfl := Except.ok.inj given
  have stated := stated_of_block read
  exact stated

theorem stated_of_statements {cs : List Command} (given : statements stop ts = .ok cs) :
    Stated cs := by
  induction size : ts.length using Nat.strongRecOn generalizing ts cs with
  | ind n ih =>
    subst size
    rw [statements.eq_def] at given
    split at given
    · obtain rfl := Except.ok.inj given
      exact .nil
    · split_ifs at given
      · obtain ⟨first, read, given⟩ := exists_of_bind_eq_ok given
        obtain ⟨others, rest, given⟩ := exists_of_bind_eq_ok given
        obtain rfl := Except.ok.inj given
        have shorter := Nat.lt_succ_of_le first.noLonger
        exact (stated_of_ruleBlock read).append (ih _ shorter rest rfl)
      · obtain ⟨first, read, given⟩ := exists_of_bind_eq_ok given
        obtain ⟨others, rest, given⟩ := exists_of_bind_eq_ok given
        obtain rfl := Except.ok.inj given
        exact (stated_of_statement read).append (ih _ first.shorter rest rfl)

end Readers

/-- The commands of a sheet are those of its statements, one behind the other. -/
theorem stated_of_commands {sheet : String} {cs : List Command} (read : commands sheet = .ok cs) :
    Stated cs := by
  obtain ⟨_, _, read⟩ := exists_of_bind_eq_ok read
  exact stated_of_statements read

end Sheet

/-! ## Entries -/

namespace Entry

theorem brackets_add_spacing (e : Entry) (d : Doc) :
    (e.add (.spacing d)).brackets = e.brackets := by
  simp [brackets, add]

theorem brackets_add_opening (e : Entry) (b : Bracket) :
    (e.add (.opening b)).brackets = e.brackets ++ [.opening b] := by
  simp [brackets, add]

theorem brackets_add_closing (e : Entry) (name : BracketName) :
    (e.add (.closing name)).brackets = .closing name :: e.brackets := by
  simp [brackets, add]

/-- The general openings come first and the general closings last. -/
theorem brackets_within_eq (own general : Entry) :
    (own.within general).brackets = general.brackets.filter Directive.isOpening ++ own.brackets
      ++ general.brackets.filter Directive.isClosing := by
  unfold brackets within
  simp only [List.filter_append, List.filter_filter]
  congr 1
  · congr 1
    refine List.filter_congr fun d _ => ?_
    cases d <;> simp
  · refine List.filter_congr fun d _ => ?_
    cases d <;> rfl

end Entry

/-- The brackets of an entry that are due to brackets around whole rules: they are
opened in front of the rule, and closed behind it in reverse order. -/
def wholeAt (brackets : List Bracket) (anchor : Anchor) : List Directive :=
  if anchor = ⟨.before, .ruleStart⟩ then brackets.map .opening
  else if anchor = ⟨.after, .ruleEnd⟩ then (brackets.map fun b => .closing b.name).reverse
  else []

theorem wholeAt_nil (anchor : Anchor) : wholeAt [] anchor = [] := by
  unfold wholeAt
  split_ifs <;> rfl

/-- Inner brackets are opened behind outer ones and closed in front of them. -/
theorem wholeAt_append (outer inner : List Bracket) (anchor : Anchor) :
    wholeAt (outer ++ inner) anchor = (wholeAt outer anchor).filter Directive.isOpening
      ++ wholeAt inner anchor ++ (wholeAt outer anchor).filter Directive.isClosing := by
  have opened : (outer.map Directive.opening).filter Directive.isOpening = outer.map .opening := by
    rw [List.filter_eq_self]
    exact List.forall_mem_map.2 fun _ _ => rfl
  have closed : ((outer.map fun b => Directive.closing b.name).reverse).filter Directive.isClosing
      = (outer.map fun b => .closing b.name).reverse := by
    rw [List.filter_eq_self]
    intro d member
    obtain ⟨b, -, rfl⟩ := List.mem_map.1 (List.mem_reverse.1 member)
    rfl
  have unclosed : (outer.map Directive.opening).filter Directive.isClosing = [] := by
    rw [List.filter_eq_nil_iff]
    exact List.forall_mem_map.2 fun _ _ => Bool.false_ne_true
  have unopened : ((outer.map fun b => Directive.closing b.name).reverse).filter Directive.isOpening
      = [] := by
    rw [List.filter_eq_nil_iff]
    intro d member
    obtain ⟨b, -, rfl⟩ := List.mem_map.1 (List.mem_reverse.1 member)
    exact Bool.false_ne_true
  unfold wholeAt
  split_ifs
  · rw [opened, unclosed, List.map_append, List.append_nil]
  · rw [closed, unopened, List.map_append, List.reverse_append, List.nil_append]
  · rfl

namespace Style

/-- The entry at an anchor in one scope, empty if there is none. -/
def entryIn (s : Style) (scope : Scope) (anchor : Anchor) : Entry := (s.entry? scope anchor).getD {}

/-- All brackets of a style are around whole rules, and these are they. -/
def Framed (s : Style) (brackets : Scope → List Bracket) : Prop :=
  ∀ scope anchor, (s.entryIn scope anchor).brackets = wholeAt (brackets scope) anchor

theorem entryIn_direct (s : Style) (scope other : Scope) (anchor place : Anchor) (d : Directive) :
    entryIn (s.run (.direct scope anchor d)) other place
      = if other = scope ∧ place = anchor then (s.entryIn other place).add d
        else s.entryIn other place := by
  unfold entryIn
  rw [entry?_direct]
  split_ifs with here
  · obtain ⟨rfl, rfl⟩ := here
    rfl
  · rfl

variable {s : Style} {brackets : Scope → List Bracket}

/-- Commands that open no bracket and close none leave the brackets as they are. -/
theorem Framed.run_plain (framed : s.Framed brackets) {c : Command} (plain : c.IsPlain) :
    Framed (s.run c) brackets := by
  intro other place
  rw [← framed other place]
  cases c with
  | setAllowed scope d => rw [entryIn, entry?_setAllowed, entryIn]
  | setRequired scope d => rw [entryIn, entry?_setRequired, entryIn]
  | retain r => rw [entryIn, entry?_retain, entryIn]
  | treat scope anchor t =>
    rw [entryIn, entry?_treat]
    split_ifs with here
    · obtain ⟨rfl, rfl⟩ := here
      rfl
    · rfl
  | direct scope anchor d =>
    rw [entryIn_direct]
    cases d with
    | opening | closing => cases plain
    | spacing d =>
      split_ifs
      · exact Entry.brackets_add_spacing ..
      · rfl

/-- A statement that brackets whole rules adds its bracket inside those of its scope. -/
theorem Framed.run_bracketed (framed : s.Framed brackets) (scope : Scope) (b : Bracket) :
    Framed (runAll s (Sheet.bracketed scope (⟨.before, .ruleStart⟩, ⟨.after, .ruleEnd⟩) b))
      fun other => brackets other ++ if scope = other then [b] else [] := by
  intro other place
  have before := framed other place
  unfold Sheet.bracketed runAll
  rw [List.foldl_cons, List.foldl_cons, List.foldl_nil, entryIn_direct, entryIn_direct]
  by_cases own : scope = other
  · subst own
    unfold wholeAt at before ⊢
    by_cases start : place = ⟨.before, .ruleStart⟩
    · subst start
      simp only [reduceCtorEq, Anchor.mk.injEq, and_false, and_self, if_true, if_false] at *
      rw [Entry.brackets_add_opening, before, List.map_append]
      rfl
    · by_cases stop : place = ⟨.after, .ruleEnd⟩
      · subst stop
        simp only [reduceCtorEq, Anchor.mk.injEq, and_false, and_self, if_true, if_false] at *
        rw [Entry.brackets_add_closing, before, List.map_append, List.reverse_append]
        rfl
      · simp only [start, stop, and_false, if_false] at before ⊢
        exact before
  · have elsewhere : other ≠ scope := Ne.symm own
    simp only [own, elsewhere, false_and, if_false, List.append_nil]
    exact before

/-- The brackets of a style are those that its commands open. -/
theorem Framed.runAll (framed : s.Framed brackets) {cs : List Command} (stated : Sheet.Stated cs)
    (whole : ∀ c ∈ cs, c.IsWhole) :
    Framed (runAll s cs) fun scope => brackets scope ++ openedIn scope cs := by
  induction stated generalizing s brackets with
  | nil =>
    intro other place
    dsimp only
    rw [openedIn, List.filterMap_nil, List.append_nil]
    exact framed other place
  | @plain c cs plain _ ih =>
    have none : ∀ scope, c.opens? scope = none := by
      intro scope
      cases c with
      | direct other anchor d =>
        cases d with
        | spacing | closing => rfl
        | opening => cases plain
      | setAllowed | setRequired | treat | retain => rfl
    intro other place
    dsimp only
    rw [openedIn, List.filterMap_cons_none (none other)]
    exact ih (framed.run_plain plain) (List.forall_mem_cons.1 whole).2 other place
  | @bracketed scope ends b cs _ ih =>
    obtain ⟨start, stop⟩ := ends
    obtain ⟨opening, behind⟩ := List.forall_mem_cons.1 whole
    obtain ⟨closing, others⟩ := List.forall_mem_cons.1 behind
    obtain rfl : start = ⟨.before, .ruleStart⟩ := opening
    obtain rfl : stop = ⟨.after, .ruleEnd⟩ := closing
    intro other place
    have rest := ih (framed.run_bracketed scope b) others other place
    rw [Style.runAll, List.foldl_append]
    refine rest.trans (congrArg (wholeAt · place) ?_)
    dsimp only
    rw [openedIn, openedIn, List.filterMap_append, List.append_assoc]
    by_cases own : scope = other
    · simp [Sheet.bracketed, Command.opens?, own]
    · simp [Sheet.bracketed, Command.opens?, own]

/-- In a rule the general brackets are outside the rule's. -/
theorem Framed.brackets_both (framed : s.Framed brackets) (rule : String) (anchor : Anchor) :
    (s.entryAt rule anchor).brackets = wholeAt (brackets none ++ brackets (some rule)) anchor := by
  have general := framed none anchor
  have own := framed (some rule) anchor
  have both := wholeAt_append (brackets none) (brackets (some rule)) anchor
  have alone := wholeAt_append (brackets none) [] anchor
  rw [List.append_nil, wholeAt_nil] at alone
  rw [← general, ← own] at both
  rw [← general] at alone
  rw [both]
  unfold entryIn at alone ⊢
  unfold entryAt
  generalize s.entry? none anchor = general at alone ⊢
  cases general with
  | none => cases s.entry? (some rule) anchor <;> simp [Entry.brackets]
  | some e =>
    cases s.entry? (some rule) anchor with
    | none => exact alone
    | some e' => exact Entry.brackets_within_eq e' e

/-- Around the nodes of a rule a sheet that brackets whole rules only has its general
brackets, then those for the rule, each in the order of the statements. -/
theorem brackets_entryAt_whole {cs : List Command} (stated : Sheet.Stated cs)
    (whole : ∀ c ∈ cs, c.IsWhole) (rule : String) (anchor : Anchor) :
    (entryAt (runAll {} cs) rule anchor).brackets = wholeAt (bracketsAround cs rule) anchor := by
  have none : Framed {} fun _ => [] := by
    intro scope anchor
    rw [wholeAt_nil]
    cases scope <;> rfl
  exact (none.runAll stated whole).brackets_both rule anchor

end Style

end Reprint
