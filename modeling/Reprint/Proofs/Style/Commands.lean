import Reprint.Proofs.Style.Whole

/-!
# What commands leave in a style

A style is what a list of commands made of it, and what it holds can be read off the
list: at each anchor of a scope the closings backwards and then all other directives,
the first treatment that was set, and for slots and trivia what was set last
(`Style.recorded_runAll`).  A command for one rule is not seen from any other.
-/

namespace Reprint

/-! ## What a command is about -/

namespace Command

/-- The directive that a command adds at an anchor in one scope. -/
def directiveAt? (scope : Scope) (anchor : Anchor) : Command → Option Directive
  | .direct own place d => if own = scope ∧ place = anchor then some d else none
  | _ => none

/-- The place that a command sets a treatment at. -/
def treated? : Command → Option (Scope × Anchor)
  | .treat own place _ => some (own, place)
  | _ => none

/-- The treatment that a command sets at an anchor in one scope. -/
def treatmentAt? (scope : Scope) (anchor : Anchor) : Command → Option Treatment
  | .treat own place t => if own = scope ∧ place = anchor then some t else none
  | _ => none

/-- What a command makes usual in the slots of one scope. -/
def usualIn? (scope : Scope) : Separator → Command → Option Doc
  | .allowed, .setAllowed own d => if own = scope then some d else none
  | .required, .setRequired own d => if own = scope then some d else none
  | _, _ => none

def retention? : Command → Option Retention
  | .retain r => some r
  | _ => none

/-- Whether a command is for one rule. -/
def isFor (rule : String) : Command → Bool
  | .setAllowed scope _ | .setRequired scope _ | .direct scope _ _ | .treat scope _ _ => scope = some rule
  | .retain _ => false

theorem isSome_treatmentAt? (scope : Scope) (anchor : Anchor) (c : Command) :
    (c.treatmentAt? scope anchor).isSome ↔ c.treated? = some (scope, anchor) := by
  cases c with
  | treat own place t => simp [treatmentAt?, treated?]
  | _ => simp [treatmentAt?, treated?]

end Command

/-! ## Elements that come up again -/

section Repeats

variable {α : Type} [DecidableEq α]

/-- The elements of a list that have come up before, each time that they do. -/
def repeats (xs : List α) : List α := (xs.zipIdx.filter fun p => p.1 ∈ xs.take p.2).map Prod.fst

theorem repeats_concat (xs : List α) (x : α) :
    repeats (xs ++ [x]) = repeats xs ++ if x ∈ xs then [x] else [] := by
  have before : xs.zipIdx.filter (fun p => p.1 ∈ (xs ++ [x]).take p.2)
      = xs.zipIdx.filter fun p => p.1 ∈ xs.take p.2 := by
    refine List.filter_congr fun p member => ?_
    have bound : p.2 < xs.length + 0 := List.snd_lt_of_mem_zipIdx member
    rw [List.take_append_of_le_length (Nat.le_of_lt bound)]
  unfold repeats
  rw [List.zipIdx_append, List.filter_append, before, List.map_append]
  split_ifs with again
  · simp [again]
  · simp [again]

end Repeats

namespace Style

/-! ## One command -/

section Step

variable (s : Style) (c : Command)

/-- What is usual in the slots of one scope alone. -/
def usualIn : Scope → Separator → Option Doc
  | _, .none => none
  | none, .allowed => some s.allowed
  | none, .required => some s.required
  | some rule, .allowed => (s.rules.get? rule).bind (·.allowed)
  | some rule, .required => (s.rules.get? rule).bind (·.required)

theorem spacing_eq (rule : String) (sep : Separator) :
    s.spacing rule sep = ((s.usualIn (some rule) sep).or (s.usualIn none sep)).getD .empty := by
  cases sep with
  | none => rfl
  | allowed => cases own : (s.rules.get? rule).bind (·.allowed) <;> simp [spacing, usualIn, own]
  | required => cases own : (s.rules.get? rule).bind (·.required) <;> simp [spacing, usualIn, own]

/-- What is usual in the slots of a scope when one rule is changed. -/
theorem usualIn_modifyRule (rule : String) (f : RuleStyle → RuleStyle) (scope : Scope) (sep : Separator) :
    usualIn (s.modifyRule rule f) scope sep
      = if scope = some rule then
          match sep with
          | .none => none
          | .allowed => (f ((s.rules.get? rule).getD {})).allowed
          | .required => (f ((s.rules.get? rule).getD {})).required
        else s.usualIn scope sep := by
  cases scope with
  | none => cases sep <;> rfl
  | some other =>
    by_cases own : other = rule
    · cases sep <;> simp [usualIn, modifyRule, Table.get?_modify, own]
    · cases sep <;> simp [usualIn, modifyRule, Table.get?_modify, own]

/-- Entries have nothing to do with what is usual in slots. -/
theorem usualIn_modifyEntry (scope other : Scope) (anchor : Anchor) (f : Entry → Entry) (sep : Separator) :
    usualIn (s.modifyEntry other anchor f) scope sep = s.usualIn scope sep := by
  cases other with
  | none => cases scope <;> cases sep <;> rfl
  | some rule =>
    rw [modifyEntry, usualIn_modifyRule]
    split_ifs with own
    · subst own
      cases known : s.rules.get? rule <;> cases sep <;> simp [usualIn, known]
    · rfl

/-- The last setting stands. -/
theorem usualIn_run (scope : Scope) (sep : Separator) :
    usualIn (s.run c) scope sep = (c.usualIn? scope sep).or (s.usualIn scope sep) := by
  cases c with
  | setAllowed own d | setRequired own d =>
    cases own with
    | none => cases scope <;> cases sep <;> rfl
    | some rule =>
      simp only [run, setAllowed, setRequired, usualIn_modifyRule]
      by_cases same : scope = some rule
      · subst same
        cases known : s.rules.get? rule <;> cases sep <;> simp [Command.usualIn?, usualIn, known]
      · cases sep <;> simp [Command.usualIn?, same, Ne.symm same]
  | direct own anchor d =>
    have none : (Command.direct own anchor d).usualIn? scope sep = none := by cases sep <;> rfl
    rw [none, Option.none_or]
    exact s.usualIn_modifyEntry scope own anchor _ sep
  | treat own anchor t =>
    have none : (Command.treat own anchor t).usualIn? scope sep = none := by cases sep <;> rfl
    rw [none, Option.none_or, ← s.usualIn_modifyEntry scope own anchor (·.treat t) sep, run, treat]
    split_ifs
    · cases scope <;> cases sep <;> rfl
    · rfl
  | retain r => cases scope <;> cases sep <;> rfl

/-- An entry is changed by the directives and treatments for its place, and by nothing else. -/
theorem entryIn_run (scope : Scope) (anchor : Anchor) :
    entryIn (s.run c) scope anchor
      = match c.directiveAt? scope anchor, c.treatmentAt? scope anchor with
        | some d, _ => (s.entryIn scope anchor).add d
        | none, some t => (s.entryIn scope anchor).treat t
        | none, none => s.entryIn scope anchor := by
  cases c with
  | setAllowed =>
    rw [entryIn, entry?_setAllowed]
    rfl
  | setRequired =>
    rw [entryIn, entry?_setRequired]
    rfl
  | retain =>
    rw [entryIn, entry?_retain]
    rfl
  | direct own place d =>
    rw [entryIn_direct]
    by_cases here : own = scope ∧ place = anchor
    · simp [Command.directiveAt?, here]
    · have elsewhere : ¬(scope = own ∧ anchor = place) := fun h => here ⟨h.1.symm, h.2.symm⟩
      simp [Command.directiveAt?, Command.treatmentAt?, here, elsewhere]
  | treat own place t =>
    rw [entryIn, entry?_treat]
    by_cases here : own = scope ∧ place = anchor
    · obtain ⟨rfl, rfl⟩ := here
      simp [Command.directiveAt?, Command.treatmentAt?, entryIn]
    · have elsewhere : ¬(scope = own ∧ anchor = place) := fun h => here ⟨h.1.symm, h.2.symm⟩
      simp [Command.directiveAt?, Command.treatmentAt?, here, elsewhere, entryIn]

theorem conflicts_run :
    (s.run c).conflicts
      = s.conflicts ++ (c.treated?.filter fun place => (s.entryIn place.1 place.2).treatment.isSome).toList := by
  have modified : ∀ scope anchor f, (s.modifyEntry scope anchor f).conflicts = s.conflicts := by
    intro scope anchor f
    cases scope <;> rfl
  cases c with
  | setAllowed own d => cases own <;> simp [run, setAllowed, modifyRule, Command.treated?]
  | setRequired own d => cases own <;> simp [run, setRequired, modifyRule, Command.treated?]
  | retain r => simp [run, retain, Command.treated?]
  | direct own place d => simp [run, direct, modified, Command.treated?]
  | treat own place t =>
    have taken : ((s.entry? own place).bind (·.treatment)) = (s.entryIn own place).treatment := by
      unfold entryIn
      cases s.entry? own place <;> rfl
    rw [run, treat, taken, Command.treated?, Option.filter_some]
    split_ifs
    · simp [modified]
    · simp [modified]

theorem retention_run : (s.run c).retention = c.retention?.getD s.retention := by
  have modified : ∀ scope anchor f, (s.modifyEntry scope anchor f).retention = s.retention := by
    intro scope anchor f
    cases scope <;> rfl
  cases c with
  | setAllowed own d => cases own <;> rfl
  | setRequired own d => cases own <;> rfl
  | retain r => rfl
  | direct own place d => exact modified own place (·.add d)
  | treat own place t =>
    rw [run, treat]
    split_ifs
    · exact modified own place (·.treat t)
    · exact modified own place (·.treat t)

/-- A command for a rule leaves the entries of all other scopes as they are. -/
theorem entry?_run_of_isFor {rule : String} (own : c.isFor rule) {scope : Scope} (other : scope ≠ some rule)
    (anchor : Anchor) : entry? (s.run c) scope anchor = s.entry? scope anchor := by
  cases c with
  | setAllowed => exact entry?_setAllowed ..
  | setRequired => exact entry?_setRequired ..
  | retain => cases own
  | direct place at_place d =>
    obtain rfl : place = some rule := of_decide_eq_true own
    rw [entry?_direct, if_neg fun here => other here.1]
  | treat place at_place t =>
    obtain rfl : place = some rule := of_decide_eq_true own
    rw [entry?_treat, if_neg fun here => other here.1]

theorem usualIn_run_of_isFor {rule : String} (own : c.isFor rule) {scope : Scope} (other : scope ≠ some rule)
    (sep : Separator) : usualIn (s.run c) scope sep = s.usualIn scope sep := by
  have unset : c.usualIn? scope sep = none := by
    cases c with
    | setAllowed place d | setRequired place d =>
      obtain rfl : place = some rule := of_decide_eq_true own
      cases sep <;> simp [Command.usualIn?, Ne.symm other]
    | _ => cases sep <;> rfl
  rw [usualIn_run, unset, Option.none_or]

end Step

/-! ## All commands -/

/-- What a style holds is what a list of commands asks for. -/
structure Recorded (s : Style) (commands : List Command) : Prop where
  /-- Closings are put in front, all other directives behind. -/
  directives : ∀ scope anchor,
    let given := commands.filterMap (·.directiveAt? scope anchor)
    (s.entryIn scope anchor).directives
      = (given.filter Directive.isClosing).reverse ++ given.filter (!·.isClosing)
  /-- The first treatment stands, and each later one is noted. -/
  treatment : ∀ scope anchor,
    (s.entryIn scope anchor).treatment = (commands.filterMap (·.treatmentAt? scope anchor)).head?
  conflicts : s.conflicts = repeats (commands.filterMap (·.treated?))
  /-- The last setting stands. -/
  usual : ∀ scope sep,
    s.usualIn scope sep = (commands.filterMap (·.usualIn? scope sep)).getLast?.or (usualIn {} scope sep)
  retention : s.retention = (commands.filterMap (·.retention?)).getLast?.getD .all

/-- A treatment is there exactly if a command has set one. -/
theorem Recorded.isSome_treatment {s : Style} {commands : List Command} (recorded : s.Recorded commands)
    (scope : Scope) (anchor : Anchor) :
    (s.entryIn scope anchor).treatment.isSome ↔ (scope, anchor) ∈ commands.filterMap (·.treated?) := by
  rw [recorded.treatment, List.isSome_head?, List.mem_filterMap]
  simp only [← Command.isSome_treatmentAt?]
  simp [List.filterMap_eq_nil_iff, Option.isSome_iff_ne_none]

theorem Recorded.run {s : Style} {commands : List Command} (recorded : s.Recorded commands) (c : Command) :
    (s.run c).Recorded (commands ++ [c]) where
  directives scope anchor := by
    rw [entryIn_run, List.filterMap_append]
    cases added : c.directiveAt? scope anchor with
    | none => cases c.treatmentAt? scope anchor <;> simp [added, Entry.treat, recorded.directives]
    | some d => cases closing : d.isClosing <;> simp [added, Entry.add, closing, recorded.directives]
  treatment scope anchor := by
    rw [entryIn_run, List.filterMap_append, List.head?_append, ← recorded.treatment]
    cases set : c.treatmentAt? scope anchor with
    | none => cases c.directiveAt? scope anchor <;> simp [set, Entry.add]
    | some t =>
      have none : c.directiveAt? scope anchor = none := by
        cases c with
        | treat => rfl
        | _ => cases set
      simp [set, none, Entry.treat]
  conflicts := by
    rw [conflicts_run, recorded.conflicts, List.filterMap_append]
    cases treats : c.treated? with
    | none => simp [treats]
    | some place =>
      have again := recorded.isSome_treatment place.1 place.2
      simp only [Prod.eta] at again
      simp only [treats, Option.filter_some, List.filterMap_cons, List.filterMap_nil, repeats_concat, again]
      split_ifs <;> rfl
  usual scope sep := by
    rw [usualIn_run, recorded.usual, List.filterMap_append, List.getLast?_append]
    cases set : c.usualIn? scope sep <;> simp [set]
  retention := by
    rw [retention_run, recorded.retention, List.filterMap_append, List.getLast?_append]
    cases set : c.retention? <;> simp [set]

theorem Recorded.runAll {s : Style} {commands : List Command} (recorded : s.Recorded commands)
    (added : List Command) : (s.runAll added).Recorded (commands ++ added) := by
  induction added generalizing s commands with
  | nil => rwa [List.append_nil]
  | cons c added ih =>
    have further := ih (recorded.run c)
    rwa [List.append_assoc] at further

theorem recorded_empty : Recorded {} [] where
  directives scope anchor := by cases scope <;> rfl
  treatment scope anchor := by cases scope <;> rfl
  conflicts := rfl
  usual scope sep := rfl
  retention := rfl

/-- What commands for one rule leave as it is, however many they are. -/
theorem runAll_of_isFor {rule : String} {added : List Command} (own : ∀ c ∈ added, c.isFor rule) (s : Style)
    (scope : Scope) (other : scope ≠ some rule) :
    (∀ anchor, entry? (s.runAll added) scope anchor = s.entry? scope anchor) ∧
      ∀ sep, usualIn (s.runAll added) scope sep = s.usualIn scope sep := by
  induction added generalizing s with
  | nil => exact ⟨fun _ => rfl, fun _ => rfl⟩
  | cons c added ih =>
    obtain ⟨first, others⟩ := List.forall_mem_cons.1 own
    obtain ⟨entries, usual⟩ := ih others (s.run c)
    refine ⟨fun anchor => ?_, fun sep => ?_⟩
    · exact (entries anchor).trans (s.entry?_run_of_isFor c first other anchor)
    · exact (usual sep).trans (s.usualIn_run_of_isFor c first other sep)

/-- A style holds what the commands that made it ask for, and commands for a rule are
not seen from any other rule. -/
theorem recorded_runAll (commands : List Command) :
    (runAll {} commands).Recorded commands ∧
      ∀ (rule : String) (added : List Command), (∀ c ∈ added, c.isFor rule) → ∀ other, other ≠ rule →
        (∀ anchor, (runAll {} (commands ++ added)).entryAt other anchor
            = (runAll {} commands).entryAt other anchor) ∧
          (∀ sep, (runAll {} (commands ++ added)).spacing other sep
            = (runAll {} commands).spacing other sep) ∧
          ∀ label literal, (runAll {} (commands ++ added)).treatment other label literal
            = (runAll {} commands).treatment other label literal := by
  refine ⟨recorded_empty.runAll commands, ?_⟩
  intro rule added own other differs
  have joined : runAll {} (commands ++ added) = (runAll {} commands).runAll added := List.foldl_append
  rw [joined]
  generalize runAll {} commands = s
  obtain ⟨general, generalUsual⟩ := runAll_of_isFor own s none nofun
  obtain ⟨inner, innerUsual⟩ := runAll_of_isFor own s (some other) (differs ∘ Option.some.inj)
  have entries : ∀ anchor, entryAt (s.runAll added) other anchor = s.entryAt other anchor := by
    intro anchor
    rw [entryAt, general, inner, entryAt]
  refine ⟨entries, fun sep => ?_, fun label literal => ?_⟩
  · rw [spacing_eq, innerUsual, generalUsual, spacing_eq]
  · simp only [treatment, entries]

/-- Closings that come late stand first, the second treatment is noted and left aside, and
what another rule adds later is not seen. -/
theorem recorded_runAll_interleaved :
    let place : Anchor := ⟨.before, .label "x"⟩
    let s := runAll {} [.direct none place (.opening .group), .treat (some "r") place .omitted,
      .direct none place (.closing .group), .treat none place .omitted, .treat none place .normal,
      .direct none place (.closing .indent)]
    let t := runAll {} ([.direct none place (.opening .group), .treat (some "r") place .omitted,
      .direct none place (.closing .group), .treat none place .omitted, .treat none place .normal,
      .direct none place (.closing .indent)] ++ [.treat (some "q") place .normal])
    (∀ c ∈ [Command.treat (some "q") place .normal], c.isFor "q") ∧ "r" ≠ "q" ∧
      (s.entryIn none place).directives = [.closing .indent, .closing .group, .opening .group] ∧
      (s.entryIn none place).treatment = some .omitted ∧ s.conflicts = [(none, place)] ∧
      t.entryAt "r" place = s.entryAt "r" place := by
  intro place s t
  have own : ∀ c ∈ [Command.treat (some "q") place .normal], c.isFor "q" := by
    simp [Command.isFor]
  obtain ⟨recorded, apart⟩ := recorded_runAll [.direct none place (.opening .group),
    .treat (some "r") place .omitted, .direct none place (.closing .group), .treat none place .omitted,
    .treat none place .normal, .direct none place (.closing .indent)]
  refine ⟨own, by decide, ?_, ?_, ?_, (apart "q" _ own "r" (by decide)).1 place⟩
  · rw [recorded.directives]
    rfl
  · rw [recorded.treatment]
    rfl
  · rw [recorded.conflicts]
    rfl

end Style

end Reprint
