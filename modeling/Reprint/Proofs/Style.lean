import Mathlib.Data.List.Basic
import Reprint.Proofs.Doc.Script
import Reprint.Unparse.Regenerate

/-!
# Blank styles

A blank style leaves every item in place and asks for nothing but white space:
in slots, by its directives and as separators of joins.
-/

namespace Reprint

/-- Whether a directive asks for nothing but white space. -/
def Directive.isBlank : Directive → Bool
  | .spacing d => d.isBlank
  | .opening (.join separator) => separator.isBlank
  | .opening .group | .opening (.indent _) | .closing _ => true

/-- Whether an entry leaves its items in place and has blank directives only. -/
def Entry.isBlank (e : Entry) : Bool := e.treatment.isNone && e.directives.all (·.isBlank)

/-- Whether all entries of a rule are blank. -/
def RuleStyle.isBlank (r : RuleStyle) : Bool :=
  r.allowed.all (·.isBlank) && r.required.all (·.isBlank) && r.anchors.all (·.2.isBlank)

namespace Style

/-- Whether all entries of a style are blank. -/
def isBlank (s : Style) : Bool :=
  s.allowed.isBlank && s.required.isBlank && s.anchors.all (·.2.isBlank) && s.rules.all (·.2.isBlank)

end Style

/-! ## Looking up -/

theorem Table.mem_of_get? {α β : Type} [BEq α] {t : Table α β} {key : α} {v : β}
    (found : t.get? key = some v) : ∃ k, (k, v) ∈ t := by
  induction t with
  | nil => cases found
  | cons entry rest ih =>
    obtain ⟨k, u⟩ := entry
    unfold Table.get? at found ih
    rw [List.lookup_cons] at found
    split at found
    · obtain rfl := Option.some.inj found
      exact ⟨k, List.mem_cons_self⟩
    · obtain ⟨k', member⟩ := ih found
      exact ⟨k', List.mem_cons_of_mem _ member⟩

theorem Table.forall_of_get? {α β : Type} [BEq α] {t : Table α β} {P : β → Bool}
    (all : t.all (P ·.2)) {key : α} {v : β} (found : t.get? key = some v) : P v := by
  obtain ⟨k, member⟩ := Table.mem_of_get? found
  exact List.all_eq_true.1 all _ member

theorem Entry.isBlank_iff {e : Entry} :
    e.isBlank ↔ e.treatment = none ∧ ∀ d ∈ e.directives, d.isBlank := by
  rw [Entry.isBlank, Bool.and_eq_true, Option.isNone_iff_eq_none, List.all_eq_true]

/-- Each directive of joined entries is one of the two. -/
theorem Entry.mem_directives_within {own general : Entry} {d : Directive}
    (member : d ∈ (own.within general).directives) : d ∈ own.directives ∨ d ∈ general.directives := by
  rcases List.mem_append.1 member with member | member
  · rcases List.mem_append.1 member with member | member
    · exact .inr (List.mem_of_mem_filter member)
    · exact .inl member
  · exact .inr (List.mem_of_mem_filter member)

theorem Entry.isBlank_within {own general : Entry} (ownBlank : own.isBlank)
    (generalBlank : general.isBlank) : (own.within general).isBlank := by
  obtain ⟨ownPlace, ownAll⟩ := Entry.isBlank_iff.1 ownBlank
  obtain ⟨generalPlace, generalAll⟩ := Entry.isBlank_iff.1 generalBlank
  refine Entry.isBlank_iff.2 ⟨?_, ?_⟩
  · simp [Entry.within, ownPlace, generalPlace]
  · exact fun d member => (mem_directives_within member).elim (ownAll d) (generalAll d)

namespace Style

variable {s : Style}

theorem isBlank_iff :
    s.isBlank ↔ ((s.allowed.isBlank ∧ s.required.isBlank) ∧ s.anchors.all (·.2.isBlank)) ∧
      s.rules.all (·.2.isBlank) := by
  rw [Style.isBlank, Bool.and_eq_true, Bool.and_eq_true, Bool.and_eq_true]

theorem isBlank_of_entry (blank : s.isBlank) {scope : Scope} {anchor : Anchor} {e : Entry}
    (found : s.entry? scope anchor = some e) : e.isBlank := by
  obtain ⟨⟨_, anchors⟩, rules⟩ := isBlank_iff.1 blank
  cases scope with
  | none => exact Table.forall_of_get? anchors found
  | some rule =>
    obtain ⟨r, known, found⟩ := Option.bind_eq_some_iff.1 found
    have own : r.isBlank := Table.forall_of_get? rules known
    exact Table.forall_of_get? (Bool.and_eq_true_iff.1 own).2 found

/-- A directive at an anchor in a rule is in the entry of the rule or in the general one. -/
theorem exists_of_mem_entryAt {rule : String} {anchor : Anchor} {d : Directive}
    (member : d ∈ (s.entryAt rule anchor).directives) :
    ∃ scope, ∃ e ∈ s.entry? scope anchor, d ∈ e.directives := by
  unfold Style.entryAt at member
  split at member
  · cases member
  · next general found _ => exact ⟨none, general, found, member⟩
  · next own _ found => exact ⟨some rule, own, found, member⟩
  · next general own found known =>
    rcases Entry.mem_directives_within member with member | member
    · exact ⟨some rule, own, known, member⟩
    · exact ⟨none, general, found, member⟩

/-- All that a blank style has for an anchor is blank. -/
theorem isBlank_entryAt (blank : s.isBlank) (rule : String) (anchor : Anchor) :
    (s.entryAt rule anchor).isBlank := by
  unfold Style.entryAt
  split
  · rfl
  · next found _ => exact isBlank_of_entry blank found
  · next _ found => exact isBlank_of_entry blank found
  · next found own => exact Entry.isBlank_within (isBlank_of_entry blank own) (isBlank_of_entry blank found)

/-- What is usual in the slots of a blank style is blank. -/
theorem isBlank_spacing (blank : s.isBlank) (rule : String) (sep : Separator) :
    (s.spacing rule sep).isBlank := by
  obtain ⟨⟨⟨allowed, required⟩, _⟩, rules⟩ := isBlank_iff.1 blank
  have own : ∀ r, s.rules.get? rule = some r → r.isBlank := fun r found => Table.forall_of_get? rules found
  have general : ∀ (part : RuleStyle → Option Doc) (d : Doc), (∀ r, r.isBlank → (part r).all (·.isBlank)) →
      d.isBlank → (((s.rules.get? rule).bind part).getD d).isBlank := by
    intro part d inner outer
    cases found : s.rules.get? rule with
    | none => exact outer
    | some r =>
      have all := inner r (own r found)
      rw [Option.bind_some]
      cases held : part r with
      | none => exact outer
      | some e =>
        rw [held] at all
        exact all
  cases sep with
  | none => rfl
  | allowed => exact general (·.allowed) s.allowed (fun r h => by simp_all [RuleStyle.isBlank]) allowed
  | required => exact general (·.required) s.required (fun r h => by simp_all [RuleStyle.isBlank]) required

/-- A blank style leaves every item in place. -/
theorem treatment_of_isBlank (blank : s.isBlank) (rule : String) (label literal : Option String) :
    s.treatment rule label literal = .normal := by
  have place : ∀ anchor, (s.entryAt rule anchor).treatment = none :=
    fun anchor => (Entry.isBlank_iff.1 (isBlank_entryAt blank rule anchor)).1
  unfold Style.treatment
  cases label <;> cases literal <;> simp [place]

/-- The default style has nothing for any anchor. -/
theorem default_entryAt (rule : String) (anchor : Anchor) : ({} : Style).entryAt rule anchor = {} := rfl

end Style

end Reprint
