import Mathlib.Data.List.Basic
import Reprint.Style.Basic

/-!
# How a style came about

Commands reach the entries of a style one at a time, and change them in two ways
only: by adding a directive and by setting the treatment.  So what holds of an
empty entry and is kept by these two holds of every entry, whatever the commands
were (`Style.forall_entry?_runAll`).
-/

namespace Reprint

/-! ## Tables -/

namespace Table

variable {α β : Type} [BEq α] [LawfulBEq α] [DecidableEq α]

theorem get?_cons (t : Table α β) (k key : α) (v : β) :
    Table.get? ((k, v) :: t) key = if key = k then some v else t.get? key := by
  unfold get?
  rw [List.lookup_cons]
  by_cases same : key = k
  · simp [same]
  · rw [beq_false_of_ne same, if_neg same]

/-- Only the value of the changed key is another one. -/
theorem get?_modify (t : Table α β) (key other : α) (new : β) (f : β → β) :
    (t.modify key new f).get? other
      = if other = key then some (f ((t.get? key).getD new)) else t.get? other := by
  induction t with
  | nil =>
    rw [modify, get?_cons]
    rfl
  | cons pair rest ih =>
    obtain ⟨k, v⟩ := pair
    rw [modify]
    by_cases here : key = k
    · subst here
      rw [if_pos (beq_self_eq_true key), get?_cons, get?_cons, get?_cons, if_pos rfl, Option.getD_some]
      split_ifs <;> rfl
    · rw [beq_false_of_ne here, if_neg Bool.false_ne_true, get?_cons, ih, get?_cons, get?_cons,
        if_neg here]
      split_ifs with at_k same
      · exact absurd (same ▸ at_k) here
      · rfl
      · rfl
      · rfl

end Table

/-! ## Entries -/

namespace Style

/-- Changing the entries of a rule leaves all others as they are. -/
theorem entry?_modifyRule (s : Style) (rule : String) (f : RuleStyle → RuleStyle) (scope : Scope)
    (anchor : Anchor) :
    entry? (s.modifyRule rule f) scope anchor
      = if scope = some rule then (f ((s.rules.get? rule).getD {})).anchors.get? anchor
        else s.entry? scope anchor := by
  cases scope with
  | none => rfl
  | some other =>
    simp only [modifyRule, entry?, Table.get?_modify, Option.some.injEq]
    split_ifs <;> rfl

/-- Settings of a rule that are no entries leave the entries as they are. -/
theorem entry?_modifyRule_of_anchors {f : RuleStyle → RuleStyle} (same : ∀ r, (f r).anchors = r.anchors)
    (s : Style) (rule : String) (scope : Scope) (anchor : Anchor) :
    entry? (s.modifyRule rule f) scope anchor = s.entry? scope anchor := by
  rw [entry?_modifyRule, same]
  split_ifs with own
  · subst own
    cases known : s.rules.get? rule
    · simp [known, entry?]
      rfl
    · simp [known, entry?]
  · rfl

/-- Changing the entry at one anchor in one scope leaves all others as they are. -/
theorem entry?_modifyEntry (s : Style) (scope other : Scope) (anchor place : Anchor) (f : Entry → Entry) :
    entry? (s.modifyEntry scope anchor f) other place
      = if other = scope ∧ place = anchor then some (f ((s.entry? scope anchor).getD {}))
        else s.entry? other place := by
  cases scope with
  | none =>
    cases other with
    | none => simp [modifyEntry, entry?, Table.get?_modify]
    | some rule => simp [modifyEntry, entry?]
  | some rule =>
    rw [modifyEntry, entry?_modifyRule, Table.get?_modify]
    by_cases own : other = some rule
    · subst own
      cases known : s.rules.get? rule
      · simp [known, entry?]
        rfl
      · simp [known, entry?]
    · simp [own]

/-! ## Commands -/

theorem entry?_direct (s : Style) (scope other : Scope) (anchor place : Anchor) (d : Directive) :
    entry? (s.run (.direct scope anchor d)) other place
      = if other = scope ∧ place = anchor then some (((s.entry? scope anchor).getD {}).add d)
        else s.entry? other place :=
  s.entry?_modifyEntry scope other anchor place (·.add d)

theorem entry?_treat (s : Style) (scope other : Scope) (anchor place : Anchor) (t : Treatment) :
    entry? (s.run (.treat scope anchor t)) other place
      = if other = scope ∧ place = anchor then some (((s.entry? scope anchor).getD {}).treat t)
        else s.entry? other place := by
  rw [← s.entry?_modifyEntry scope other anchor place (·.treat t), run, treat]
  -- A conflict is noted beside the entries.
  split_ifs
  · cases other <;> rfl
  · rfl

theorem entry?_setAllowed (s : Style) (scope other : Scope) (d : Doc) (place : Anchor) :
    entry? (s.run (.setAllowed scope d)) other place = s.entry? other place := by
  cases scope with
  | none => cases other <;> rfl
  | some rule =>
    exact entry?_modifyRule_of_anchors (f := fun r => { r with allowed := some d }) (fun _ => rfl) s
      rule other place

theorem entry?_setRequired (s : Style) (scope other : Scope) (d : Doc) (place : Anchor) :
    entry? (s.run (.setRequired scope d)) other place = s.entry? other place := by
  cases scope with
  | none => cases other <;> rfl
  | some rule =>
    exact entry?_modifyRule_of_anchors (f := fun r => { r with required := some d }) (fun _ => rfl) s
      rule other place

theorem entry?_retain (s : Style) (r : Retention) (other : Scope) (place : Anchor) :
    entry? (s.run (.retain r)) other place = s.entry? other place := by
  cases other <;> rfl

section Every

variable {P : Entry → Prop} (empty : P {}) (add : ∀ e d, P e → P (e.add d))
  (treat : ∀ e t, P e → P (e.treat t))
include empty add treat

/-- A command keeps what holds of every entry. -/
theorem forall_entry?_run {s : Style} (every : ∀ scope anchor, ∀ e ∈ s.entry? scope anchor, P e)
    (c : Command) (scope : Scope) (anchor : Anchor) : ∀ e ∈ entry? (s.run c) scope anchor, P e := by
  have present : ∀ scope anchor, P ((s.entry? scope anchor).getD {}) := by
    intro scope anchor
    cases found : s.entry? scope anchor with
    | none => exact empty
    | some e => exact every scope anchor e found
  intro e found
  cases c with
  | setAllowed other d =>
    rw [entry?_setAllowed] at found
    exact every scope anchor e found
  | setRequired other d =>
    rw [entry?_setRequired] at found
    exact every scope anchor e found
  | retain r =>
    rw [entry?_retain] at found
    exact every scope anchor e found
  | direct other place d =>
    rw [entry?_direct] at found
    split_ifs at found with here
    · obtain rfl := Option.some.inj found
      exact add _ d (present other place)
    · exact every scope anchor e found
  | treat other place t =>
    rw [entry?_treat] at found
    split_ifs at found with here
    · obtain rfl := Option.some.inj found
      exact treat _ t (present other place)
    · exact every scope anchor e found

/-- What an empty entry has and both changes keep holds of every entry of a style
that commands made. -/
theorem forall_entry?_runAll (commands : List Command) (scope : Scope) (anchor : Anchor) :
    ∀ e ∈ entry? (runAll {} commands) scope anchor, P e := by
  have step : ∀ s : Style, (∀ scope anchor, ∀ e ∈ s.entry? scope anchor, P e) →
      ∀ scope anchor, ∀ e ∈ entry? (runAll s commands) scope anchor, P e := by
    induction commands with
    | nil => exact fun s every => every
    | cons c commands ih =>
      intro s every
      exact ih (s.run c) (forall_entry?_run empty add treat every c)
  refine step {} ?_ scope anchor
  intro scope anchor e found
  cases scope with
  | none => cases found
  | some rule => cases found

end Every

end Style

end Reprint
