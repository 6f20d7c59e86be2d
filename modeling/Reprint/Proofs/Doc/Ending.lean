import Mathlib.Logic.Function.Iterate
import Reprint.Proofs.Doc.Final

/-!
# Resolution ends

Resolution is a recursion on documents that its own rules choose, with a loop of
rewriting inside.  The loop ends because each step removes a control cell.  The
recursion ends because a document that is chosen was carried by a control node or
separates the items of a join, and so nests less deep than the document that is being
resolved; only the space that fills an empty slot comes from nowhere, and for a
space nothing is chosen.

What comes out leaves no decision open and is in canonical form.
-/

namespace Reprint.Doc

/-! ## The loop -/

/-- No list of cells can be rewritten for ever. -/
theorem wellFounded_step? (settle : Doc → Doc) :
    WellFounded fun next cells => Cell.step? settle cells = some next :=
  Subrelation.wf (fun applied => Cell.controls_lt_of_step? settle applied)
    (InvImage.wf Cell.controls Nat.lt_wfRel.wf)

/-! ## The documents that are chosen -/

mutual

/-- What the after-spacings of a document carry, in order. -/
def afters : Doc → List Doc
  | .empty | .leaf _ | .before _ | .slot .. => []
  | .after spacing => [spacing]
  | .group body => body.afters
  | .indent _ body => body.afters
  | .seq parts => aftersAll parts
  | .join items _ => aftersAll items
termination_by structural d => d

def aftersAll : List Doc → List Doc
  | [] => []
  | d :: ds => d.afters ++ aftersAll ds
termination_by structural ds => ds

end

/-- The documents that the rules choose while a document is resolved, and that are
resolved in turn.  Here they are not resolved but left as after-spacings, and so
they can be read off the outcome. -/
def chosen (d : Doc) : List Doc := (resolveWith .after d).afters

theorem aftersAll_eq_flatMap (ds : List Doc) : aftersAll ds = ds.flatMap afters := by
  induction ds with
  | nil => rfl
  | cons d ds ih => rw [aftersAll, ih, List.flatMap_cons]

/-- What is known of all control nodes is known of what after-spacings carry. -/
theorem forall_mem_afters {P : Doc → Prop} {control separator : Doc → Prop}
    (known : ∀ x, control (.after x) → P x) {d : Doc} (governed : d.Governed control separator) :
    ∀ x ∈ d.afters, P x := by
  have inList : ∀ ds : List Doc, (∀ d ∈ ds, ∀ x ∈ d.afters, P x) → ∀ x ∈ aftersAll ds, P x := by
    intro ds all x member
    rw [aftersAll_eq_flatMap] at member
    obtain ⟨d, inside, member⟩ := List.mem_flatMap.1 member
    exact all d inside x member
  induction d with
  | empty | leaf | before | slot => exact List.forall_mem_nil _
  | after spacing => exact List.forall_mem_singleton.2 (known spacing governed)
  | group body ih => exact ih governed
  | indent amount body ih => exact ih governed
  | seq parts ih => exact inList parts fun d member => ih d member (governedAll_iff.1 governed d member)
  | join items separator ih _ =>
    exact inList items fun d member => ih d member (governedAll_iff.1 governed.1 d member)

/-- A chosen document nests less deep than the one that is resolved, or it is a space. -/
theorem nesting_lt_of_mem_chosen {d x : Doc} (member : x ∈ d.chosen) :
    x.nesting < d.nesting ∨ x = .space := by
  let Chosen (x : Doc) : Prop := x.nesting < d.nesting ∨ x = .space
  let Mark (c : Doc) : Prop := ∃ x, c = .after x ∧ Chosen x
  have marks : Hereditary (Governed Mark fun _ => False) := hereditary_governed fun _ none => none.elim
  have governed := governed_of_nesting (Nat.le_refl d.nesting)
  have marked : (resolveWith .after d).Governed Mark fun _ => False := by
    refine marks.resolveWith hereditary_true (fun _ => trivial) (fun _ inner => inner) (fun _ inner => inner)
      ?_ ?_ (fun _ held => held) trivial governed
    · exact fun x spacing => ⟨x, rfl, spacing⟩
    · exact fun x deeper => ⟨x, rfl, .inl deeper⟩
  refine forall_mem_afters (P := Chosen) ?_ marked x member
  rintro x ⟨_, ⟨⟩, known⟩
  exact known

/-- For a space nothing is chosen. -/
theorem chosen_space : chosen .space = [] := by
  rw [chosen, resolveWith_leaf]
  rfl

/-- How often resolution may turn to a chosen document: a space needs no other one. -/
def rank : Doc → Nat
  | .space => 0
  | d => d.nesting + 1

theorem rank_lt_of_mem_chosen {d x : Doc} (member : x ∈ d.chosen) : x.rank < d.rank := by
  have space : d ≠ .space := by
    rintro rfl
    rw [chosen_space] at member
    cases member
  have own : d.rank = d.nesting + 1 := by
    unfold rank
    split
    · exact absurd rfl space
    · rfl
  have bound : x.rank ≤ x.nesting + 1 := by
    unfold rank
    split
    · exact Nat.zero_le _
    · exact Nat.le_refl _
  rcases nesting_lt_of_mem_chosen member with deeper | rfl
  · omega
  · rw [own]
    exact Nat.succ_pos _

/-- No document is chosen for another one for ever. -/
theorem wellFounded_chosen : WellFounded fun x d : Doc => x ∈ d.chosen :=
  Subrelation.wf rank_lt_of_mem_chosen (InvImage.wf rank Nat.lt_wfRel.wf)

/-! ## The recursion -/

/-- Wherever the recursion is cut off below the nesting of a document, whatever is
put there does not show. -/
theorem iterate_resolveWith (stop : Doc → Doc) {n : Nat} {d : Doc} (room : d.nesting + 2 ≤ n) :
    resolveWith^[n] stop d = resolve d := by
  obtain ⟨n, rfl⟩ : ∃ m, n = m + 2 := ⟨n - 2, by omega⟩
  induction n generalizing d with
  | zero =>
    have flat : d.nesting = 0 := by omega
    have space : resolveWith stop .space = resolve .space := by
      rw [resolve_eq, resolveWith_leaf, resolveWith_leaf]
    rw [resolve_eq]
    refine resolveWith_congr_of_nesting flat.le (fun x none => absurd none (Nat.not_lt_zero _)) ?_
    exact space
  | succ n ih =>
    rw [Function.iterate_succ_apply', resolve_eq]
    refine resolveWith_congr_of_nesting (Nat.le_refl d.nesting) (fun x deeper => ih (by omega)) ?_
    exact ih (Nat.le_add_left 2 n)

/-! ## Canonical form -/

/-- A resolved document is in canonical form. -/
theorem tidy_resolve (d : Doc) : (resolve d).Tidy := by
  induction nested : d.nesting using Nat.strong_induction_on generalizing d with
  | _ n ih =>
    have deeper : ∀ x : Doc, x.nesting < n → (resolve x).Tidy := fun x held => ih _ held x rfl
    rw [resolve_eq]
    refine hereditary_tidy.resolveWith hereditary_true (fun _ => trivial) (fun _ tidy => tidy)
      (fun _ tidy => tidy) ?_ deeper (fun _ held => held) trivial (governed_of_nesting nested.le)
    rintro x (held | rfl)
    · exact deeper x held
    · rw [resolve_eq, resolveWith_leaf]
      trivial

/-- Resolution comes to an end on every document: neither the rewriting nor the
turning to chosen documents can go on for ever.  It resolves what it chooses, and the
recursion, cut off anywhere below the nesting of the document, has the same outcome.
Nothing is left open in it, and every sequence has at least two parts, none of them
empty or a sequence. -/
theorem resolve_ends_tidy (d : Doc) :
    (∀ settle, WellFounded fun next cells => Cell.step? settle cells = some next) ∧
      (WellFounded fun x e : Doc => x ∈ e.chosen) ∧
      resolve d = resolveWith resolve d ∧
      (∀ stop n, resolveWith^[d.nesting + 2 + n] stop d = resolve d) ∧
      (resolve d).isFinal ∧ (resolve d).Tidy := by
  refine ⟨wellFounded_step?, wellFounded_chosen, resolve_eq d, ?_, isFinal_resolve d, tidy_resolve d⟩
  intro stop n
  exact iterate_resolveWith stop (Nat.le_add_right _ n)

end Reprint.Doc
