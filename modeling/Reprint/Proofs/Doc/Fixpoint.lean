import Reprint.Proofs.Doc.Filling
import Reprint.Proofs.Doc.Opening

/-!
# Resolution resolves what it chooses

Resolution is defined with a bound on how deep control nodes and separators carry
one another.  The bound never shows: the documents that a rule chooses nest less
deep, so they are resolved in full, and resolution is a fixed point of the
function that finishes them by resolving them (`resolve_eq`).
-/

namespace Reprint.Doc

/-! ## Cells of parts -/

variable {spacing trivia separator : Doc → Prop}

/-- What governs a part is known of its cell. -/
theorem meets_toCell (settle : Doc → Doc) {d : Doc} (part : d.isPart)
    (governed : d.Governed (Meets spacing trivia) separator) :
    (toCell settle d).Meets spacing trivia := by
  cases d with
  | empty | seq | join => cases part
  | leaf l => trivial
  | group body =>
    rw [toCell_group]
    trivial
  | indent amount body =>
    rw [toCell_indent]
    trivial
  | after | before | slot => exact governed

theorem meets_toCells (settle : Doc → Doc) {ds : List Doc} (parts : ∀ d ∈ ds, d.isPart)
    (governed : ∀ d ∈ ds, d.Governed (Meets spacing trivia) separator) :
    ∀ c ∈ toCells settle ds, c.Meets spacing trivia := by
  rw [toCells_eq_map]
  intro c member
  obtain ⟨d, inside, rfl⟩ := List.mem_map.1 member
  exact meets_toCell settle (parts d inside) (governed d inside)

/-- What governs a document governs the parts that resolution opens it into. -/
theorem hereditary_meets (opens : ∀ s, separator s → trivia s) :
    Hereditary (Governed (Meets spacing trivia) separator) := by
  refine hereditary_governed ?_
  intro s held
  refine ⟨nofun, ?_, nofun⟩
  rintro _ ⟨⟩
  exact opens s held

/-! ## The documents that are finished -/

section Congruence

variable {f g : Doc → Doc} (usual : ∀ d, spacing d → f d = g d) (kept : ∀ d, trivia d → f d = g d)
include usual kept

theorem assemble_congr {ds : List Doc} (parts : ∀ d ∈ ds, d.isPart)
    (governed : ∀ d ∈ ds, d.Governed (Meets spacing trivia) separator)
    (same : ∀ d ∈ ds, toCell f d = toCell g d) :
    assemble f (toCells f ds) = assemble g (toCells g ds) := by
  have cells : toCells f ds = toCells g ds := by
    rw [toCells_eq_map, toCells_eq_map]
    exact List.map_congr_left same
  have meets := meets_toCells g parts governed
  rw [assemble, assemble, cells, Cell.sweep_congr usual kept [] meets]

/-- Resolution depends on how the spacing, the trivia and the separators that
govern a document are finished, and on no other document. -/
theorem resolveWith_congr {d : Doc} (governed : d.Governed (Meets spacing trivia) separator)
    (opens : ∀ s, separator s → trivia s) : resolveWith f d = resolveWith g d := by
  have hereditary : Hereditary (Governed (Meets spacing trivia) separator) :=
    hereditary_meets opens
  have parts : ∀ x ∈ d.opened, x.isPart := fun x member => (tidy_of_mem_opened member).1
  have cells : ∀ x ∈ d.opened, x.Governed (Meets spacing trivia) separator →
      toCell f x = toCell g x := by
    refine opened_induction (fun _ _ => rfl) ?_ ?_ ?_
    · intro c control _
      cases c with
      | after | before | slot => rfl
      | _ => cases control
    · intro body tidy ih governed
      have inner := Governed.items (d := body) governed
      rw [toCell_group, toCell_group, assemble_congr usual kept
        (fun x member => (tidy.of_mem_items member).1) inner (fun x member => ih x member (inner x member))]
    · intro amount body tidy ih governed
      have inner := Governed.items (d := body) governed
      rw [toCell_indent, toCell_indent, assemble_congr usual kept
        (fun x member => (tidy.of_mem_items member).1) inner (fun x member => ih x member (inner x member))]
  have inner := hereditary.opened governed
  rw [resolveWith_eq, resolveWith_eq,
    assemble_congr usual kept parts inner fun x member => cells x member (inner x member)]

end Congruence

/-! ## The bound on the nesting -/

/-- The documents that control nodes and separators carry nest less deep. -/
theorem governed_of_nesting {n : Nat} {d : Doc} (bound : d.nesting ≤ n) :
    d.Governed (Meets (fun x => x.nesting < n ∨ x = .space) (·.nesting < n)) (·.nesting < n) := by
  have inside : ∀ {o : Option Doc}, nestingIn o ≤ n → ∀ x ∈ o, x.nesting < n := by
    rintro _ held x ⟨⟩
    exact held
  induction d with
  | empty | leaf => trivial
  | group body ih => exact ih bound
  | indent amount body ih => exact ih bound
  | seq parts ih =>
    exact governedAll_iff.2 fun x member => ih x member (nestingAll_le_iff.1 bound x member)
  | join items between ih _ =>
    obtain ⟨inner, own⟩ := Nat.max_le.1 bound
    exact ⟨governedAll_iff.2 fun x member => ih x member (nestingAll_le_iff.1 inner x member), own⟩
  | after x => exact .inl bound
  | before x => exact .inl bound
  | slot usual kept required =>
    obtain ⟨first, second⟩ := Nat.max_le.1 bound
    exact ⟨fun x member => .inl (inside first x member), inside second, fun _ _ => .inr rfl⟩

theorem resolveWith_congr_of_nesting {n : Nat} {f g : Doc → Doc} {d : Doc} (bound : d.nesting ≤ n)
    (same : ∀ x, x.nesting < n → f x = g x) (space : f .space = g .space) :
    resolveWith f d = resolveWith g d := by
  refine resolveWith_congr ?_ same (governed_of_nesting bound) fun _ held => held
  rintro x (deeper | rfl)
  · exact same x deeper
  · exact space

/-- A document that is one leaf stays it, whatever finishes the others. -/
theorem resolveWith_leaf (settle : Doc → Doc) (l : Leaf) : resolveWith settle (.leaf l) = .leaf l := by
  have none : Cell.reduce settle [] = [] := Cell.reduce_of_contents (List.forall_mem_nil _)
  have alone : Cell.reduce settle [.raw (.leaf l)] = [.raw (.leaf l)] :=
    Cell.reduce_of_contents (List.forall_mem_singleton.2 rfl)
  have swept : sweep settle [] [.raw (.leaf l)] = [.raw (.leaf l)] := by
    simp [sweep, none, alone, Cell.isControl, isControl]
  simp [resolveWith_eq, opened, expand, edges, items, toCells, toCell, assemble, swept, Cell.doc, concat,
    splice, isEmpty, ofParts, sink]

/-- More room than a document needs changes nothing. -/
theorem resolveWithin_succ {n : Nat} {d : Doc} (bound : d.nesting ≤ n) :
    resolveWithin n d = resolveWithin (n + 1) d := by
  induction n generalizing d with
  | zero =>
    refine resolveWith_congr_of_nesting bound (fun x none => absurd none (Nat.not_lt_zero _)) ?_
    exact (resolveWith_leaf id .space).symm
  | succ n ih =>
    refine resolveWith_congr_of_nesting bound (fun x held => ih (Nat.le_of_lt_succ held)) ?_
    exact ih (Nat.zero_le n)

theorem resolveWithin_eq {n : Nat} {d : Doc} (bound : d.nesting ≤ n) : resolveWithin n d = resolve d := by
  induction n, bound using Nat.le_induction with
  | base => rfl
  | succ n held ih => rw [← resolveWithin_succ held, ih]

/-- Resolution finishes the documents that it chooses by resolving them. -/
theorem resolve_eq (d : Doc) : resolve d = resolveWith resolve d := by
  rw [← resolveWithin_eq (Nat.le_succ d.nesting)]
  refine resolveWith_congr_of_nesting (Nat.le_refl d.nesting) ?_ ?_
  · intro x deeper
    exact resolveWithin_eq deeper.le
  · exact resolveWithin_eq (Nat.zero_le _)

/-- Documents that are opened alike are resolved alike. -/
theorem resolve_congr_of_opened {a b : Doc} (same : a.opened = b.opened) : resolve a = resolve b := by
  rw [resolve_eq a, resolve_eq b, resolveWith_eq, resolveWith_eq, same]

theorem resolve_empty : resolve .empty = .empty := by
  have none : Cell.reduce resolve [] = [] := Cell.reduce_of_contents (List.forall_mem_nil _)
  rw [resolve_eq]
  simp [resolveWith_eq, opened, expand, edges, items, toCells, assemble, sweep, none, concat, ofParts,
    sink]

end Reprint.Doc
