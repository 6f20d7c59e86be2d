import Mathlib.Data.List.Basic
import Reprint.Doc.Spacing

/-!
# Merging spacings two at a time

White space, with nothing as the least of it, is ordered by how much it separates
(`Weaker`), and all else beats it.  What several spacings come to depends on the list of
them only: it is the first one that is no white space, or else the strongest of all
(`Prevails`).  So it does not matter in which groups they meet (`merging_prevails`), and
in which order only if there is something else than white space among them.
-/

namespace Reprint.Doc

/-! ## The order of white space -/

/-- Nothing, or one of the four kinds of white space. -/
def isRanked (d : Doc) : Bool := d.isEmpty || d.isSpacing

/-- White space separates less than other white space.  Hard line ends are ordered by
their blank lines. -/
inductive Weaker : Doc → Doc → Prop
  | softline : Weaker .empty .softline
  | space : Weaker .softline .space
  | line : Weaker .space .line
  | hardline : Weaker .line (.hardline 0)
  | blanks {m n : UInt32} : m < n → Weaker (.hardline m) (.hardline n)
  | trans {a b c : Doc} : Weaker a b → Weaker b c → Weaker a c

theorem isRanked_empty : empty.isRanked := rfl

theorem isRanked_iff {d : Doc} : d.isRanked ↔ ∃ n, d.strength? = some n := by
  cases d with
  | leaf l => cases l <;> simp [isRanked, isEmpty, isSpacing, strength?]
  | _ => simp [isRanked, isEmpty, isSpacing, strength?]

theorem strength?_of_isRanked_eq_false {d : Doc} (other : d.isRanked = false) : d.strength? = none :=
  Option.eq_none_iff_forall_ne_some.2 fun n rank =>
    Bool.eq_false_iff.1 other (isRanked_iff.2 ⟨n, rank⟩)

/-- The white space of each strength. -/
def ofStrength : Nat → Doc
  | 0 => .empty
  | 1 => .softline
  | 2 => .space
  | 3 => .line
  | n + 4 => .hardline (.ofNat n)

theorem ofStrength_of_strength? {d : Doc} {n : Nat} (rank : d.strength? = some n) :
    ofStrength n = d := by
  cases d with
  | empty => cases rank; rfl
  | leaf l =>
    cases l with
    | text | comment => cases rank
    | line | space | softline => cases rank; rfl
    | hardline blanks =>
      obtain rfl := Option.some.inj rank
      rw [Nat.add_comm, ofStrength, UInt32.ofNat_toNat]
  | _ => cases rank

theorem eq_of_strength? {a b : Doc} {n : Nat} (left : a.strength? = some n)
    (right : b.strength? = some n) : a = b :=
  (ofStrength_of_strength? left).symm.trans (ofStrength_of_strength? right)

/-- Right below each white space but the weakest there is another one. -/
theorem exists_weaker {b : Doc} {n : Nat} (rank : b.strength? = some (n + 1)) :
    ∃ a : Doc, a.strength? = some n ∧ a.Weaker b := by
  cases b with
  | empty => cases rank
  | leaf l =>
    cases l with
    | text | comment => cases rank
    | softline =>
      cases rank
      exact ⟨_, rfl, .softline⟩
    | space =>
      cases rank
      exact ⟨_, rfl, .space⟩
    | line =>
      cases rank
      exact ⟨_, rfl, .line⟩
    | hardline blanks =>
      have rank : 4 + blanks.toNat = n + 1 := Option.some.inj rank
      by_cases zero : blanks = 0
      · subst zero
        obtain rfl : 3 = n := Nat.succ.inj rank
        exact ⟨_, rfl, .hardline⟩
      · have above : 0 < blanks := UInt32.pos_iff_ne_zero.2 zero
        have positive : 0 < blanks.toNat := UInt32.lt_iff_toNat_lt.1 above
        have fewer : (blanks - 1).toNat = blanks.toNat - 1 := UInt32.toNat_sub_of_le _ _ above
        refine ⟨hardline (blanks - 1), congrArg some ?_, .blanks (UInt32.lt_iff_toNat_lt.2 ?_)⟩
        · omega
        · omega
  | _ => cases rank

theorem strength_lt_of_weaker {a b : Doc} (weaker : a.Weaker b) :
    ∃ m n, a.strength? = some m ∧ b.strength? = some n ∧ m < n := by
  induction weaker with
  | softline | space | line | hardline => exact ⟨_, _, rfl, rfl, by decide⟩
  | blanks less => exact ⟨_, _, rfl, rfl, Nat.add_lt_add_left less 4⟩
  | trans _ _ first second =>
    obtain ⟨m, n, a, b, less⟩ := first
    obtain ⟨n', k, b', c, less'⟩ := second
    obtain rfl := Option.some.inj (b.symm.trans b')
    exact ⟨m, k, a, c, Nat.lt_trans less less'⟩

theorem weaker_of_strength_lt {a b : Doc} {m n : Nat} (left : a.strength? = some m)
    (right : b.strength? = some n) (less : m < n) : a.Weaker b := by
  -- From the stronger one down, step by step, until the weaker one is met.
  induction n generalizing b with
  | zero => exact absurd less (Nat.not_lt_zero m)
  | succ n ih =>
    obtain ⟨c, rank, weaker⟩ := exists_weaker right
    obtain below | rfl := Nat.lt_succ_iff_lt_or_eq.1 less
    · exact (ih rank below).trans weaker
    · rwa [eq_of_strength? left rank]

theorem weaker_iff {a b : Doc} {m n : Nat} (left : a.strength? = some m)
    (right : b.strength? = some n) : a.Weaker b ↔ m < n := by
  refine ⟨fun weaker => ?_, weaker_of_strength_lt left right⟩
  obtain ⟨m', n', left', right', less⟩ := strength_lt_of_weaker weaker
  obtain rfl := Option.some.inj (left.symm.trans left')
  obtain rfl := Option.some.inj (right.symm.trans right')
  exact less

theorem Weaker.asymm {a b : Doc} (weaker : a.Weaker b) : ¬ b.Weaker a := by
  obtain ⟨m, n, left, right, less⟩ := strength_lt_of_weaker weaker
  rw [weaker_iff right left]
  exact Nat.lt_asymm less

theorem not_weaker_empty (d : Doc) : ¬ d.Weaker empty := by
  intro weaker
  obtain ⟨m, n, -, least, less⟩ := strength_lt_of_weaker weaker
  obtain rfl := Option.some.inj least
  exact Nat.not_lt_zero m less

/-! ## Merging two spacings -/

theorem merge_of_isRanked_eq_false {a : Doc} (other : a.isRanked = false) (b : Doc) :
    a.merge b = a := by
  rw [merge, strength?_of_isRanked_eq_false other]

/-- White space gives way to all that is none. -/
theorem merge_of_isRanked {a b : Doc} (ranked : a.isRanked) (other : b.isRanked = false) :
    a.merge b = b := by
  obtain ⟨m, rank⟩ := isRanked_iff.1 ranked
  rw [merge, rank, strength?_of_isRanked_eq_false other]

/-- Of two kinds of white space one is not weaker than the other, and is what they come to. -/
theorem merge_stronger {a b : Doc} (left : a.isRanked) (right : b.isRanked) :
    a.merge b = a ∧ (b = a ∨ b.Weaker a) ∨ a.merge b = b ∧ a.Weaker b := by
  obtain ⟨m, left⟩ := isRanked_iff.1 left
  obtain ⟨n, right⟩ := isRanked_iff.1 right
  rw [weaker_iff right left, weaker_iff left right, merge, left, right]
  obtain less | rfl | more := Nat.lt_trichotomy m n
  · exact .inr ⟨if_pos less, less⟩
  · exact .inl ⟨if_neg (Nat.lt_irrefl m), .inl (eq_of_strength? right left)⟩
  · exact .inl ⟨if_neg (Nat.lt_asymm more), .inr more⟩

/-! ## What a list of spacings comes to -/

/-- The first document of a list that is no white space. -/
def firstOther? (ds : List Doc) : Option Doc := ds.find? fun d => !d.isRanked

/-- The first document of a list that is no white space prevails, or else the strongest one. -/
def Prevails (ds : List Doc) (d : Doc) : Prop :=
  match firstOther? ds with
  | some first => d = first
  | none => d ∈ ds ∧ ∀ e ∈ ds, e = d ∨ e.Weaker d

variable {ds es : List Doc} {a b d : Doc}

theorem firstOther?_append : firstOther? (ds ++ es) = (firstOther? ds).or (firstOther? es) :=
  List.find?_append

theorem firstOther?_eq_none : firstOther? ds = none ↔ ∀ d ∈ ds, d.isRanked := by
  simp [firstOther?]

/-- A list has a first document that is no white space, or it has white space only. -/
theorem firstOther?_or_isRanked (ds : List Doc) :
    (∃ first ∈ ds, firstOther? ds = some first ∧ first.isRanked = false) ∨ ∀ d ∈ ds, d.isRanked := by
  cases found : firstOther? ds with
  | some first =>
    have other : first.isRanked = false := by simpa using List.find?_some found
    exact .inl ⟨first, List.mem_of_find?_eq_some found, rfl, other⟩
  | none => exact .inr (firstOther?_eq_none.1 found)

theorem prevails_of_firstOther? {first : Doc} (found : firstOther? ds = some first) :
    Prevails ds d ↔ d = first := by
  rw [Prevails, found]

theorem prevails_of_isRanked (ranked : ∀ e ∈ ds, e.isRanked) :
    Prevails ds d ↔ d ∈ ds ∧ ∀ e ∈ ds, e = d ∨ e.Weaker d := by
  rw [Prevails, firstOther?_eq_none.2 ranked]

theorem prevails_singleton (d : Doc) : Prevails [d] d := by
  obtain ⟨first, member, found, -⟩ | ranked := firstOther?_or_isRanked [d]
  · exact (prevails_of_firstOther? found).2 (List.mem_singleton.1 member).symm
  · exact (prevails_of_isRanked ranked).2
      ⟨List.mem_singleton_self d, fun e member => .inl (List.mem_singleton.1 member)⟩

/-- Only one document prevails. -/
theorem Prevails.unique (one : Prevails ds a) (other : Prevails ds b) : a = b := by
  obtain ⟨first, -, found, -⟩ | ranked := firstOther?_or_isRanked ds
  · rw [prevails_of_firstOther? found] at one other
    rw [one, other]
  · rw [prevails_of_isRanked ranked] at one other
    obtain same | weaker := one.2 b other.1
    · exact same.symm
    · obtain same | weaker' := other.2 a one.1
      · exact same
      · exact absurd weaker' weaker.asymm

/-- Among white space neither the order counts nor how often each kind is there. -/
theorem Prevails.of_mem_iff (ranked : ∀ e ∈ ds, e.isRanked) (same : ∀ e, e ∈ ds ↔ e ∈ es)
    (prevails : Prevails ds d) : Prevails es d := by
  have ranked' : ∀ e ∈ es, e.isRanked := fun e member => ranked e ((same e).2 member)
  rw [prevails_of_isRanked ranked] at prevails
  rw [prevails_of_isRanked ranked']
  exact ⟨(same d).1 prevails.1, fun e member => prevails.2 e ((same e).2 member)⟩

/-- What prevails in two lists, merged, prevails in both together. -/
theorem Prevails.append (left : Prevails ds a) (right : Prevails es b) :
    Prevails (ds ++ es) (a.merge b) := by
  obtain ⟨first, -, found, other⟩ | ranked := firstOther?_or_isRanked ds
  · obtain rfl := (prevails_of_firstOther? found).1 left
    rw [merge_of_isRanked_eq_false other, prevails_of_firstOther?]
    rw [firstOther?_append, found, Option.some_or]
  rw [prevails_of_isRanked ranked] at left
  obtain ⟨second, -, found, other⟩ | ranked' := firstOther?_or_isRanked es
  · obtain rfl := (prevails_of_firstOther? found).1 right
    rw [merge_of_isRanked (ranked a left.1) other, prevails_of_firstOther?]
    rw [firstOther?_append, firstOther?_eq_none.2 ranked, found, Option.none_or]
  rw [prevails_of_isRanked ranked'] at right
  rw [prevails_of_isRanked (List.forall_mem_append.2 ⟨ranked, ranked'⟩)]
  -- What one of the two beats, the stronger of the two beats as well.
  obtain ⟨kept, below⟩ | ⟨kept, above⟩ := merge_stronger (ranked a left.1) (ranked' b right.1)
  · rw [kept]
    refine ⟨List.mem_append_left es left.1, List.forall_mem_append.2 ⟨left.2, fun e member => ?_⟩⟩
    obtain rfl | weaker := right.2 e member
    · exact below
    · obtain rfl | below := below
      · exact .inr weaker
      · exact .inr (weaker.trans below)
  · rw [kept]
    refine ⟨List.mem_append_right ds right.1, List.forall_mem_append.2 ⟨fun e member => ?_, right.2⟩⟩
    obtain rfl | weaker := left.2 e member
    · exact .inr above
    · exact .inr (weaker.trans above)

theorem Prevails.foldl (prevails : Prevails ds d) (more : List Doc) :
    Prevails (ds ++ more) (more.foldl merge d) := by
  induction more generalizing ds d with
  | nil => rwa [List.append_nil]
  | cons next more ih =>
    rw [List.append_cons]
    exact ih (prevails.append (prevails_singleton next))

/-! ## Groups of two -/

/-- Spacings that are merged two at a time, in any grouping. -/
inductive Merging where
  | one (d : Doc)
  | two (first second : Merging)

namespace Merging

/-- The spacings from left to right. -/
def docs : Merging → List Doc
  | one d => [d]
  | two first second => first.docs ++ second.docs

/-- What the spacings come to, group by group. -/
def result : Merging → Doc
  | one d => d
  | two first second => first.result.merge second.result

theorem docs_ne_nil (m : Merging) : m.docs ≠ [] := by
  induction m with
  | one d => exact List.cons_ne_nil d []
  | two first second ih _ => exact List.append_ne_nil_of_left_ne_nil ih second.docs

theorem prevails_result (m : Merging) : Prevails m.docs m.result := by
  induction m with
  | one d => exact prevails_singleton d
  | two first second ih ih' => exact ih.append ih'

theorem prevails_iff (m : Merging) {d : Doc} : Prevails m.docs d ↔ d = m.result := by
  refine ⟨fun prevails => prevails.unique m.prevails_result, ?_⟩
  rintro rfl
  exact m.prevails_result

/-- Any grouping comes to the same as merging from the left. -/
theorem mergeAll?_docs (m : Merging) : mergeAll? m.docs = some m.result := by
  obtain ⟨d, ds, docs⟩ := List.exists_cons_of_ne_nil m.docs_ne_nil
  have prevails := m.prevails_result
  rw [docs] at prevails ⊢
  exact congrArg some (((prevails_singleton d).foldl ds).unique prevails)

theorem result_congr {m m' : Merging} (same : m.docs = m'.docs) : m.result = m'.result :=
  m'.prevails_iff.1 (same ▸ m.prevails_result)

/-- The order of white space does not count. -/
theorem result_perm {m m' : Merging} (ranked : ∀ d ∈ m.docs, d.isRanked) (perm : m.docs.Perm m'.docs) :
    m.result = m'.result :=
  m'.prevails_iff.1 (m.prevails_result.of_mem_iff ranked fun _ => perm.mem_iff)

end Merging

/-! ## The laws of merging -/

theorem merge_assoc (a b c : Doc) : (a.merge b).merge c = a.merge (b.merge c) :=
  @Merging.result_congr (.two (.two (.one a) (.one b)) (.one c))
    (.two (.one a) (.two (.one b) (.one c))) rfl

theorem merge_self (d : Doc) : d.merge d = d := by
  cases ranked : d.isRanked with
  | false => exact merge_of_isRanked_eq_false ranked d
  | true =>
    obtain ⟨kept, -⟩ | ⟨kept, -⟩ := merge_stronger ranked ranked
    · exact kept
    · exact kept

theorem empty_merge (d : Doc) : empty.merge d = d := by
  cases ranked : d.isRanked with
  | false => exact merge_of_isRanked isRanked_empty ranked
  | true =>
    obtain ⟨kept, same | weaker⟩ | ⟨kept, -⟩ := merge_stronger isRanked_empty ranked
    · rw [kept, same]
    · exact absurd weaker d.not_weaker_empty
    · exact kept

theorem merge_empty (d : Doc) : d.merge empty = d := by
  cases ranked : d.isRanked with
  | false => exact merge_of_isRanked_eq_false ranked empty
  | true =>
    obtain ⟨kept, -⟩ | ⟨-, weaker⟩ := merge_stronger ranked isRanked_empty
    · exact kept
    · exact absurd weaker d.not_weaker_empty

/-- However spacings are grouped, what they come to is what prevails among them, which is
what merging from the left comes to.  Among white space the order does not count either.
So merging is associative and idempotent, and the empty document is neutral on both sides. -/
theorem merging_prevails :
    (∀ (m : Merging) (d : Doc), Prevails m.docs d ↔ d = m.result) ∧
    (∀ m : Merging, mergeAll? m.docs = some m.result) ∧
    (∀ m m' : Merging, (∀ d ∈ m.docs, d.isRanked) → m.docs.Perm m'.docs → m.result = m'.result) ∧
    (∀ a b c : Doc, (a.merge b).merge c = a.merge (b.merge c)) ∧
    (∀ d : Doc, d.merge d = d) ∧
    ∀ d : Doc, empty.merge d = d ∧ d.merge empty = d :=
  ⟨fun m _ => m.prevails_iff, Merging.mergeAll?_docs, fun _ _ => Merging.result_perm, merge_assoc,
    merge_self, fun d => ⟨d.empty_merge, d.merge_empty⟩⟩

/-- Two line ends of different height, with a space between them or in front. -/
theorem merging_prevails_hardlines :
    let m := Merging.two (.one (.hardline 1)) (.two (.one .space) (.one (.hardline 4294967295)))
    let m' := Merging.two (.two (.one .space) (.one (.hardline 4294967295))) (.one (.hardline 1))
    (∀ d ∈ m.docs, d.isRanked) ∧ m.docs.Perm m'.docs ∧ m.result = m'.result := by
  intro m m'
  have ranked : ∀ d ∈ m.docs, d.isRanked := by simp [m, Merging.docs, isRanked, isSpacing]
  have perm : m.docs.Perm m'.docs := List.perm_append_comm
  exact ⟨ranked, perm, merging_prevails.2.2.1 m m' ranked perm⟩

/-- Of two texts the first one prevails, so their order counts. -/
example : (text "a").merge (text "b") = text "a" ∧ (text "b").merge (text "a") = text "b" :=
  ⟨rfl, rfl⟩

end Reprint.Doc
