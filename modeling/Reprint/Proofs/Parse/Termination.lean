import Mathlib.Data.Finset.Prod
import Mathlib.Data.Fintype.Basic
import Mathlib.Data.Fintype.Card
import Reprint.Proofs.Parse.Spans

/-!
# Where matching ends

A rule calls another one from the left if it may come to it before it has taken text.
Which rules these are depends on what may match without taking text (`Idles`), and on
whether the rule is matched inside trivia: outside, a slot calls the rule for trivia.

If no rule comes back to itself from the left, matching ends everywhere
(`settles_of_leftAcyclic`).  Each call either stands further on in the text or has
fewer rules ahead of it that it may call from the left, and repetitions end with an
occurrence that takes no text.  This bounds how deep rules nest, and any depth
beyond the bound leads to the same result.
-/

namespace Reprint

/-! ## Results that do not depend on the depth -/

namespace Attempted

/-- From a depth on, an attempt always ends in the same way. -/
def Settles {α : Type} (least : Nat) (x : Nat → Attempted α) : Prop :=
  ∃ a, ∀ depth, least ≤ depth → x depth = some a

section Settles

variable {α β : Type} {least : Nat} {x : Nat → Attempted α}

theorem settles_const (a : Attempt α) : Settles least fun _ => some a := ⟨a, fun _ _ => rfl⟩

theorem Settles.mono {more : Nat} (settles : Settles least x) (le : least ≤ more) :
    Settles more x := by
  obtain ⟨a, same⟩ := settles
  exact ⟨a, fun depth deep => same depth (le.trans deep)⟩

theorem Settles.map (settles : Settles least x) (f : α → β) :
    Settles least fun depth => (x depth).map f := by
  obtain ⟨a, same⟩ := settles
  refine ⟨⟨a.raised, a.value.map f⟩, fun depth deep => ?_⟩
  dsimp only
  rw [same depth deep]
  rfl

theorem Settles.quiet (settles : Settles least x) : Settles least fun depth => (x depth).quiet := by
  obtain ⟨a, same⟩ := settles
  refine ⟨⟨[], a.value⟩, fun depth deep => ?_⟩
  dsimp only
  rw [same depth deep]
  rfl

/-- What follows only has to settle for what the first attempt gives. -/
theorem Settles.proceed {f : Nat → Option α → Attempted β} (first : Settles least x)
    (second : ∀ v, (x least).Gives v → Settles least fun depth => f depth v) :
    Settles least fun depth => (x depth).proceed (f depth) := by
  obtain ⟨a, same⟩ := first
  obtain ⟨b, same'⟩ := second a.value ⟨a.raised, same least le_rfl⟩
  refine ⟨⟨a.raised ++ b.raised, b.value⟩, fun depth deep => ?_⟩
  have next : f depth a.value = some b := same' depth deep
  dsimp only
  rw [same depth deep, Attempted.proceed, Option.bind_some, next]
  rfl

theorem Settles.andThen {f : Nat → α → Attempted β} (first : Settles least x)
    (second : ∀ a, (x least).Gives (some a) → Settles least fun depth => f depth a) :
    Settles least fun depth => (x depth).andThen (f depth) := by
  refine first.proceed fun v given => ?_
  cases v with
  | none => exact settles_const _
  | some a => exact second a given

theorem Settles.orElse {y : Nat → Attempted α} (first : Settles least x)
    (second : Settles least y) :
    Settles least fun depth => (x depth).orElse fun _ => y depth := by
  refine first.proceed fun v _ => ?_
  cases v with
  | none => exact second
  | some a => exact settles_const _

end Settles

end Attempted

/-! ## Places that are not left -/

theorem Spread.eq_or_shorter {c d : Cursor} {xs : List Child} (spread : Spread c xs d) :
    d = c ∨ d.rest.length < c.rest.length := by
  obtain ⟨text, rest, offset⟩ := spread.exists_ahead
  cases text with
  | nil =>
    left
    obtain ⟨_, _⟩ := c
    obtain ⟨_, _⟩ := d
    simp_all [Text.width]
  | cons a text =>
    right
    rw [rest, List.cons_append, List.length_cons, List.length_append]
    omega

/-- There is no way back to a place that has been left. -/
theorem Spread.eq_of_back {c d : Cursor} {xs ys : List Child} (out : Spread c xs d)
    (back : Spread d ys c) : d = c := by
  rcases out.eq_or_shorter with same | shorter
  · exact same
  · rcases back.eq_or_shorter with same | shorter'
    · exact same.symm
    · omega

/-! ## Calls from the left -/

namespace Matching

open Attempted (Settles)

/-- An attempt that may succeed without taking text. -/
def Idles (g : Grammar) (inTrivia : Bool) (attempt : Context → Cursor → Attempted Found) : Prop :=
  ∃ (site : Site) (c : Cursor) (children : List Child), site.inTrivia = inTrivia ∧
    (attempt (site.context g) c).Gives (some (children, c))

/-- The rules, each inside or outside trivia, that a part of a grammar refers to where
nothing before has to take text. -/
inductive Leads (g : Grammar) (inTrivia : Bool) : Part → Nat × Bool → Prop
  /-- Outside trivia a slot refers to the rule for trivia. -/
  | trivia {sep : Separator} {id : Nat} :
      sep ≠ .none → inTrivia = false → g.trivia = some id → Leads g inTrivia (.slot sep) (id, true)
  | rule {label : Option String} {id : Nat} :
      Leads g inTrivia (.term label (.rule id)) (id, inTrivia)
  | group {label : Option String} {p : Production Grammar.Term}
      {ps : List (Production Grammar.Term)} {x : Nat × Bool} :
      p ∈ ps → Leads g inTrivia (.production p) x → Leads g inTrivia (.term label (.group ps)) x
  | before {i : Item Grammar.Term} {x : Nat × Bool} :
      Leads g inTrivia (.slot i.slot) x → Leads g inTrivia (.item i) x
  | inside {i : Item Grammar.Term} {x : Nat × Bool} :
      Idles g inTrivia (·.slot i.slot) → Leads g inTrivia (.term i.label i.term) x →
      Leads g inTrivia (.item i) x
  | here {i : Item Grammar.Term} {is : List (Item Grammar.Term)} {x : Nat × Bool} :
      Leads g inTrivia (.item i) x → Leads g inTrivia (.items (i :: is)) x
  | behind {i : Item Grammar.Term} {is : List (Item Grammar.Term)} {x : Nat × Bool} :
      Idles g inTrivia (item · i) → Leads g inTrivia (.items is) x →
      Leads g inTrivia (.items (i :: is)) x
  | items {p : Production Grammar.Term} {x : Nat × Bool} :
      Leads g inTrivia (.items p.items) x → Leads g inTrivia (.production p) x
  | trailing {p : Production Grammar.Term} {x : Nat × Bool} :
      (∀ i ∈ p.items, Idles g inTrivia (item · i)) → Leads g inTrivia (.slot p.trailing) x →
      Leads g inTrivia (.production p) x

end Matching

namespace Grammar

/-- A rule, matched inside or outside trivia, may call another one before it has taken
text. -/
def LeftCalls (g : Grammar) (x y : Nat × Bool) : Prop :=
  ∃ r ∈ g.rules[x.1]?, ∃ p ∈ r.productions,
    Matching.Leads g (x.2 || g.isTrivia x.1) (.production p) y

/-- No rule comes back to itself before it has taken text. -/
def LeftAcyclic (g : Grammar) : Prop := ∀ x, ¬ Relation.TransGen g.LeftCalls x x

/-- There is no way back if every call from the left lowers a number. -/
theorem leftAcyclic_of_rank {g : Grammar} (rank : Nat × Bool → Nat)
    (lower : ∀ x y, g.LeftCalls x y → rank y < rank x) : g.LeftAcyclic := by
  have further : ∀ x y, Relation.TransGen g.LeftCalls x y → rank y < rank x := by
    intro x y path
    induction path with
    | single call => exact lower _ _ call
    | tail _ call ih => exact (lower _ _ call).trans ih
  exact fun x path => lt_irrefl _ (further x x path)

/-! ### How many rules are ahead -/

open Classical in
/-- The rules of the table that a rule comes to by calls from the left. -/
noncomputable def leftReach (g : Grammar) (x : Nat × Bool) : Finset (Nat × Bool) :=
  (Finset.range g.rules.length ×ˢ Finset.univ).filter fun y => Relation.TransGen g.LeftCalls x y

theorem mem_leftReach {g : Grammar} {x y : Nat × Bool} :
    y ∈ g.leftReach x ↔ y.1 < g.rules.length ∧ Relation.TransGen g.LeftCalls x y := by
  simp [leftReach]

theorem card_leftReach_lt {g : Grammar} (acyclic : g.LeftAcyclic) {x y : Nat × Bool}
    (known : y.1 < g.rules.length) (calls : g.LeftCalls x y) :
    (g.leftReach y).card < (g.leftReach x).card := by
  refine Finset.card_lt_card (Finset.ssubset_iff_subset_ne.2 ⟨?_, ?_⟩)
  · intro z member
    rw [mem_leftReach] at member ⊢
    exact ⟨member.1, .head calls member.2⟩
  · intro same
    have member : y ∈ g.leftReach x := mem_leftReach.2 ⟨known, .single calls⟩
    rw [← same, mem_leftReach] at member
    exact acyclic y member.2

/-- A rule is not among those that it comes to. -/
theorem card_leftReach_lt_twice {g : Grammar} (acyclic : g.LeftAcyclic) {x : Nat × Bool}
    (known : x.1 < g.rules.length) : (g.leftReach x).card < 2 * g.rules.length := by
  have all : (Finset.range g.rules.length ×ˢ (Finset.univ : Finset Bool)).card
      = 2 * g.rules.length := by
    rw [Finset.card_product, Finset.card_range, Finset.card_univ, Fintype.card_bool, Nat.mul_comm]
  rw [← all]
  refine Finset.card_lt_card (Finset.ssubset_iff_subset_ne.2 ⟨?_, ?_⟩)
  · intro y member
    simpa using (mem_leftReach.1 member).1
  · intro same
    have member : x ∈ g.leftReach x := by
      rw [same]
      simp [known]
    exact acyclic x (mem_leftReach.1 member).2

end Grammar

/-! ## Parts settle -/

namespace Matching

open Attempted (Settles settles_const)

/-- The same site with rules nesting to another depth. -/
def Site.deep (site : Site) (depth : Nat) : Site := { site with depth }

/-- A rule settles at a place, whatever rules are in progress. -/
def CallSettles (g : Grammar) (least : Nat) (c : Cursor) (x : Nat × Bool) : Prop :=
  ∀ stack, Settles least fun depth => rule g depth x.1 x.2 stack c

/-- All rules settle where less text is left. -/
def SettlesBehind (g : Grammar) (least : Nat) (c : Cursor) : Prop :=
  ∀ d : Cursor, d.rest.length < c.rest.length → ∀ x, CallSettles g least d x

theorem CallSettles.mono {g : Grammar} {least more : Nat} {c : Cursor} {x : Nat × Bool}
    (settles : CallSettles g least c x) (le : least ≤ more) : CallSettles g more c x :=
  fun stack => (settles stack).mono le

/-- A part settles wherever the rules do that it leads to, and all of them behind. -/
def PartSettles (g : Grammar) (least : Nat) (site : Site) (part : Part)
    (attempt : Context → Cursor → Attempted Found) : Prop :=
  ∀ c, SettlesBehind g least c → (∀ x, Leads g site.inTrivia part x → CallSettles g least c x) →
    Settles least fun depth => attempt ((site.deep depth).context g) c

section Parts

variable {g : Grammar} {least : Nat} {site : Site}

/-- Behind a part that has taken no text, the next part comes to its rules at the
same place. -/
theorem PartSettles.after {part : Part} {attempt : Context → Cursor → Attempted Found}
    (settles : PartSettles g least site part attempt) {c d : Cursor} {xs : List Child}
    (spread : Spread c xs d) (behind : SettlesBehind g least c)
    (idle : d = c → ∀ x, Leads g site.inTrivia part x → CallSettles g least c x) :
    Settles least fun depth => attempt ((site.deep depth).context g) d := by
  rcases spread.eq_or_shorter with same | shorter
  · have here := idle same
    subst same
    exact settles d behind here
  · refine settles d (fun e further => ?_) fun x _ => behind d shorter x
    exact behind e (further.trans shorter)

theorem settles_missing {α : Type} (what : Expected) (c : Cursor) :
    Settles least fun depth =>
      (((site.deep depth).context g).missing what c : Attempted α) :=
  settles_const ⟨[⟨c.offset, what, site.stack⟩], none⟩

theorem partSettles_slot (sep : Separator) :
    PartSettles g least site (.slot sep) (·.slot sep) := by
  intro c _ leads
  have empty : Settles least fun depth => ((site.deep depth).context g).emptySlot sep c := by
    unfold Context.emptySlot
    split_ifs
    · exact settles_missing .blanks c
    · exact settles_const _
  unfold Context.slot
  by_cases tight : sep = .none
  · simp only [if_pos tight]
    exact settles_const _
  · simp only [if_neg tight]
    by_cases inTrivia : site.inTrivia
    · show Settles least fun depth => if site.inTrivia then _ else _
      simp only [if_pos inTrivia]
      split_ifs
      · exact empty
      · exact settles_const _
    · show Settles least fun depth => if site.inTrivia then _ else _
      simp only [if_neg inTrivia]
      cases known : g.trivia with
      | none =>
        simp only [Site.context, known]
        exact settles_const _
      | some id =>
        simp only [Site.context, known]
        have call := leads _ (.trivia tight (Bool.not_eq_true _ ▸ inTrivia) known)
        refine (call site.stack).quiet.proceed fun v _ => ?_
        rcases v with _ | ⟨tree, d⟩
        · exact empty
        · dsimp only
          split_ifs
          · exact empty
          · exact settles_const _

theorem partSettles_once {i : Item Grammar.Term}
    (settles : PartSettles g least site (.term i.label i.term) (term · i.label i.term)) :
    PartSettles g least site (.item i) (once · i) := by
  intro c behind leads
  have slot := partSettles_slot i.slot c behind fun x lead => leads x (.before lead)
  refine slot.andThen fun found given => ?_
  obtain ⟨before, d⟩ := found
  have spread := spreads_slot (callSpreads_rule g least) i.slot given
  refine (settles.after spread behind ?_).map _
  rintro rfl x lead
  exact leads x (.inside ⟨site.deep least, d, before, rfl, given⟩ lead)

/-- A repetition settles, for an occurrence that takes no text is the last one. -/
theorem settles_repeated {i : Item Grammar.Term}
    (settles : PartSettles g least site (.item i) (once · i)) {c : Cursor}
    (behind : SettlesBehind g least c)
    (leads : ∀ x, Leads g site.inTrivia (.item i) x → CallSettles g least c x) :
    Settles least fun depth => repeated (once ((site.deep depth).context g) i) c := by
  induction size : c.rest.length using Nat.strongRecOn generalizing c with
  | ind n ih =>
    subst size
    have unfolded : (fun depth => repeated (once ((site.deep depth).context g) i) c) = _ :=
      funext fun depth => repeated.eq_def _ c
    rw [unfolded]
    refine (settles c behind leads).proceed fun v _ => ?_
    rcases v with _ | ⟨children, d⟩
    · exact settles_const _
    · dsimp only
      split_ifs with progress
      · have rest := ih _ progress (fun e further => behind e (further.trans progress))
          (fun x _ => behind d progress x) rfl
        exact rest.map _
      · exact settles_const _

theorem partSettles_item {i : Item Grammar.Term}
    (settles : PartSettles g least site (.item i) (once · i)) :
    PartSettles g least site (.item i) (item · i) := by
  intro c behind leads
  simp only [item_eq]
  have many : Settles least fun depth =>
      (repeated (once ((site.deep depth).context g) i) c).andThen fun r =>
        if i.quantifier.least ≤ r.1 then .succeed r.2 else .fail := by
    refine (settles_repeated settles behind leads).andThen fun r _ => ?_
    split_ifs <;> exact settles_const _
  unfold quantified
  cases quantifier : i.quantifier with
  | one => exact settles c behind leads
  | optional => exact (settles c behind leads).orElse (settles_const _)
  | many | some =>
    rw [quantifier] at many
    exact many

/-- Items that take no text together take none each. -/
theorem idles_of_items {is : List (Item Grammar.Term)} {c : Cursor} {children : List Child}
    (given : (items (site.context g) is c).Gives (some (children, c))) :
    ∀ i ∈ is, Idles g site.inTrivia (item · i) := by
  have spread : ∀ i, Spreads (item (site.context g) i) := spreads_item (callSpreads_rule g site.depth)
  induction is generalizing children with
  | nil => exact List.forall_mem_nil _
  | cons i is ih =>
    obtain ⟨front, d, back, first, rest, rfl⟩ := gives_cons.1 given
    obtain rfl := (spread i first).eq_of_back (spreads_items (fun j _ => spread j) rest)
    exact List.forall_mem_cons.2 ⟨⟨site, d, front, rfl, first⟩, ih rest⟩

theorem partSettles_items {is : List (Item Grammar.Term)}
    (settles : ∀ i ∈ is, PartSettles g least site (.item i) (item · i)) :
    PartSettles g least site (.items is) (items · is) := by
  induction is with
  | nil =>
    intro c _ _
    exact settles_const _
  | cons i is ih =>
    intro c behind leads
    obtain ⟨first, others⟩ := List.forall_mem_cons.1 settles
    have item := first c behind fun x lead => leads x (.here lead)
    refine item.andThen fun found given => ?_
    obtain ⟨front, d⟩ := found
    have spread := spreads_item (callSpreads_rule g least) i given
    refine ((ih others).after spread behind ?_).map _
    rintro rfl x lead
    exact leads x (.behind ⟨site.deep least, d, front, rfl, given⟩ lead)

theorem partSettles_production {p : Production Grammar.Term}
    (settles : ∀ i ∈ p.items,
      PartSettles g least site (.term i.label i.term) (term · i.label i.term)) :
    PartSettles g least site (.production p) (production · p) := by
  intro c behind leads
  obtain ⟨is, trailing⟩ := p
  have each : ∀ i ∈ is, PartSettles g least site (.item i) (item · i) := fun i member =>
    partSettles_item (partSettles_once (settles i member))
  have items := partSettles_items each c behind fun x lead => leads x (.items lead)
  refine items.andThen fun found given => ?_
  obtain ⟨front, d⟩ := found
  have spread := spreads_items (fun i _ => spreads_item (callSpreads_rule g least) i) given
  refine ((partSettles_slot trailing).after spread behind ?_).map _
  rintro rfl x lead
  have idle : ∀ i ∈ is, Idles g (site.deep least).inTrivia (item · i) := idles_of_items given
  exact leads x (.trailing idle lead)

/-- The first production that matches settles if each production does. -/
theorem settles_productions {ps : List (Production Grammar.Term)} {c : Cursor}
    (settles : ∀ p ∈ ps, Settles least fun depth => production ((site.deep depth).context g) p c) :
    Settles least fun depth => productions ((site.deep depth).context g) ps c := by
  induction ps with
  | nil => exact settles_const _
  | cons p ps ih =>
    obtain ⟨first, others⟩ := List.forall_mem_cons.1 settles
    exact first.orElse (ih others)

theorem partSettles_term (t : Grammar.Term) :
    ∀ label, PartSettles g least site (.term label t) (term · label t) := by
  induction t using Term.inductionOn with
  | rule id => exact fun label c _ leads => (leads _ .rule site.stack).map _
  | literal text =>
    intro label c _ _
    simp only [term, Context.literal]
    split_ifs
    · exact settles_const _
    · exact settles_missing _ c
  | pattern p =>
    intro label c _ _
    simp only [term, Context.pattern]
    cases p.taken? c.rest with
    | none => exact settles_missing _ c
    | some count => exact settles_const _
  | group ps ih =>
    intro label c behind leads
    refine settles_productions fun p member => ?_
    exact partSettles_production (fun i inside => ih p member i inside i.label) c behind
      fun x lead => leads x (.group member lead)

end Parts

/-! ## Rules settle -/

section Rules

variable {g : Grammar}

theorem callSettles_unknown {x : Nat × Bool} (unknown : g.rules.length ≤ x.1) (c : Cursor) :
    CallSettles g 1 c x := by
  intro stack
  refine ⟨⟨[], none⟩, fun depth deep => ?_⟩
  obtain ⟨depth, rfl⟩ := Nat.exists_eq_add_of_le' deep
  dsimp only
  rw [rule, List.getElem?_eq_none unknown]
  rfl

/-- A rule settles one level above the rules that it calls. -/
theorem callSettles_succ {least : Nat} {c : Cursor} {x : Nat × Bool}
    (behind : SettlesBehind g least c)
    (leads : ∀ y, g.LeftCalls x y → CallSettles g least c y) : CallSettles g (least + 1) c x := by
  intro stack
  cases found : g.rules[x.1]? with
  | none =>
    exact (callSettles_unknown (List.getElem?_eq_none_iff.1 found) c).mono (by omega) stack
  | some r =>
    let site : Site := .of g x.1 0 x.2 stack c
    have all : Settles least fun depth =>
        productions ((site.deep depth).context g) r.productions c := by
      refine settles_productions fun p member => ?_
      exact partSettles_production (fun i _ => partSettles_term i.term i.label) c behind
        fun y lead => leads y ⟨r, found, p, member, lead⟩
    obtain ⟨a, same⟩ := all.map fun found : Found =>
      ((⟨x.1, c.spanTo found.2, found.1⟩ : Tree), found.2)
    refine ⟨a, fun depth deep => ?_⟩
    obtain ⟨depth, rfl⟩ := Nat.exists_eq_add_of_le' (Nat.le_of_add_left_le deep)
    dsimp only
    rw [rule, found]
    exact same depth (by omega)

/-- If no rule comes back to itself from the left, every rule settles: at the text
that is left, and behind it at the number of rules that are ahead. -/
theorem callSettles_of_leftAcyclic (acyclic : g.LeftAcyclic) (c : Cursor) (x : Nat × Bool) :
    x.1 < g.rules.length →
    CallSettles g ((2 * g.rules.length + 1) * c.rest.length + (g.leftReach x).card + 2) c x := by
  induction size : (2 * g.rules.length + 1) * c.rest.length + (g.leftReach x).card
    using Nat.strongRecOn generalizing c x with
  | ind n ih =>
    subst size
    intro known
    refine callSettles_succ ?_ ?_
    · intro d shorter y
      by_cases there : y.1 < g.rules.length
      · have reach := Grammar.card_leftReach_lt_twice acyclic there
        have less : (2 * g.rules.length + 1) * d.rest.length + (2 * g.rules.length + 1)
            ≤ (2 * g.rules.length + 1) * c.rest.length := by
          rw [← Nat.mul_succ]
          exact Nat.mul_le_mul_left _ shorter
        exact (ih _ (by omega) d y rfl there).mono (by omega)
      · exact (callSettles_unknown (Nat.le_of_not_lt there) d).mono (by omega)
    · intro y calls
      by_cases there : y.1 < g.rules.length
      · have fewer := Grammar.card_leftReach_lt acyclic there calls
        exact (ih _ (by omega) c y rfl there).mono (by omega)
      · exact (callSettles_unknown (Nat.le_of_not_lt there) c).mono (by omega)

end Rules

end Matching

/-! ## Grammars that are not left-recursive -/

/-- If no rule comes back to itself from the left, every rule ends at every place, with
the same result for all depths from a bound on, and no text is refused for rules that
nest too deep. -/
theorem settles_of_leftAcyclic {g : Grammar} (acyclic : g.LeftAcyclic) :
    (∀ id inTrivia stack c, ∃ a, ∀ depth,
      (2 * g.rules.length + 1) * (c.rest.length + 1) ≤ depth →
        Matching.rule g depth id inTrivia stack c = some a) ∧
    ∀ name source other, g.parse name source ≠ .error (.endless other) := by
  have settles : ∀ id inTrivia stack c, ∃ a, ∀ depth,
      (2 * g.rules.length + 1) * (c.rest.length + 1) ≤ depth →
        Matching.rule g depth id inTrivia stack c = some a := by
    intro id inTrivia stack c
    rw [Nat.mul_succ]
    by_cases known : id < g.rules.length
    · have reach : (g.leftReach (id, inTrivia)).card < 2 * g.rules.length :=
        Grammar.card_leftReach_lt_twice acyclic known
      have settles := Matching.callSettles_of_leftAcyclic acyclic c (id, inTrivia) known
      exact (settles stack).mono (by omega)
    · have unknown : Matching.CallSettles g 1 c (id, inTrivia) :=
        Matching.callSettles_unknown (Nat.le_of_not_lt known) c
      exact (unknown stack).mono (by omega)
  refine ⟨settles, ?_⟩
  intro name source other failed
  unfold Grammar.parse at failed
  split at failed
  · cases failed
  · next id _ =>
    dsimp only at failed
    split_ifs at failed
    · cases failed
    · obtain ⟨a, ended⟩ := settles id false [] (.start source)
      unfold Grammar.parseRule at failed
      rw [ended (depthBound g source) le_rfl] at failed
      dsimp only at failed
      split at failed
      · cases failed
      · split_ifs at failed
        cases failed

/-! ## A list of entries that may be empty -/

/-- Entries that take a letter or nothing, with blanks between, as many as there are. -/
def entries : Grammar where
  rules := [
    ⟨"list", [⟨[{ slot := .allowed, term := .rule 1, quantifier := .many }], .none⟩]⟩,
    ⟨"entry", [⟨[{ term := .literal "a", quantifier := .optional }], .none⟩]⟩,
    ⟨"_", [⟨[{ term := .literal " ", quantifier := .some }], .none⟩]⟩]
  trivia := some 2

/-- A production of one item leads where its slot and its term do. -/
theorem Matching.Leads.of_single {g : Grammar} {inTrivia : Bool} {i : Item Grammar.Term}
    {x : Nat × Bool} (lead : Leads g inTrivia (.production ⟨[i], .none⟩) x) :
    Leads g inTrivia (.slot i.slot) x ∨ Leads g inTrivia (.term i.label i.term) x := by
  cases lead with
  | trailing _ lead =>
    cases lead
    contradiction
  | items lead =>
    cases lead with
    | behind _ lead => cases lead
    | here lead =>
      cases lead with
      | before lead => exact .inl lead
      | inside _ lead => exact .inr lead

/-- Only the list calls other rules from the left. -/
theorem leftAcyclic_entries : entries.LeftAcyclic := by
  refine Grammar.leftAcyclic_of_rank (fun x => if x.1 = 0 then 1 else 0) ?_
  rintro ⟨id, inTrivia⟩ x ⟨r, found, p, member, lead⟩
  have literal : ∀ {inTrivia text quantifier}, ¬ Matching.Leads entries inTrivia
      (.production ⟨[{ term := .literal text, quantifier }], .none⟩) x := by
    rintro inTrivia text quantifier lead
    rcases lead.of_single with lead | lead
    · cases lead
      contradiction
    · cases lead
  match id with
  | 0 =>
    obtain rfl := Option.some.inj found
    obtain rfl := List.mem_singleton.1 member
    rcases lead.of_single with lead | lead
    · cases lead with
      | trivia _ _ known =>
        obtain rfl := Option.some.inj known
        exact Nat.zero_lt_one
    · cases lead
      exact Nat.zero_lt_one
  | 1 | 2 =>
    obtain rfl := Option.some.inj found
    obtain rfl := List.mem_singleton.1 member
    exact absurd lead literal
  | n + 3 => cases found

theorem settles_entries :
    entries.LeftAcyclic ∧
      (∃ a, ∀ depth, 14 ≤ depth → Matching.rule entries depth 0 false [] ⟨0, ['b']⟩ = some a) ∧
      ∀ source other, entries.parse "list" source ≠ .error (.endless other) := by
  have settles := settles_of_leftAcyclic leftAcyclic_entries
  exact ⟨leftAcyclic_entries, settles.1 0 false [] ⟨0, ['b']⟩, settles.2 "list"⟩

end Reprint
