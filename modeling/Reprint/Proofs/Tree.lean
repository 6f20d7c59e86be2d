import Reprint.Tree

/-!
# The leaves of a tree

The leaves of a tree are its tokens and, as a whole each, what stood in its
slots.  They are what the text of the tree consists of, in order.

The parts of a tree are its children at every depth, also those inside what stood
in slots.
-/

namespace Reprint

/-- Induction on the children of a tree. -/
@[elab_as_elim, induction_eliminator]
theorem Child.inductionOn {motive : Child → Prop} (c : Child)
    (token : ∀ label span, motive (.token label span))
    (node : ∀ label (body : Tree), (∀ c ∈ body.children, motive c) → motive (.node label body))
    (trivia : ∀ label (body : Tree), (∀ c ∈ body.children, motive c) → motive (.trivia label body)) :
    motive c := by
  refine @Child.rec motive (fun body => ∀ c ∈ body.children, motive c) (fun cs => ∀ c ∈ cs, motive c)
    token node trivia ?_ ?_ ?_ c
  · intro rule span children all
    exact all
  · exact List.forall_mem_nil _
  · intro c cs first others
    exact List.forall_mem_cons.2 ⟨first, others⟩

mutual

/-- The leaves of a child. -/
def Child.leaves : Child → List Child
  | .token label span => [.token label span]
  | .node _ body => nodeLeaves body
  | .trivia label body => [.trivia label body]
termination_by structural c => c

def nodeLeaves : Node Child → List Child
  | ⟨_, _, children⟩ => leavesAll children
termination_by structural n => n

/-- The leaves of a list of children. -/
def leavesAll : List Child → List Child
  | [] => []
  | c :: cs => c.leaves ++ leavesAll cs
termination_by structural cs => cs

end

/-- The tokens of a tree and what stood in its slots, from left to right. -/
def Node.leaves (tree : Tree) : List Child := leavesAll tree.children

/-- Whether a child stood in a slot. -/
def Child.isTrivia : Child → Bool
  | .trivia .. => true
  | .token .. | .node .. => false

theorem Child.trivia?_eq_none {c : Child} : c.trivia? = none ↔ c.isTrivia = false := by
  cases c <;> simp [Child.trivia?, Child.isTrivia]

/-- The characters that a child covers. -/
def Child.chars (source : String) (c : Child) : List Char :=
  (Text.slice? source.toList c.span.start c.span.stop).getD []

theorem leavesAll_eq_flatMap (cs : List Child) : leavesAll cs = cs.flatMap Child.leaves := by
  induction cs with
  | nil => rfl
  | cons c cs ih => rw [leavesAll, ih, List.flatMap_cons]

@[simp] theorem leavesAll_append (cs ds : List Child) :
    leavesAll (cs ++ ds) = leavesAll cs ++ leavesAll ds := by
  simp [leavesAll_eq_flatMap]

theorem Child.leaves_node (label : Option String) (body : Tree) :
    (Child.node label body).leaves = body.leaves := by
  obtain ⟨rule, span, children⟩ := body
  rfl

/-! ## Parts -/

mutual

/-- A child and the children inside it, at every depth. -/
def Child.parts : Child → List Child
  | .token label span => [.token label span]
  | .node label body => .node label body :: nodeParts body
  | .trivia label body => .trivia label body :: nodeParts body
termination_by structural c => c

def nodeParts : Node Child → List Child
  | ⟨_, _, children⟩ => partsAll children
termination_by structural n => n

/-- The parts of a list of children. -/
def partsAll : List Child → List Child
  | [] => []
  | c :: cs => c.parts ++ partsAll cs
termination_by structural cs => cs

end

/-- The children of a tree at every depth, each before those inside it. -/
def Node.parts (tree : Tree) : List Child := partsAll tree.children

/-- The tree of a child that is no token. -/
def Child.body? : Child → Option Tree
  | .token .. => none
  | .node _ body | .trivia _ body => some body

/-- The parts of a child that is no token are itself and those of its tree. -/
theorem Child.parts_eq_cons {x : Child} {body : Tree} (inner : x.body? = some body) :
    x.parts = x :: body.parts := by
  cases x with
  | token => cases inner
  | node label tree | trivia label tree =>
    obtain rfl := Option.some.inj inner
    obtain ⟨rule, span, children⟩ := tree
    rfl

theorem partsAll_eq_flatMap (cs : List Child) : partsAll cs = cs.flatMap Child.parts := by
  induction cs with
  | nil => rfl
  | cons c cs ih => rw [partsAll, ih, List.flatMap_cons]

theorem Child.mem_parts_self (c : Child) : c ∈ c.parts := by
  cases c <;> exact List.mem_cons_self

theorem Node.mem_parts {body : Tree} {x : Child} : x ∈ body.parts ↔ ∃ c ∈ body.children, x ∈ c.parts := by
  rw [Node.parts, partsAll_eq_flatMap, List.mem_flatMap]

/-- The span of a token. -/
def Child.token? : Child → Option Span
  | .token _ span => some span
  | .node .. | .trivia .. => none

/-- A tree and the trees inside it. -/
def Node.trees (tree : Tree) : List Tree := tree :: tree.parts.filterMap Child.body?

/-- The spans of all tokens of a tree, from left to right. -/
def Node.tokens (tree : Tree) : List Span := tree.parts.filterMap Child.token?

/-- The spans of a tree and of all its parts. -/
def Node.spans (tree : Tree) : List Span := tree.span :: tree.parts.map Child.span

/-! ## Trees of a grammar -/

/-- The tree is one of the grammar: it names its rules by places of the grammar's table. -/
def Node.Of (g : Grammar) (tree : Tree) : Prop := ∀ body ∈ tree.trees, body.rule < g.rules.length

instance (g : Grammar) (tree : Tree) : Decidable (tree.Of g) :=
  inferInstanceAs (Decidable (∀ body ∈ tree.trees, body.rule < g.rules.length))

/-- So does a child, by itself or inside. -/
def Child.Of (g : Grammar) (c : Child) : Prop := ∀ body ∈ c.body?, body.Of g

/-- The trees inside a tree are its children's and those inside them. -/
theorem Node.mem_trees {tree body : Tree} :
    body ∈ tree.trees ↔ body = tree ∨ ∃ c ∈ tree.children, ∃ inner ∈ c.body?, body ∈ inner.trees := by
  have own (c : Child) : body ∈ c.parts.filterMap Child.body? ↔ ∃ inner ∈ c.body?, body ∈ inner.trees := by
    cases inner : c.body? with
    | none =>
      cases c with
      | node | trivia => cases inner
      | token => simp [Child.parts, Child.body?]
    | some tree => simp [Child.parts_eq_cons inner, Node.trees, inner]
  rw [Node.trees, List.mem_cons, Node.parts, partsAll_eq_flatMap, List.filterMap_flatMap, List.mem_flatMap]
  simp only [own]

theorem Node.of_iff {g : Grammar} {tree : Tree} :
    tree.Of g ↔ tree.rule < g.rules.length ∧ ∀ c ∈ tree.children, c.Of g := by
  constructor
  · intro of
    exact ⟨of tree (Node.mem_trees.2 (.inl rfl)), fun c member inner own body inside =>
      of body (Node.mem_trees.2 (.inr ⟨c, member, inner, own, inside⟩))⟩
  · rintro ⟨here, inside⟩ body within
    obtain rfl | ⟨c, member, inner, own, deeper⟩ := Node.mem_trees.1 within
    · exact here
    · exact inside c member inner own body deeper

theorem Node.Of.rule_lt {g : Grammar} {tree : Tree} (of : tree.Of g) :
    ∀ c ∈ tree.children, ∀ inner ∈ c.node?, inner.rule < g.rules.length := by
  intro c member inner own
  cases c with
  | token | trivia => cases own
  | node label body =>
    obtain rfl := Option.some.inj own
    exact (Node.of_iff.1 ((Node.of_iff.1 of).2 _ member body rfl)).1

/-! ## Texts -/

theorem Child.slice?_eq_some {source text : String} {c : Child}
    (found : c.span.slice? source = some text) : c.chars source = text.toList := by
  obtain ⟨cs, sliced, rfl⟩ := Option.map_eq_some_iff.1 found
  rw [Child.chars, sliced, Option.getD_some, String.toList_ofList]

end Reprint
