import Reprint.Grammar.Basic

/-!
# Checking a grammar

A blueprint is a grammar as it is written down, with rules referred to by name.
Checking it links the names to places in the table and compiles the patterns.
The first fault found is reported: a name given twice, then a trivia rule that
is not there, then rule by rule and item by item whatever cannot be linked.
-/

namespace Reprint

/-- A term as it is written down. -/
abbrev Blueprint.Term := Reprint.Term String String

/-- A grammar as it is written down. -/
structure Blueprint where
  rules : List (Rule Blueprint.Term) := []
  trivia : Option String := none
  deriving Inhabited

namespace Blueprint

/-- Adds a rule. -/
def addRule (b : Blueprint) (rule : Rule Blueprint.Term) : Blueprint :=
  { b with rules := b.rules ++ [rule] }

/-- Makes a rule, which may be added later, the one for what stands in slots. -/
def setTrivia (b : Blueprint) (name : String) : Blueprint := { b with trivia := some name }

/-- Adds a rule and makes it the one for what stands in slots. -/
def addTrivia (b : Blueprint) (rule : Rule Blueprint.Term) : Blueprint :=
  (b.setTrivia rule.name).addRule rule

/-! ## Faults -/

/-- What is wrong with a blueprint. -/
inductive Fault where
  | duplicateRule (name : String)
  | unknownTrivia (name : String)
  /-- A rule, or a group in it, has no productions. -/
  | emptyRule (name : String)
  | unknownRule (rule reference : String)
  | invalidPattern (rule pattern : String)
  deriving DecidableEq, Repr, Inhabited

def Fault.message : Fault → String
  | .duplicateRule name => "rule `" ++ name ++ "` is defined more than once"
  | .unknownTrivia name => "trivia rule `" ++ name ++ "` is not defined"
  | .emptyRule name => "rule `" ++ name ++ "` has no alternatives"
  | .unknownRule rule reference =>
    "rule `" ++ rule ++ "` references undefined rule `" ++ reference ++ "`"
  | .invalidPattern rule pattern => "invalid regex /" ++ pattern ++ "/ in rule `" ++ rule ++ "`"

/-! ## Linking -/

section Linking

variable (names : List String) (rule : String)

mutual

/-- Links a term of the rule `rule`; `names` are the names in the table. -/
def linkTerm : Blueprint.Term → Except Fault Grammar.Term
  | .rule name =>
    match names.idxOf? name with
    | some id => .ok (.rule id)
    | none => .error (.unknownRule rule name)
  | .literal text => .ok (.literal text)
  | .pattern source =>
    match Pattern.compile? source with
    | some p => .ok (.pattern p)
    | none => .error (.invalidPattern rule source)
  | .group [] => .error (.emptyRule rule)
  | .group (p :: ps) => do
    let first ← linkProduction p
    let rest ← linkProductions ps
    return .group (first :: rest)
termination_by structural t => t

def linkProduction : Production Blueprint.Term → Except Fault (Production Grammar.Term)
  | ⟨items, trailing⟩ => do
    let items ← linkItems items
    return ⟨items, trailing⟩
termination_by structural p => p

def linkProductions : List (Production Blueprint.Term) → Except Fault (List (Production Grammar.Term))
  | [] => .ok []
  | p :: ps => do
    let first ← linkProduction p
    let rest ← linkProductions ps
    return first :: rest
termination_by structural ps => ps

def linkItem : Item Blueprint.Term → Except Fault (Item Grammar.Term)
  | ⟨slot, label, term, quantifier, suppressed⟩ => do
    let term ← linkTerm term
    return ⟨slot, label, term, quantifier, suppressed⟩
termination_by structural i => i

def linkItems : List (Item Blueprint.Term) → Except Fault (List (Item Grammar.Term))
  | [] => .ok []
  | i :: is => do
    let first ← linkItem i
    let rest ← linkItems is
    return first :: rest
termination_by structural is => is

end

end Linking

/-- Links a rule, which has to have productions. -/
def linkRule (names : List String) (rule : Rule Blueprint.Term) :
    Except Fault (Rule Grammar.Term) :=
  if rule.productions.isEmpty then .error (.emptyRule rule.name)
  else do
    let productions ← linkProductions names rule.name rule.productions
    return ⟨rule.name, productions⟩

/-! ## Checking -/

/-- The first name that stands on the list a second time. -/
def firstRepeated? (seen : List String) : List String → Option String
  | [] => none
  | name :: names =>
    if seen.contains name then some name else firstRepeated? (name :: seen) names

/-- The place of the trivia rule, if one is named. -/
def linkTrivia (names : List String) : Option String → Except Fault (Option Nat)
  | none => .ok none
  | some name =>
    match names.idxOf? name with
    | some id => .ok (some id)
    | none => .error (.unknownTrivia name)

/-- The names of the rules in order. -/
def names (b : Blueprint) : List String := b.rules.map (·.name)

/-- The grammar that a blueprint stands for, or its first fault.  Places in its table are
numbers; words can hold those of a table with no more rules than there are words. -/
def build (b : Blueprint) : Except Fault Grammar :=
  match firstRepeated? [] b.names with
  | some name => .error (.duplicateRule name)
  | none => do
    let trivia ← linkTrivia b.names b.trivia
    let rules ← b.rules.mapM (linkRule b.names)
    return { rules, trivia }

end Blueprint

end Reprint
