import Reprint.Parse.Matching

/-!
# Reading a text into a tree

A text is read by a rule, which has to match all of it.  When it does not, the
failure is explained by the expectations that lie furthest on: what was looked
for there, and the innermost rule that had come that far.
-/

namespace Reprint

/-- An explained failure to read a text. -/
structure ParseError where
  message : String
  span : Span
  /-- Another place that has to do with it. -/
  related : Option (String × Span) := none
  deriving DecidableEq, Repr, Inhabited

/-- Why a text could not be read. -/
inductive ParseFailure where
  | unknownRule (name : String)
  /-- The text is longer than spans reach. -/
  | tooLong (bytes : Nat)
  /-- A rule comes back to itself without taking text. -/
  | endless (name : String)
  /-- The rule does not match, or not all of the text.  Holds all expectations
  that came up, in order. -/
  | mismatch (raised : List Expectation)
  deriving Inhabited

/-! ## Explaining a mismatch -/

namespace Expectation

/-- The greatest offset of an expectation. -/
def furthest (raised : List Expectation) : Nat := (raised.map (·.offset)).foldl max 0

/-- The expectations at an offset. -/
def atOffset (offset : Nat) (raised : List Expectation) : List Expectation :=
  raised.filter (·.offset == offset)

/-- What was looked for, in order and each once. -/
def descriptions (raised : List Expectation) : List String :=
  ((raised.map (·.what.shown)).mergeSort (fun a b => decide (a ≤ b))).eraseReps

/-- The innermost rule in progress that had started before an offset when that
offset was first reached. -/
def origin? (offset : Nat) (raised : List Expectation) : Option (Nat × Nat) :=
  ((atOffset offset raised).head?).bind fun e => e.stack.find? fun (_, start) => start < offset

end Expectation

/-- The span of the character at an offset, empty at the end of the text. -/
def characterAt (source : String) (offset : Nat) : Span :=
  match (Text.dropBytes? offset source.toList).bind List.head? with
  | some c => ⟨offset, offset + c.utf8Size⟩
  | none => .point offset

/-- The character at an offset in the words of a message. -/
def foundAt (source : String) (offset : Nat) : String :=
  match (Text.dropBytes? offset source.toList).bind List.head? with
  | some c => Text.quoteChar c
  | none => "end of input"

/-- What was expected and what was found. -/
def mismatchMessage (expected : List String) (found : String) : String :=
  match expected with
  | [] => "unexpected " ++ found
  | [one] => "expected " ++ one ++ ", found " ++ found
  | several => "expected one of " ++ ", ".intercalate several ++ ", found " ++ found

/-- A failure explained. -/
def ParseFailure.explain (g : Grammar) (source : String) : ParseFailure → ParseError
  | .unknownRule name => { message := "unknown rule `" ++ name ++ "`", span := .point 0 }
  | .tooLong bytes =>
    { message := "source is " ++ toString bytes ++ " bytes, longer than the "
        ++ toString Span.limit ++ " byte limit"
      span := .point 0 }
  | .endless name => { message := "rule `" ++ name ++ "` is left-recursive", span := .point 0 }
  | .mismatch raised =>
    let offset := Expectation.furthest raised
    { message := mismatchMessage (Expectation.descriptions (Expectation.atOffset offset raised))
        (foundAt source offset)
      span := characterAt source offset
      related := (Expectation.origin? offset raised).map fun (id, start) =>
        ("while parsing `" ++ g.ruleName id ++ "`", characterAt source start) }

/-! ## Reading -/

/-- How deep rules nest at most, unless one comes back to itself without taking
text: each place is entered at most once by each rule inside and outside trivia. -/
def depthBound (g : Grammar) (source : String) : Nat :=
  (2 * g.rules.length + 1) * (source.toList.length + 1)

/-- Reads a text by the rule at a place of the table. -/
def Grammar.parseRule (g : Grammar) (id : Nat) (source : String) : Except ParseFailure Tree :=
  match Matching.rule g (depthBound g source) id false [] (.start source) with
  | none => .error (.endless (g.ruleName id))
  | some a =>
    match a.value with
    | none => .error (.mismatch a.raised)
    | some (tree, c) =>
      if c.rest.isEmpty then .ok tree
      else .error (.mismatch (a.raised ++ [⟨c.offset, .endOfInput, []⟩]))

/-- Reads a text by a rule. -/
def Grammar.parse (g : Grammar) (rule source : String) : Except ParseFailure Tree :=
  match g.ruleId? rule with
  | none => .error (.unknownRule rule)
  | some id =>
    let bytes := Text.width source.toList
    if Span.limit < bytes then .error (.tooLong bytes) else g.parseRule id source

end Reprint
