import Reprint.Style.Basic
import Reprint.Style.Token

/-!
# Style sheets

The statements of a style sheet are commands, some of them for one rule:

* `ws_allowed: S;` and `ws_required: S;` set what is usual in slots;
* `after A { S; … }` and `before A { S; … }` ask for spacing;
* `omit A;` and `render A as S;` say what becomes of an item;
* `group R;`, `nest N R;` and `join R S;` put brackets around a range;
* `preserve all;`, `preserve none;` and `preserve name, …;` say which trivia is kept;
* `rule name { … }` holds statements for one rule.

Every reader takes at least one token, or none and says so in its type, so
reading a sheet comes to an end.
-/

namespace Reprint.Sheet

/-! ## Readers -/

/-- What was read from the front of a list of tokens, which got shorter. -/
structure Read (α : Type) (ts : List Token) where
  value : α
  rest : List Token
  shorter : rest.length < ts.length

/-- What was read from the front of a list of tokens, which may have stayed as it was. -/
structure ReadAny (α : Type) (ts : List Token) where
  value : α
  rest : List Token
  noLonger : rest.length ≤ ts.length

/-- The offset of the end of the sheet, where errors at its end are placed. -/
abbrev SheetEnd := Nat

variable (stop : SheetEnd)

/-- Something else was expected at the front of the tokens. -/
def unexpected (expected : String) : List Token → StyleError
  | t :: _ => ⟨.unexpected expected t.shown, t.span⟩
  | [] => ⟨.unexpected expected "end of input", .point stop⟩

/-- A token of a certain kind. -/
def expect (kind : TokenKind) (ts : List Token) : Except StyleError (Read Token ts) :=
  match ts with
  | t :: rest =>
    if t.kind = kind then .ok ⟨t, rest, by simp⟩
    else .error (unexpected stop kind.shown (t :: rest))
  | [] => .error (unexpected stop kind.shown [])

/-- A certain word. -/
def expectWord (word : String) (ts : List Token) : Except StyleError (Read Unit ts) :=
  match ts with
  | t :: rest =>
    if t.isWord word then .ok ⟨(), rest, by simp⟩
    else .error (unexpected stop ("`" ++ word ++ "`") (t :: rest))
  | [] => .error (unexpected stop ("`" ++ word ++ "`") [])

/-- Takes a token of a certain kind away if it is there. -/
def skip (kind : TokenKind) (ts : List Token) : ReadAny Bool ts :=
  match ts with
  | t :: rest => if t.kind = kind then ⟨true, rest, by simp⟩ else ⟨false, t :: rest, by simp⟩
  | [] => ⟨false, [], by simp⟩

/-- Takes a certain word away if it is there. -/
def skipWord (word : String) (ts : List Token) : ReadAny Bool ts :=
  match ts with
  | t :: rest => if t.isWord word then ⟨true, rest, by simp⟩ else ⟨false, t :: rest, by simp⟩
  | [] => ⟨false, [], by simp⟩

/-- The number that a token stands for, if it fits a word. -/
def numberOf (t : Token) : Except StyleError UInt32 :=
  let value := t.text.toList.foldl (fun n c => 10 * n + (c.toNat - '0'.toNat)) 0
  if value < UInt32.size then .ok value.toUInt32 else .error ⟨.invalidNumber t.text, t.span⟩

/-- A number. -/
def number (ts : List Token) : Except StyleError (Read UInt32 ts) := do
  let ⟨t, rest, h⟩ ← expect stop .number ts
  let n ← numberOf t
  return ⟨n, rest, h⟩

/-! ## Spacing -/

/-- Spacing that is a single word. -/
def plainSpacing? : String → Option Doc
  | "nil" => some .empty
  | "nbsp" => some .space
  | "bsp" => some .line
  | "soft" => some .softline
  | "hard" => some (.hardline 0)
  | _ => none

/-- `blank`, with a number of lines in parentheses if it is not one, behind the word. -/
def blankLines (ts : List Token) : Except StyleError (ReadAny Doc ts) := do
  let ⟨opened, rest, h⟩ := skip .leftParen ts
  if opened then
    let ⟨n, rest, h₁⟩ ← number stop rest
    let ⟨_, rest, h₂⟩ ← expect stop .rightParen rest
    return ⟨.hardline n, rest, by omega⟩
  else return ⟨.hardline 1, rest, h⟩

/-- `text`, with a string in parentheses, behind the word. -/
def quotedText (ts : List Token) : Except StyleError (ReadAny Doc ts) := do
  let ⟨_, rest, h₁⟩ ← expect stop .leftParen ts
  let ⟨t, rest, h₂⟩ ← expect stop .string rest
  let ⟨_, rest, h₃⟩ ← expect stop .rightParen rest
  return ⟨.text t.content, rest, by omega⟩

/-- The amount of an indentation and the comma behind it, if there is one. -/
def amount (ts : List Token) : Except StyleError (ReadAny (Option UInt32) ts) :=
  match ts with
  | t :: rest =>
    if t.kind = .number then do
      let n ← numberOf t
      let ⟨_, rest, h⟩ ← expect stop .comma rest
      return ⟨some n, rest, by simp only [List.length_cons]; omega⟩
    else .ok ⟨none, t :: rest, by simp⟩
  | [] => .ok ⟨none, [], by simp⟩

mutual

/-- A spacing expression. -/
def spacing (ts : List Token) : Except StyleError (Read Doc ts) :=
  match ts with
  | [] => .error (unexpected stop "spacing" [])
  | t :: ts =>
    if t.kind ≠ .word then .error (unexpected stop "spacing" (t :: ts))
    else
      match plainSpacing? t.text with
      | some d => .ok ⟨d, ts, by simp⟩
      | none => do
        let ⟨d, rest, h⟩ ← compound t ts
        return ⟨d, rest, by simp only [List.length_cons]; omega⟩
termination_by 2 * ts.length

/-- What follows a word that begins a longer spacing expression. -/
def compound (t : Token) (ts : List Token) : Except StyleError (ReadAny Doc ts) :=
  match t.text with
  | "blank" => blankLines stop ts
  | "text" => quotedText stop ts
  | "concat" => do
    let ⟨_, rest, h₁⟩ ← expect stop .leftParen ts
    let ⟨_, rest, h₂⟩ ← expect stop .leftBracket rest
    let ⟨ds, rest, h₃⟩ ← spacings rest
    let ⟨_, rest, h₄⟩ ← expect stop .rightParen rest
    return ⟨.concat ds, rest, by omega⟩
  | "group" => do
    let ⟨_, rest, h₁⟩ ← expect stop .leftParen ts
    let ⟨d, rest, h₂⟩ ← spacing rest
    let ⟨_, rest, h₃⟩ ← expect stop .rightParen rest
    return ⟨.group d, rest, by omega⟩
  | "nest" => do
    let ⟨_, rest, h₁⟩ ← expect stop .leftParen ts
    let ⟨n, rest, h₂⟩ ← amount stop rest
    let ⟨d, rest, h₃⟩ ← spacing rest
    let ⟨_, rest, h₄⟩ ← expect stop .rightParen rest
    return ⟨.indent n d, rest, by omega⟩
  | "join" => do
    let ⟨_, rest, h₁⟩ ← expect stop .leftParen ts
    let ⟨separator, rest, h₂⟩ ← spacing rest
    let ⟨_, rest, h₃⟩ ← expect stop .comma rest
    let ⟨_, rest, h₄⟩ ← expect stop .leftBracket rest
    let ⟨ds, rest, h₅⟩ ← spacings rest
    let ⟨_, rest, h₆⟩ ← expect stop .rightParen rest
    return ⟨.join ds separator, rest, by omega⟩
  | word => .error ⟨.unknownSpacing word, t.span⟩
termination_by 2 * ts.length + 1

/-- Spacing expressions with commas between them, behind the opening bracket and
up to the closing one.  A comma may stand behind the last. -/
def spacings (ts : List Token) : Except StyleError (Read (List Doc) ts) :=
  match ts with
  | [] => .error (unexpected stop "spacing" [])
  | t :: ts =>
    if t.kind = .rightBracket then .ok ⟨[], ts, by simp⟩
    else do
      let ⟨d, rest, h₁⟩ ← spacing (t :: ts)
      have h₁ : rest.length < ts.length + 1 := h₁
      let ⟨again, rest, h₂⟩ := skip .comma rest
      if again then
        let ⟨ds, rest, h₃⟩ ← spacings rest
        return ⟨d :: ds, rest, by simp only [List.length_cons]; omega⟩
      else
        let ⟨_, rest, h₃⟩ ← expect stop .rightBracket rest
        return ⟨[d], rest, by simp only [List.length_cons]; omega⟩
termination_by 2 * ts.length + 1

end

/-! ## Selectors and ranges -/

/-- What a word or a string selects. -/
def selectorOf? (t : Token) : Option Selector :=
  match t.kind with
  | .string => some (.literal t.content)
  | .word =>
    match t.text with
    | "rule_start" => some .ruleStart
    | "rule_end" => some .ruleEnd
    | name => some (.label name)
  | _ => none

/-- A selector. -/
def selector (ts : List Token) : Except StyleError (Read Selector ts) :=
  match ts with
  | [] => .error (unexpected stop "anchor" [])
  | t :: ts =>
    match selectorOf? t with
    | some s => .ok ⟨s, ts, by simp⟩
    | none => .error (unexpected stop "anchor" (t :: ts))

/-- Takes a word away if it is there and a selector follows it. -/
def skipSide (word : String) (ts : List Token) : ReadAny Bool ts :=
  match ts with
  | t :: u :: rest =>
    if t.isWord word && (selectorOf? u).isSome then ⟨true, u :: rest, by simp⟩
    else ⟨false, t :: u :: rest, by simp⟩
  | ts => ⟨false, ts, by simp⟩

/-- One end of a range: the word `from` or `to`, then a selector, with the word
`exclude` in front if the selected item lies outside. -/
def rangeEnd (word exclude : String) (inside outside : Side) (whole : Anchor) (ts : List Token) :
    Except StyleError (ReadAny Anchor ts) := do
  let ⟨given, rest, h⟩ := skipWord word ts
  if given then
    let ⟨excluded, rest, h₁⟩ := skipSide exclude rest
    let ⟨s, rest, h₂⟩ ← selector stop rest
    return ⟨⟨if excluded then outside else inside, s⟩, rest, by omega⟩
  else return ⟨whole, rest, h⟩

/-- A range: where it starts and where it ends, by default with the rule. -/
def range (ts : List Token) : Except StyleError (ReadAny (Anchor × Anchor) ts) := do
  let ⟨first, rest, h₁⟩ ← rangeEnd stop "from" "after" .before .after ⟨.before, .ruleStart⟩ ts
  let ⟨last, rest, h₂⟩ ← rangeEnd stop "to" "before" .after .before ⟨.after, .ruleEnd⟩ rest
  return ⟨(first, last), rest, by omega⟩

/-! ## Statements -/

/-- Brackets around a range. -/
def bracketed (scope : Scope) (ends : Anchor × Anchor) (b : Bracket) : List Command :=
  [.direct scope ends.1 (.opening b), .direct scope ends.2 (.closing b.name)]

/-- Spacing expressions, each with a semicolon, up to a closing brace. -/
def spacingBlock (ts : List Token) : Except StyleError (Read (List Doc) ts) :=
  match ts with
  | [] => .error (unexpected stop "spacing" [])
  | t :: ts =>
    if t.kind = .rightBrace then .ok ⟨[], ts, by simp⟩
    else do
      let ⟨d, rest, h₁⟩ ← spacing stop (t :: ts)
      have h₁ : rest.length < ts.length + 1 := h₁
      let ⟨_, rest, h₂⟩ ← expect stop .semicolon rest
      let ⟨ds, rest, h₃⟩ ← spacingBlock rest
      return ⟨d :: ds, rest, by simp only [List.length_cons]; omega⟩
termination_by ts.length

/-- More names, each behind a comma. -/
def names (ts : List Token) : Except StyleError (ReadAny (List String) ts) :=
  match ts with
  | [] => .ok ⟨[], [], by simp⟩
  | t :: ts =>
    if t.kind = .comma then do
      let ⟨name, rest, h₁⟩ ← expect stop .word ts
      let ⟨more, rest, h₂⟩ ← names rest
      return ⟨name.text :: more, rest, by simp only [List.length_cons]; omega⟩
    else .ok ⟨[], t :: ts, by simp⟩
termination_by ts.length

/-- Which trivia is kept. -/
def retention (ts : List Token) : Except StyleError (Read Retention ts) :=
  match ts with
  | [] => .error (unexpected stop TokenKind.word.shown [])
  | t :: ts =>
    if t.isWord "all" then .ok ⟨.all, ts, by simp⟩
    else if t.isWord "none" then .ok ⟨.only [], ts, by simp⟩
    else do
      let ⟨first, rest, h₁⟩ ← expect stop .word (t :: ts)
      let ⟨more, rest, h₂⟩ ← names stop rest
      return ⟨.only (first.text :: more), rest, by omega⟩

/-- The rest of a statement that ends with a semicolon. -/
def ended {α : Type} {ts : List Token} (r : ReadAny α ts) (commands : α → List Command) :
    Except StyleError (ReadAny (List Command) ts) := do
  let ⟨_, rest, h⟩ ← expect stop .semicolon r.rest
  have := r.noLonger
  return ⟨commands r.value, rest, by omega⟩

/-- `after` or `before` with a selector and a block of spacing. -/
def spacingStatement (scope : Scope) (side : Side) (ts : List Token) :
    Except StyleError (ReadAny (List Command) ts) := do
  let ⟨s, rest, h₁⟩ ← selector stop ts
  let ⟨_, rest, h₂⟩ ← expect stop .leftBrace rest
  let ⟨ds, rest, h₃⟩ ← spacingBlock stop rest
  return ⟨ds.map fun d => .direct scope ⟨side, s⟩ (.spacing d), rest, by omega⟩

/-- `nest` with the amount that may follow it. -/
def nestAmount (ts : List Token) : Except StyleError (ReadAny (Option UInt32) ts) :=
  match ts with
  | t :: rest =>
    if t.kind = .number then do
      let n ← numberOf t
      return ⟨some n, rest, by simp⟩
    else .ok ⟨none, t :: rest, by simp⟩
  | [] => .ok ⟨none, [], by simp⟩

/-- What follows the first word of a statement that opens no block for a rule. -/
def statementRest (scope : Scope) (t : Token) (ts : List Token) :
    Except StyleError (ReadAny (List Command) ts) :=
  match t.text with
  | "ws_allowed" => do
    let ⟨_, rest, h₁⟩ ← expect stop .colon ts
    let ⟨d, rest, h₂⟩ ← spacing stop rest
    ended stop ⟨d, rest, by omega⟩ fun d => [.setAllowed scope d]
  | "ws_required" => do
    let ⟨_, rest, h₁⟩ ← expect stop .colon ts
    let ⟨d, rest, h₂⟩ ← spacing stop rest
    ended stop ⟨d, rest, by omega⟩ fun d => [.setRequired scope d]
  | "after" => spacingStatement stop scope .after ts
  | "before" => spacingStatement stop scope .before ts
  | "omit" => do
    let ⟨s, rest, h₁⟩ ← selector stop ts
    ended stop ⟨s, rest, by omega⟩ fun s => [.treat scope ⟨.before, s⟩ .omitted]
  | "render" => do
    let ⟨s, rest, h₁⟩ ← selector stop ts
    let ⟨_, rest, h₂⟩ ← expectWord stop "as" rest
    let ⟨d, rest, h₃⟩ ← spacing stop rest
    ended stop ⟨d, rest, by omega⟩ fun d => [.treat scope ⟨.before, s⟩ (.replaced d)]
  | "group" => do
    ended stop (← range stop ts) fun ends => bracketed scope ends .group
  | "nest" => do
    let ⟨n, rest, h₁⟩ ← nestAmount ts
    let ⟨ends, rest, h₂⟩ ← range stop rest
    ended stop ⟨ends, rest, by omega⟩ fun ends => bracketed scope ends (.indent n)
  | "join" => do
    let ⟨ends, rest, h₁⟩ ← range stop ts
    let ⟨d, rest, h₂⟩ ← spacing stop rest
    ended stop ⟨d, rest, by omega⟩ fun d => bracketed scope ends (.join d)
  | "preserve" =>
    if scope.isSome then .error ⟨.preserveInRule, t.span⟩
    else do
      let ⟨r, rest, h₁⟩ ← retention stop ts
      ended stop ⟨r, rest, by omega⟩ fun r => [.retain r]
  | "rule" => .error ⟨.nestedRule, t.span⟩
  | word => .error ⟨.unknownStatement word, t.span⟩

/-- A statement that opens no block for a rule. -/
def statement (scope : Scope) (ts : List Token) : Except StyleError (Read (List Command) ts) :=
  match ts with
  | [] => .error (unexpected stop "statement" [])
  | t :: ts =>
    if t.kind ≠ .word then .error (unexpected stop "statement" (t :: ts))
    else do
      let ⟨commands, rest, h⟩ ← statementRest stop scope t ts
      return ⟨commands, rest, by simp only [List.length_cons]; omega⟩

/-- The statements for a rule, up to a closing brace or the end. -/
def block (rule : String) (ts : List Token) : Except StyleError (ReadAny (List Command) ts) :=
  match ts with
  | [] => .ok ⟨[], [], by simp⟩
  | t :: ts =>
    if t.kind = .rightBrace then .ok ⟨[], t :: ts, by simp⟩
    else do
      let ⟨commands, rest, h₁⟩ ← statement stop (some rule) (t :: ts)
      let ⟨more, rest, h₂⟩ ← block rule rest
      return ⟨commands ++ more, rest, by omega⟩
termination_by ts.length
decreasing_by exact h₁

/-- A name and a block of statements for the rule of that name. -/
def ruleBlock (ts : List Token) : Except StyleError (ReadAny (List Command) ts) := do
  let ⟨name, rest, h₁⟩ ← expect stop .word ts
  let ⟨_, rest, h₂⟩ ← expect stop .leftBrace rest
  let ⟨commands, rest, h₃⟩ ← block stop name.text rest
  let ⟨_, rest, h₄⟩ ← expect stop .rightBrace rest
  return ⟨commands, rest, by omega⟩

/-- All statements of a sheet. -/
def statements (ts : List Token) : Except StyleError (List Command) :=
  match ts with
  | [] => .ok []
  | t :: ts =>
    if t.isWord "rule" then do
      let ⟨commands, rest, _h⟩ ← ruleBlock stop ts
      return commands ++ (← statements rest)
    else do
      let ⟨commands, rest, _h⟩ ← statement stop none (t :: ts)
      return commands ++ (← statements rest)
termination_by ts.length
decreasing_by all_goals simp only [List.length_cons] at *; omega

/-! ## Sheets -/

/-- The commands that a style sheet stands for. -/
def commands (source : String) : Except StyleError (List Command) := do
  let ts ← Token.lex source
  statements (Text.width source.toList) ts

end Reprint.Sheet

namespace Reprint

/-- The style that a style sheet describes. -/
def Style.ofSheet (source : String) : Except StyleError Style :=
  (Sheet.commands source).map (Style.runAll {})

end Reprint
