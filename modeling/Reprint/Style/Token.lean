import Reprint.Span

/-!
# Tokens of style sheets

A style sheet is a text of words, numbers, strings and punctuation.  Blanks and
comments, which begin with two slashes, part tokens and mean nothing.  Statement
names are plain words, so labels may be spelled like them.
-/

namespace Reprint

/-! ## Errors -/

/-- What is wrong with a style sheet. -/
inductive StyleFault where
  | invalidToken
  | unexpected (expected found : String)
  | unknownStatement (word : String)
  | unknownSpacing (word : String)
  | nestedRule
  | preserveInRule
  | invalidNumber (digits : String)
  | tooLong (bytes : Nat)
  deriving DecidableEq, Repr, Inhabited

def StyleFault.message : StyleFault → String
  | .invalidToken => "invalid token"
  | .unexpected expected found => "expected " ++ expected ++ ", found " ++ found
  | .unknownStatement word => "unknown statement `" ++ word ++ "`"
  | .unknownSpacing word => "unknown spacing `" ++ word ++ "`"
  | .nestedRule => "`rule` blocks cannot be nested"
  | .preserveInRule => "`preserve` is only allowed at global scope"
  | .invalidNumber digits => "invalid number `" ++ digits ++ "`"
  | .tooLong bytes =>
    "configuration is " ++ toString bytes ++ " bytes, longer than the " ++ toString Span.limit
      ++ " byte limit"

/-- A fault and where it is. -/
structure StyleError where
  fault : StyleFault
  span : Span
  deriving DecidableEq, Repr, Inhabited

/-! ## Tokens -/

inductive TokenKind where
  | leftBrace
  | rightBrace
  | leftParen
  | rightParen
  | leftBracket
  | rightBracket
  | semicolon
  | colon
  | comma
  | number
  | string
  | word
  deriving DecidableEq, Repr, Inhabited

/-- A kind of token in the words of a message. -/
def TokenKind.shown : TokenKind → String
  | .leftBrace => "`\x7b`"
  | .rightBrace => "`\x7d`"
  | .leftParen => "`(`"
  | .rightParen => "`)`"
  | .leftBracket => "`[`"
  | .rightBracket => "`]`"
  | .semicolon => "`;`"
  | .colon => "`:`"
  | .comma => "`,`"
  | .number => "number"
  | .string => "string"
  | .word => "identifier"

structure Token where
  kind : TokenKind
  text : String
  span : Span
  deriving DecidableEq, Repr, Inhabited

namespace Token

/-- A token in the words of a message. -/
def shown (t : Token) : String :=
  match t.kind with
  | .word | .number | .string => t.kind.shown ++ " `" ++ t.text ++ "`"
  | kind => kind.shown

/-- Whether a token is a certain word. -/
def isWord (t : Token) (word : String) : Bool := t.kind == .word && t.text == word

/-! ## Cutting a text into pieces -/

/-- Characters that part tokens. -/
def isGap (c : Char) : Bool := c == ' ' || c == '\t' || c == '\r' || c == '\n'

/-- Characters that a word begins with. -/
def isWordStart (c : Char) : Bool := c.isAlpha || c == '_'

/-- Characters that a word goes on with. -/
def isWordRest (c : Char) : Bool := c.isAlphanum || c == '_'

def punctuation? : Char → Option TokenKind
  | '\x7b' => some .leftBrace
  | '\x7d' => some .rightBrace
  | '(' => some .leftParen
  | ')' => some .rightParen
  | '[' => some .leftBracket
  | ']' => some .rightBracket
  | ';' => some .semicolon
  | ':' => some .colon
  | ',' => some .comma
  | _ => none

/-- The number of characters of a string behind its opening quote, and whether
a closing quote follows them.  A backslash takes the character behind it along,
which must not be a line end. -/
def stringLength : List Char → Nat × Bool
  | [] => (0, false)
  | '"' :: _ => (0, true)
  | ['\\'] => (0, false)
  | '\\' :: c :: cs =>
    if c = '\n' then (0, false)
    else
      let (n, closed) := stringLength cs
      (n + 2, closed)
  | _ :: cs =>
    let (n, closed) := stringLength cs
    (n + 1, closed)

/-- What a piece of text is. -/
inductive Piece where
  | gap
  | token (kind : TokenKind)
  | invalid
  deriving DecidableEq, Repr, Inhabited

/-- The piece that begins with a character, and how many of the characters
behind it belong to it. -/
def firstPiece (c : Char) (cs : List Char) : Piece × Nat :=
  if isGap c then (.gap, 0)
  else if c == '/' then
    match cs with
    | '/' :: _ => (.gap, (cs.takeWhile (· != '\n')).length)
    | _ => (.invalid, 0)
  else if c.isDigit then (.token .number, (cs.takeWhile Char.isDigit).length)
  else if isWordStart c then (.token .word, (cs.takeWhile isWordRest).length)
  else if c == '"' then
    match stringLength cs with
    | (n, true) => (.token .string, n + 1)
    | (n, false) => (.invalid, n)
  else
    match punctuation? c with
    | some kind => (.token kind, 0)
    | none => (.invalid, 0)

/-- The tokens of a text that begins at an offset. -/
def lexFrom (offset : Nat) : List Char → Except StyleError (List Token)
  | [] => .ok []
  | c :: cs =>
    let (piece, more) := firstPiece c cs
    let text := c :: cs.take more
    let stop := offset + Text.width text
    match piece with
    | .gap => lexFrom stop (cs.drop more)
    | .token kind => do
      let rest ← lexFrom stop (cs.drop more)
      return ⟨kind, .ofList text, ⟨offset, stop⟩⟩ :: rest
    | .invalid => .error ⟨.invalidToken, ⟨offset, stop⟩⟩
termination_by cs => cs.length
decreasing_by all_goals simp only [List.length_drop, List.length_cons]; omega

/-- The tokens of a style sheet. -/
def lex (source : String) : Except StyleError (List Token) :=
  let bytes := Text.width source.toList
  if Span.limit < bytes then .error ⟨.tooLong bytes, .point 0⟩ else lexFrom 0 source.toList

/-! ## Strings -/

/-- The text that the characters between quotes stand for. -/
def unescape : List Char → List Char
  | [] => []
  | ['\\'] => ['\\']
  | '\\' :: c :: cs =>
    match c with
    | 'n' => '\n' :: unescape cs
    | 'r' => '\r' :: unescape cs
    | 't' => '\t' :: unescape cs
    | '\\' => '\\' :: unescape cs
    | '"' => '"' :: unescape cs
    | c => '\\' :: c :: unescape cs
  | c :: cs => c :: unescape cs

/-- The text that a string token stands for. -/
def content (t : Token) : String := .ofList (unescape (t.text.toList.drop 1).dropLast)

end Token

end Reprint
