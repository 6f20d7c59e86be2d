import Reprint.Toml.Table

/-!
# Reading TOML

Strings, keys and values.  A reader takes a text and gives what it read with the
text behind it, or nothing if the text is malformed.  Loops go on only while the
text gets shorter.
-/

namespace Reprint.Toml

/-- A reader of something at the front of a text. -/
abbrev Reader (α : Type) := List Char → Option (α × List Char)

/-! ## Blanks -/

def isSpace (c : Char) : Bool := c == ' ' || c == '\t'

def skipSpaces (cs : List Char) : List Char := cs.dropWhile isSpace

/-- Characters that may stand in comments and in strings on one line. -/
def isPlainChar (c : Char) : Bool := c == '\t' || (' ' ≤ c && c != '\x7f')

/-- What follows a line end. -/
def newline? : List Char → Option (List Char)
  | '\n' :: cs => some cs
  | '\r' :: '\n' :: cs => some cs
  | _ => none

/-- What follows a comment, if one begins here. -/
def skipComment : List Char → List Char
  | '#' :: cs => cs.dropWhile isPlainChar
  | cs => cs

/-- What follows blanks, line ends and comments. -/
def skipLines (cs : List Char) : List Char :=
  let rest := skipComment (skipSpaces cs)
  match newline? rest with
  | some next => if next.length < cs.length then skipLines next else next
  | none => rest
termination_by cs.length

/-! ## Strings -/

/-- A character by its number in so many hexadecimal digits. -/
def code? (count : Nat) (cs : List Char) : Option (Char × List Char) :=
  let ds := cs.take count
  if ds.length == count then
    (Text.hexChar? ds).map fun c => (c, cs.drop count)
  else none

/-- A character behind a backslash. -/
def escape? : Reader Char
  | 'b' :: cs => some ('\x08', cs)
  | 't' :: cs => some ('\t', cs)
  | 'n' :: cs => some ('\n', cs)
  | 'f' :: cs => some ('\x0c', cs)
  | 'r' :: cs => some ('\r', cs)
  | '"' :: cs => some ('"', cs)
  | '\\' :: cs => some ('\\', cs)
  | 'u' :: cs => code? 4 cs
  | 'U' :: cs => code? 8 cs
  | _ => none

/-- The rest of a string on one line, with escapes, behind its opening quote. -/
def basicString (sofar : List Char) (cs : List Char) : Option (List Char × List Char) :=
  match cs with
  | [] => none
  | '"' :: rest => some (sofar.reverse, rest)
  | '\\' :: rest =>
    match escape? rest with
    | some (c, next) =>
      if next.length < rest.length then basicString (c :: sofar) next else none
    | none => none
  | c :: rest => if isPlainChar c then basicString (c :: sofar) rest else none
termination_by cs.length
decreasing_by all_goals simp only [List.length_cons]; omega

/-- The rest of a string on one line, without escapes, behind its opening quote. -/
def literalString (cs : List Char) : Option (List Char × List Char) :=
  match cs.dropWhile (fun c => c != '\'' && isPlainChar c) with
  | '\'' :: rest => some (cs.takeWhile (fun c => c != '\'' && isPlainChar c), rest)
  | _ => none

/-- What follows blanks and line ends. -/
def skipBlankLines (cs : List Char) : List Char :=
  let rest := skipSpaces cs
  match newline? rest with
  | some next => if next.length < cs.length then skipBlankLines next else next
  | none => rest
termination_by cs.length

/-- What follows a backslash at the end of a line: the next text that is not blank. -/
def continued? (cs : List Char) : Option (List Char) :=
  (newline? (skipSpaces cs)).map skipBlankLines

/-- The rest of a string over several lines behind its three opening quotes.
One or two quotes may stand before the three that close it. -/
def longString (quote : Char) (escapes : Bool) (sofar : List Char) (cs : List Char) :
    Option (List Char × List Char) :=
  match cs with
  | [] => none
  | c :: rest =>
    if c == quote then
      let run := (cs.takeWhile (· == quote)).length
      if 3 ≤ run then
        if run ≤ 5 then some (sofar.reverse ++ List.replicate (run - 3) quote, cs.drop run) else none
      else longString quote escapes (quote :: sofar) rest
    else if escapes && c == '\\' then
      match continued? rest with
      | some next => if next.length < rest.length then longString quote escapes sofar next else none
      | none =>
        match escape? rest with
        | some (c, next) =>
          if next.length < rest.length then longString quote escapes (c :: sofar) next else none
        | none => none
    else if c == '\n' then longString quote escapes (c :: sofar) rest
    else if c == '\r' then
      if rest.head? == some '\n' then longString quote escapes sofar rest else none
    else if isPlainChar c then longString quote escapes (c :: sofar) rest
    else none
termination_by cs.length
decreasing_by all_goals simp only [List.length_cons]; omega

/-- A string over several lines, behind its opening quotes.  A line end right
behind them does not count. -/
def longStringBody (quote : Char) (escapes : Bool) (cs : List Char) :
    Option (List Char × List Char) :=
  longString quote escapes [] ((newline? cs).getD cs)

/-- A string. -/
def string? : Reader String := fun cs =>
  let read : Option (List Char × List Char) :=
    match cs with
    | '"' :: '"' :: '"' :: rest => longStringBody '"' true rest
    | '\'' :: '\'' :: '\'' :: rest => longStringBody '\'' false rest
    | '"' :: rest => basicString [] rest
    | '\'' :: rest => literalString rest
    | _ => none
  read.map fun (s, rest) => (.ofList s, rest)

/-! ## Keys -/

def isBareKeyChar (c : Char) : Bool := c.isAlphanum || c == '_' || c == '-'

/-- One part of a key. -/
def keyPart? : Reader String
  | '"' :: cs => (basicString [] cs).map fun (s, rest) => (.ofList s, rest)
  | '\'' :: cs => (literalString cs).map fun (s, rest) => (.ofList s, rest)
  | cs =>
    let name := cs.takeWhile isBareKeyChar
    if name.isEmpty then none else some (.ofList name, cs.dropWhile isBareKeyChar)

/-- The parts of a key, with dots between them.  Blanks around the parts do not
count. -/
def keyParts? (cs : List Char) : Option (List String × List Char) := do
  let (first, rest) ← keyPart? (skipSpaces cs)
  match skipSpaces rest with
  | '.' :: next =>
    if next.length < cs.length then
      let (more, rest) ← keyParts? next
      return (first :: more, rest)
    else none
  | rest => return ([first], rest)
termination_by cs.length

/-- How many parts a key may have, and how deep arrays and tables in braces may
nest. -/
def depthLimit : Nat := 79

/-- A key. -/
def key? : Reader (List String) := fun cs =>
  (keyParts? cs).filter fun (parts, _) => parts.length ≤ depthLimit

/-! ## Values -/

/-- Characters of values written without quotes. -/
def isValueChar (c : Char) : Bool :=
  c.isAlphanum || c == '_' || c == '+' || c == '-' || c == '.' || c == ':'

/-- A value written without quotes.  A date and a time may be parted by a space. -/
def plainValue? : Reader Value := fun cs =>
  let word := cs.takeWhile isValueChar
  let rest := cs.dropWhile isValueChar
  match rest with
  | ' ' :: next =>
    let time := next.takeWhile isValueChar
    if date? word == some [] && (fixed? 2 time).isSome then
      (plain? (word ++ ' ' :: time)).map fun v => (v, next.dropWhile isValueChar)
    else (plain? word).map fun v => (v, rest)
  | rest => (plain? word).map fun v => (v, rest)

/-- The rest of an array, behind a bracket or a comma. -/
def arrayItems (item : Reader Value) (cs : List Char) : Option (List Value × List Char) :=
  match skipLines cs with
  | ']' :: rest => some ([], rest)
  | start =>
    match item start with
    | none => none
    | some (v, rest) =>
      match skipLines rest with
      | ']' :: rest => some ([v], rest)
      | ',' :: rest =>
        if rest.length < cs.length then
          (arrayItems item rest).map fun (vs, rest) => (v :: vs, rest)
        else none
      | _ => none
termination_by cs.length

/-- The rest of a table in braces, behind the brace or a comma: keys and values. -/
def inlineItems (item : Reader Value) (cs : List Char) :
    Option (List (List String × Value) × List Char) := do
  let (key, rest) ← key? cs
  let (v, rest) ← match rest with
    | '=' :: rest => item (skipSpaces rest)
    | _ => none
  match skipSpaces rest with
  | '\x7d' :: rest => return ([(key, v)], rest)
  | ',' :: rest =>
    if rest.length < cs.length then
      let (more, rest) ← inlineItems item rest
      return ((key, v) :: more, rest)
    else none
  | _ => none
termination_by cs.length

/-- A table in braces. -/
def inlineTable? (item : Reader Value) (cs : List Char) : Option (Value × List Char) :=
  match skipSpaces cs with
  | '\x7d' :: rest => some (.table [], rest)
  | start => do
    let (items, rest) ← inlineItems item start
    let entries ← items.foldlM (fun entries (key, v) => insert? true .header entries key v) []
    return (.table (entriesValues entries), rest)

/-- A value, with arrays and tables in braces nested no deeper than `depth`. -/
def value? (depth : Nat) : Reader Value := fun cs =>
  match depth, cs with
  | depth + 1, '[' :: rest =>
    (arrayItems (value? depth) rest).map fun (vs, rest) => (.array vs, rest)
  | depth + 1, '\x7b' :: rest => inlineTable? (value? depth) rest
  | _, '"' :: _ | _, '\'' :: _ => (string? cs).map fun (s, rest) => (.string s, rest)
  | _, cs => plainValue? cs

end Reprint.Toml
