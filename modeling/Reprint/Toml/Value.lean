import Reprint.Text.Digits

/-!
# TOML values

The values that a settings file may hold.  Numbers, dates and words are written
without quotes and told apart by their form.
-/

namespace Reprint.Toml

/-- A value.  Of numbers with a fraction, and of dates and times, only the form
is checked, and the text is kept. -/
inductive Value where
  | string (s : String)
  | integer (n : Int)
  | float (text : String)
  | boolean (b : Bool)
  | time (text : String)
  | array (vs : List Value)
  | table (entries : List (String × Value))
  deriving Inhabited

/-! ## Numbers -/

/-- The text between separators. -/
def segments (sep : Char) : List Char → List (List Char)
  | [] => [[]]
  | c :: cs =>
    if c == sep then [] :: segments sep cs
    else
      match segments sep cs with
      | [] => [[c]]
      | first :: rest => (c :: first) :: rest

/-- The digits of a number, which may be grouped by single underscores between them. -/
def digits? (isDigit : Char → Bool) (cs : List Char) : Option (List Char) :=
  if (segments '_' cs).all fun part => !part.isEmpty && part.all isDigit then
    some (cs.filter (· != '_'))
  else none

/-- The number written with digits in a base. -/
def ofDigits (base : Nat) (ds : List Char) : Nat :=
  ds.foldl (fun n c => base * n + (Text.digitValue? c).getD 0) 0

/-- Decimal digits without a needless zero in front. -/
def decimal? (cs : List Char) : Option Nat := do
  let ds ← digits? Char.isDigit cs
  match ds with
  | '0' :: _ :: _ => none
  | ds => some (ofDigits 10 ds)

/-- A sign, if there is one, and what follows it. -/
def sign : List Char → Bool × List Char
  | '+' :: cs => (false, cs)
  | '-' :: cs => (true, cs)
  | cs => (false, cs)

/-- An integer of any size. -/
def anyInteger? : List Char → Option Int
  | '0' :: 'x' :: ds =>
    (digits? (fun c => (Text.digitValue? c).isSome) ds).map fun ds => ofDigits 16 ds
  | '0' :: 'o' :: ds => (digits? (fun c => '0' ≤ c && c ≤ '7') ds).map fun ds => ofDigits 8 ds
  | '0' :: 'b' :: ds => (digits? (fun c => c == '0' || c == '1') ds).map fun ds => ofDigits 2 ds
  | cs =>
    let (negative, ds) := sign cs
    (decimal? ds).map fun n => if negative then -(n : Int) else n

/-- An integer, which has to fit 64 bits. -/
def integer? (cs : List Char) : Option Int :=
  (anyInteger? cs).filter fun n => Int64.minValue.toInt ≤ n && n ≤ Int64.maxValue.toInt

/-- A number with a fraction or an exponent: whether it is negative, its digits,
and the power of ten that they are multiplied by. -/
def fraction? (cs : List Char) : Option (Bool × Nat × Int) := do
  let (negative, body) := sign cs
  let isMark (c : Char) : Bool := c == 'e' || c == 'E'
  let mantissa := body.takeWhile (!isMark ·)
  let whole := mantissa.takeWhile (· != '.')
  let _ ← decimal? whole
  let places ← match mantissa.dropWhile (· != '.') with
    | [] => some []
    | _ :: ds => digits? Char.isDigit ds
  let exponent ← match body.dropWhile (!isMark ·) with
    | [] => if places.isEmpty then none else some 0
    | _ :: ds =>
      let (negative, ds) := sign ds
      (digits? Char.isDigit ds).map fun ds =>
        if negative then -(ofDigits 10 ds : Int) else ofDigits 10 ds
  return (negative, ofDigits 10 (whole.filter (· != '_') ++ places), exponent - places.length)

/-- Whether `digits · 10 ^ power` is nearer to `2 ^ 1024` than to the greatest
number of 64 bits, or beyond.  The number of decimal places decides but for
those closest to it. -/
def isTooLarge (digits : Nat) (power : Int) : Bool :=
  let places : Int := (Nat.toDigits 10 digits).length + power
  if digits == 0 || places < 309 then false
  else if 309 < places then true
  else
    (Nat.pow 2 1024 - Nat.pow 2 970) * Nat.pow 10 (-power).toNat ≤ digits * Nat.pow 10 power.toNat

/-- Whether a text is a number with a fraction or an exponent that is not too
large, or one of the two words for numbers beyond all numbers. -/
def isFloat (cs : List Char) : Bool :=
  let (_, body) := sign cs
  if body == "inf".toList || body == "nan".toList then true
  else
    match fraction? cs with
    | some (negative, digits, power) => negative || !isTooLarge digits power
    | none => false

/-! ## Dates and times -/

/-- A number written with exactly so many digits, and what follows it. -/
def fixed? (count : Nat) (cs : List Char) : Option (Nat × List Char) :=
  let ds := cs.take count
  if ds.length == count && ds.all Char.isDigit then some (ofDigits 10 ds, cs.drop count) else none

/-- What follows a character. -/
def after? (isSep : Char → Bool) : List Char → Option (List Char)
  | c :: cs => if isSep c then some cs else none
  | [] => none

/-- The number of days of a month. -/
def daysIn (year month : Nat) : Nat :=
  if month == 2 then
    if year % 4 == 0 && (year % 100 != 0 || year % 400 == 0) then 29 else 28
  else if month == 4 || month == 6 || month == 9 || month == 11 then 30
  else 31

/-- What follows a date. -/
def date? (cs : List Char) : Option (List Char) := do
  let (year, cs) ← fixed? 4 cs
  let (month, cs) ← fixed? 2 (← after? (· == '-') cs)
  let (day, cs) ← fixed? 2 (← after? (· == '-') cs)
  if 1 ≤ month && month ≤ 12 && 1 ≤ day && day ≤ daysIn year month then some cs else none

/-- What follows a time of day. -/
def timeOfDay? (cs : List Char) : Option (List Char) := do
  let (hour, cs) ← fixed? 2 cs
  let (minute, cs) ← fixed? 2 (← after? (· == ':') cs)
  let (second, cs) ← fixed? 2 (← after? (· == ':') cs)
  if hour ≤ 23 && minute ≤ 59 && second ≤ 60 then
    match cs with
    | '.' :: ds =>
      if (ds.takeWhile Char.isDigit).isEmpty then none else some (ds.dropWhile Char.isDigit)
    | cs => some cs
  else none

/-- Whether a text is an offset from universal time, or nothing. -/
def isOffset : List Char → Bool
  | [] => true
  | [c] => c == 'Z' || c == 'z'
  | c :: cs =>
    (c == '+' || c == '-') &&
      match do
        let (hour, cs) ← fixed? 2 cs
        let (minute, cs) ← fixed? 2 (← after? (· == ':') cs)
        return (hour, minute, cs) with
      | some (hour, minute, []) => hour ≤ 23 && minute ≤ 59
      | _ => false

/-- Whether a text is a date, a time or both. -/
def isTime (cs : List Char) : Bool :=
  match date? cs with
  | some [] => true
  | some rest =>
    match (after? (fun c => c == 'T' || c == 't' || c == ' ') rest).bind timeOfDay? with
    | some rest => isOffset rest
    | none => false
  | none => timeOfDay? cs == some []

/-! ## Words -/

/-- The value written without quotes. -/
def plain? (cs : List Char) : Option Value :=
  if cs == "true".toList then some (.boolean true)
  else if cs == "false".toList then some (.boolean false)
  else
    match integer? cs with
    | some n => some (.integer n)
    | none =>
      if isFloat cs then some (.float (.ofList cs))
      else if isTime cs then some (.time (.ofList cs))
      else none

end Reprint.Toml
