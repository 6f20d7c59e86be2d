/-!
# Sets of code points

A set of code points is a list of inclusive ranges in order, with room between
them.  Long tables are written as text, in hexadecimal digits.
-/

namespace Reprint.Text

/-- Inclusive ranges of code points, in order and apart from each other. -/
abbrev Ranges := List (Nat × Nat)

namespace Ranges

/-- The greatest code point. -/
def last : Nat := 0x10ffff

/-- Whether a code point lies in one of the ranges. -/
def contains : Ranges → Nat → Bool
  | [], _ => false
  | (low, high) :: rest, code => low ≤ code && (code ≤ high || contains rest code)

/-! ## Building sets -/

/-- Joins ranges that meet or overlap, given a list ordered by lower ends. -/
def joinFrom (low high : Nat) : Ranges → Ranges
  | [] => [(low, high)]
  | (low', high') :: rest =>
    if low' ≤ high + 1 then joinFrom low (max high high') rest
    else (low, high) :: joinFrom low' high' rest

/-- Joins ranges that meet or overlap, given a list ordered by lower ends. -/
def join : Ranges → Ranges
  | [] => []
  | (low, high) :: rest => joinFrom low high rest

/-- The set of the ranges of a list in any order. -/
def ofList (ranges : List (Nat × Nat)) : Ranges :=
  join (ranges.mergeSort fun r r' => r.1 ≤ r'.1)

/-- The set of one code point. -/
def single (code : Nat) : Ranges := [(code, code)]

def union (s t : Ranges) : Ranges := join (s.merge t fun r r' => r.1 ≤ r'.1)

def unions (sets : List Ranges) : Ranges := ofList sets.flatten

/-- The code points between the ranges, from `start` on. -/
def gapsFrom (start : Nat) : Ranges → Ranges
  | [] => if start ≤ last then [(start, last)] else []
  | (low, high) :: rest =>
    if start < low then (start, low - 1) :: gapsFrom (high + 1) rest
    else gapsFrom (high + 1) rest

/-- All other code points. -/
def compl (s : Ranges) : Ranges := s.gapsFrom 0

def inter (s t : Ranges) : Ranges := (s.compl.union t.compl).compl

def diff (s t : Ranges) : Ranges := s.inter t.compl

def symmDiff (s t : Ranges) : Ranges := (s.diff t).union (t.diff s)

/-! ## Tables -/

/-- The number written in hexadecimal digits, of which the letters are small. -/
def hexNumber (s : String) : Nat :=
  s.toList.foldl (fun n c => 16 * n + (if c.isDigit then c.toNat - 48 else c.toNat - 87)) 0

/-- The entry of a table: `41` for one code point, `41-5a` for a range and
`100-12e/2` for every second code point of a range. -/
def ofEntry (entry : String) : List (Nat × Nat) :=
  match entry.splitOn "-" with
  | [one] => single (hexNumber one)
  | [low, high] =>
    match high.splitOn "/" with
    | [high, stride] =>
      let low := hexNumber low
      let stride := hexNumber stride
      (List.range ((hexNumber high - low) / stride + 1)).flatMap fun i => single (low + i * stride)
    | _ => [(hexNumber low, hexNumber high)]
  | _ => []

/-- The set written in the lines of a table, whose entries are in order and
parted by single spaces. -/
def ofLines (lines : List String) : Ranges :=
  join (lines.flatMap fun line => (line.splitOn " ").flatMap ofEntry)

end Ranges

end Reprint.Text
