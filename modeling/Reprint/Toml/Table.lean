import Reprint.Toml.Value

/-!
# TOML tables

A table is made once, by a header or by keys with parts, and the two ways do not
mix; a table that only lies on the way to another one may still be given a
header.
-/

namespace Reprint.Toml

/-- How a table came about. -/
inductive Origin where
  /-- By its header, or as the document itself. -/
  | header
  /-- On the way to the header of another table. -/
  | passing
  /-- By a key with parts. -/
  | dotted
  deriving DecidableEq

/-- What a name in a table stands for. -/
inductive Item where
  | value (v : Value)
  | table (origin : Origin) (entries : List (String × Item))
  /-- An array of tables, last one first. -/
  | tables (elements : List (List (String × Item)))
  deriving Inhabited

/-- The entries of a table. -/
abbrev Entries := List (String × Item)

/-- Replaces what a name stands for, or adds it. -/
def put (entries : Entries) (name : String) (item : Item) : Entries :=
  if entries.any (·.1 == name) then
    entries.map fun e => if e.1 == name then (name, item) else e
  else entries ++ [(name, item)]

/-- Adds a value under a key with parts to a table; `top` says that the table is
the one the statement stands in. -/
def insert? (top : Bool) (origin : Origin) (entries : Entries) : List String → Value → Option Entries
  | [], _ => none
  | [name], v =>
    if entries.any (·.1 == name) || (top == (origin == .dotted)) then none
    else some (entries ++ [(name, .value v)])
  | name :: path, v =>
    match entries.lookup name with
    | none => (insert? false .dotted [] path v).map fun inner => put entries name (.table .dotted inner)
    | some (.table origin inner) =>
      if origin == .header then none
      else (insert? false origin inner path v).map fun inner => put entries name (.table origin inner)
    | some (.tables (last :: others)) =>
      (insert? false .header last path v).map fun last => put entries name (.tables (last :: others))
    | some _ => none

mutual

/-- What a name stands for, as a value. -/
def Item.toValue : Item → Value
  | .value v => v
  | .table _ entries => .table (entriesValues entries)
  | .tables elements => .array (elementsValues elements).reverse
termination_by structural i => i

def entriesValues : List (String × Item) → List (String × Value)
  | [] => []
  | e :: es => entryValue e :: entriesValues es
termination_by structural es => es

def entryValue : String × Item → String × Value
  | (name, item) => (name, item.toValue)
termination_by structural e => e

def elementsValues : List (List (String × Item)) → List Value
  | [] => []
  | e :: es => .table (entriesValues e) :: elementsValues es
termination_by structural es => es

end

end Reprint.Toml
