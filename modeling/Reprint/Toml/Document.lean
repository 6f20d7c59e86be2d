import Reprint.Toml.Reader

/-!
# TOML documents

A document is a list of statements: a key with a value, or the header of a table
or of an element of an array of tables.  Entries stand in the table of the last
header before them.
-/

namespace Reprint.Toml

/-! ## Statements -/

inductive Statement where
  | entry (key : List String) (v : Value)
  | header (key : List String)
  | element (key : List String)

/-- What follows the rest of a line that says nothing more. -/
def lineEnd? (cs : List Char) : Option (List Char) :=
  match skipComment (skipSpaces cs) with
  | [] => some []
  | rest => newline? rest

/-- One statement, up to the end of its line. -/
def statement? : Reader Statement
  | '[' :: '[' :: cs => do
    let (key, rest) ← key? cs
    match rest with
    | ']' :: ']' :: rest => return (.element key, ← lineEnd? rest)
    | _ => none
  | '[' :: cs => do
    let (key, rest) ← key? cs
    match rest with
    | ']' :: rest => return (.header key, ← lineEnd? rest)
    | _ => none
  | cs => do
    let (key, rest) ← key? cs
    match rest with
    | '=' :: rest =>
      let (v, rest) ← value? depthLimit (skipSpaces rest)
      return (.entry key v, ← lineEnd? rest)
    | _ => none

/-- All statements of a document. -/
def statements? (cs : List Char) : Option (List Statement) :=
  match skipLines cs with
  | [] => some []
  | start =>
    match statement? start with
    | none => none
    | some (s, rest) =>
      if rest.length < cs.length then (statements? rest).map (s :: ·) else none
termination_by cs.length

/-! ## Tables -/

/-- Changes the table at the end of a path, through tables made on the way and
the last elements of arrays of tables. -/
def descend? (f : Entries → Option Entries) (entries : Entries) : List String → Option Entries
  | [] => f entries
  | name :: path =>
    match entries.lookup name with
    | none => (descend? f [] path).map fun inner => put entries name (.table .passing inner)
    | some (.table origin inner) =>
      (descend? f inner path).map fun inner => put entries name (.table origin inner)
    | some (.tables (last :: others)) =>
      (descend? f last path).map fun last => put entries name (.tables (last :: others))
    | some _ => none

/-- Opens the table of a header. -/
def openTable? (name : String) (entries : Entries) : Option Entries :=
  match entries.lookup name with
  | none => some (put entries name (.table .header []))
  | some (.table .passing inner) => some (put entries name (.table .header inner))
  | some _ => none

/-- Opens another element of an array of tables. -/
def openElement? (name : String) (entries : Entries) : Option Entries :=
  match entries.lookup name with
  | none => some (put entries name (.tables [[]]))
  | some (.tables elements) => some (put entries name (.tables ([] :: elements)))
  | some _ => none

/-- The document after a statement, and the table that later statements stand in. -/
def run? (state : List String × Entries) : Statement → Option (List String × Entries)
  | .entry key v => do
    let entries ← descend? (fun entries => insert? true .header entries key v) state.2 state.1
    return (state.1, entries)
  | .header key => do
    let name ← key.getLast?
    let entries ← descend? (openTable? name) state.2 key.dropLast
    return (key, entries)
  | .element key => do
    let name ← key.getLast?
    let entries ← descend? (openElement? name) state.2 key.dropLast
    return (key, entries)

/-- The entries of a document, if it is well formed. -/
def read? (source : String) : Option Entries := do
  let text := match source.toList with
    | '\ufeff' :: cs => cs
    | cs => cs
  let ss ← statements? text
  let (_, entries) ← ss.foldlM run? ([], [])
  return entries

end Reprint.Toml
