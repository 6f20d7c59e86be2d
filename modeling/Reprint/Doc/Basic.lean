/-!
# Documents

A document says what is to be printed and where a line may be broken, and
leaves the line breaking to the layout.  While a tree is being retraced the
document also holds *control* nodes: spacing asked for after or before an
item, and the slots between items.  They are decisions put off until the
neighbours are known.  A final document holds neither control nodes nor joins.
-/

namespace Reprint

/-! ## The algebra -/

/-- What is printed without further structure. -/
inductive Leaf where
  /-- Text, printed as it stands. -/
  | text (s : String)
  /-- A comment kept from the source, printed as it stands. -/
  | comment (s : String)
  /-- A space on a flat line, a line end on a broken one. -/
  | line
  /-- A space, never a line end. -/
  | space
  /-- Nothing on a flat line, a line end on a broken one. -/
  | softline
  /-- A line end followed by this many blank lines. -/
  | hardline (blanks : UInt32)
  deriving DecidableEq, Repr, Inhabited

/-- A document. -/
inductive Doc where
  | empty
  | leaf (l : Leaf)
  /-- Printed on one line if it fits there. -/
  | group (body : Doc)
  /-- Line ends inside are indented, by the layout's unit if no amount is given. -/
  | indent (amount : Option UInt32) (body : Doc)
  | seq (parts : List Doc)
  /-- The items with the separator in each gap between them. -/
  | join (items : List Doc) (separator : Doc)
  /-- Spacing asked for after an item. -/
  | after (spacing : Doc)
  /-- Spacing asked for before an item. -/
  | before (spacing : Doc)
  /-- The place between two items: the spacing that is usual there, the
  trivia that the source had there, and whether something has to stand there. -/
  | slot (spacing trivia : Option Doc) (required : Bool)
  deriving Inhabited

namespace Doc

@[match_pattern] abbrev text (s : String) : Doc := .leaf (.text s)
@[match_pattern] abbrev comment (s : String) : Doc := .leaf (.comment s)
@[match_pattern] abbrev line : Doc := .leaf .line
@[match_pattern] abbrev space : Doc := .leaf .space
@[match_pattern] abbrev softline : Doc := .leaf .softline
@[match_pattern] abbrev hardline (blanks : UInt32) : Doc := .leaf (.hardline blanks)

/-- A slot with its usual spacing. -/
abbrev spacingSlot (spacing : Doc) (required : Bool) : Doc := .slot (some spacing) none required

/-- A slot that keeps trivia of the source. -/
abbrev triviaSlot (trivia : Doc) (required : Bool) : Doc := .slot none (some trivia) required

/-! ## Kinds of node -/

def isEmpty : Doc → Bool
  | .empty => true
  | _ => false

/-- Control nodes put a decision off. -/
def isControl : Doc → Bool
  | .after _ | .before _ | .slot .. => true
  | _ => false

def isAfter : Doc → Bool
  | .after _ => true
  | _ => false

def isSlot : Doc → Bool
  | .slot .. => true
  | _ => false

/-- The four kinds of white space. -/
def isSpacing : Doc → Bool
  | .line | .space | .softline | .hardline _ => true
  | _ => false

/-- White space that may end a line. -/
def isBreak : Doc → Bool
  | .line | .softline | .hardline _ => true
  | _ => false

/-- Of a slot, whether it keeps trivia and whether it says nothing at all. -/
def slotState? : Doc → Option (Bool × Bool)
  | .slot spacing trivia required =>
    some (trivia.isSome, spacing.isNone && trivia.isNone && !required)
  | _ => none

mutual

/-- Whether no decision is left open in the document. -/
def isFinal : Doc → Bool
  | .empty | .leaf _ => true
  | .group body => body.isFinal
  | .indent _ body => body.isFinal
  | .seq parts => allFinal parts
  | .join .. | .after _ | .before _ | .slot .. => false
termination_by structural d => d

/-- Whether no decision is left open in any of the documents. -/
def allFinal : List Doc → Bool
  | [] => true
  | d :: ds => d.isFinal && allFinal ds
termination_by structural ds => ds

end

/-! ## Sequences -/

/-- The parts of a sequence; any other document is its own only part. -/
def items : Doc → List Doc
  | .seq parts => parts
  | .empty => []
  | d => [d]

/-- The parts that a document adds to a sequence it stands in. -/
def splice (d : Doc) : List Doc := d.items.filter (!·.isEmpty)

/-- A list of parts as one document: nothing, the only part, or a sequence. -/
def ofParts : List Doc → Doc
  | [] => .empty
  | [d] => d
  | ds => .seq ds

/-- The documents one after the other.  Inner sequences are opened, empty
parts are left out, and a sequence of one part is that part. -/
def concat (ds : List Doc) : Doc := ofParts (ds.flatMap splice)

end Doc

end Reprint
