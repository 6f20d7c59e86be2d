/-!
# Tables

A table holds one value for a key, in the order in which the keys came up.
-/

namespace Reprint

/-- Pairs of a key and a value. -/
abbrev Table (α β : Type) := List (α × β)

namespace Table

variable {α β : Type} [BEq α]

/-- The value for a key. -/
def get? (t : Table α β) (key : α) : Option β := t.lookup key

/-- Changes the value for a key; `new` is what a missing one counts as. -/
def modify (t : Table α β) (key : α) (new : β) (f : β → β) : Table α β :=
  match t with
  | [] => [(key, f new)]
  | (k, v) :: rest => if key == k then (k, f v) :: rest else (k, v) :: modify rest key new f

end Table

end Reprint
