import Mathlib.Data.List.Basic
import Reprint.Style.Anchor

/-!
# The written form of anchors

The side and the kind of selector are written as words without a colon.  So the first
two colons of a written anchor are the ones behind these words, and all that follows is
the last part, whatever colons it has.

An anchor can be written if its last part is empty at the ends of a rule and only there.
Reading and writing are inverse between these anchors and the texts that are read
(`reads_iff_written`).
-/

namespace Reprint

theorem Side.colon_notMem_word (side : Side) : ':' ∉ side.word.toList := by
  cases side <;> decide

namespace Selector

theorem colon_notMem_kind (s : Selector) : ':' ∉ s.kind.toList := by
  cases s with
  | label | literal => simp [kind]
  | ruleStart | ruleEnd => decide

/-- The last part of the written form is empty at the ends of a rule and only there. -/
def Writable (s : Selector) : Prop := s.value = "" ↔ s = .ruleStart ∨ s = .ruleEnd

@[simp] theorem writable_label {name : String} : (label name).Writable ↔ name ≠ "" := by
  simp [Writable, value]

@[simp] theorem writable_literal {text : String} : (literal text).Writable ↔ text ≠ "" := by
  simp [Writable, value]

@[simp] theorem writable_ruleStart : ruleStart.Writable := by simp [Writable, value]

@[simp] theorem writable_ruleEnd : ruleEnd.Writable := by simp [Writable, value]

/-- What is read from a kind and a last part can be written, and has them. -/
theorem writable_of_ofParts? {kind value : List Char} {s : Selector}
    (read : ofParts? kind value = some s) :
    s.Writable ∧ s.kind.toList = kind ∧ s.value.toList = value := by
  have nonempty : ¬ value.isEmpty → String.ofList value ≠ "" := by simp
  unfold ofParts? at read
  split_ifs at read with label none literal none start none final none
  all_goals obtain rfl := Option.some.inj read
  · exact ⟨writable_label.2 (nonempty none), label.symm, String.toList_ofList⟩
  · exact ⟨writable_literal.2 (nonempty none), literal.symm, String.toList_ofList⟩
  · exact ⟨writable_ruleStart, start.symm, (List.isEmpty_iff.1 none).symm⟩
  · exact ⟨writable_ruleEnd, final.symm, (List.isEmpty_iff.1 none).symm⟩

/-- A selector that can be written is read from its kind and its last part. -/
theorem ofParts?_of_writable {s : Selector} (writable : s.Writable) :
    ofParts? s.kind.toList s.value.toList = some s := by
  cases s with
  | label name =>
    have given : ¬ name.toList.isEmpty := by simpa using writable
    rw [ofParts?, kind, value, if_pos rfl, if_neg given, String.ofList_toList]
  | literal text =>
    have given : ¬ text.toList.isEmpty := by simpa using writable
    rw [ofParts?, kind, value, if_neg (by decide), if_pos rfl, if_neg given, String.ofList_toList]
  | ruleStart => rfl
  | ruleEnd => rfl

theorem ofParts?_eq_some_iff {kind value : List Char} {s : Selector} :
    ofParts? kind value = some s ↔ s.Writable ∧ s.kind.toList = kind ∧ s.value.toList = value := by
  refine ⟨writable_of_ofParts?, ?_⟩
  rintro ⟨writable, rfl, rfl⟩
  exact ofParts?_of_writable writable

end Selector

namespace Anchor

/-- What has no colon and a colon behind it is cut off. -/
theorem cut?_append {front : List Char} (without : ':' ∉ front) (back : List Char) :
    cut? (front ++ ':' :: back) = some (front, back) := by
  induction front with
  | nil => exact if_pos rfl
  | cons c front ih =>
    rw [List.mem_cons, not_or] at without
    rw [List.cons_append, cut?, if_neg (Ne.symm without.1), ih without.2]
    rfl

/-- A list is cut at its first colon. -/
theorem cut?_eq_some_iff {cs front back : List Char} :
    cut? cs = some (front, back) ↔ ':' ∉ front ∧ front ++ ':' :: back = cs := by
  constructor
  · intro cut
    induction cs generalizing front with
    | nil => cases cut
    | cons c cs ih =>
      rw [cut?] at cut
      split_ifs at cut with colon
      · obtain ⟨rfl, rfl⟩ := Prod.mk.inj (Option.some.inj cut)
        exact ⟨List.not_mem_nil, congrArg (· :: cs) colon.symm⟩
      · obtain ⟨⟨front', _⟩, rest, ⟨⟩⟩ := Option.map_eq_some_iff.1 cut
        obtain ⟨without, rfl⟩ := ih rest
        exact ⟨List.not_mem_cons_of_ne_of_not_mem (Ne.symm colon) without, rfl⟩
  · rintro ⟨without, rfl⟩
    exact cut?_append without back

theorem sideOf?_eq_some_iff {word : List Char} {side : Side} :
    sideOf? word = some side ↔ side.word.toList = word := by
  unfold sideOf?
  cases side <;> split_ifs <;> simp_all [Side.word, eq_comm]

theorem toList_text (a : Anchor) : a.text.toList =
    a.side.word.toList ++ ':' :: (a.selector.kind.toList ++ ':' :: a.selector.value.toList) := by
  simp [text]

/-- A text is read as an anchor if it is cut into the parts of one that can be written. -/
theorem ofText?_eq_some_iff {s : String} {a : Anchor} :
    ofText? s = some a ↔ ∃ rest,
      cut? s.toList = some (a.side.word.toList, rest) ∧
      cut? rest = some (a.selector.kind.toList, a.selector.value.toList) ∧ a.selector.Writable := by
  obtain ⟨side, selector⟩ := a
  simp only [ofText?, Option.bind_eq_bind, Option.bind_eq_some_iff, Prod.exists,
    sideOf?_eq_some_iff, Selector.ofParts?_eq_some_iff]
  constructor
  · rintro ⟨_, rest, first, _, _, second, _, rfl, _, ⟨writable, rfl, rfl⟩, ⟨⟩⟩
    exact ⟨rest, first, second, writable⟩
  · rintro ⟨rest, first, second, writable⟩
    exact ⟨_, rest, first, _, _, second, _, rfl, _, ⟨writable, rfl, rfl⟩, rfl⟩

/-- An anchor that can be written is read from its text. -/
theorem ofText?_text {a : Anchor} (writable : a.selector.Writable) : ofText? a.text = some a := by
  refine ofText?_eq_some_iff.2 ⟨_, ?_, cut?_append a.selector.colon_notMem_kind _, writable⟩
  rw [toList_text]
  exact cut?_append a.side.colon_notMem_word _

/-- What is read as an anchor can be written, and is written so. -/
theorem writable_of_ofText? {s : String} {a : Anchor} (read : ofText? s = some a) :
    a.selector.Writable ∧ a.text = s := by
  obtain ⟨rest, first, second, writable⟩ := ofText?_eq_some_iff.1 read
  refine ⟨writable, String.toList_injective ?_⟩
  rw [toList_text, (cut?_eq_some_iff.1 second).2, (cut?_eq_some_iff.1 first).2]

/-- A text is read as an anchor if and only if the anchor can be written and is written so.
So the texts that are read are the written forms of the anchors that can be written. -/
theorem reads_iff_written (s : String) :
    (∀ a, ofText? s = some a ↔ a.selector.Writable ∧ a.text = s) ∧
    ((ofText? s).isSome ↔ ∃ a : Anchor, a.selector.Writable ∧ a.text = s) := by
  have reads : ∀ a, ofText? s = some a ↔ a.selector.Writable ∧ a.text = s := by
    refine fun a => ⟨writable_of_ofText?, ?_⟩
    rintro ⟨writable, rfl⟩
    exact ofText?_text writable
  refine ⟨reads, ?_⟩
  rw [Option.isSome_iff_exists]
  exact exists_congr reads

/-- Only the first two colons divide. -/
example : ofText? "after:literal:a:b" = some ⟨.after, .literal "a:b"⟩ := by decide

end Anchor

end Reprint
