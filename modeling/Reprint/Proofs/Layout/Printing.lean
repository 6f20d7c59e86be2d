import Mathlib.Logic.Relation
import Reprint.Proofs.Layout

/-!
# Where printing comes to

A document is printed part by part, each part in a mode, at a margin and behind what is
on the page by then.  `Job.Reaches` says which parts printing comes to and in which state.
What every leaf that is reached keeps is kept by the whole (`Job.Keeps.result`), and holds
wherever printing comes to (`Job.Keeps.page`).

Lines are counted in words: that a document does not overflow, which is decided without
printing it, says just that no count goes wrong wherever printing comes to
(`Doc.render?_eq_some_iff`).
-/

namespace Reprint

/-- A document that is to be printed: whether its line is flat, at which margin, and
behind which page. -/
structure Job where
  doc : Doc
  mode : Mode
  margin : Nat
  page : Page

namespace Job

variable (layout : Layout)

/-- The printing of a whole document. -/
def start (d : Doc) : Job := ⟨d, .broken, 0, {}⟩

/-- The page when all is printed. -/
def result (job : Job) : Page := job.doc.print layout job.mode job.margin job.page

/-- Which part a job comes to next, or what is left of it behind a part. -/
inductive Comes : Job → Job → Prop
  | group {body mode margin page} :
      Comes ⟨.group body, mode, margin, page⟩
        ⟨body, if body.fits layout.width.toNat page.column then .flat else .broken, margin, page⟩
  | indent {amount body mode margin page} :
      Comes ⟨.indent amount body, mode, margin, page⟩
        ⟨body, mode, margin + (amount.getD layout.unit).toNat, page⟩
  | part {d ds mode margin page} : Comes ⟨.seq (d :: ds), mode, margin, page⟩ ⟨d, mode, margin, page⟩
  | parts {d ds mode margin page} :
      Comes ⟨.seq (d :: ds), mode, margin, page⟩
        ⟨.seq ds, mode, margin, d.print layout mode margin page⟩
  | item {d ds separator mode margin page} :
      Comes ⟨.join (d :: ds) separator, mode, margin, page⟩ ⟨d, mode, margin, page⟩
  /-- A separator is printed only if there is one more item. -/
  | separator {d e ds separator mode margin page} :
      Comes ⟨.join (d :: e :: ds) separator, mode, margin, page⟩
        ⟨separator, mode, margin, d.print layout mode margin page⟩
  | items {d e ds separator mode margin page} :
      Comes ⟨.join (d :: e :: ds) separator, mode, margin, page⟩
        ⟨.join (e :: ds) separator, mode, margin,
          separator.print layout mode margin (d.print layout mode margin page)⟩

/-- What printing comes to in the course of a job. -/
def Reaches : Job → Job → Prop := Relation.ReflTransGen (Comes layout)

/-- Each leaf that a job comes to keeps what is known of the page. -/
def Keeps (P : Page → Prop) (job : Job) : Prop :=
  ∀ l mode margin page, Reaches layout job ⟨.leaf l, mode, margin, page⟩ → P page →
    P (l.print mode margin page)

variable {layout} {P : Page → Prop}

theorem Keeps.of_comes {job part : Job} (keeps : Keeps layout P job) (comes : Comes layout job part) :
    Keeps layout P part := fun l mode margin page reached => keeps l mode margin page (.head comes reached)

/-- What each leaf that is reached keeps is kept by the whole job. -/
theorem Keeps.result {job : Job} (keeps : Keeps layout P job) (before : P job.page) :
    P (job.result layout) := by
  obtain ⟨d, mode, margin, page⟩ := job
  induction d generalizing mode margin page with
  | empty | after | before | slot => exact before
  | leaf l => exact keeps l mode margin page .refl before
  | group body ih => exact ih _ _ _ (keeps.of_comes .group) before
  | indent amount body ih => exact ih _ _ _ (keeps.of_comes .indent) before
  | seq parts ih =>
    induction parts generalizing page with
    | nil => exact before
    | cons d ds behind =>
      obtain ⟨first, others⟩ := List.forall_mem_cons.1 ih
      exact behind others _ (keeps.of_comes .parts) (first _ _ _ (keeps.of_comes .part) before)
  | join items separator ih own =>
    induction items generalizing page with
    | nil => exact before
    | cons d ds behind =>
      obtain ⟨first, others⟩ := List.forall_mem_cons.1 ih
      have printed := first _ _ _ (keeps.of_comes .item) before
      cases ds with
      | nil => exact printed
      | cons e ds =>
        exact behind others _ (keeps.of_comes .items) (own _ _ _ (keeps.of_comes .separator) printed)

/-- What each leaf that is reached keeps holds behind whatever is printed before a part. -/
theorem Keeps.page {job part : Job} (keeps : Keeps layout P job) (reached : Reaches layout job part)
    (before : P job.page) : P part.page := by
  induction reached using Relation.ReflTransGen.head_induction_on with
  | refl => exact before
  | head comes _ ih =>
    refine ih (keeps.of_comes comes) ?_
    cases comes with
    | group | indent | part | item => exact before
    | parts => exact (keeps.of_comes .part).result before
    | separator => exact (keeps.of_comes .item).result before
    | items =>
      have printed := (keeps.of_comes .item).result before
      exact (keeps.of_comes .separator).result printed

/-! ## What is on the page -/

/-- A leaf is printed by writing a text or by ending lines, or not at all. -/
theorem keeps_of_steps (write : ∀ (page : Page) s, P page → P (page.write s))
    (endLines : ∀ (page : Page) count margin, 0 < count → P page → P (page.endLines count margin))
    (job : Job) : Keeps layout P job := by
  intro l mode margin page _ before
  cases l with
  | text s | comment s => exact write page s before
  | space => exact write page " " before
  | hardline blanks => exact endLines page _ margin (Nat.succ_pos _) before
  | line =>
    cases mode with
    | flat => exact write page " " before
    | broken => exact endLines page 1 margin Nat.one_pos before
  | softline =>
    cases mode with
    | flat => exact before
    | broken => exact endLines page 1 margin Nat.one_pos before

theorem keeps_written (text : List Char) (job : Job) :
    Keeps layout (fun page => text <+: page.text.toList) job := by
  refine keeps_of_steps (fun page s before => before.trans ?_)
    (fun page count margin _ before => before.trans ?_) job
  · rw [Page.toList_write]
    split_ifs <;> simp [List.append_assoc]
  · simp [Page.toList_endLines]

/-- What is on the page stays there. -/
theorem prefix_result (job : Job) : job.page.text.toList <+: (job.result layout).text.toList :=
  (keeps_written _ job).result List.prefix_rfl

/-- What a part leaves on the page stays there. -/
theorem prefix_of_reaches {job part : Job} (reached : Reaches layout job part) :
    (part.result layout).text.toList <+: (job.result layout).text.toList := by
  induction reached using Relation.ReflTransGen.head_induction_on with
  | refl => exact List.prefix_rfl
  | head comes _ ih =>
    refine ih.trans ?_
    cases comes with
    | group | indent | parts | items => exact List.prefix_rfl
    | @part d ds mode margin page => exact prefix_result ⟨.seq ds, mode, margin, d.print layout mode margin page⟩
    | @item d ds separator mode margin page =>
      cases ds with
      | nil => exact List.prefix_rfl
      | cons e ds =>
        have gap := @prefix_result layout
          ⟨separator, mode, margin, d.print layout mode margin page⟩
        exact gap.trans (prefix_result ⟨.join (e :: ds) separator, mode, margin, _⟩)
    | @separator d e ds separator mode margin page =>
      exact prefix_result ⟨.join (e :: ds) separator, mode, margin,
        separator.print layout mode margin (d.print layout mode margin page)⟩

/-! ## Line counts -/

variable (layout) in
/-- At each hard line end that a job comes to, one more than its count of blank lines is the
same whether words or numbers are added. -/
def CountsInWords (job : Job) : Prop :=
  ∀ blanks mode margin page, Reaches layout job ⟨.leaf (.hardline blanks), mode, margin, page⟩ →
    (blanks + 1).toNat = blanks.toNat + 1

theorem CountsInWords.of_comes {job part : Job} (counts : job.CountsInWords layout)
    (comes : Comes layout job part) : part.CountsInWords layout :=
  fun blanks mode margin page reached => counts blanks mode margin page (.head comes reached)

theorem overflows_of_comes {job part : Job} (comes : Comes layout job part)
    (small : job.doc.overflows = false) : part.doc.overflows = false := by
  cases comes with
  | group | indent => exact small
  | part => exact (Bool.or_eq_false_iff.1 small).1
  | parts => exact (Bool.or_eq_false_iff.1 small).2
  | item =>
    obtain ⟨items, -⟩ := Bool.or_eq_false_iff.1 small
    exact (Bool.or_eq_false_iff.1 items).1
  | separator =>
    obtain ⟨-, between⟩ := Bool.or_eq_false_iff.1 small
    simpa using between
  | items =>
    obtain ⟨items, between⟩ := Bool.or_eq_false_iff.1 small
    refine Bool.or_eq_false_iff.2 ⟨(Bool.or_eq_false_iff.1 items).2, ?_⟩
    exact Bool.and_eq_false_iff.2 (.inr (by simpa using between))

theorem toNat_add_one_iff (blanks : UInt32) :
    (blanks + 1).toNat = blanks.toNat + 1 ↔ (Doc.hardline blanks).overflows = false := by
  have size : blanks.toNat < UInt32.size := blanks.toNat_lt
  simp [Doc.overflows, UInt32.toNat_add, UInt32.size] at size ⊢
  omega

/-- A document overflows exactly if some count goes wrong where printing comes to. -/
theorem countsInWords_iff (job : Job) : job.CountsInWords layout ↔ job.doc.overflows = false := by
  constructor
  · intro counts
    obtain ⟨d, mode, margin, page⟩ := job
    induction d generalizing mode margin page with
    | empty | after | before | slot => rfl
    | leaf l =>
      cases l with
      | hardline blanks => exact (toNat_add_one_iff blanks).1 (counts blanks mode margin page .refl)
      | _ => rfl
    | group body ih => exact ih _ _ _ (counts.of_comes .group)
    | indent amount body ih => exact ih _ _ _ (counts.of_comes .indent)
    | seq parts ih =>
      induction parts generalizing page with
      | nil => rfl
      | cons d ds behind =>
        obtain ⟨first, others⟩ := List.forall_mem_cons.1 ih
        exact Bool.or_eq_false_iff.2
          ⟨first _ _ _ (counts.of_comes .part), behind others _ (counts.of_comes .parts)⟩
    | join items separator ih own =>
      induction items generalizing page with
      | nil => rfl
      | cons d ds behind =>
        obtain ⟨first, others⟩ := List.forall_mem_cons.1 ih
        have here := first _ _ _ (counts.of_comes .item)
        cases ds with
        | nil => simp [Doc.overflows, Doc.anyOverflows, here]
        | cons e ds =>
          have between := own _ _ _ (counts.of_comes .separator)
          obtain ⟨rest, -⟩ := Bool.or_eq_false_iff.1 (behind others _ (counts.of_comes .items))
          rw [Doc.overflows, Doc.anyOverflows, here, rest, between, Bool.and_false]
          rfl
  · intro small blanks mode margin page reached
    refine (toNat_add_one_iff blanks).2 ?_
    induction reached using Relation.ReflTransGen.head_induction_on with
    | refl => exact small
    | head comes _ ih => exact ih (overflows_of_comes comes small)

end Job

/-- There is a text exactly if no count goes wrong where printing comes to, and it is what
is printed with numbers for words. -/
theorem Doc.render?_eq_some_iff {layout : Layout} {d : Doc} {text : String} :
    d.render? layout = some text ↔ (Job.start d).CountsInWords layout ∧ d.render layout = text := by
  rw [Job.countsInWords_iff, render?]
  cases small : d.overflows <;> simp [Job.start, small]

end Reprint
