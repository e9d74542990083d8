import Mathlib.Data.List.Basic
import Mathlib.Data.Nat.Find
import Mathlib.Data.String.Basic

/-! # Pages of a sorted query

A query with `ORDER BY`, `LIMIT` and `OFFSET` sorts its rows anew for every page. Rows that
the sort keys do not tell apart come in any order, which can be another one for the next page.
-/

namespace Skolva.Sql

variable {α β : Type}

/-! ## Definitions -/

/-- `ORDER BY first, second`. -/
def thenBy (first second : α → α → Prop) (one other : α) : Prop :=
  first one other ∧ (first other one → second one other)

/-- How the database compares texts. Different texts can be equal in it. -/
structure Collation where
  le : String → String → Prop
  total : ∀ one other, le one other ∨ le other one
  trans : ∀ one two three, le one two → le two three → le one three

/-- The collation `C`. -/
def Collation.codePoints : Collation where
  le := (· ≤ ·)
  total := Std.Total.total
  trans _ _ _ := Std.le_trans

/-- How the database sorts the rows of a query with `ORDER BY before LIMIT limit OFFSET offset`. -/
structure Sorter (before : α → α → Prop) where
  sort : (limit offset : Nat) → List α → List α
  perm : ∀ limit offset rows, (sort limit offset rows).Perm rows
  sorted : ∀ limit offset rows, (sort limit offset rows).Pairwise before

/-- The answer to the query. -/
def Sorter.page {before : α → α → Prop} (sorter : Sorter before) (limit offset : Nat)
    (rows : List α) : List α :=
  ((sorter.sort limit offset rows).drop offset).take limit

/-- Sort with `List.mergeSort`. -/
def Sorter.merge {before : α → α → Prop} [DecidableRel before]
    (htotal : ∀ one other, before one other ∨ before other one)
    (htrans : ∀ one two three, before one two → before two three → before one three) :
    Sorter before where
  sort _ _ rows := rows.mergeSort fun one other => before one other
  perm _ _ rows := List.mergeSort_perm rows _
  sorted _ _ rows := by
    have hsorted : (rows.mergeSort fun one other => before one other).Pairwise
        fun one other => decide (before one other) = true :=
      List.pairwise_mergeSort (by simpa using htrans) (by simpa using htotal) rows
    simpa using hsorted

/-- The pages up to the first empty one are the list, in their order. -/
def ReadOut (page : Nat → List α) (all : List α) : Prop :=
  ∃ count, (∀ index < count, page index ≠ []) ∧ page count = [] ∧
    (List.range count).flatMap page = all

/-! ## Sort keys -/

section ThenBy

variable {first second : α → α → Prop}

instance [DecidableRel first] [DecidableRel second] : DecidableRel (thenBy first second) :=
  fun _ _ => inferInstanceAs (Decidable (_ ∧ (_ → _)))

theorem thenBy_total (hfirst : ∀ one other, first one other ∨ first other one)
    (hsecond : ∀ one other, second one other ∨ second other one) (one other : α) :
    thenBy first second one other ∨ thenBy first second other one := by
  by_cases hback : first other one
  · by_cases hforth : first one other
    · rcases hsecond one other with hle | hle
      · exact Or.inl ⟨hforth, fun _ => hle⟩
      · exact Or.inr ⟨hback, fun _ => hle⟩
    · exact Or.inr ⟨hback, fun hnot => absurd hnot hforth⟩
  · exact Or.inl ⟨(hfirst one other).resolve_right hback, fun hnot => absurd hnot hback⟩

theorem thenBy_trans (hfirst : ∀ one two three, first one two → first two three → first one three)
    (hsecond : ∀ one two three, second one two → second two three → second one three)
    (one two three : α) (hone : thenBy first second one two)
    (htwo : thenBy first second two three) : thenBy first second one three := by
  refine ⟨hfirst _ _ _ hone.1 htwo.1, fun hback => ?_⟩
  exact hsecond _ _ _ (hone.2 (hfirst _ _ _ htwo.1 hback)) (htwo.2 (hfirst _ _ _ hback hone.1))

/-- The last key decides what the others do not. -/
theorem second_of_thenBy {one other : α} (hforth : thenBy first second one other)
    (hback : thenBy first second other one) : second one other ∧ second other one :=
  ⟨hforth.2 hback.1, hback.2 hforth.1⟩

end ThenBy

/-! ## Pages of a list -/

section List

variable {limit : Nat}

theorem page_eq_nil_iff (hlimit : 0 < limit) (all : List α) (offset : Nat) :
    (all.drop offset).take limit = [] ↔ all.length ≤ offset := by
  rw [← List.length_eq_zero_iff, List.length_take, List.length_drop]
  omega

theorem flatMap_pages (all : List α) (count : Nat) :
    ((List.range count).flatMap fun index => (all.drop (index * limit)).take limit) =
      all.take (count * limit) := by
  induction count with
  | zero => simp
  | succ count ih =>
      rw [List.range_succ, List.flatMap_append, ih, Nat.succ_mul, List.take_add]
      simp

theorem readOut_pages (hlimit : 0 < limit) (all : List α) :
    ReadOut (fun index => (all.drop (index * limit)).take limit) all := by
  have hend : ∃ count, all.length ≤ count * limit :=
    ⟨all.length, Nat.le_mul_of_pos_right _ hlimit⟩
  refine ⟨Nat.find hend, ?_, ?_, ?_⟩
  · intro index hindex hempty
    exact Nat.find_min hend hindex ((page_eq_nil_iff hlimit all _).mp hempty)
  · exact (page_eq_nil_iff hlimit all _).mpr (Nat.find_spec hend)
  · rw [flatMap_pages]
    exact List.take_of_length_le (Nat.find_spec hend)

theorem ReadOut.map {page : Nat → List α} {all : List α} (hread : ReadOut page all)
    (column : α → β) : ReadOut (fun index => (page index).map column) (all.map column) := by
  obtain ⟨count, hnonempty, hempty, hall⟩ := hread
  refine ⟨count, ?_, ?_, ?_⟩
  · intro index hindex hnil
    exact hnonempty index hindex (List.map_eq_nil_iff.mp hnil)
  · exact List.map_eq_nil_iff.mpr hempty
  · rw [← hall, List.map_flatMap]

end List

/-! ## Pages of a query -/

theorem exists_sorted {before : α → α → Prop}
    (htotal : ∀ one other, before one other ∨ before other one)
    (htrans : ∀ one two three, before one two → before two three → before one three)
    (rows : List α) : ∃ all : List α, all.Perm rows ∧ all.Pairwise before := by
  classical
  let sorter := Sorter.merge htotal htrans
  exact ⟨_, sorter.perm 0 0 rows, sorter.sorted 0 0 rows⟩

section Query

variable {before : α → α → Prop} {rows all : List α} (sorter : Sorter before)

variable (hapart : ∀ one ∈ rows, ∀ other ∈ rows, before one other → before other one → one = other)
variable (hperm : all.Perm rows) (hsorted : all.Pairwise before)

include hapart hperm hsorted

/-- Rows that the order tells apart have one place each, so every page is one of the same list. -/
theorem Sorter.page_eq (limit offset : Nat) :
    sorter.page limit offset rows = (all.drop offset).take limit := by
  have hsame : sorter.sort limit offset rows = all := by
    refine ((sorter.perm limit offset rows).trans hperm.symm).eq_of_pairwise ?_
      (sorter.sorted limit offset rows) hsorted
    intro one other hone hother
    exact hapart one ((sorter.perm limit offset rows).mem_iff.mp hone) other
      (hperm.mem_iff.mp hother)
  unfold Sorter.page
  rw [hsame]

/-- However the database sorts for each page, together the pages are all rows in order. -/
theorem Sorter.readOut {limit : Nat} (hlimit : 0 < limit) :
    ReadOut (fun index => sorter.page limit (index * limit) rows) all := by
  simp only [sorter.page_eq hapart hperm hsorted]
  exact readOut_pages hlimit all

/-- The pages of the rows that fulfil a condition are those rows in the same order. -/
theorem Sorter.readOut_filter {limit : Nat} (hlimit : 0 < limit) (select : α → Bool) :
    ReadOut (fun index => sorter.page limit (index * limit) (rows.filter select))
      (all.filter select) := by
  refine sorter.readOut ?_ (hperm.filter select) (hsorted.filter select) hlimit
  intro one hone other hother
  exact hapart one (List.mem_filter.mp hone).1 other (List.mem_filter.mp hother).1

end Query

end Skolva.Sql
