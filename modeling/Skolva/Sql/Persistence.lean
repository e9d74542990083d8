import Mathlib.Data.List.Nodup
import Mathlib.Data.List.Basic

/-! # Rows that stay

Where rows are never removed, every row has a later version: with the same identity, and none
but itself once it is marked as deleted.
-/

namespace Skolva.Sql

variable {Row ι κ : Type}

/-- The second row is a later version of the first one. -/
structure Version (identity : Row → ι) (deletedAt : Row → Option Nat) (before after : Row) :
    Prop where
  same : identity after = identity before
  deleted : deletedAt before ≠ none → after = before

/-- Every row of the first table has a later version in the second one. -/
def Persists (identity : Row → ι) (deletedAt : Row → Option Nat) (before after : List Row) : Prop :=
  ∀ row ∈ before, ∃ later ∈ after, Version identity deletedAt row later

variable {identity : Row → ι} {deletedAt : Row → Option Nat}

namespace Version

theorem refl (row : Row) : Version identity deletedAt row row := ⟨rfl, fun _ => rfl⟩

theorem trans {first second third : Row} (hone : Version identity deletedAt first second)
    (htwo : Version identity deletedAt second third) : Version identity deletedAt first third where
  same := htwo.same.trans hone.same
  deleted := by
    intro hdeleted
    have hfrozen := hone.deleted hdeleted
    rw [← hfrozen] at hdeleted
    exact (htwo.deleted hdeleted).trans hfrozen

/-- A row that is not deleted may be changed apart from its identity. -/
theorem of_live {row new : Row} (hlive : deletedAt row = none)
    (hsame : identity new = identity row) : Version identity deletedAt row new :=
  ⟨hsame, fun hdeleted => absurd hlive hdeleted⟩

theorem ite {condition : Prop} [Decidable condition] {row new : Row}
    (hlive : condition → deletedAt row = none) (hsame : identity new = identity row) :
    Version identity deletedAt row (if condition then new else row) := by
  split
  next hselected => exact of_live (hlive hselected) hsame
  next => exact refl row

end Version

namespace Persists

variable {rows : List Row}

theorem refl (rows : List Row) : Persists identity deletedAt rows rows :=
  fun row hrow => ⟨row, hrow, .refl row⟩

theorem trans {first second third : List Row} (hone : Persists identity deletedAt first second)
    (htwo : Persists identity deletedAt second third) :
    Persists identity deletedAt first third := by
  intro row hrow
  obtain ⟨next, hnext, hversion⟩ := hone row hrow
  obtain ⟨later, hlater, hversion'⟩ := htwo next hnext
  exact ⟨later, hlater, hversion.trans hversion'⟩

/-- `UPDATE`. -/
theorem map {change : Row → Row} (hchange : ∀ row, Version identity deletedAt row (change row)) :
    Persists identity deletedAt rows (rows.map change) :=
  fun row hrow => ⟨change row, List.mem_map_of_mem hrow, hchange row⟩

/-- `INSERT`. -/
theorem append (new : List Row) : Persists identity deletedAt rows (rows ++ new) :=
  fun row hrow => ⟨row, List.mem_append_left _ hrow, .refl row⟩

/-- `INSERT .. ON CONFLICT DO UPDATE`, where a row with the key is replaced. -/
theorem upsert [DecidableEq κ] {key : Row → κ} {value : κ} {new : Row}
    (hnew : ∀ row ∈ rows, key row = value → Version identity deletedAt row new) :
    Persists identity deletedAt rows (rows.filter (fun row => key row ≠ value) ++ [new]) := by
  intro row hrow
  by_cases hkey : key row = value
  · exact ⟨new, List.mem_append_right _ (List.mem_singleton_self _), hnew row hrow hkey⟩
  · refine ⟨row, List.mem_append_left _ (List.mem_filter.mpr ⟨hrow, ?_⟩), .refl row⟩
    exact decide_eq_true hkey

end Persists

/-- It leaves one row for each key. -/
theorem nodup_upsert [DecidableEq κ] {key : Row → κ} {rows : List Row} (hkeys : (rows.map key).Nodup)
    (new : Row) :
    ((rows.filter (fun row => key row ≠ key new) ++ [new]).map key).Nodup := by
  rw [List.map_append, List.map_singleton, List.nodup_append]
  refine ⟨hkeys.sublist (List.filter_sublist.map key), List.nodup_singleton _, ?_⟩
  intro one hone other hother heq
  obtain ⟨row, hrow, rfl⟩ := List.mem_map.mp hone
  have hne := (List.mem_filter.mp hrow).2
  rw [heq, List.mem_singleton.mp hother] at hne
  simp at hne

/-- The row under a key is the new one if it is its key, and the old one otherwise. -/
theorem find?_upsert [DecidableEq κ] {key : Row → κ} (rows : List Row) (new : Row) (value : κ) :
    (rows.filter (fun row => key row ≠ key new) ++ [new]).find? (fun row => key row = value) =
      if key new = value then some new else rows.find? fun row => key row = value := by
  rw [List.find?_append, List.find?_filter]
  simp only [decide_eq_true_eq]
  by_cases hkey : key new = value
  · have hnone : rows.find? (fun row => key row ≠ key new ∧ key row = value) = none := by
      rw [List.find?_eq_none]
      intro row _
      simp [hkey]
    rw [hnone, Option.none_or, if_pos hkey]
    simp [hkey]
  · have hold : (fun row => decide (key row ≠ key new ∧ key row = value)) =
        fun row => decide (key row = value) := by
      funext row
      by_cases hrow : key row = value
      · simp [hrow, Ne.symm hkey]
      · simp [hrow]
    rw [hold, if_neg hkey]
    simp [hkey]

end Skolva.Sql
