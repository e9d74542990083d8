import Mathlib.Algebra.BigOperators.Group.List.Basic
import Mathlib.Data.List.Dedup
import Mathlib.Data.List.Forall2
import Mathlib.Data.List.ProdSigma

/-! # Joins and groups

The rows of a table or of a query are a list. What `LEFT JOIN` does to the number of
rows depends on whether the columns it joins on are a key of the other table.
-/

namespace Skolva.Sql

variable {α β κ ν : Type}

/-! ## Definitions -/

/-- `left CROSS JOIN right`. -/
def crossJoin (left : List α) (right : List β) : List (α × β) := left ×ˢ right

/-- What `LEFT JOIN` puts beside one row: the rows that fulfil the condition, or a row of
nulls. -/
def joined (on : α → β → Bool) (right : List β) (row : α) : List (Option β) :=
  match right.filter (on row) with
  | [] => [none]
  | found => found.map some

/-- `left LEFT JOIN right ON …`. -/
def leftJoin (on : α → β → Bool) (left : List α) (right : List β) : List (α × Option β) :=
  left.flatMap fun row => (joined on right row).map fun other => (row, other)

/-- `SELECT key, SUM(value) … GROUP BY key`. -/
def groupSum [DecidableEq κ] [AddCommMonoid ν] (key : α → κ) (value : α → ν) (rows : List α) :
    List (κ × ν) :=
  (rows.map key).dedup.map fun group =>
    (group, ((rows.filter fun row => key row = group).map value).sum)

/-! ## Rows with a key -/

section Key

variable {key : α → κ} {rows : List α}

/-- A key value selects one row. -/
theorem filter_key_eq [DecidableEq κ] (hkey : (rows.map key).Nodup) {row : α} (hmem : row ∈ rows) :
    (rows.filter fun other => key other = key row) = [row] := by
  induction rows with
  | nil => simp at hmem
  | cons head rest ih =>
      simp only [List.map_cons, List.nodup_cons, List.mem_map, not_exists, not_and] at hkey
      obtain ⟨hhead, hrest⟩ := hkey
      simp only [List.filter_cons]
      rcases List.mem_cons.mp hmem with rfl | hmem
      · simpa using hhead
      · have hne : key head ≠ key row := fun heq => hhead row hmem heq.symm
        simpa [hne] using ih hrest hmem

/-- What a row has become is found by the key of the row. -/
theorem find?_filterMap_key [DecidableEq κ] (key : α → κ) (keyOf : β → Option κ)
    {f : α → Option β} (hf : ∀ row out, f row = some out → keyOf out = some (key row))
    (hkey : (rows.map key).Nodup) {row : α} (hmem : row ∈ rows) :
    ((rows.filterMap f).find? fun out => keyOf out = some (key row)) = f row := by
  induction rows with
  | nil => simp at hmem
  | cons head rest ih =>
      obtain ⟨hhead, hrest⟩ := List.nodup_cons.mp hkey
      rcases List.mem_cons.mp hmem with rfl | hmem
      · cases hrow : f row with
        | some out => simp [hrow, hf row out hrow]
        | none =>
            rw [List.filterMap_cons_none hrow, List.find?_eq_none]
            intro out hout hfound
            obtain ⟨other, hother, heq⟩ := List.mem_filterMap.mp hout
            rw [hf other out heq, decide_eq_true_eq, Option.some.injEq] at hfound
            exact hhead (hfound ▸ List.mem_map_of_mem hother)
      · have hne : key head ≠ key row := fun heq => hhead (heq ▸ List.mem_map_of_mem hmem)
        cases hfate : f head with
        | none => rw [List.filterMap_cons_none hfate, ih hrest hmem]
        | some out => simp [hfate, hf head out hfate, hne, ih hrest hmem]

/-- A condition that fixes the key selects at most one row. -/
theorem length_filter_le_one (hkey : (rows.map key).Nodup) {on : α → Bool} (value : κ)
    (hon : ∀ row ∈ rows, on row = true → key row = value) : (rows.filter on).length ≤ 1 := by
  have hselected : ((rows.filter on).map key).Nodup :=
    hkey.sublist (List.filter_sublist.map key)
  have hvalue : (rows.filter on).map key = List.replicate (rows.filter on).length value := by
    apply List.eq_replicate_iff.mpr
    refine ⟨List.length_map .., ?_⟩
    intro other hother
    obtain ⟨row, hrow, rfl⟩ := List.mem_map.mp hother
    rw [List.mem_filter] at hrow
    exact hon row hrow.1 hrow.2
  rw [hvalue, List.nodup_replicate] at hselected
  exact hselected

/-- The row with a key is found in whatever order the rows are. -/
theorem find?_key_of_perm [DecidableEq κ] (hkey : (rows.map key).Nodup) {others : List α}
    (hperm : others.Perm rows) (value : κ) :
    (others.find? fun row => key row = value) = rows.find? fun row => key row = value := by
  have hselected := hperm.filter fun row => decide (key row = value)
  have hone : (rows.filter fun row => key row = value).length ≤ 1 :=
    length_filter_le_one hkey value fun _ _ hrow => of_decide_eq_true hrow
  rw [← List.head?_filter, ← List.head?_filter]
  match hfound : rows.filter fun row => key row = value with
  | [] =>
      rw [hfound] at hselected
      rw [List.perm_nil.mp hselected]
  | [row] =>
      rw [hfound] at hselected
      rw [List.perm_singleton.mp hselected]
  | _ :: _ :: _ => simp [hfound] at hone

/-- Of one row at most, the column or 0 is the sum of the column. -/
theorem coalesce_find? [AddCommMonoid ν] {on : α → Bool} (hone : (rows.filter on).length ≤ 1)
    (value : α → ν) :
    ((rows.find? on).map value).getD 0 = ((rows.filter on).map value).sum := by
  rw [← List.head?_filter]
  match hfound : rows.filter on with
  | [] => simp
  | [row] => simp
  | _ :: _ :: _ => simp [hfound] at hone

end Key

/-! ## Joins -/

section Join

variable {on : α → β → Bool} {left : List α} {right : List β}

theorem length_joined (row : α) :
    (joined on right row).length = max 1 (right.filter (on row)).length := by
  unfold joined
  split
  next hnone => simp [hnone]
  next hsome =>
      have hpositive : 0 < (right.filter (on row)).length := by
        apply List.length_pos_of_ne_nil
        exact hsome
      simp
      omega

/-- Joining with a key keeps the number of rows. -/
theorem joined_eq_find? {row : α} (hone : (right.filter (on row)).length ≤ 1) :
    joined on right row = [right.find? (on row)] := by
  unfold joined
  rw [← List.head?_filter]
  match hfound : right.filter (on row) with
  | [] => simp
  | [other] => simp
  | _ :: _ :: _ => simp [hfound] at hone

theorem leftJoin_eq_map (hone : ∀ row ∈ left, (right.filter (on row)).length ≤ 1) :
    leftJoin on left right = left.map fun row => (row, right.find? (on row)) := by
  unfold leftJoin
  induction left with
  | nil => rfl
  | cons row rest ih =>
      rw [List.forall_mem_cons] at hone
      simp [joined_eq_find? hone.1, ih hone.2]

/-- A condition on the rows of the left table can be tested before the join. -/
theorem filter_leftJoin (select : α → Bool) :
    ((leftJoin on left right).filter fun pair => select pair.1) =
      leftJoin on (left.filter select) right := by
  unfold leftJoin
  induction left with
  | nil => rfl
  | cons row rest ih =>
      rw [List.flatMap_cons, List.filter_append, ih, List.filter_map, List.filter_cons]
      cases hselect : select row with
      | true => simp [Function.comp_def, hselect]
      | false => simp [Function.comp_def, hselect]

theorem filter_crossJoin (one : α → Bool) (other : β → Bool) :
    ((crossJoin left right).filter fun pair => one pair.1 && other pair.2) =
      crossJoin (left.filter one) (right.filter other) := by
  unfold crossJoin
  induction left with
  | nil => rfl
  | cons row rest ih =>
      rw [List.product_cons, List.filter_append, ih, List.filter_map, List.filter_cons]
      cases hone : one row with
      | true => simp [Function.comp_def, hone]
      | false => simp [Function.comp_def, hone]

/-- What a join with another table by its key shows of the rows that are selected in both. -/
theorem map_filter_filterMap {rows : List α} {here : α → Bool} {other : α → Option β}
    {there : β → Bool} {selected : α → Bool} {column : β → ν} {shown : α → ν}
    (hrow : ∀ row ∈ rows, (if here row then (other row).filter there else none).map column =
      if selected row then some (shown row) else none) :
    ((((rows.filter here).filterMap other).filter there).map column) =
      (rows.filter selected).map shown := by
  induction rows with
  | nil => rfl
  | cons row rest ih =>
      rw [List.forall_mem_cons] at hrow
      obtain ⟨hhead, hrest⟩ := hrow
      have htail := ih hrest
      cases hhere : here row with
      | false =>
          rw [hhere] at hhead
          cases hselected : selected row with
          | true => simp [hselected] at hhead
          | false => simpa [hhere, hselected] using htail
      | true =>
          rw [hhere] at hhead
          cases hother : other row with
          | none =>
              cases hselected : selected row with
              | true => simp [hother, hselected] at hhead
              | false => simpa [hhere, hother, hselected] using htail
          | some found =>
              cases hthere : there found <;> cases hselected : selected row <;>
                simp [hhere, hother, hthere, hselected] at hhead ⊢ <;>
                simp_all

/-- A list with the members of an option is that option as a list. -/
theorem eq_toList_of_perm {rows : List α} {row : Option α} (hperm : rows.Perm row.toList) :
    rows = row.toList := by
  cases row with
  | none => exact List.perm_nil.mp hperm
  | some value => exact List.perm_singleton.mp hperm

end Join

/-! ## Groups -/

section Group

variable [DecidableEq κ] [AddCommMonoid ν] {key : α → κ} {value : α → ν} {rows : List α}

theorem nodup_groupSum : ((groupSum key value rows).map Prod.fst).Nodup := by
  unfold groupSum
  rw [List.map_map]
  simpa [Function.comp_def] using List.nodup_dedup (rows.map key)

/-- The sum of a group, or nothing if no row is in it. -/
theorem find?_groupSum (group : κ) :
    ((groupSum key value rows).find? fun pair => pair.1 = group) =
      if group ∈ rows.map key then
        some (group, ((rows.filter fun row => key row = group).map value).sum)
      else none := by
  have hfind : ∀ (groups : List κ) (row : κ → κ × ν),
      (groups.find? fun head => head = group).map row =
        if group ∈ groups then some (row group) else none := by
    intro groups row
    induction groups with
    | nil => rfl
    | cons head rest ih =>
        by_cases hhead : head = group
        · simp [hhead]
        · have hother : ¬group = head := fun heq => hhead heq.symm
          simpa [List.find?_cons, hhead, hother] using ih
  unfold groupSum
  rw [List.find?_map]
  simp only [Function.comp_def, hfind, List.mem_dedup]

/-- Without a row the sum is 0, as `COALESCE` has it. -/
theorem coalesce_groupSum (group : κ) :
    (((groupSum key value rows).find? fun pair => pair.1 = group).map Prod.snd).getD 0 =
      ((rows.filter fun row => key row = group).map value).sum := by
  rw [find?_groupSum]
  split
  · rfl
  next hnone =>
      have hempty : (rows.filter fun row => key row = group) = [] := by
        apply List.filter_eq_nil_iff.mpr
        intro row hrow hgroup
        apply hnone
        exact List.mem_map.mpr ⟨row, hrow, by simpa using hgroup⟩
      simp [hempty]

end Group

/-! ## The rows of two tables, one by one -/

section TwoTables

variable {R : α → β → Prop} {left : List α} {right : List β}

theorem isNone_eq_of_rel {one : Option α} {other : Option β} (hrows : Option.Rel R one other) :
    one.isNone = other.isNone := by
  cases hrows with
  | some hrow => rfl
  | none => rfl

theorem bind_eq_of_rel {one : Option α} {other : Option β} (hrows : Option.Rel R one other)
    {f : α → Option ν} {g : β → Option ν} (hsame : ∀ row row', R row row' → f row = g row') :
    one.bind f = other.bind g := by
  cases hrows with
  | some hrow => exact hsame _ _ hrow
  | none => rfl

theorem filterMap_eq_of_forall₂ (hrows : List.Forall₂ R left right) {f : α → Option ν}
    {g : β → Option ν} (hsame : ∀ row row', R row row' → f row = g row') :
    left.filterMap f = right.filterMap g := by
  induction hrows with
  | nil => rfl
  | cons hrow _ ih => simp only [List.filterMap_cons, hsame _ _ hrow, ih]

theorem map_eq_map_iff {f : α → ν} {g : β → ν} :
    left.map f = right.map g ↔ List.Forall₂ (fun row row' => f row = g row') left right := by
  rw [← List.forall₂_eq_eq_eq, List.forall₂_map_left_iff, List.forall₂_map_right_iff]

/-- Each row of the second table has its row in the first. -/
theorem exists_of_forall₂ (hrows : List.Forall₂ R left right) :
    ∀ row' ∈ right, ∃ row ∈ left, R row row' := by
  induction hrows with
  | nil => exact nofun
  | cons hrow _ ih =>
      rw [List.forall_mem_cons]
      refine ⟨⟨_, List.mem_cons_self, hrow⟩, fun row' hrow' => ?_⟩
      obtain ⟨row, hmem, hrel⟩ := ih row' hrow'
      exact ⟨row, List.mem_cons_of_mem _ hmem, hrel⟩

theorem forall₂_find? (hrows : List.Forall₂ R left right) (one : α → Bool) (other : β → Bool)
    (hselect : ∀ row row', R row row' → one row = other row') :
    Option.Rel R (left.find? one) (right.find? other) := by
  induction hrows with
  | nil => exact .none
  | @cons row row' _ _ hrow _ ih =>
      simp only [List.find?_cons, ← hselect row row' hrow]
      cases one row with
      | true => exact .some hrow
      | false => exact ih

/-- Tables that are ordered by the same values show the same columns in that order exactly
if they do without it. -/
theorem map_mergeSort_eq_iff {before : α → α → Bool} {before' : β → β → Bool} {one : α → ν}
    {other : β → ν} (hrows : List.Forall₂ R left right)
    (horder : ∀ row row' next next', R row row' → R next next' →
      before row next = before' row' next') :
    (left.mergeSort before).map one = (right.mergeSort before').map other ↔
      left.map one = right.map other := by
  -- Both tables are columns of one, which is sorted.
  let pairs := left.zip right
  have hleft : pairs.map Prod.fst = left := List.map_fst_zip (Nat.le_of_eq hrows.length_eq)
  have hright : pairs.map Prod.snd = right := List.map_snd_zip (Nat.le_of_eq hrows.length_eq.symm)
  have hpairs : ∀ pair ∈ pairs, R pair.1 pair.2 := fun _ hpair => List.forall₂_zip hrows hpair
  let order := fun pair next : α × β => before pair.1 next.1
  have hsortLeft : (pairs.mergeSort order).map Prod.fst = left.mergeSort before := by
    rw [← hleft]
    exact List.map_mergeSort fun _ _ _ _ => rfl
  have hsortRight : (pairs.mergeSort order).map Prod.snd = right.mergeSort before' := by
    rw [← hright]
    exact List.map_mergeSort fun pair hpair next hnext =>
      horder pair.1 pair.2 next.1 next.2 (hpairs pair hpair) (hpairs next hnext)
  rw [← hsortLeft, ← hsortRight, ← hleft, ← hright]
  simp only [List.map_map, List.map_inj_left, List.mem_mergeSort]

end TwoTables

end Skolva.Sql
