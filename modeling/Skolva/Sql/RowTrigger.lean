import Mathlib.Data.List.Basic

/-! # Row-by-row execution of a data-modifying statement

A statement visits the rows of one table in scan order. Before each change the
row-level triggers and the immediate constraints are consulted. They see the
rows already changed and those still pending, and one refusal undoes the whole
statement. The laws below recover what an accepted statement did from that loop.
-/

namespace Skolva.Sql

variable {Row Refusal : Type}

/-- `UPDATE`. The new row is `set row`, or `none` where the condition of the
statement does not select the row. -/
def updateRows (set : Row → Option Row)
    (before : List Row → Row → Row → List Row → Except Refusal Unit) :
    List Row → List Row → Except Refusal (List Row)
  | changed, [] => .ok changed
  | changed, row :: pending =>
      match set row with
      | none => updateRows set before (changed ++ [row]) pending
      | some new =>
          match before changed row new pending with
          | .error refusal => .error refusal
          | .ok () => updateRows set before (changed ++ [new]) pending

/-- `INSERT`. Each new row is checked against the table as filled so far. -/
def insertRows (before : List Row → Row → Except Refusal Unit) :
    List Row → List Row → Except Refusal (List Row)
  | table, [] => .ok table
  | table, new :: pending =>
      match before table new with
      | .error refusal => .error refusal
      | .ok () => insertRows before (table ++ [new]) pending

/-- `DELETE`. The condition of the statement is `which`. -/
def deleteRows (which : Row → Bool) (before : Row → Except Refusal Unit) :
    List Row → List Row → Except Refusal (List Row)
  | kept, [] => .ok kept
  | kept, row :: pending =>
      if which row then
        match before row with
        | .error refusal => .error refusal
        | .ok () => deleteRows which before kept pending
      else deleteRows which before (kept ++ [row]) pending

/-- What is accepted in two parts is accepted in each of them. -/
theorem ok_of_bind {Value Out : Type} {first : Except Refusal Value}
    {rest : Value → Except Refusal Out} {out : Out} (hrun : first >>= rest = .ok out) :
    ∃ value, first = .ok value ∧ rest value = .ok out := by
  cases first with
  | error refusal => cases hrun
  | ok value => exact ⟨value, rfl, hrun⟩

/-- What a row has become after an accepted `UPDATE`. -/
def updated (set : Row → Option Row) (row : Row) : Row := (set row).getD row

/-- An accepted `UPDATE` replaces exactly the selected rows, and consulted the
triggers for each of them. -/
theorem updateRows_ok (set : Row → Option Row)
    (before : List Row → Row → Row → List Row → Except Refusal Unit)
    (changed pending out : List Row)
    (hrun : updateRows set before changed pending = .ok out) :
    out = changed ++ pending.map (updated set) ∧
      ∀ row ∈ pending, ∀ new, set row = some new →
        ∃ seen later, before seen row new later = .ok () := by
  induction pending generalizing changed with
  | nil =>
      simp only [updateRows, Except.ok.injEq] at hrun
      simp [hrun]
  | cons row pending ih =>
      cases hset : set row with
      | none =>
          simp only [updateRows, hset] at hrun
          obtain ⟨hout, hbefore⟩ := ih _ hrun
          refine ⟨by simp [hout, updated, hset], ?_⟩
          intro candidate hmem new hnew
          rcases List.mem_cons.mp hmem with rfl | hmem
          · rw [hset] at hnew
            cases hnew
          · exact hbefore candidate hmem new hnew
      | some new =>
          simp only [updateRows, hset] at hrun
          cases hcheck : before changed row new pending with
          | error refusal => simp [hcheck] at hrun
          | ok _ =>
              simp only [hcheck] at hrun
              obtain ⟨hout, hbefore⟩ := ih _ hrun
              refine ⟨by simp [hout, updated, hset], ?_⟩
              intro candidate hmem other hother
              rcases List.mem_cons.mp hmem with rfl | hmem
              · rw [hset] at hother
                cases hother
                exact ⟨changed, pending, hcheck⟩
              · exact hbefore candidate hmem other hother

/-- Rows that are outside a selection before and after an `UPDATE` leave that
selection as it was. -/
theorem filter_map_updated (set : Row → Option Row) (selected : Row → Bool) (rows : List Row)
    (houtside : ∀ row ∈ rows, ∀ new, set row = some new →
      selected row = false ∧ selected new = false) :
    (rows.map (updated set)).filter selected = rows.filter selected := by
  induction rows with
  | nil => rfl
  | cons row rest ih =>
      have htail := ih (fun other hmem => houtside other (List.mem_cons_of_mem row hmem))
      rw [List.map_cons]
      cases hset : set row with
      | none => simp [updated, hset, List.filter_cons, htail]
      | some new =>
          have hboth := houtside row List.mem_cons_self new hset
          simp [updated, hset, hboth.1, hboth.2, htail]

/-- An `UPDATE` that changes no row of a selection, and brings none into it, leaves the
selection as it was. -/
theorem filter_map_of_selected {change : Row → Row} {selected : Row → Bool} {rows : List Row}
    (hselect : ∀ row ∈ rows, selected (change row) = selected row)
    (hsame : ∀ row ∈ rows, selected row = true → change row = row) :
    (rows.map change).filter selected = rows.filter selected := by
  induction rows with
  | nil => rfl
  | cons row rest ih =>
      rw [List.forall_mem_cons] at hselect hsame
      have htail := ih hselect.2 hsame.2
      cases hrow : selected row with
      | true => simp [hrow, hsame.1 hrow, htail]
      | false => simp [hrow, hselect.1, htail]

/-- An accepted `INSERT` appends its rows, and consulted the triggers for each. -/
theorem insertRows_ok (before : List Row → Row → Except Refusal Unit)
    (table pending out : List Row) (hrun : insertRows before table pending = .ok out) :
    out = table ++ pending ∧ ∀ new ∈ pending, ∃ seen, before seen new = .ok () := by
  induction pending generalizing table with
  | nil =>
      simp only [insertRows, Except.ok.injEq] at hrun
      simp [hrun]
  | cons new pending ih =>
      simp only [insertRows] at hrun
      cases hcheck : before table new with
      | error refusal => simp [hcheck] at hrun
      | ok _ =>
          simp only [hcheck] at hrun
          obtain ⟨hout, hbefore⟩ := ih _ hrun
          refine ⟨by simp [hout], ?_⟩
          intro candidate hmem
          rcases List.mem_cons.mp hmem with rfl | hmem
          · exact ⟨table, hcheck⟩
          · exact hbefore candidate hmem

/-- An accepted `DELETE` keeps the rows outside its condition, and consulted the
triggers for every other row. -/
theorem deleteRows_ok (which : Row → Bool) (before : Row → Except Refusal Unit)
    (kept pending out : List Row) (hrun : deleteRows which before kept pending = .ok out) :
    out = kept ++ pending.filter (fun row => !which row) ∧
      ∀ row ∈ pending, which row = true → before row = .ok () := by
  induction pending generalizing kept with
  | nil =>
      simp only [deleteRows, Except.ok.injEq] at hrun
      simp [hrun]
  | cons row pending ih =>
      cases hwhich : which row with
      | false =>
          simp only [deleteRows, hwhich, Bool.false_eq_true, ↓reduceIte] at hrun
          obtain ⟨hout, hbefore⟩ := ih _ hrun
          refine ⟨by simp [hout, hwhich], ?_⟩
          intro candidate hmem hselected
          rcases List.mem_cons.mp hmem with rfl | hmem
          · rw [hwhich] at hselected
            cases hselected
          · exact hbefore candidate hmem hselected
      | true =>
          simp only [deleteRows, hwhich, ↓reduceIte] at hrun
          cases hcheck : before row with
          | error refusal => simp [hcheck] at hrun
          | ok _ =>
              simp only [hcheck] at hrun
              obtain ⟨hout, hbefore⟩ := ih _ hrun
              refine ⟨by simp [hout, hwhich], ?_⟩
              intro candidate hmem hselected
              rcases List.mem_cons.mp hmem with rfl | hmem
              · exact hcheck
              · exact hbefore candidate hmem hselected

/-- A look-up by primary key finds exactly the row that has the key. -/
theorem find?_key_eq_some_iff {Key : Type} [DecidableEq Key] (key : Row → Key)
    {rows : List Row} (hkeys : (rows.map key).Nodup) (wanted : Key) (row : Row) :
    rows.find? (fun candidate => key candidate = wanted) = some row ↔
      row ∈ rows ∧ key row = wanted := by
  induction rows with
  | nil => simp
  | cons head rest ih =>
      obtain ⟨hfresh, hrest⟩ := List.nodup_cons.mp hkeys
      by_cases hhead : key head = wanted
      · simp only [List.find?_cons, hhead, decide_true, Option.some.injEq, List.mem_cons]
        constructor
        · rintro rfl
          exact ⟨Or.inl rfl, hhead⟩
        · rintro ⟨rfl | hmem, heq⟩
          · rfl
          · exact absurd (List.mem_map.mpr ⟨row, hmem, heq.trans hhead.symm⟩) hfresh
      · simp only [List.find?_cons, hhead, decide_false, ih hrest, List.mem_cons]
        constructor
        · rintro ⟨hmem, heq⟩
          exact ⟨Or.inr hmem, heq⟩
        · rintro ⟨rfl | hmem, heq⟩
          · exact absurd heq hhead
          · exact ⟨hmem, heq⟩

/-- After an update of the selected rows a look-up finds the changed row. -/
theorem find?_updated (selects : Row → Prop) [DecidablePred selects] {change : Row → Row}
    (hkeep : ∀ row, selects row → selects (change row)) (rows : List Row) :
    (rows.map fun row => if selects row then change row else row).find? (fun row => selects row) =
      (rows.find? fun row => selects row).map change := by
  induction rows with
  | nil => rfl
  | cons head rest ih =>
      by_cases hhead : selects head
      · simp [hhead, hkeep head hhead]
      · simpa [hhead] using ih

end Skolva.Sql
