import Mathlib.Data.List.Nodup

/-! # A log that names who has written a row

Each row says who has written it last, and so does the latest entry of a log about the row.
A statement that writes rows adds one entry for each of them.
-/

namespace Skolva.Sql

/-! ## Writes -/

/-- What a statement does to the rows of a table, as its triggers see it. -/
inductive RowWrite (Row : Type) where
  | insert (row : Row)
  | update (which : Row → Bool) (change : Row → Row)

namespace RowWrite

variable {Row : Type} (rows : List Row)

def after : RowWrite Row → List Row
  | insert row => rows ++ [row]
  | update which change => rows.map fun row => if which row then change row else row

/-- The rows that are written, each with the row it replaces. -/
def changes : RowWrite Row → List (Option Row × Row)
  | insert row => [(none, row)]
  | update which change => (rows.filter which).map fun row => (some row, change row)

/-- The rows that are written, as they are afterwards. -/
def written : RowWrite Row → List Row
  | insert row => [row]
  | update which change => (rows.filter which).map change

theorem map_changes (write : RowWrite Row) :
    (write.changes rows).map Prod.snd = write.written rows := by
  cases write with
  | insert row => rfl
  | update which change => exact List.map_map

variable {rows}

/-- A row that was not written was there before. -/
theorem mem_after (write : RowWrite Row) {row : Row} (hrow : row ∈ write.after rows) :
    row ∈ write.written rows ∨ row ∈ rows := by
  cases write with
  | insert new => exact (List.mem_append.mp hrow).symm
  | update which change =>
      obtain ⟨source, hsource, rfl⟩ := List.mem_map.mp hrow
      by_cases hwhich : which source = true
      · rw [if_pos hwhich]
        exact Or.inl (List.mem_map_of_mem (List.mem_filter.mpr ⟨hsource, hwhich⟩))
      · rw [if_neg hwhich]
        exact Or.inr hsource

theorem written_subset (write : RowWrite Row) : write.written rows ⊆ write.after rows := by
  intro row hrow
  cases write with
  | insert new => exact List.mem_append_right _ hrow
  | update which change =>
      obtain ⟨source, hsource, rfl⟩ := List.mem_map.mp hrow
      obtain ⟨hsource, hwhich⟩ := List.mem_filter.mp hsource
      exact List.mem_map.mpr ⟨source, hsource, if_pos hwhich⟩

/-- An update by a change that leaves the other rows. -/
theorem after_update_eq_map {which : Row → Bool} {change : Row → Row}
    (hothers : ∀ row, which row = false → change row = row) :
    (update which change).after rows = rows.map change := by
  refine List.map_congr_left fun row _ => ?_
  cases hwhich : which row with
  | true => rfl
  | false => exact (hothers row hwhich).symm

/-- An update that selects no row. -/
theorem after_update_of_none {which : Row → Bool} {change : Row → Row}
    (hnone : ∀ row ∈ rows, which row = false) : (update which change).after rows = rows := by
  have hsame : ∀ row ∈ rows, (if which row then change row else row) = id row := by
    intro row hrow
    rw [hnone row hrow]
    rfl
  rw [after, List.map_congr_left hsame, List.map_id]

end RowWrite

/-! ## Trails -/

/-- How rows and the entries of a log are told apart, and whom they name. -/
structure Trail (Row Key Entry Actor : Type) where
  key : Row → Key
  author : Row → Actor
  /-- The key of the row that an entry is about. -/
  about : Entry → Option Key
  actor : Entry → Actor

namespace Trail

variable {Row Key Entry Actor : Type}

/-! ## New entries -/

section Entries

variable (trail : Trail Row Key Entry Actor)

/-- There is an entry about the row. -/
def Mentions (log : List Entry) (row : Row) : Prop :=
  ∃ entry ∈ log, trail.about entry = some (trail.key row)

/-- The new entries name one actor, and are about all rows that have changed. -/
structure Accounts (before after : List Row) (who : Actor) (new : List Entry) : Prop where
  actor : ∀ entry ∈ new, trail.actor entry = who
  kept : ∀ row ∈ after, ¬trail.Mentions new row → row ∈ before

/-- There is an entry of this actor about each written row, and no other. -/
structure Enters (written : List Row) (who : Actor) (new : List Entry) : Prop where
  actor : ∀ entry ∈ new, trail.actor entry = who
  about : ∀ entry ∈ new, ∃ row ∈ written, trail.about entry = some (trail.key row)
  all : ∀ row ∈ written, trail.Mentions new row

variable {trail} {before between after written rows : List Row} {who : Actor}
  {new newer : List Entry} {row : Row}

theorem mentions_append :
    trail.Mentions (newer ++ new) row ↔ trail.Mentions newer row ∨ trail.Mentions new row := by
  simp only [Mentions, List.mem_append, or_and_right, exists_or]

/-- Two statements of one actor, one after the other. -/
theorem Accounts.append (hlater : trail.Accounts between after who newer)
    (hearlier : trail.Accounts before between who new) :
    trail.Accounts before after who (newer ++ new) where
  actor entry hentry := (List.mem_append.mp hentry).elim (hlater.actor entry) (hearlier.actor entry)
  kept row hrow hmentions := by
    rw [mentions_append, not_or] at hmentions
    exact hearlier.kept row (hlater.kept row hrow hmentions.1) hmentions.2

theorem Enters.accounts {write : RowWrite Row} (henters : trail.Enters (write.written rows) who new) :
    trail.Accounts rows (write.after rows) who new where
  actor := henters.actor
  kept _ hrow hmentions :=
    (write.mem_after hrow).resolve_left fun hwritten => hmentions (henters.all _ hwritten)

/-- With distinct keys, the rows with a new entry are those that were written. -/
theorem Enters.mentions_iff (henters : trail.Enters written who new)
    (hkeys : (rows.map trail.key).Nodup) (hwritten : written ⊆ rows) (hrow : row ∈ rows) :
    trail.Mentions new row ↔ row ∈ written := by
  constructor
  · rintro ⟨entry, hentry, habout⟩
    obtain ⟨other, hother, hkey⟩ := henters.about entry hentry
    have hsame := Option.some.inj (habout.symm.trans hkey)
    rwa [List.inj_on_of_nodup_map hkeys hrow (hwritten hother) hsame]
  · exact henters.all row

end Entries

/-! ## Agreement -/

section Agreement

variable [DecidableEq Key] (trail : Trail Row Key Entry Actor)

/-- The latest entry about a row. The log begins with its latest entry. -/
def latest (log : List Entry) (key : Key) : Option Entry :=
  log.find? fun entry => trail.about entry = some key

/-- Each row names the actor of its latest entry. -/
def Agrees (rows : List Row) (log : List Entry) : Prop :=
  ∀ row ∈ rows, (trail.latest log (trail.key row)).map trail.actor = some (trail.author row)

instance [DecidableEq Actor] (rows : List Row) (log : List Entry) :
    Decidable (trail.Agrees rows log) :=
  inferInstanceAs (Decidable (∀ row ∈ rows, _))

variable {trail} {before after rows : List Row} {who : Actor}
  {log new newer : List Entry} {row : Row}

theorem Agrees.nil (log : List Entry) : trail.Agrees [] log :=
  fun _ hrow => absurd hrow List.not_mem_nil

theorem latest_of_mentions (hactor : ∀ entry ∈ new, trail.actor entry = who)
    (hmentions : trail.Mentions new row) :
    (trail.latest (new ++ log) (trail.key row)).map trail.actor = some who := by
  obtain ⟨entry, hentry, habout⟩ := hmentions
  have hsome : (trail.latest new (trail.key row)).isSome = true :=
    List.find?_isSome.mpr ⟨entry, hentry, decide_eq_true habout⟩
  obtain ⟨latest, hlatest⟩ := Option.isSome_iff_exists.mp hsome
  have happend : trail.latest (new ++ log) (trail.key row) = some latest := by
    unfold Trail.latest at hlatest ⊢
    rw [List.find?_append, hlatest, Option.some_or]
  rw [happend, Option.map_some, hactor latest (List.mem_of_find?_eq_some hlatest)]

theorem latest_of_not_mentions (hmentions : ¬trail.Mentions new row) :
    trail.latest (new ++ log) (trail.key row) = trail.latest log (trail.key row) := by
  have hnone : trail.latest new (trail.key row) = none :=
    List.find?_eq_none.mpr fun entry hentry habout =>
      hmentions ⟨entry, hentry, of_decide_eq_true habout⟩
  unfold Trail.latest at hnone ⊢
  rw [List.find?_append, hnone, Option.none_or]

/-- The log still agrees if and only if the rows with a new entry name its actor. -/
theorem Accounts.agrees_after_iff (haccounts : trail.Accounts before after who new)
    (hbefore : trail.Agrees before log) :
    trail.Agrees after (new ++ log) ↔
      ∀ row ∈ after, trail.Mentions new row → trail.author row = who := by
  constructor
  · intro hafter row hrow hmentions
    have hagrees := hafter row hrow
    rw [latest_of_mentions haccounts.actor hmentions] at hagrees
    exact (Option.some.inj hagrees).symm
  · intro hauthors row hrow
    by_cases hmentions : trail.Mentions new row
    · rw [latest_of_mentions haccounts.actor hmentions, hauthors row hrow hmentions]
    · rw [latest_of_not_mentions hmentions]
      exact hbefore row (haccounts.kept row hrow hmentions)

/-- A write keeps the log in agreement if and only if it makes its actor the author of all
rows it writes. -/
theorem Enters.agrees_after_iff {write : RowWrite Row}
    (henters : trail.Enters (write.written rows) who new)
    (hkeys : ((write.after rows).map trail.key).Nodup) (hbefore : trail.Agrees rows log) :
    trail.Agrees (write.after rows) (new ++ log) ↔
      ∀ row ∈ write.written rows, trail.author row = who := by
  rw [henters.accounts.agrees_after_iff hbefore]
  constructor
  · exact fun hauthors row hrow =>
      hauthors row (write.written_subset hrow) (henters.all row hrow)
  · exact fun hauthors row hrow hmentions =>
      hauthors row ((henters.mentions_iff hkeys write.written_subset hrow).mp hmentions)

/-- So do two writes of one actor, if the second leaves what the first has written. -/
theorem Enters.agrees_append_iff {first second : RowWrite Row}
    (hfirst : trail.Enters (first.written rows) who new)
    (hsecond : trail.Enters (second.written (first.after rows)) who newer)
    (hkeys : ((second.after (first.after rows)).map trail.key).Nodup)
    (hkept : first.written rows ⊆ second.after (first.after rows))
    (hbefore : trail.Agrees rows log) :
    trail.Agrees (second.after (first.after rows)) (newer ++ (new ++ log)) ↔
      (∀ row ∈ first.written rows, trail.author row = who) ∧
        ∀ row ∈ second.written (first.after rows), trail.author row = who := by
  have haccounts := hsecond.accounts.append hfirst.accounts
  rw [← List.append_assoc, haccounts.agrees_after_iff hbefore]
  constructor
  · intro hauthors
    constructor
    · intro row hrow
      exact hauthors row (hkept hrow) (mentions_append.mpr (.inr (hfirst.all row hrow)))
    · intro row hrow
      exact hauthors row (second.written_subset hrow)
        (mentions_append.mpr (.inl (hsecond.all row hrow)))
  · rintro ⟨hone, htwo⟩ row hrow hmentions
    rcases mentions_append.mp hmentions with hmentions | hmentions
    · exact htwo row ((hsecond.mentions_iff hkeys second.written_subset hrow).mp hmentions)
    · exact hone row ((hfirst.mentions_iff hkeys hkept hrow).mp hmentions)

/-- Entries that are about no row of a table leave it to agree. -/
theorem Agrees.of_unmentioned (hagrees : trail.Agrees rows log)
    (hnew : ∀ entry ∈ new, trail.about entry = none) : trail.Agrees rows (new ++ log) := by
  intro row hrow
  rw [latest_of_not_mentions]
  · exact hagrees row hrow
  · rintro ⟨entry, hentry, habout⟩
    rw [hnew entry hentry] at habout
    cases habout

end Agreement

end Trail

end Skolva.Sql
