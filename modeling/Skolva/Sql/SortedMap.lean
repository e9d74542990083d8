import Mathlib.Data.List.Forall2
import Mathlib.Data.List.Nodup
import Mathlib.Order.Defs.Unbundled
import Mathlib.Order.RelClasses

/-! # Maps in the order of their keys

A finite map is the list of its entries, in a strict total order of the keys. Maps with the
same look-ups are the same list, and with related look-ups they are related entry by entry.
-/

namespace Skolva.Sql

structure SortedMap {Key : Type} (before : Key → Key → Prop) (Value : Type) where
  entries : List (Key × Value)
  sorted : entries.Pairwise fun one other => before one.1 other.1

namespace SortedMap

variable {Key Value : Type} {before : Key → Key → Prop}

def empty : SortedMap before Value := ⟨[], .nil⟩

def keys (map : SortedMap before Value) : List Key := map.entries.map Prod.fst

theorem nodup_keys [IsStrictTotalOrder Key before] (map : SortedMap before Value) :
    map.keys.Nodup :=
  List.pairwise_map.mpr (map.sorted.imp (ne_of_irrefl (r := before)))

def lookup [DecidableEq Key] (map : SortedMap before Value) (key : Key) : Option Value :=
  map.entries.lookup key

theorem lookup_cons_eq [DecidableEq Key] {key sought : Key} {value : Value}
    {rest : List (Key × Value)} :
    ((key, value) :: rest).lookup sought = if sought = key then some value else rest.lookup sought := by
  rw [List.lookup_cons]
  by_cases hkey : sought = key
  · rw [beq_iff_eq.mpr hkey, if_pos hkey]
  · rw [beq_eq_false_iff_ne.mpr hkey, if_neg hkey]

/-! ## Insertion -/

section Insert

variable [DecidableEq Key] [DecidableRel before]

variable (before) in
/-- An entry in its place, or in the place of the entry with its key. -/
def insertEntry (key : Key) (value : Value) : List (Key × Value) → List (Key × Value)
  | [] => [(key, value)]
  | entry :: rest =>
      if key = entry.1 then (key, value) :: rest
      else if before key entry.1 then (key, value) :: entry :: rest
      else entry :: insertEntry key value rest

variable {key : Key} {value : Value} {entries : List (Key × Value)}

theorem mem_insertEntry {entry : Key × Value}
    (hentry : entry ∈ insertEntry before key value entries) :
    entry = (key, value) ∨ entry ∈ entries := by
  induction entries with
  | nil => exact .inl (List.mem_singleton.mp hentry)
  | cons head rest ih =>
      rw [insertEntry] at hentry
      split_ifs at hentry
      · exact (List.mem_cons.mp hentry).imp_right (List.mem_cons_of_mem head)
      · exact List.mem_cons.mp hentry
      · obtain heq | hrest := List.mem_cons.mp hentry
        · exact .inr (heq ▸ List.mem_cons_self)
        · exact (ih hrest).imp_right (List.mem_cons_of_mem head)

theorem sorted_insertEntry [IsStrictTotalOrder Key before]
    (hsorted : entries.Pairwise fun one other => before one.1 other.1) :
    (insertEntry before key value entries).Pairwise fun one other => before one.1 other.1 := by
  induction entries with
  | nil => exact List.pairwise_singleton _ _
  | cons head rest ih =>
      obtain ⟨hhead, hrest⟩ := List.pairwise_cons.mp hsorted
      rw [insertEntry]
      split_ifs with hkey hbefore
      · apply List.pairwise_cons.mpr
        exact ⟨fun entry hentry => hkey ▸ hhead entry hentry, hrest⟩
      · apply List.pairwise_cons.mpr
        refine ⟨fun entry hentry => ?_, hsorted⟩
        obtain rfl | hentry := List.mem_cons.mp hentry
        · exact hbefore
        · exact trans_of before hbefore (hhead entry hentry)
      · apply List.pairwise_cons.mpr
        refine ⟨fun entry hentry => ?_, ih hrest⟩
        obtain rfl | hentry := mem_insertEntry hentry
        · exact ((trichotomous_of before key head.1).resolve_left hbefore).resolve_left hkey
        · exact hhead entry hentry

theorem lookup_insertEntry (sought : Key) :
    (insertEntry before key value entries).lookup sought =
      if sought = key then some value else entries.lookup sought := by
  induction entries with
  | nil => rw [insertEntry, lookup_cons_eq]
  | cons head rest ih =>
      obtain ⟨other, old⟩ := head
      rw [insertEntry]
      by_cases hkey : key = other
      · subst hkey
        rw [if_pos rfl, lookup_cons_eq, lookup_cons_eq]
        split_ifs <;> rfl
      · rw [if_neg hkey]
        by_cases hbefore : before key other
        · rw [if_pos hbefore, lookup_cons_eq]
        · rw [if_neg hbefore, lookup_cons_eq, lookup_cons_eq, ih]
          by_cases hsought : sought = key
          · subst hsought
            rw [if_neg hkey, if_pos rfl, if_pos rfl]
          · rw [if_neg hsought, if_neg hsought]

variable [IsStrictTotalOrder Key before]

def insert (map : SortedMap before Value) (key : Key) (value : Value) : SortedMap before Value :=
  ⟨insertEntry before key value map.entries, sorted_insertEntry map.sorted⟩

/-- The last entry of a key counts. -/
def ofEntries (entries : List (Key × Value)) : SortedMap before Value :=
  entries.foldl (fun map entry => map.insert entry.1 entry.2) empty

/-- The entries of the second map are written over the first one. -/
def overlay (map other : SortedMap before Value) : SortedMap before Value :=
  other.entries.foldl (fun map entry => map.insert entry.1 entry.2) map

theorem lookup_insert (map : SortedMap before Value) (sought : Key) :
    (map.insert key value).lookup sought = if sought = key then some value else map.lookup sought :=
  lookup_insertEntry sought

theorem lookup_foldl_insert (map : SortedMap before Value) (sought : Key) :
    (entries.foldl (fun map entry => map.insert entry.1 entry.2) map).lookup sought =
      (entries.reverse.lookup sought).or (map.lookup sought) := by
  induction entries generalizing map with
  | nil => rfl
  | cons head rest ih =>
      obtain ⟨other, value⟩ := head
      rw [List.foldl_cons, ih, List.reverse_cons, List.lookup_append, Option.or_assoc]
      congr 1
      rw [lookup_insert, lookup_cons_eq]
      split_ifs <;> rfl

theorem lookup_ofEntries (sought : Key) :
    (ofEntries entries : SortedMap before Value).lookup sought = entries.reverse.lookup sought := by
  rw [ofEntries, lookup_foldl_insert]
  exact Option.or_none

end Insert

/-! ## Look-ups -/

section Lookup

variable [DecidableEq Key]

/-- The value of a key can be computed from it. -/
theorem lookup_map_self (keys : List Key) (f : Key → Value) (sought : Key) :
    (keys.map fun key => (key, f key)).lookup sought =
      if sought ∈ keys then some (f sought) else none := by
  induction keys with
  | nil => rfl
  | cons key rest ih =>
      rw [List.map_cons, lookup_cons_eq, ih]
      by_cases hkey : sought = key
      · simp [hkey]
      · simp [hkey]

theorem isSome_lookup_iff {entries : List (Key × Value)} {sought : Key} :
    (entries.lookup sought).isSome = true ↔ sought ∈ entries.map Prod.fst := by
  induction entries with
  | nil => simp
  | cons entry rest ih =>
      obtain ⟨key, value⟩ := entry
      rw [lookup_cons_eq, List.map_cons, List.mem_cons]
      by_cases hkey : sought = key
      · simp [hkey]
      · simp [hkey, ih]

theorem lookup_eq_some_iff_mem {entries : List (Key × Value)}
    (hkeys : (entries.map Prod.fst).Nodup) {key : Key} {value : Value} :
    entries.lookup key = some value ↔ (key, value) ∈ entries := by
  induction entries with
  | nil => simp
  | cons entry rest ih =>
      obtain ⟨other, old⟩ := entry
      obtain ⟨hother, hrest⟩ := List.nodup_cons.mp hkeys
      rw [lookup_cons_eq, List.mem_cons]
      by_cases hkey : key = other
      · subst hkey
        have hnot : (key, value) ∉ rest := fun hmem => hother (List.mem_map.mpr ⟨_, hmem, rfl⟩)
        simp [hnot, eq_comm]
      · simp [hkey, ih hrest]

theorem mem_keys_iff {map : SortedMap before Value} {key : Key} :
    key ∈ map.keys ↔ (map.lookup key).isSome = true :=
  isSome_lookup_iff.symm

section Order

variable [IsStrictTotalOrder Key before] (map other : SortedMap before Value)

theorem lookup_reverse (key : Key) : map.entries.reverse.lookup key = map.lookup key := by
  have hreverse : (map.entries.reverse.map Prod.fst).Nodup := by
    rw [List.map_reverse]
    exact List.nodup_reverse.mpr map.nodup_keys
  ext value
  rw [lookup, lookup_eq_some_iff_mem hreverse, lookup_eq_some_iff_mem map.nodup_keys]
  exact List.mem_reverse

theorem lookup_overlay [DecidableRel before] (key : Key) :
    (map.overlay other).lookup key = (other.lookup key).or (map.lookup key) := by
  rw [overlay, lookup_foldl_insert, lookup_reverse]

end Order

theorem lookup_map_snd {Other : Type} (f : Value → Other) (entries : List (Key × Value))
    (sought : Key) :
    (entries.map fun entry => (entry.1, f entry.2)).lookup sought =
      (entries.lookup sought).map f := by
  induction entries with
  | nil => rfl
  | cons entry rest ih =>
      obtain ⟨key, value⟩ := entry
      rw [List.map_cons, lookup_cons_eq, lookup_cons_eq, ih]
      split_ifs <;> rfl

/-- The values are replaced, and the keys stay. -/
def mapValues {Other : Type} (f : Value → Other) (map : SortedMap before Value) :
    SortedMap before Other where
  entries := map.entries.map fun entry => (entry.1, f entry.2)
  sorted := List.pairwise_map.mpr map.sorted

theorem lookup_mapValues {Other : Type} (f : Value → Other) (map : SortedMap before Value)
    (key : Key) : (map.mapValues f).lookup key = (map.lookup key).map f :=
  lookup_map_snd f map.entries key

end Lookup

/-! ## Maps with the same look-ups -/

section Related

variable [DecidableEq Key] [IsStrictTotalOrder Key before] {Other : Type}
  {r : Value → Other → Prop}

/-- A key before all others is not among them. -/
theorem lookup_eq_none {entries : List (Key × Value)} {key : Key}
    (hbefore : ∀ entry ∈ entries, before key entry.1) : entries.lookup key = none := by
  apply Option.not_isSome_iff_eq_none.mp
  intro hsome
  obtain ⟨entry, hentry, hkey⟩ := List.mem_map.mp (isSome_lookup_iff.mp hsome)
  exact irrefl_of before key (hkey ▸ hbefore entry hentry)

/-- The entries are related one by one if the look-ups are. -/
theorem forall₂_of_lookup {one : List (Key × Value)} {other : List (Key × Other)}
    (hone : one.Pairwise fun entry next => before entry.1 next.1)
    (hother : other.Pairwise fun entry next => before entry.1 next.1)
    (hlookup : ∀ key, Option.Rel r (one.lookup key) (other.lookup key)) :
    List.Forall₂ (fun entry entry' => entry.1 = entry'.1 ∧ r entry.2 entry'.2) one other := by
  induction one generalizing other with
  | nil =>
      cases other with
      | nil => exact .nil
      | cons entry' rest' =>
          have hrel := hlookup entry'.1
          rw [lookup_cons_eq, if_pos rfl] at hrel
          cases hrel
  | cons entry rest ih =>
      obtain ⟨key, value⟩ := entry
      obtain ⟨hfirst, hrest⟩ := List.pairwise_cons.mp hone
      cases other with
      | nil =>
          have hrel := hlookup key
          rw [lookup_cons_eq, if_pos rfl] at hrel
          cases hrel
      | cons entry' rest' =>
          obtain ⟨key', value'⟩ := entry'
          obtain ⟨hfirst', hrest'⟩ := List.pairwise_cons.mp hother
          -- The smaller of two first keys would be in one of the maps only.
          obtain hbefore | rfl | hbefore := trichotomous_of before key key'
          · have hnone : ((key', value') :: rest').lookup key = none :=
              lookup_eq_none (List.forall_mem_cons.mpr
                ⟨hbefore, fun entry hentry => trans_of before hbefore (hfirst' entry hentry)⟩)
            have hrel := hlookup key
            rw [hnone, lookup_cons_eq, if_pos rfl] at hrel
            cases hrel
          · have hrel := hlookup key
            rw [lookup_cons_eq, lookup_cons_eq, if_pos rfl, if_pos rfl] at hrel
            cases hrel with
            | some hvalue =>
                refine .cons ⟨rfl, hvalue⟩ (ih hrest hrest' fun sought => ?_)
                by_cases hsought : sought = key
                · subst hsought
                  rw [lookup_eq_none hfirst, lookup_eq_none hfirst']
                  exact .none
                · have hrel := hlookup sought
                  rwa [lookup_cons_eq, lookup_cons_eq, if_neg hsought, if_neg hsought] at hrel
          · have hnone : ((key, value) :: rest).lookup key' = none :=
              lookup_eq_none (List.forall_mem_cons.mpr
                ⟨hbefore, fun entry hentry => trans_of before hbefore (hfirst entry hentry)⟩)
            have hrel := hlookup key'
            rw [hnone, lookup_cons_eq, if_pos rfl] at hrel
            cases hrel

theorem rel_lookup {one : List (Key × Value)} {other : List (Key × Other)}
    (hentries : List.Forall₂ (fun entry entry' => entry.1 = entry'.1 ∧ r entry.2 entry'.2)
      one other) (key : Key) : Option.Rel r (one.lookup key) (other.lookup key) := by
  induction hentries with
  | nil => exact .none
  | @cons entry entry' rest rest' hentry _ ih =>
      obtain ⟨key', value⟩ := entry
      obtain ⟨other, value'⟩ := entry'
      obtain ⟨rfl, hvalue⟩ := hentry
      rw [lookup_cons_eq, lookup_cons_eq]
      by_cases hkey : key = key'
      · rw [if_pos hkey, if_pos hkey]
        exact .some hvalue
      · rw [if_neg hkey, if_neg hkey]
        exact ih

theorem forall₂_entries_iff {one : SortedMap before Value} {other : SortedMap before Other} :
    List.Forall₂ (fun entry entry' => entry.1 = entry'.1 ∧ r entry.2 entry'.2)
        one.entries other.entries ↔
      ∀ key, Option.Rel r (one.lookup key) (other.lookup key) :=
  ⟨rel_lookup, forall₂_of_lookup one.sorted other.sorted⟩

@[ext]
theorem ext_lookup {one other : SortedMap before Value}
    (hlookup : ∀ key, one.lookup key = other.lookup key) : one = other := by
  have hentries := forall₂_of_lookup (r := Eq) one.sorted other.sorted fun key => by
    rw [← lookup, ← lookup, hlookup key]
    cases other.lookup key with
    | none => exact .none
    | some value => exact .some rfl
  obtain ⟨entries, hone⟩ := one
  obtain ⟨entries', hother⟩ := other
  congr
  exact List.forall₂_eq_eq_eq ▸ hentries.imp fun _ _ hentry => Prod.ext hentry.1 hentry.2

end Related

end SortedMap

end Skolva.Sql
