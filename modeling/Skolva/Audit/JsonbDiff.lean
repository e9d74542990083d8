import Mathlib.Data.List.Dedup
import Skolva.Audit.Report
import Skolva.Sql.Jsonb

/-! # The difference of two row images

`jsonb_diff` on the documents that `audit_logs` stores. The difference of two objects lists the
keys that changed, and what it lists leads from one object to the other.
-/

namespace Skolva.Audit.Image

open Sql

/-! ## The function -/

/-- A row that is aggregated. -/
def changed (oldJson newJson : Option Jsonb) (key : String) : String × Jsonb :=
  (key, jsonbBuildObject [("old", field oldJson key), ("new", field newJson key)])

/-- `jsonb_diff`, on any documents. `UNION` gives each key once. -/
def jsonbDiff (oldJson newJson : Option Jsonb) : Except JsonbError Jsonb := do
  let oldKeys ← jsonbObjectKeys (oldJson.getD (.ofObject .empty))
  let newKeys ← jsonbObjectKeys (newJson.getD (.ofObject .empty))
  let keys := (oldKeys ++ newKeys).dedup.filter fun key =>
    isDistinctFrom (field oldJson key) (field newJson key)
  return (jsonbObjectAgg (keys.map (changed oldJson newJson))).getD (.ofObject .empty)

/-! ## Differences of objects -/

/-- An image is an object or `NULL`. -/
def document (image : Option JsonObject) : Option Jsonb := image.map .ofObject

/-- `NULL` stands for the empty object. -/
def object (image : Option JsonObject) : JsonObject := image.getD .empty

/-- The look-ups of the key differ. -/
def DiffersAt (one other : Option JsonObject) (key : String) : Prop :=
  isDistinctFrom (field (document one) key) (field (document other) key) = true

instance (one other : Option JsonObject) : DecidablePred (DiffersAt one other) :=
  fun _ => inferInstanceAs (Decidable (_ = true))

/-- The values of a key are exchanged. -/
def exchangeEntry (entry : Jsonb) : Jsonb :=
  jsonbBuildObject [("old", field (some entry) "new"), ("new", field (some entry) "old")]

def exchange (diff : JsonObject) : JsonObject := diff.mapValues exchangeEntry

/-- The old or the new values of a difference. -/
def valuesOf (side : String) (diff : JsonObject) : JsonObject :=
  diff.mapValues fun entry => (field (some entry) side).getD .null

section Objects

variable {one other : Option JsonObject} {key : String}

theorem field_document (image : Option JsonObject) (key : String) :
    field (document image) key = (object image).lookup key := by
  cases image <;> rfl

/-- The keys and the changes of two objects. -/
def diff (one other : Option JsonObject) : JsonObject :=
  let keys := ((object one).keys ++ (object other).keys).dedup.filter fun key =>
    isDistinctFrom (field (document one) key) (field (document other) key)
  .ofEntries (keys.map (changed (document one) (document other)))

theorem jsonbDiff_document (one other : Option JsonObject) :
    jsonbDiff (document one) (document other) = .ok (.ofObject (diff one other)) := by
  have hkeys : ∀ image, jsonbObjectKeys ((document image).getD (.ofObject .empty)) =
      .ok (object image).keys := by
    intro image
    cases image <;> rfl
  unfold jsonbDiff
  rw [hkeys, hkeys]
  exact congrArg Except.ok (jsonbObjectAgg_getD _)

theorem mem_keys_of_differsAt (hdiffers : DiffersAt one other key) :
    key ∈ (object one).keys ++ (object other).keys := by
  rw [DiffersAt, field_document, field_document] at hdiffers
  rw [List.mem_append, SortedMap.mem_keys_iff, SortedMap.mem_keys_iff]
  cases hone : (object one).lookup key with
  | some value => exact .inl rfl
  | none =>
      cases hother : (object other).lookup key with
      | some value => exact .inr rfl
      | none =>
          rw [hone, hother] at hdiffers
          cases hdiffers

theorem lookup_diff (one other : Option JsonObject) (key : String) :
    (diff one other).lookup key =
      if DiffersAt one other key then
        some (changed (document one) (document other) key).2
      else none := by
  rw [diff, SortedMap.lookup_ofEntries, ← List.map_reverse]
  refine (SortedMap.lookup_map_self _ _ key).trans (if_congr ?_ rfl rfl)
  rw [List.mem_reverse, List.mem_filter, List.mem_dedup]
  exact and_iff_right_of_imp mem_keys_of_differsAt

theorem differsAt_comm : DiffersAt one other key ↔ DiffersAt other one key := by
  rw [DiffersAt, isDistinctFrom_comm]
  rfl

theorem mem_keys_diff : key ∈ (diff one other).keys ↔ DiffersAt one other key := by
  rw [SortedMap.mem_keys_iff, lookup_diff]
  by_cases hdiffers : DiffersAt one other key
  · simp [hdiffers]
  · simp [hdiffers]

theorem diff_eq_empty_iff : diff one other = .empty ↔ ∀ key, ¬DiffersAt one other key := by
  constructor
  · intro hempty key hdiffers
    have hkey := mem_keys_diff.mpr hdiffers
    rw [hempty] at hkey
    cases hkey
  · intro hsame
    ext key : 1
    rw [lookup_diff, if_neg (hsame key)]
    rfl

/-! ## The entries -/

variable {oldJson newJson : Option Jsonb}

theorem field_changed_old : field (some (changed oldJson newJson key).2) "old" =
    some ((field oldJson key).getD .null) :=
  field_jsonbBuildObject _ "old"

theorem field_changed_new : field (some (changed oldJson newJson key).2) "new" =
    some ((field newJson key).getD .null) :=
  field_jsonbBuildObject _ "new"

theorem exchangeEntry_changed :
    exchangeEntry (changed oldJson newJson key).2 = (changed newJson oldJson key).2 := by
  rw [exchangeEntry, field_changed_old, field_changed_new]
  rfl

theorem exchange_diff (one other : Option JsonObject) :
    exchange (diff one other) = diff other one := by
  ext key : 1
  rw [exchange, SortedMap.lookup_mapValues, lookup_diff, lookup_diff]
  by_cases hdiffers : DiffersAt one other key
  · rw [if_pos hdiffers, if_pos (differsAt_comm.mp hdiffers), Option.map_some,
      exchangeEntry_changed]
  · rw [if_neg hdiffers, if_neg fun h => hdiffers (differsAt_comm.mpr h)]
    rfl

theorem lookup_newValues (one other : Option JsonObject) (key : String) :
    (valuesOf "new" (diff one other)).lookup key =
      if DiffersAt one other key then some (((object other).lookup key).getD .null) else none := by
  rw [valuesOf, SortedMap.lookup_mapValues, lookup_diff]
  split_ifs
  · rw [Option.map_some, field_changed_new, field_document]
    rfl
  · rfl

/-- The old values are those that the opposite difference has as new ones. -/
theorem oldValues_diff (one other : Option JsonObject) :
    valuesOf "old" (diff one other) = valuesOf "new" (diff other one) := by
  ext key : 1
  rw [lookup_newValues, valuesOf, SortedMap.lookup_mapValues, lookup_diff]
  by_cases hdiffers : DiffersAt one other key
  · rw [if_pos hdiffers, if_pos (differsAt_comm.mp hdiffers), Option.map_some, field_changed_old,
      field_document]
    rfl
  · rw [if_neg hdiffers, if_neg fun h => hdiffers (differsAt_comm.mpr h)]
    rfl

/-! ## The way from one object to the other -/

/-- The keys of both objects are the same. -/
def SameKeys (one other : Option JsonObject) : Prop :=
  ∀ key, key ∈ (object one).keys ↔ key ∈ (object other).keys

theorem SameKeys.symm (hkeys : SameKeys one other) : SameKeys other one := fun key =>
  (hkeys key).symm

/-- The first object, with the new values of the difference written over it. -/
def written (one other : Option JsonObject) : JsonObject :=
  (object one).overlay (valuesOf "new" (diff one other))

/-- A key that differs gets the value of the other object. -/
theorem lookup_written (hkeys : SameKeys one other) (key : String) :
    (written one other).lookup key =
      if DiffersAt one other key then (object other).lookup key else (object one).lookup key := by
  rw [written, SortedMap.lookup_overlay, lookup_newValues]
  by_cases hdiffers : DiffersAt one other key
  · have hmem : key ∈ (object other).keys := by
      obtain hone | hother := List.mem_append.mp (mem_keys_of_differsAt hdiffers)
      · exact (hkeys key).mp hone
      · exact hother
    obtain ⟨value, hvalue⟩ := Option.isSome_iff_exists.mp (SortedMap.mem_keys_iff.mp hmem)
    rw [if_pos hdiffers, if_pos hdiffers, hvalue]
    rfl
  · rw [if_neg hdiffers, if_neg hdiffers]
    rfl

theorem same_written (hkeys : SameKeys one other) :
    (Jsonb.ofObject (written one other)).same (.ofObject (object other)) = true := by
  apply same_ofObject_iff.mpr
  intro key
  rw [lookup_written hkeys]
  by_cases hdiffers : DiffersAt one other key
  · rw [if_pos hdiffers, isDistinctFrom_self]
  · rw [if_neg hdiffers]
    rw [DiffersAt, field_document, field_document, Bool.not_eq_true] at hdiffers
    exact hdiffers

/-- If equal values are also written alike, the object is the other one to the last digit. -/
theorem written_eq (hkeys : SameKeys one other)
    (halike : ∀ key, ¬DiffersAt one other key →
      (object one).lookup key = (object other).lookup key) : written one other = object other := by
  ext key : 1
  rw [lookup_written hkeys]
  by_cases hdiffers : DiffersAt one other key
  · rw [if_pos hdiffers]
  · rw [if_neg hdiffers, halike key hdiffers]

end Objects

/-- The difference of two objects has the keys whose look-ups differ, and leads from each of
them to the other if they have the same keys. Values are compared by the equality of `jsonb`. -/
theorem jsonbDiff_exact (one other : Option JsonObject) :
    ∃ diff : JsonObject,
      jsonbDiff (document one) (document other) = .ok (.ofObject diff) ∧
      (∀ key, key ∈ diff.keys ↔ DiffersAt one other key) ∧
      (diff = .empty ↔ ∀ key, ¬DiffersAt one other key) ∧
      jsonbDiff (document other) (document one) = .ok (.ofObject (exchange diff)) ∧
      (SameKeys one other →
        (Jsonb.ofObject ((object one).overlay (valuesOf "new" diff))).same
          (.ofObject (object other)) = true ∧
        (Jsonb.ofObject ((object other).overlay (valuesOf "old" diff))).same
          (.ofObject (object one)) = true) := by
  refine ⟨diff one other, jsonbDiff_document one other, fun key => mem_keys_diff,
    diff_eq_empty_iff, ?_, fun hkeys => ⟨same_written hkeys, ?_⟩⟩
  · rw [exchange_diff]
    exact jsonbDiff_document other one
  · rw [oldValues_diff]
    exact same_written hkeys.symm

-- A missing member differs from `null`, and is shown as `null`.
example : jsonbDiff (some (.object [("a", .null), ("b", .bool true)]))
    (some (.object [("b", .bool true)])) =
    .ok (.object [("a", .object [("new", .null), ("old", .null)])]) := rfl

/-- Only objects and `NULL` have a difference. -/
theorem jsonbDiff_ok_iff {oldJson newJson : Option Jsonb} :
    (∃ diff, jsonbDiff oldJson newJson = .ok diff) ↔
      (∀ document ∈ oldJson, ∃ members, document = .object members) ∧
        ∀ document ∈ newJson, ∃ members, document = .object members := by
  have hkeys : ∀ json : Option Jsonb,
      (∀ document ∈ json, ∃ members, document = .object members) ↔
        ∃ keys, jsonbObjectKeys (json.getD (.ofObject .empty)) = .ok keys := by
    intro json
    cases json with
    | none => simp [Jsonb.ofObject, jsonbObjectKeys]
    | some document => cases document <;> simp [jsonbObjectKeys]
  rw [hkeys, hkeys]
  constructor
  · rintro ⟨diff, hdiff⟩
    obtain ⟨oldKeys, hold, hdiff⟩ := ok_of_bind hdiff
    obtain ⟨newKeys, hnew, -⟩ := ok_of_bind hdiff
    exact ⟨⟨oldKeys, hold⟩, ⟨newKeys, hnew⟩⟩
  · rintro ⟨⟨oldKeys, hold⟩, ⟨newKeys, hnew⟩⟩
    unfold jsonbDiff
    rw [hold, hnew]
    exact ⟨_, rfl⟩

/-! ## The report -/

section Report

-- What `to_jsonb` makes of the values, and the columns of the table.
variable (toJsonb : Json → Jsonb) (columns : List String)

/-- `to_jsonb` of a row. -/
def rowImage (row : Row) : JsonObject :=
  .ofEntries (columns.map fun column => (column, toJsonb (row column)))

variable {toJsonb columns} {old new : Option Row}

theorem lookup_rowImage (row : Option Row) (key : String) :
    (object (row.map (rowImage toJsonb columns))).lookup key =
      if key ∈ columns then row.map fun row => toJsonb (row key) else none := by
  cases row with
  | none => simp [object, SortedMap.lookup, SortedMap.empty]
  | some row =>
      refine (SortedMap.lookup_ofEntries key).trans ?_
      rw [← List.map_reverse, SortedMap.lookup_map_self]
      simp only [List.mem_reverse, Option.map_some]

/-- `to_jsonb` tells the values of a column apart if they differ. -/
def TellsApart (toJsonb : Json → Jsonb) (columns : List String) (old new : Option Row) : Prop :=
  ∀ before ∈ old, ∀ after ∈ new, ∀ column ∈ columns,
    (toJsonb (before column)).same (toJsonb (after column)) = true ↔ before column = after column

theorem differsAt_rowImage_iff (happart : TellsApart toJsonb columns old new) {key : String} :
    DiffersAt (old.map (rowImage toJsonb columns)) (new.map (rowImage toJsonb columns)) key ↔
      key ∈ columns ∧ old.map (· key) ≠ new.map (· key) := by
  rw [DiffersAt, field_document, field_document, lookup_rowImage, lookup_rowImage]
  by_cases hkey : key ∈ columns
  · rw [if_pos hkey, if_pos hkey]
    cases old with
    | none => cases new <;> simp [isDistinctFrom, hkey]
    | some before =>
        cases new with
        | none => simp [isDistinctFrom, hkey]
        | some after =>
            have hsame := happart before rfl after rfl key hkey
            simp only [isDistinctFrom, Option.map_some, Bool.not_eq_true', ne_eq,
              Option.some.injEq, hkey, true_and, ← hsame, Bool.not_eq_true]
  · simp [hkey, isDistinctFrom]

/-- What the report shows of two rows is the difference of their images. -/
theorem diff_rowImage (hnull : toJsonb .null = .null)
    (happart : TellsApart toJsonb columns old new) :
    diff (old.map (rowImage toJsonb columns)) (new.map (rowImage toJsonb columns)) =
      .ofEntries ((Audit.jsonbDiff columns old new).map fun entry => (entry.1,
        jsonbBuildObject [("old", some (toJsonb entry.2.1)), ("new", some (toJsonb entry.2.2))])) := by
  let entryOf := fun key => jsonbBuildObject
    [("old", some (toJsonb ((old.map (· key)).getD .null))),
      ("new", some (toJsonb ((new.map (· key)).getD .null)))]
  have hreport : (Audit.jsonbDiff columns old new).map (fun entry => (entry.1,
        jsonbBuildObject [("old", some (toJsonb entry.2.1)), ("new", some (toJsonb entry.2.2))])) =
      (columns.filter fun key => old.map (· key) ≠ new.map (· key)).map fun key =>
        (key, entryOf key) := by
    have hkeys : (if old.isNone && new.isNone then [] else columns).filter
        (fun key => old.map (· key) ≠ new.map (· key)) =
          columns.filter fun key => old.map (· key) ≠ new.map (· key) := by
      cases old with
      | none => cases new <;> simp
      | some before => rfl
    rw [← hkeys]
    unfold Audit.jsonbDiff
    dsimp only
    generalize (if old.isNone && new.isNone then [] else columns) = keys
    induction keys with
    | nil => rfl
    | cons key rest ih =>
        by_cases hequal : old.map (· key) = new.map (· key)
        · simpa [hequal] using ih
        · simpa [hequal, entryOf] using ih
  have hvalue : ∀ row : Option Row, ∀ key ∈ columns,
      ((object (row.map (rowImage toJsonb columns))).lookup key).getD .null =
        toJsonb ((row.map (· key)).getD .null) := by
    intro row key hkey
    rw [lookup_rowImage, if_pos hkey]
    cases row with
    | none => exact hnull.symm
    | some row => rfl
  rw [hreport]
  ext key : 1
  rw [lookup_diff, SortedMap.lookup_ofEntries, ← List.map_reverse, SortedMap.lookup_map_self]
  by_cases hdiffers : key ∈ columns ∧ old.map (· key) ≠ new.map (· key)
  · rw [if_pos ((differsAt_rowImage_iff happart).mpr hdiffers), if_pos (by simpa using hdiffers)]
    simp only [changed, entryOf, jsonbBuildObject, field_document, List.map_cons, List.map_nil,
      Option.getD_some, hvalue _ key hdiffers.1]
  · rw [if_neg fun h => hdiffers ((differsAt_rowImage_iff happart).mp h),
      if_neg (by simpa using hdiffers)]

end Report

end Skolva.Audit.Image
