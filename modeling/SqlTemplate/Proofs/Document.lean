import SqlTemplate.Value.Document
import Mathlib.Data.List.Basic
import Mathlib.Data.List.Nodup

/-!
# Documents and their values

What stands at a place of a document stands, converted, at the same place of its value.

* `Document.at?` and `Value.at?` follow a path of steps down.
* `Document.toValue_array` and `Document.toValue_object` are the entries of a converted array and
  of a converted object.
* `Document.toValue_at?` is the run lemma over a path, and `Document.toValue_holds` says what the
  entries at every place are.
-/

namespace SqlTemplate

open Text

/-! ## Places -/

/-- A step from a document to one of its parts. -/
inductive Step where
  /-- The item of an array with a number, from zero up. -/
  | item (n : Nat)
  /-- The field of an object with a name. -/
  | field (name : String)

/-- The key that the step takes in the value of the document. -/
def Step.key : Step → Key
  | .item n => Key.ofNat n
  | .field name => Key.ofString name

namespace Value

/-- The value of an entry of an array. -/
def child? : Value → Key → Option Value
  | .array entries, key => Entries.get? key entries
  | .scalar _, _ => none
  | .deferred _ _, _ => none

/-- The value at the end of a path. -/
def at? (value : Value) : List Key → Option Value
  | [] => some value
  | key :: rest => (value.child? key).bind fun child => child.at? rest

end Value

namespace Document

/-- The part of a document that is one step down; of fields with one name it is the last one. -/
def child? : Document → Step → Option Document
  | .array items, .item n => items[n]?
  | .object fields, .field name => Entries.get? name fields.reverse
  | _, _ => none

/-- The part of a document at the end of a path. -/
def at? (document : Document) : List Step → Option Document
  | [] => some document
  | step :: rest => (document.child? step).bind fun child => child.at? rest

/-! ## Arrays and objects -/

theorem itemValues_eq_map (items : List Document) : itemValues items = items.map toValue := by
  induction items with
  | nil => rfl
  | cons item rest ih => rw [itemValues, ih, List.map_cons]

theorem fieldValues_eq_map (fields : List (String × Document)) :
    fieldValues fields = fields.map fun field => (field.1, field.2.toValue) := by
  induction fields with
  | nil => rfl
  | cons field rest ih => rw [fieldValues, ih, List.map_cons]

/-- The entries that the items of an array become. -/
def itemEntries (items : List Document) : ArrayEntries :=
  (items.map toValue).zipIdx.map fun (value, n) => (Key.ofNat n, value)

/-- The entries that the fields of an object become. -/
def fieldEntries (fields : List (String × Document)) : ArrayEntries :=
  (Entries.collectSorted (fields.map fun field => (field.1, field.2.toValue))).map
    fun entry => (Key.ofString entry.1, entry.2)

theorem toValue_array (items : List Document) :
    (Document.array items).toValue = .array (itemEntries items) := by
  rw [toValue, itemValues_eq_map]
  rfl

theorem keys_itemEntries (items : List Document) :
    (itemEntries items).map Prod.fst = (List.range items.length).map Key.ofNat := by
  rw [itemEntries, List.map_map]
  have hnumbers : ((items.map toValue).zipIdx.map Prod.snd) = List.range items.length := by
    rw [List.zipIdx_map_snd, List.length_map, List.range_eq_range']
  rw [← hnumbers, List.map_map]
  rfl

theorem values_itemEntries (items : List Document) :
    (itemEntries items).map Prod.snd = items.map toValue := by
  rw [itemEntries, List.map_map]
  exact List.zipIdx_map_fst 0 _

theorem nodup_keys_itemEntries (items : List Document) :
    ((itemEntries items).map Prod.fst).Nodup := by
  rw [keys_itemEntries]
  exact List.nodup_range.map Key.ofNat_injective

/-- Every item is found under its number. -/
theorem get?_itemEntries {items : List Document} {n : Nat} {item : Document}
    (h : items[n]? = some item) :
    Entries.get? (Key.ofNat n) (itemEntries items) = some item.toValue := by
  apply Entries.get?_of_mem (nodup_keys_itemEntries items)
  refine List.mem_map.mpr ⟨(item.toValue, n), ?_, rfl⟩
  rw [List.mem_zipIdx_iff_getElem?, List.getElem?_map, h]
  rfl

/-- The names of the fields, each once and in ascending order. -/
def fieldNames (fields : List (String × Document)) : List String :=
  (Entries.collectSorted (fields.map fun field => (field.1, field.2.toValue))).map Prod.fst

theorem pairwise_fieldNames (fields : List (String × Document)) :
    (fieldNames fields).Pairwise (· < ·) :=
  Entries.pairwise_collectSorted _

theorem nodup_fieldNames (fields : List (String × Document)) : (fieldNames fields).Nodup := by
  refine (pairwise_fieldNames fields).imp ?_
  rintro name _ hbelow rfl
  exact String.lt_irrefl name hbelow

theorem mem_fieldNames {name : String} {fields : List (String × Document)} :
    name ∈ fieldNames fields ↔ name ∈ fields.map Prod.fst := by
  rw [fieldNames, Entries.mem_keys_collectSorted, List.map_map]
  rfl

theorem keys_fieldEntries (fields : List (String × Document)) :
    (fieldEntries fields).map Prod.fst = (fieldNames fields).map Key.ofString := by
  rw [fieldEntries, fieldNames, List.map_map, List.map_map]
  rfl

theorem nodup_keys_fieldEntries (fields : List (String × Document)) :
    ((fieldEntries fields).map Prod.fst).Nodup := by
  rw [keys_fieldEntries]
  exact (nodup_fieldNames fields).map Key.ofString_injective

/-- The key of an entry written as text is the name of a field. -/
theorem texts_fieldEntries (fields : List (String × Document)) :
    (fieldEntries fields).map (fun entry => entry.1.text) = fieldNames fields := by
  have htexts : (fieldEntries fields).map (fun entry => entry.1.text) =
      ((fieldEntries fields).map Prod.fst).map Key.text := by
    rw [List.map_map]
    rfl
  rw [htexts, keys_fieldEntries, List.map_map]
  exact List.map_id'' Key.text_ofString _

theorem toValue_object (fields : List (String × Document)) :
    (Document.object fields).toValue = .array (fieldEntries fields) := by
  rw [toValue, fieldValues_eq_map]
  exact congrArg Value.array (Entries.collect_eq_self (nodup_keys_fieldEntries fields))

/-- Under the key of a name the last field of that name is found, converted. -/
theorem get?_fieldEntries (name : String) (fields : List (String × Document)) :
    Entries.get? (Key.ofString name) (fieldEntries fields) =
      (Entries.get? name fields.reverse).map toValue := by
  rw [fieldEntries, Entries.get?_map_key Key.ofString_injective, Entries.get?_collectSorted,
    ← List.map_reverse, Entries.get?_map_value]

/-- Fields in ascending order become entries as they stand. -/
theorem fieldEntries_of_pairwise {fields : List (String × Document)}
    (h : (fields.map Prod.fst).Pairwise (· < ·)) :
    fieldEntries fields = fields.map fun field => (Key.ofString field.1, field.2.toValue) := by
  rw [fieldEntries, Entries.collectSorted_eq_self, List.map_map]
  · rfl
  · rw [List.map_map]
    exact h

/-! ## Every place -/

/-- What is one step down is converted with the document. -/
theorem toValue_child? {document child : Document} {step : Step}
    (h : document.child? step = some child) :
    document.toValue.child? step.key = some child.toValue := by
  unfold child? at h
  split at h
  · rw [toValue_array]
    exact get?_itemEntries h
  · rw [toValue_object]
    exact (get?_fieldEntries _ _).trans (congrArg (Option.map toValue) h)
  · cases h

/-- So is what any number of steps lead to. -/
theorem toValue_at? {document below : Document} {path : List Step}
    (h : document.at? path = some below) :
    document.toValue.at? (path.map Step.key) = some below.toValue := by
  induction path generalizing document with
  | nil =>
    cases h
    rfl
  | cons step rest ih =>
    obtain ⟨child, hchild, hrest⟩ := Option.bind_eq_some_iff.mp h
    rw [List.map_cons, Value.at?, toValue_child? hchild]
    exact ih hrest

/-- Entries that hold the items of an array: one for each item, in order, under its number. -/
structure HoldsItems (items : List Document) (entries : ArrayEntries) : Prop where
  keys : entries.map Prod.fst = (List.range items.length).map Key.ofNat
  positions : items.length ≤ largestPosition + 1 →
    entries.map Prod.fst = (List.range items.length).map fun n => .position (Int64.ofNat n)
  values : entries.map Prod.snd = items.map toValue

/-- Entries that hold the fields of an object: one for each name, in ascending order of the names,
with the conversion of the last field that has the name. -/
structure HoldsFields (fields : List (String × Document)) (entries : ArrayEntries) : Prop where
  distinct : (entries.map Prod.fst).Nodup
  names : ∀ name, name ∈ entries.map (fun entry => entry.1.text) ↔ name ∈ fields.map Prod.fst
  ascending : (entries.map fun entry => entry.1.text).Pairwise (· < ·)
  keys : ∀ entry ∈ entries, entry.1 = Key.ofString entry.1.text
  values : ∀ name, Entries.get? (Key.ofString name) entries =
    (Entries.get? name fields.reverse).map toValue
  ordered : (fields.map Prod.fst).Pairwise (· < ·) →
    entries = fields.map fun field => (Key.ofString field.1, field.2.toValue)

theorem holdsItems_itemEntries (items : List Document) : HoldsItems items (itemEntries items) where
  keys := keys_itemEntries items
  positions hsmall := by
    rw [keys_itemEntries]
    refine List.map_congr_left fun n hn => if_pos (Nat.le_of_lt_succ ?_)
    exact Nat.lt_of_lt_of_le (List.mem_range.mp hn) hsmall
  values := values_itemEntries items

theorem holdsFields_fieldEntries (fields : List (String × Document)) :
    HoldsFields fields (fieldEntries fields) where
  distinct := nodup_keys_fieldEntries fields
  names name := by rw [texts_fieldEntries, mem_fieldNames]
  ascending := by
    rw [texts_fieldEntries]
    exact pairwise_fieldNames fields
  keys entry hentry := by
    have hkey : entry.1 ∈ (fieldNames fields).map Key.ofString := by
      rw [← keys_fieldEntries]
      exact List.mem_map_of_mem hentry
    obtain ⟨name, -, hname⟩ := List.mem_map.mp hkey
    rw [← hname, Key.text_ofString]
  values name := get?_fieldEntries name fields
  ordered := fieldEntries_of_pairwise

/-- At every place of a document, an array becomes entries that hold its items and an object
becomes entries that hold its fields, and both are found at the same place of the value.  No two
names share a key, and the text of a key is the name it came from. -/
theorem toValue_holds {document below : Document} {path : List Step}
    (h : document.at? path = some below) :
    document.toValue.at? (path.map Step.key) = some below.toValue ∧
      (∀ items, below = .array items →
        ∃ entries, below.toValue = .array entries ∧ HoldsItems items entries) ∧
      (∀ fields, below = .object fields →
        ∃ entries, below.toValue = .array entries ∧ HoldsFields fields entries) ∧
      (∀ first second, Key.ofString first = Key.ofString second → first = second) ∧
      ∀ name, (Key.ofString name).text = name := by
  refine ⟨toValue_at? h, ?_, ?_, fun first second hsame => Key.ofString_injective hsame,
    Key.text_ofString⟩
  · rintro items rfl
    exact ⟨itemEntries items, toValue_array items, holdsItems_itemEntries items⟩
  · rintro fields rfl
    exact ⟨fieldEntries fields, toValue_object fields, holdsFields_fieldEntries fields⟩

/-- Names that are almost the same number, in an object inside of an array inside of an object. -/
theorem toValue_holds_numbers :
    let fields := [("-7", Document.null), ("07", .boolean true), ("7", .string "x"),
      ("9223372036854775808", .array [])]
    let document := Document.object [("1", .array [.null, .object fields])]
    document.at? [.field "1", .item 1] = some (.object fields) ∧
      ∃ entries, document.toValue.at? [.position 1, .position 1] = some (.array entries) ∧
        entries.map Prod.fst =
          [.name "-7", .name "07", .position 7, .name "9223372036854775808"] := by
  intro fields document
  have hplace : document.at? [.field "1", .item 1] = some (.object fields) := by rfl
  obtain ⟨hat, -, hobject, -, -⟩ := toValue_holds hplace
  obtain ⟨entries, hentries, hfields⟩ := hobject fields rfl
  have hpath : [Step.field "1", Step.item 1].map Step.key = [.position 1, .position 1] := by
    decide +kernel
  refine ⟨hplace, entries, ?_, ?_⟩
  · rw [← hpath, hat, hentries]
  · have hascending : (fields.map Prod.fst).Pairwise (· < ·) := by decide +kernel
    rw [hfields.ordered hascending, List.map_map]
    decide +kernel

end Document

end SqlTemplate
