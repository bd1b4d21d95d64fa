import Mathlib.Algebra.Group.Nat.Defs
import SqlTemplate.Proofs.Outcome
import SqlTemplate.Proofs.Spans

/-!
# Numbers as names

The written form of a number names a placeholder in a template, and the number itself, its written
form and the keys of both ask for one.

* `Query.exists_placeholder_of_name`: a marker with a name has a placeholder under it.
* `Index.ordinal_iff_written` says which index the written form and the keys of a number lead to,
  and that a marker named by the number has a placeholder there.
* `Index.ofString_ne_ordinal` is the first number whose written form is no ordinal.
-/

namespace SqlTemplate

open Text

/-! ## Placeholders of named markers -/

namespace Query

open Template

variable {config : Config} {source : String} {query : Query}

theorem mem_indices_of_name? {found : List Marker} {marker : Marker} {index : Index}
    (hmem : marker ∈ found) (hname : name? marker = some index) : index ∈ indices found := by
  rw [indices]
  generalize found.filterMap claimed? = claims
  generalize 0 = next
  fun_induction indicesFrom claims next found with
  | case1 next => cases hmem
  | case2 next name code rest ih | case3 next name rest ih =>
    rcases List.mem_cons.mp hmem with rfl | hrest
    · cases hname
      exact List.mem_cons_self
    · exact List.mem_cons_of_mem _ (ih hrest)
  | case4 next code rest free ih =>
    rcases List.mem_cons.mp hmem with rfl | hrest
    · cases hname
    · exact List.mem_cons_of_mem _ (ih hrest)

/-- A marker with a name has a placeholder under that name. -/
theorem exists_placeholder_of_name (h : new config source = .ok query) {marker : Marker}
    (hmem : marker ∈ markers (scan config.brackets source)) {index : Index}
    (hname : name? marker = some index) :
    ∃ placeholder, query.placeholder? index = some placeholder := by
  have hlisted : index ∈ query.placeholders.map Placeholder.index := by
    rw [map_index_placeholders h, List.mem_eraseDups]
    exact mem_indices_of_name? hmem hname
  obtain ⟨placeholder, hplaceholder, rfl⟩ := List.mem_map.mp hlisted
  exact ⟨placeholder, placeholder?_of_mem hplaceholder⟩

end Query

/-! ## Numbers -/

namespace Index

open Template

/-- A text is an ordinal exactly if it is the written form of a number below `2 ^ 63`, and a name
otherwise.  The key of a number and the key of its written form lead to the index of the written
form.  A template with a marker that is named by the written form of a number has a placeholder
under that index, which is the ordinal for numbers below `2 ^ 63` and a name from there up. -/
theorem ordinal_iff_written (text : String) (n : Nat) :
    let digits := String.ofList (decimal n)
    let index := if n < 2 ^ 63 then .ordinal n else .name digits
    (ofString text = .ordinal n ↔ n < 2 ^ 63 ∧ text = digits) ∧
      ((¬ ∃ m < 2 ^ 63, text = String.ofList (decimal m)) → ofString text = .name text) ∧
      ofString digits = index ∧ ofKey (Key.ofNat n) = index ∧ ofKey (Key.ofString digits) = index ∧
      ∀ config source query, Query.new config source = .ok query →
        (∃ marker ∈ markers (scan config.brackets source),
          name? marker = some (ofString digits)) →
        ∃ placeholder, query.placeholder? index = some placeholder := by
  intro digits index
  have hdigits : ofString digits = index := by
    simpa only [le_largestPosition_iff, pow2, Nat.pow_eq] using ofString_decimal n
  have htext : ofString text = .ordinal n ↔ n < 2 ^ 63 ∧ text = digits := by
    simpa only [le_largestPosition_iff, pow2, Nat.pow_eq] using ofString_eq_ordinal_iff
  have hother : (¬ ∃ m < 2 ^ 63, text = String.ofList (decimal m)) →
      ofString text = .name text := by
    simpa only [le_largestPosition_iff, pow2, Nat.pow_eq] using ofString_of_not_written
  refine ⟨htext, hother, hdigits, (ofKey_ofNat n).trans hdigits,
    (ofKey_ofString digits).trans hdigits, ?_⟩
  intro config source query hnew hmarker
  obtain ⟨marker, hmem, hname⟩ := hmarker
  exact Query.exists_placeholder_of_name hnew hmem (hname.trans (congrArg some hdigits))

/-- The largest number whose written form is an ordinal, as the name of a reference and of a typed
marker behind it; with a zero in front it is a name. -/
theorem ordinal_iff_written_limit :
    let source := "\x7b9223372036854775807\x7d 9223372036854775807:i"
    let padded := "09223372036854775807"
    ofString padded = .name padded ∧
      ofKey (Key.ofNat 9223372036854775807) = .ordinal 9223372036854775807 ∧
      ∃ query, Query.new (Config.new escapeStandard) source = .ok query ∧
        ∃ placeholder, query.placeholder? (.ordinal 9223372036854775807) = some placeholder := by
  intro source padded
  obtain ⟨-, hname, -, hkey, -, hdeclared⟩ := ordinal_iff_written padded 9223372036854775807
  have hpadded : ¬ ∃ m < 2 ^ 63, padded = String.ofList (decimal m) := by
    rintro ⟨m, hsmall, hwritten⟩
    have hread : ofString padded = .ordinal m :=
      ofString_eq_ordinal_iff.mpr ⟨le_largestPosition_iff.mpr hsmall, hwritten⟩
    have hnone : ofString padded = .name padded := by decide +kernel
    rw [hnone] at hread
    cases hread
  obtain ⟨query, hnew, -⟩ : ∃ query, Query.new (Config.new escapeStandard) source = .ok query ∧
      query.placeholders.length = 1 :=
    Query.exists_new_of_any (by decide +kernel)
  refine ⟨hname hpadded, hkey, query, hnew, hdeclared _ source query hnew ?_⟩
  exact ⟨.reference (.ordinal 9223372036854775807), by decide +kernel, by decide +kernel⟩

/-- The written form of `2 ^ 63` is a name, although the number can be an ordinal, so a placeholder
that has it as its name is not found under the number. -/
theorem ofString_ne_ordinal :
    let n := 9223372036854775808
    let digits := "9223372036854775808"
    n < 2 ^ 64 ∧ digits = String.ofList (decimal n) ∧
      ofString digits ≠ .ordinal n ∧ ofKey (Key.ofNat n) ≠ .ordinal n ∧
      ∃ query, Query.new (Config.new escapeStandard) (digits ++ ":i") = .ok query ∧
        query.placeholders = [.new (.name digits) (.scalar .integer false false) false] ∧
        query.placeholder? (.ordinal n) = none := by
  intro n digits
  refine ⟨by decide, by decide +kernel, by decide +kernel, by decide +kernel, ?_⟩
  exact Query.exists_new_of_any (by decide +kernel)

end Index

end SqlTemplate
