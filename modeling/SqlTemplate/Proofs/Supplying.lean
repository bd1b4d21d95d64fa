import SqlTemplate.Proofs.Filling
import SqlTemplate.Proofs.Naming
import SqlTemplate.Proofs.Renumbering

/-!
# Values under names

A text names a placeholder in a template, and as a key it supplies the value of one.  Nothing of
the text is lost on either way, so the value comes to the placeholder with the same name.

* `Template.HasName` says that a marker has a name, and `Query.placeholder_eq_iff` that names
  tell placeholders apart.
* `RenderCall.Reaches` says that a call brings a value to a placeholder.  `reaches_of_supply`: it
  is enough that the value comes last for the index in what the call supplies.
* `reaches_map` and `reaches_join`: the last value under a name reaches the placeholder with the
  name.
* `Index.ofString_lossless` puts this together.
-/

namespace SqlTemplate

open Template

/-! ## Names of placeholders -/

/-- A marker of the template has the name. -/
def Template.HasName (brackets : Brackets) (source name : String) : Prop :=
  ∃ marker ∈ markers (scan brackets source), name? marker = some (Index.ofString name)

theorem Index.ofString_inj {first second : String} :
    ofString first = ofString second ↔ first = second :=
  ofString_injective.eq_iff

namespace Query

variable {config : Config} {source name : String} {query : Query}

theorem exists_placeholder_of_hasName (h : new config source = .ok query)
    (hname : HasName config.brackets source name) :
    ∃ placeholder, query.placeholder? (Index.ofString name) = some placeholder := by
  obtain ⟨marker, hmem, hmarker⟩ := hname
  exact exists_placeholder_of_name h hmem hmarker

theorem index_of_placeholder? {index : Index} {placeholder : Placeholder}
    (h : query.placeholder? index = some placeholder) : placeholder.index = index := by
  obtain ⟨statement, -, hget⟩ := Option.bind_eq_some_iff.mp h
  exact PlaceholderMap.index_of_get?_eq_some hget

/-- Names tell placeholders apart. -/
theorem placeholder_eq_iff {first second : String} {one other : Placeholder}
    (hone : query.placeholder? (Index.ofString first) = some one)
    (hother : query.placeholder? (Index.ofString second) = some other) :
    one = other ↔ first = second := by
  constructor
  · rintro rfl
    exact Index.ofString_inj.mp
      ((index_of_placeholder? hone).symm.trans (index_of_placeholder? hother))
  · rintro rfl
    exact Option.some.inj (hone.symm.trans hother)

end Query

/-! ## Values that reach a placeholder -/

namespace RenderCall

/-- A call brings a value to the placeholder with an index.  The value is what the call supplies
for the index.  So the index is not among those without a value, and if the call succeeds, the
value is assigned to the placeholder in its turn and the text is written with what that bound. -/
structure Reaches (call : RenderCall) (query : Query) (log : CallLog) (index : Index)
    (value : Value) : Prop where
  supplied : ∃ supply middle, call.supply query.canonical log = (.ok supply, middle) ∧
    Entries.get? index (Entries.collect supply) = some value
  counted : ∀ text missing,
    (call.run query log).1.1 = .error (.unboundPlaceholders text missing) →
      index ∉ missing.map Prod.fst
  assigned : ∀ text, (call.run query log).1.1 = .ok text →
    ∃ statement supply middle bound after, query.statement = some statement ∧
      call.supply query.canonical log = (.ok supply, middle) ∧
      Statement.bindAll query.config (Entries.collect supply) statement.placeholders middle =
        ((.ok (), bound), after) ∧
      text = Template.render bound.bound? statement.segments ∧
      ∃ placeholder before changed, placeholder.index = index ∧
        statement.Assigned query.config supply middle placeholder value before changed ∧
        bound.bound? index = changed.value

variable {config : Config} {source : String} {query : Query} {call : RenderCall}
  {log middle : CallLog} {supply : List (Index × Value)} {index : Index} {value : Value}

theorem reaches_of_supply (h : Query.new config source = .ok query) {placeholder : Placeholder}
    (hplaceholder : query.placeholder? index = some placeholder)
    (hsupply : call.supply query.canonical log = (.ok supply, middle))
    (hlast : Entries.get? index supply.reverse = some value) :
    call.Reaches query log index value := by
  obtain ⟨statement, hstatement, hget⟩ := Option.bind_eq_some_iff.mp hplaceholder
  obtain rfl := PlaceholderMap.index_of_get?_eq_some hget
  have hcollect := (Entries.get?_collect placeholder.index supply).trans hlast
  have hkey : placeholder.index ∈ (Entries.collect supply).map Prod.fst :=
    List.mem_map_of_mem (Entries.mem_of_get?_eq_some hcollect)
  refine ⟨⟨supply, middle, hsupply, hcollect⟩, fun text missing hrun hmem => ?_,
    fun text hrun => ?_⟩
  · obtain ⟨-, rfl, -⟩ := (run_eq_unbound_iff hstatement hsupply).mp hrun
    exact ((Query.mem_missing_iff h hstatement).mp hmem).2 hkey
  · obtain ⟨same, between, bound, after, hsame, -, hbind, htext⟩ := run_eq_ok hstatement hrun
    cases hsupply.symm.trans hsame
    obtain ⟨other, before, changed, hassigned, hbound⟩ :=
      Statement.exists_assigned hget (Entries.mem_keys_collect.mp hkey) hbind
    obtain rfl := Option.some.inj (hlast.symm.trans hassigned.last)
    exact ⟨statement, supply, middle, bound, after, hstatement, hsupply, hbind, htext,
      placeholder, before, changed, rfl, hassigned, hbound⟩

end RenderCall

/-! ## What comes last under a name -/

/-- A value under a key is supplied for the index of the text of the key. -/
theorem get?_map_ofKey (name : String) (pairs : List (Key × Value)) :
    Entries.get? (Index.ofString name)
        (pairs.map fun (key, value) => (Index.ofKey key, value)).reverse =
      Entries.get? name (pairs.map fun pair => (pair.1.text, pair.2)).reverse := by
  rw [← Entries.get?_map_key Index.ofString_injective, List.map_reverse, List.map_map]
  have hindices : pairs.map (fun (key, value) => (Index.ofKey key, value)) =
      pairs.map fun pair => (Index.ofString pair.1.text, pair.2) :=
    List.map_congr_left fun pair _ => Prod.ext (Index.ofKey_eq pair.1) rfl
  rw [hindices]
  rfl

namespace RenderCall

variable {config : Config} {source name : String} {query : Query} {value : Value}
  {front back : List (Key × Value)}

theorem reaches_map (h : Query.new config source = .ok query)
    (hname : HasName config.brackets source name) {key : Key} (hkey : key.text = name)
    (hlast : ∀ entry ∈ back, entry.1.text ≠ name) (log : CallLog) :
    (RenderCall.map (front ++ (key, value) :: back)).Reaches query log (.ofString name) value := by
  obtain ⟨placeholder, hplaceholder⟩ := Query.exists_placeholder_of_hasName h hname
  refine reaches_of_supply h hplaceholder rfl ?_
  rw [get?_map_ofKey, List.map_append, List.map_cons, hkey]
  exact Entries.get?_reverse_append_cons value _ (List.forall_mem_map.mpr hlast)

theorem reaches_join (h : Query.new config source = .ok query)
    (hname : HasName config.brackets source name) (hother : Index.ofString name = .name name)
    (hlast : ∀ entry ∈ back, entry.1 ≠ .name name) {log : CallLog}
    (hpasses : (RenderCall.join (front ++ (.name name, value) :: back)).Passes log) :
    (RenderCall.join (front ++ (.name name, value) :: back)).Reaches query log (.ofString name)
      value := by
  obtain ⟨placeholder, hplaceholder⟩ := Query.exists_placeholder_of_hasName h hname
  obtain ⟨shared, entries, hget, hresolve⟩ := hpasses
  refine reaches_of_supply h hplaceholder (supply_join hget (Prod.ext hresolve rfl) _) ?_
  rw [Entries.get?_reverse_cons, hother, Query.get?_joinSupply_of_kept fun _ => hother,
    Entries.get?_reverse_append_cons value front hlast, Option.some_or]

end RenderCall

namespace Index

/-- The text of the index that a text stands for is the text again, so no two texts stand for one
index, and a text stands for the same index directly, through its key, and as a name for a key.
Two names of a template therefore have one placeholder exactly if they are the same text, and a
value under a name, however the name is made a key, reaches the placeholder with the name if no
value comes behind it under the same text.  A join numbers the entries that have positions; the
others keep their names, and the same holds of them. -/
theorem ofString_lossless :
    (∀ text, (ofString text).text = text) ∧
    (∀ first second, ofString first = ofString second ↔ first = second) ∧
    (∀ text, ofString text = ofKey (Key.ofString text) ∧ ofString text = ofKey (.name text)) ∧
    ∀ (config : Config) (source : String) (query : Query), Query.new config source = .ok query →
      (∀ first second, HasName config.brackets source first →
        HasName config.brackets source second →
        ∃ one other, query.placeholder? (ofString first) = some one ∧
          query.placeholder? (ofString second) = some other ∧ (one = other ↔ first = second)) ∧
      ∀ (name : String) (value : Value) (front back : List (Key × Value)) (log : CallLog),
        HasName config.brackets source name →
        (∀ key, key = Key.ofString name ∨ key = .name name →
          (∀ entry ∈ back, entry.1.text ≠ name) →
          (RenderCall.map (front ++ (key, value) :: back)).Reaches query log (ofString name)
            value) ∧
        (ofString name = .name name → (∀ entry ∈ back, entry.1 ≠ .name name) →
          let call := RenderCall.join (front ++ (.name name, value) :: back)
          call.Passes log → call.Reaches query log (ofString name) value) := by
  refine ⟨text_ofString, fun first second => ofString_inj,
    fun text => ⟨(ofKey_ofString text).symm, rfl⟩, fun config source query h => ⟨?_, ?_⟩⟩
  · intro first second hfirst hsecond
    obtain ⟨one, hone⟩ := Query.exists_placeholder_of_hasName h hfirst
    obtain ⟨other, hother⟩ := Query.exists_placeholder_of_hasName h hsecond
    exact ⟨one, other, hone, hother, Query.placeholder_eq_iff hone hother⟩
  · intro name value front back log hname
    refine ⟨fun key hkey hlast => ?_, fun hother hlast hpasses => ?_⟩
    · refine RenderCall.reaches_map h hname ?_ hlast log
      rcases hkey with rfl | rfl
      · exact Key.text_ofString name
      · rfl
    · exact RenderCall.reaches_join h hname hother hlast hpasses

/-- Names of digits that are no ordinals, one with zeros in front and one that is too large, and
between them the ordinal that the first one would be without the zeros. -/
theorem ofString_lossless_digits :
    let config := Config.new Text.escapeStandard
    let source := "\x7b007:i\x7d \x7b7:i\x7d \x7b9223372036854775808:s\x7d"
    let padded := (Key.ofString "007", Value.scalar (.integer 1))
    let seven := (Key.name "7", Value.scalar (.integer 2))
    let large := (Key.ofString "9223372036854775808", Value.scalar (.text "x"))
    let map := RenderCall.map [padded, seven, large]
    let join := RenderCall.join [(.position 0, .array []), (.name "007", padded.2), seven]
    ∃ query, Query.new config source = .ok query ∧ (map.run query []).1.1 = .ok "1 2 'x'" ∧
      (∃ one other, query.placeholder? (ofString "007") = some one ∧
        query.placeholder? (ofString "7") = some other ∧ (one = other ↔ "007" = "7")) ∧
      map.Reaches query [] (ofString "7") seven.2 ∧
      map.Reaches query [] (ofString "9223372036854775808") large.2 ∧
      join.Passes [] ∧ join.Reaches query [] (ofString "007") padded.2 := by
  intro config source padded seven large map join
  obtain ⟨query, hnew, hrun⟩ : ∃ query, Query.new config source = .ok query ∧
      (map.run query []).1.1 = .ok "1 2 'x'" :=
    Query.exists_new_of_any (by decide +kernel)
  have hnames : ∀ name ∈ ["007", "7", "9223372036854775808"],
      HasName config.brackets source name := by
    unfold HasName
    decide +kernel
  obtain ⟨hpadded, hseven, hlarge, -⟩ := by simpa only [List.forall_mem_cons] using hnames
  obtain ⟨-, -, -, hall⟩ := ofString_lossless
  obtain ⟨happart, hreach⟩ := hall config source query hnew
  have hpasses : join.Passes [] := ⟨_, _, rfl, rfl⟩
  refine ⟨query, hnew, hrun, happart "007" "7" hpadded hseven, ?_, ?_, hpasses, ?_⟩
  · exact (hreach "7" seven.2 [padded] [large] [] hseven).1 _ (Or.inr rfl) (by decide +kernel)
  · exact (hreach _ large.2 [padded, seven] [] [] hlarge).1 _ (Or.inl rfl) nofun
  · exact (hreach "007" padded.2 [(.position 0, .array [])] [seven] [] hpadded).2
      (by decide +kernel) (by decide +kernel) hpasses

end Index

end SqlTemplate
