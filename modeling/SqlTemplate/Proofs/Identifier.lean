import SqlTemplate.Placeholder
import SqlTemplate.Proofs.Ensures
import SqlTemplate.Proofs.Pattern.Default

/-!
# Names and their parts

The dots of a name cut it into parts, and a quoted name has quotes around each of them.

* `nameParts` cuts a name, and `Config.quoteIdentifier_eq` says what a quoted name is, for all
  quotes.
* `nil_mem_splitOn_iff_head` and `nil_mem_tail_splitOn_iff`: where a part between separators is
  empty.
* `HasParts` says what the parts of a dotted name are: none is empty, unless two dots are next to
  each other.
* `names_of_coerce`: what a coercion writes in a slot of quoted names.
* `Placeholder.names_of_assign` states it for an assignment, and `Placeholder.names_empty_part` is
  an assignment that writes an empty part.
-/

namespace SqlTemplate

open Text

/-! ## Cutting at a separator -/

theorem modifyHead_nil_append {α : Type} (parts : List (List α)) :
    parts.modifyHead (([] : List α) ++ ·) = parts :=
  congrFun List.modifyHead_id parts

section SplitOn

variable {α : Type} [DecidableEq α] {separator : α}

/-- A text with something around each of its parts between separators, and with `front` before it.
-/
theorem wrap_splitOn (separator : α) (start finish front text : List α) :
    start ++ front ++ text.flatMap (fun c =>
        if c = separator then finish ++ separator :: start else [c]) ++ finish =
      [separator].intercalate (((text.splitOn separator).modifyHead (front ++ ·)).map
        fun part => start ++ part ++ finish) := by
  induction text generalizing front with
  | nil => simp
  | cons c rest ih =>
    rw [List.splitOn_cons_eq_if_modifyHead, List.flatMap_cons]
    by_cases hseparator : c = separator
    · -- The part ends here, and the next one begins with nothing in front.
      have hrest := ih []
      rw [modifyHead_nil_append] at hrest
      have hne : (rest.splitOn separator).map (fun part => start ++ part ++ finish) ≠ [] := by
        simp
      rw [if_pos hseparator, if_pos (beq_iff_eq.mpr hseparator), List.modifyHead_cons,
        List.map_cons, List.intercalate_cons_of_ne_nil hne, ← hrest]
      simp
    · have hrest := ih (front ++ [c])
      rw [if_neg hseparator, if_neg (mt beq_iff_eq.mp hseparator), List.modifyHead_modifyHead]
      simpa [Function.comp_def] using hrest

theorem head?_splitOn_eq_nil_iff {text : List α} :
    (text.splitOn separator).head? = some [] ↔ ∀ c ∈ text.head?, c = separator := by
  cases text with
  | nil => simp
  | cons c rest =>
    rw [List.splitOn_cons_eq_if_modifyHead]
    by_cases hseparator : c = separator
    · simp [hseparator]
    · simp [hseparator, List.head?_modifyHead]

theorem nil_mem_splitOn_iff_head {text : List α} : [] ∈ text.splitOn separator ↔
    (∀ c ∈ text.head?, c = separator) ∨ [] ∈ (text.splitOn separator).tail := by
  rw [← head?_splitOn_eq_nil_iff]
  cases hparts : text.splitOn separator with
  | nil => exact absurd hparts (List.splitOn_ne_nil _ _)
  | cons part others => simp [eq_comm]

/-- A part other than the first one is empty exactly if the text ends with a separator or has two
of them next to each other. -/
theorem nil_mem_tail_splitOn_iff {text : List α} :
    [] ∈ (text.splitOn separator).tail ↔
      text.getLast? = some separator ∨ [separator, separator] <:+: text := by
  induction text with
  | nil => simp
  | cons c rest ih =>
    rw [List.splitOn_cons_eq_if_modifyHead, List.infix_cons_iff, List.cons_prefix_cons]
    by_cases hseparator : c = separator
    · rw [if_pos (beq_iff_eq.mpr hseparator), List.tail_cons, nil_mem_splitOn_iff_head, ih]
      cases rest with
      | nil => simp [hseparator]
      | cons d rest =>
        have hcomm : d = separator ↔ separator = d := eq_comm
        simp [hseparator, hcomm, or_left_comm]
    · rw [if_neg (mt beq_iff_eq.mp hseparator), List.tail_modifyHead, ih]
      cases rest with
      | nil => simp [hseparator]
      | cons d rest => simp [Ne.symm hseparator]

/-- A part that ends where the text ends, and not at a separator, is not empty. -/
theorem getLast?_splitOn_ne (front : List α) {last : α} (h : last ≠ separator) :
    ((front ++ [last]).splitOn separator).getLast? ≠ some [] := by
  induction front with
  | nil => simp [List.splitOn_eq_singleton (mt List.mem_singleton.mp h.symm)]
  | cons c rest ih =>
    obtain ⟨part, others, hparts⟩ :=
      List.exists_cons_of_ne_nil (List.splitOn_ne_nil separator (rest ++ [last]))
    rw [List.cons_append, List.splitOn_cons_eq_if_modifyHead]
    rw [hparts] at ih ⊢
    split
    · exact ih
    · cases others with
      | nil => simp
      | cons next others => exact ih

theorem mem_of_mem_splitOn {text part : List α} (h : part ∈ text.splitOn separator) :
    ∀ c ∈ part, c ∈ text ∧ c ≠ separator := by
  induction text generalizing part with
  | nil =>
    rw [List.splitOn_nil, List.mem_singleton] at h
    rw [h]
    exact nofun
  | cons d rest ih =>
    obtain ⟨first, others, hparts⟩ :=
      List.exists_cons_of_ne_nil (List.splitOn_ne_nil separator rest)
    have hrest : ∀ part ∈ first :: others, ∀ c ∈ part, c ∈ d :: rest ∧ c ≠ separator := by
      intro part hpart c hc
      have hmem := ih (hparts ▸ hpart) c hc
      exact ⟨List.mem_cons_of_mem _ hmem.1, hmem.2⟩
    rw [List.splitOn_cons_eq_if_modifyHead, hparts] at h
    split at h
    · rcases List.mem_cons.mp h with rfl | hother
      · exact nofun
      · exact hrest part hother
    · rename_i hseparator
      rw [beq_iff_eq] at hseparator
      rcases List.mem_cons.mp h with rfl | hother
      · refine List.forall_mem_cons.mpr ⟨⟨List.mem_cons_self, hseparator⟩, ?_⟩
        exact hrest first List.mem_cons_self
      · exact hrest part (List.mem_cons_of_mem _ hother)

end SplitOn

/-! ## Names -/

/-- The parts of a name between its dots. -/
def nameParts (name : String) : List String :=
  (name.toList.splitOn '.').map String.ofList

/-- A part of a name between quotes. -/
def Config.quotePart (config : Config) (part : String) : String :=
  config.startQuote ++ part ++ config.endQuote

/-- A quoted name is its parts, each of them between the quotes, with dots between them. -/
theorem Config.quoteIdentifier_eq (config : Config) (name : String) :
    config.quoteIdentifier name = ".".intercalate ((nameParts name).map config.quotePart) := by
  have hwrap := wrap_splitOn '.' config.startQuote.toList config.endQuote.toList [] name.toList
  rw [modifyHead_nil_append, List.append_nil] at hwrap
  have hparts : ((nameParts name).map config.quotePart).map String.toList =
      (name.toList.splitOn '.').map fun part =>
        config.startQuote.toList ++ part ++ config.endQuote.toList := by
    simp [nameParts, quotePart, Function.comp_def]
  apply String.toList_inj.mp
  rw [String.toList_intercalate, hparts, ← show ['.'] = ".".toList from rfl, ← hwrap]
  simp [quoteIdentifier]

/-- What the parts of a dotted name are: words, none of them empty at either end, and none of them
empty in between unless two dots are next to each other. -/
structure HasParts (name : String) : Prop where
  first : (nameParts name).head? ≠ some ""
  last : (nameParts name).getLast? ≠ some ""
  empty : "" ∈ nameParts name ↔ ['.', '.'] <:+: name.toList
  words : ∀ part ∈ nameParts name, ∀ c ∈ part.toList, isPatternWord c = true

theorem ne_dot_of_word {c : Char} (h : isPatternWord c = true) : c ≠ '.' := by
  rintro rfl
  have hdot : isPatternWord '.' = false := by decide +kernel
  rw [hdot] at h
  cases h

theorem empty_mem_nameParts_iff {name : String} :
    "" ∈ nameParts name ↔ [] ∈ name.toList.splitOn '.' := by
  simp [nameParts]

theorem hasParts_of_dotted {name : String} (h : Pattern.IsDottedName name.toList) :
    HasParts name := by
  obtain ⟨⟨c, hhead, hfirst, -⟩, ⟨d, hend, hlast⟩, hchars⟩ := h
  have hheadNe : ¬ ∀ b ∈ name.toList.head?, b = '.' :=
    fun hall => ne_dot_of_word hfirst (hall c hhead)
  have hendNe : name.toList.getLast? ≠ some '.' := by
    rw [hend]
    exact fun hdot => ne_dot_of_word hlast (Option.some.inj hdot)
  refine ⟨?_, ?_, ?_, ?_⟩
  · have hpart := mt head?_splitOn_eq_nil_iff.mp hheadNe
    simpa [nameParts] using hpart
  · obtain ⟨front, hname⟩ := List.getLast?_eq_some_iff.mp hend
    have hpart := getLast?_splitOn_ne front (ne_dot_of_word hlast)
    rw [← hname] at hpart
    simpa [nameParts] using hpart
  · rw [empty_mem_nameParts_iff, nil_mem_splitOn_iff_head, nil_mem_tail_splitOn_iff,
      or_iff_right hheadNe, or_iff_right hendNe]
  · intro part hpart b hb
    obtain ⟨chars, hchars', rfl⟩ := List.mem_map.mp hpart
    rw [String.toList_ofList] at hb
    obtain ⟨hmem, hdot⟩ := mem_of_mem_splitOn hchars' b hb
    exact (hchars b hmem).resolve_right hdot

/-! ## Slots of quoted names -/

/-- What names something in a slot of quoted names: an accepted name with quotes around each of its
parts, and in a slot of pairs the literal behind it. -/
structure Config.Names (config : Config) (type : SlotType) (name piece : String) : Prop where
  accepted : config.isQuantifier name = true
  written : ∃ literal, piece = ".".intercalate ((nameParts name).map config.quotePart) ++
    if type.needsPairs then " = " ++ literal else ""

section Coercing

variable {config : Config} {type : SlotType} {raw piece : String}

theorem ok_of_identifierText (h : identifierText config .quoted raw = .ok piece) :
    config.isQuantifier raw = true ∧
      piece = ".".intercalate ((nameParts raw).map config.quotePart) := by
  obtain ⟨haccepted, hpiece⟩ := identifierText_eq_ok.mp h
  exact ⟨haccepted, hpiece.trans (config.quoteIdentifier_eq raw)⟩

theorem names_of_identifierText (htype : type.needsPairs = false)
    (h : identifierText config .quoted raw = .ok piece) : config.Names type raw piece := by
  obtain ⟨haccepted, hpiece⟩ := ok_of_identifierText h
  exact ⟨haccepted, "", by rw [hpiece, htype, if_neg Bool.false_ne_true, String.append_empty]⟩

theorem ensures_entryPair_names (htype : type.needsPairs = true) (entry : Key × Value) :
    Ensures (entryPair config type .quoted entry) fun piece =>
      ∃ name, config.Names type name piece := by
  have hkey : Ensures (entryKey config .quoted entry.1) fun text =>
      config.isQuantifier entry.1.text = true ∧
        text = ".".intercalate ((nameParts entry.1.text).map config.quotePart) :=
    ensures_judge fun text htext => ok_of_identifierText htext
  have hliteral : Ensures (entryLiteral config type entry.2) fun _ => True :=
    fun _ _ _ _ => trivial
  refine ensures_bind hkey fun text htext => ensures_bind hliteral fun literal _ => ensures_pure ?_
  refine ⟨entry.1.text, htext.1, literal, ?_⟩
  rw [htext.2, htype, if_pos rfl, String.append_assoc]

theorem ensures_entryIdentifier_names (htype : type.needsPairs = false) (value : Value) :
    Ensures (entryIdentifier config .quoted value) fun piece =>
      ∃ name, config.Names type name piece := by
  refine ensures_resolveBind fun resolved => ?_
  split
  · exact ensures_judge fun piece hpiece => ⟨_, names_of_identifierText htype hpiece⟩
  · exact ensures_throw _

/-- What is written for the entries of an array names something each time. -/
theorem ensures_coerceEntries_names (htype : type.quoteStyle? = some .quoted)
    (entries : ArrayEntries) :
    Ensures (coerceEntries config type entries) fun pieces =>
      ∀ piece ∈ pieces, ∃ name, config.Names type name piece := by
  cases type with
  | pairs style nullable =>
    cases htype
    exact ensures_mapM fun entry => ensures_entryPair_names rfl entry
  | keys style =>
    cases htype
    exact ensures_mapM fun entry => ensures_judge fun piece hpiece =>
      ⟨_, names_of_identifierText rfl hpiece⟩
  | values style =>
    cases htype
    exact ensures_mapM fun entry => ensures_entryIdentifier_names rfl entry.2
  | identifier style => exact ensures_throw _
  | any | constant | scalar | raw | list | flag => cases htype

/-- What is written for a scalar names something, unless the scalar is null. -/
theorem names_of_coerceScalar (htype : type.quoteStyle? = some .quoted) {scalar : Scalar}
    (hscalar : scalar ≠ .null) {log after : CallLog} {text : String}
    (hrun : coerce config type (.scalar scalar) log = (.ok (some text), after)) :
    ∃ name, config.Names type name text := by
  rw [coerce_scalar] at hrun
  cases type with
  | identifier style =>
    cases htype
    obtain ⟨hcoerce, -⟩ := ok_of_judge hrun
    cases scalar with
    | text raw =>
      obtain ⟨piece, hpiece, hsame⟩ := map_eq_ok.mp hcoerce
      cases hsame
      exact ⟨raw, names_of_identifierText rfl hpiece⟩
    | null | boolean | integer | double => cases hcoerce
  | pairs | keys | values =>
    rw [if_pos (by simpa [SlotType.needsArray, SlotType.needsPairs, SlotType.needsKeys,
      SlotType.needsValues] using hscalar)] at hrun
    cases hrun
  | any | constant | scalar | raw | list | flag => cases htype

/-- What is written for a value names something each time between two commas. -/
theorem names_of_coerce (htype : type.quoteStyle? = some .quoted) {value : Value}
    {log after : CallLog} (hvalue : (value.resolve log).1 ≠ .scalar .null) {text : String}
    (hrun : coerce config type value log = (.ok (some text), after)) :
    ∃ pieces, text = commaSeparated pieces ∧
      ∀ piece ∈ pieces, ∃ name, config.Names type name piece := by
  rcases hresolved : value.resolve log with ⟨scalar | entries, between⟩
  · rw [coerce_resolve config type hresolved] at hrun
    rw [hresolved] at hvalue
    have hname := names_of_coerceScalar htype (fun hnull => hvalue (hnull ▸ rfl)) hrun
    exact ⟨[text], rfl, List.forall_mem_singleton.mpr hname⟩
  · rw [coerce_resolve config type hresolved, Resolved.toValue, coerce_array] at hrun
    obtain ⟨pieces, _, hpieces, hpure⟩ := coercing_bind_eq_ok.mp hrun
    cases hpure
    exact ⟨pieces, rfl, ensures_coerceEntries_names htype entries _ _ _ hpieces⟩

end Coercing

/-- With the pattern of a new configuration, an accepted name has words for parts, and a part is
empty only between two dots.  The text that an assignment binds in a slot of quoted names consists
of accepted names, each part of which is between quotes. -/
theorem Placeholder.names_of_assign {config : Config} (h : config.quantifier = .identifier) :
    (∀ name, config.isQuantifier name = true ↔ Pattern.IsDottedName name.toList) ∧
      (∀ name, config.isQuantifier name = true → HasParts name) ∧
      ∀ (placeholder changed : Placeholder) (value : Value) (log after : CallLog) (text : String),
        placeholder.type.quoteStyle? = some .quoted →
        (value.resolve log).1 ≠ .scalar .null →
        placeholder.assign config value log = ((.ok (), changed), after) →
        changed.value = some text →
        ∃ pieces, text = commaSeparated pieces ∧
          ∀ piece ∈ pieces, ∃ name, config.Names placeholder.type name piece := by
  have haccepted : ∀ name, config.isQuantifier name = true ↔
      Pattern.IsDottedName name.toList := by
    intro name
    rw [Config.isQuantifier, h, Pattern.accepts_identifier_iff]
  refine ⟨haccepted, fun name hname => hasParts_of_dotted ((haccepted name).mp hname), ?_⟩
  intro placeholder changed value log after text htype hvalue hassign htext
  have hrun := coerce_of_assign hassign
  rw [htext] at hrun
  exact names_of_coerce htype hvalue hrun

/-- An accepted name is bound to a slot of a quoted name. -/
theorem Placeholder.assign_quoted {config : Config} {placeholder : Placeholder}
    (htype : placeholder.type = .identifier .quoted) {raw : String}
    (h : config.isQuantifier raw = true) (log : CallLog) :
    placeholder.assign config (.scalar (.text raw)) log =
      ((.ok (), { placeholder with value := some (config.quoteIdentifier raw) }), log) := by
  refine assign_of_ok ?_
  have hidentifier : identifierText config .quoted raw = .ok (config.quoteIdentifier raw) :=
    identifierText_eq_ok.mpr ⟨h, rfl⟩
  rw [htype, coerce_of_scalar config rfl rfl]
  show judge .string (some <$> identifierText config .quoted raw) log = _
  rw [hidentifier]
  rfl

/-- A name with dots, for a slot of a name, and names without, for the keys of pairs. -/
theorem Placeholder.names_of_assign_dotted :
    let config := Config.new escapeStandard
    let dotted := Placeholder.new (.ordinal 0) (.identifier .quoted) false
    let pairs := Placeholder.new (.name "set") (.pairs .quoted false) false
    let value := Value.array [(.name "a", .scalar (.integer 1)), (.name "b", .scalar .null)]
    HasParts "db.t.a" ∧
      dotted.assign config (.scalar (.text "db.t.a")) [] =
        ((.ok (), { dotted with value := some "`db`.`t`.`a`" }), []) ∧
      (∃ pieces, "`db`.`t`.`a`" = commaSeparated pieces ∧
        ∀ piece ∈ pieces, ∃ name, config.Names dotted.type name piece) ∧
      pairs.assign config value [] =
        ((.ok (), { pairs with value := some "`a` = 1, `b` = ''" }), []) ∧
      ∃ pieces, "`a` = 1, `b` = ''" = commaSeparated pieces ∧
        ∀ piece ∈ pieces, ∃ name, config.Names pairs.type name piece := by
  intro config dotted pairs value
  have hdefault : config.quantifier = .identifier := rfl
  obtain ⟨-, hparts, hassigned⟩ := names_of_assign hdefault
  have haccepted : config.isQuantifier "db.t.a" = true := by decide +kernel
  have hquoted : config.quoteIdentifier "db.t.a" = "`db`.`t`.`a`" := by decide +kernel
  have htype : dotted.type = .identifier .quoted := rfl
  have hdotted := assign_quoted htype haccepted []
  rw [hquoted] at hdotted
  have hpairs : pairs.assign config value [] =
      ((.ok (), { pairs with value := some "`a` = 1, `b` = ''" }), []) :=
    rfl
  exact ⟨hparts _ haccepted, hdotted,
    hassigned dotted _ (.scalar (.text "db.t.a")) [] [] _ rfl nofun hdotted rfl, hpairs,
    hassigned pairs _ value [] [] _ rfl nofun hpairs rfl⟩

/-- A name with two dots next to each other is accepted, and written with nothing between the quotes
in its middle. -/
theorem Placeholder.names_empty_part :
    let config := Config.new escapeStandard
    let placeholder := Placeholder.new (.ordinal 0) (.identifier .quoted) false
    config.isQuantifier "a..b" = true ∧ nameParts "a..b" = ["a", "", "b"] ∧
      placeholder.assign config (.scalar (.text "a..b")) [] =
        ((.ok (), { placeholder with value := some "`a`.``.`b`" }), []) := by
  intro config placeholder
  have haccepted : config.isQuantifier "a..b" = true := by decide +kernel
  have hquoted : config.quoteIdentifier "a..b" = "`a`.``.`b`" := by decide +kernel
  have htype : placeholder.type = .identifier .quoted := rfl
  have hassign := assign_quoted htype haccepted []
  rw [hquoted] at hassign
  exact ⟨haccepted, by decide +kernel, hassign⟩

end SqlTemplate
