import SqlTemplate.Placeholder
import SqlTemplate.Proofs.Contained
import SqlTemplate.Proofs.Ensures
import SqlTemplate.Proofs.Pattern.Default

/-!
# No value injects

Whatever is bound to a placeholder that does not pass text through is contained, for
every configuration whose escape, patterns and quotes fit together.

* `Config.Guarded` says which configurations these are, and `guarded_ofDialect` that those
  of the dialects are among them.
* `Guarded.contained_anyLiteral` to `Guarded.contained_coerceScalar`: one lemma for each
  way in which a scalar is written.
* `Guarded.ensures_entryLiteral` to `Guarded.ensures_coerce`: the same for the entries of
  an array and for values that suppliers bring.
* `Placeholder.contained_of_assign` states it for an assignment.
-/

namespace SqlTemplate

open Text Sql

/-! ## Quoting -/

namespace Config

variable {config : Config} {rule : LiteralRule} {quote : Char}

theorem toList_literal (h : config.escape = rule.escape) (raw : String) :
    (config.literal raw).toList = '\'' :: ((rule.escape raw).toList ++ ['\'']) := by
  simp [literal, h]

/-- The quotes around the parts of an identifier add nothing but quotes and dots. -/
theorem mem_quoteIdentifier (hstart : config.startQuote = quote.toString)
    (hfinish : config.endQuote = quote.toString) {raw : String} {c : Char}
    (hc : c ∈ (config.quoteIdentifier raw).toList) : c = quote ∨ c = '.' ∨ c ∈ raw.toList := by
  simp only [quoteIdentifier, hstart, hfinish, String.toList_append,
    String.toList_ofList, List.mem_append, List.mem_flatMap] at hc
  rcases hc with (hstart | ⟨d, hd, hpart⟩) | hfinish
  · exact Or.inl (by simpa using hstart)
  · split at hpart
    · have hparts : c = quote ∨ c = '.' ∨ c = quote := by simpa using hpart
      rcases hparts with hquote | hdot | hquote
      · exact Or.inl hquote
      · exact Or.inr (Or.inl hdot)
      · exact Or.inl hquote
    · rw [List.mem_singleton.mp hpart]
      exact Or.inr (Or.inr hd)
  · exact Or.inl (by simpa using hfinish)

end Config

/-! ## Guarded configurations -/

/-- The escape writes for the rule, the patterns are those of a new configuration, and
identifiers are between two quotes of one kind. -/
structure Config.Guarded (config : Config) (rule : LiteralRule) (quote : Char) : Prop where
  escape : config.escape = rule.escape
  quantifier : config.quantifier = .identifier
  constant : config.constant = .constant
  startQuote : config.startQuote = quote.toString
  endQuote : config.endQuote = quote.toString
  isQuote : IsIdentifierQuote quote

namespace Config.Guarded

variable {config : Config} {rule : LiteralRule} {quote : Char}

/-! ## Scalars -/

theorem contained_boolean (h : config.Guarded rule quote) (value : Bool) :
    Contained rule quote (config.boolean value).toList := by
  have hwords : (config.boolean value).toList.all isPatternWord = true := by
    unfold Config.boolean
    cases config.booleans <;> cases value <;> decide +kernel
  exact contained_of_forall h.isQuote fun c hc =>
    isNeutral_word (List.all_eq_true.mp hwords c hc)

theorem contained_literal (h : config.Guarded rule quote) (raw : String) :
    Contained rule quote (config.literal raw).toList := by
  rw [toList_literal h.escape]
  exact contained_escape raw

theorem contained_int64Text (h : config.Guarded rule quote) (n : Int64) :
    Contained rule quote (int64Text n).toList := by
  rw [int64Text, String.toList_ofList]
  exact contained_intText h.isQuote n.toInt

theorem isFinite_of_finite {x y : Double} (h : finite x = .ok y) : y.isFinite = true := by
  unfold finite at h
  split at h
  · rename_i hfinite
    cases h
    exact hfinite
  · cases h

theorem contained_anyLiteral (h : config.Guarded rule quote) {scalar : Scalar} {text : String}
    (htext : anyLiteral config scalar = .ok text) : Contained rule quote text.toList := by
  cases scalar with
  | null =>
    cases htext
    exact contained_emptyLiteral
  | boolean value =>
    cases htext
    exact h.contained_boolean value
  | integer n =>
    cases htext
    exact h.contained_int64Text n
  | double x =>
    obtain ⟨y, hfinite, hy⟩ := bind_eq_ok.mp htext
    cases hy
    exact contained_double h.isQuote (isFinite_of_finite hfinite)
  | text raw =>
    cases htext
    exact h.contained_literal raw

theorem contained_stringLiteral (h : config.Guarded rule quote) {scalar : Scalar}
    {text : String} (htext : stringLiteral config scalar = .ok text) :
    Contained rule quote text.toList := by
  cases scalar with
  | null =>
    cases htext
    exact contained_emptyLiteral
  | boolean value =>
    cases htext
    cases value
    · exact contained_intLiteral 0
    · exact contained_intLiteral 1
  | integer n =>
    cases htext
    have hliteral : ("'" ++ int64Text n ++ "'").toList =
        '\'' :: (intText n.toInt ++ ['\'']) := by
      simp [int64Text]
    rw [hliteral]
    exact contained_intLiteral n.toInt
  | double x =>
    obtain ⟨y, hfinite, hy⟩ := bind_eq_ok.mp htext
    cases hy
    have hliteral : ("'" ++ y.text ++ "'").toList = '\'' :: (y.text.toList ++ ['\'']) := by
      simp
    rw [hliteral]
    exact contained_doubleLiteral (isFinite_of_finite hfinite)
  | text raw =>
    cases htext
    exact h.contained_literal raw

theorem contained_doubleLiteral (h : config.Guarded rule quote) {scalar : Scalar}
    {text : String} (htext : doubleLiteral scalar = .ok text) :
    Contained rule quote text.toList := by
  cases scalar with
  | null =>
    cases htext
    exact contained_intText h.isQuote 0
  | boolean value =>
    cases htext
    cases value
    · exact contained_intText h.isQuote 0
    · exact contained_intText h.isQuote 1
  | integer n =>
    cases htext
    exact h.contained_int64Text n
  | double x =>
    obtain ⟨y, hfinite, hy⟩ := bind_eq_ok.mp htext
    cases hy
    exact contained_double h.isQuote (isFinite_of_finite hfinite)
  | text raw =>
    obtain ⟨⟨cs, n⟩, hnumeral, hcs⟩ := bind_eq_ok.mp htext
    cases hcs
    rw [String.toList_ofList]
    simp only [numeral] at hnumeral
    split at hnumeral
    · rename_i hchars
      cases hnumeral
      exact contained_numeral h.isQuote hchars
    · cases hnumeral

theorem contained_constantText (h : config.Guarded rule quote) {raw text : String}
    (htext : constantText config raw = .ok text) : Contained rule quote text.toList := by
  unfold constantText at htext
  split at htext
  · rename_i haccepted
    cases htext
    rw [Bool.and_eq_true, Config.isConstant, h.constant] at haccepted
    refine contained_of_forall h.isQuote fun c hc => ?_
    rcases Pattern.accepts_constant haccepted.1 c hc with hword | hspace | rfl | rfl | rfl
    · exact isNeutral_word hword
    · exact isNeutral_space hspace
    all_goals exact isNeutral_mark (by decide)
  · cases htext

theorem contained_identifierText (h : config.Guarded rule quote) {style : QuoteStyle}
    {raw text : String} (htext : identifierText config style raw = .ok text) :
    Contained rule quote text.toList := by
  obtain ⟨haccepted, rfl⟩ := identifierText_eq_ok.mp htext
  rw [Config.isQuantifier, h.quantifier] at haccepted
  have hraw : ∀ c ∈ raw.toList, IsNeutral quote c := by
    intro c hc
    rcases Pattern.accepts_identifier haccepted c hc with hword | rfl
    · exact isNeutral_word hword
    · exact isNeutral_mark (by decide)
  refine contained_of_forall h.isQuote fun c hc => ?_
  cases style with
  | quoted =>
    rcases mem_quoteIdentifier h.startQuote h.endQuote hc with rfl | rfl | hmem
    · exact isNeutral_quote h.isQuote
    · exact isNeutral_mark (by decide)
    · exact hraw c hmem
  | unquoted => exact hraw c hc

theorem contained_familyLiteral (h : config.Guarded rule quote) {family : ScalarFamily}
    {scalar : Scalar} {text : String} (htext : family.literal config scalar = .ok text) :
    Contained rule quote text.toList := by
  cases family with
  | text => exact h.contained_stringLiteral htext
  | integer =>
    obtain ⟨n, _, hn⟩ := bind_eq_ok.mp htext
    cases hn
    exact h.contained_int64Text n
  | unsigned =>
    obtain ⟨whole, _, htext⟩ := bind_eq_ok.mp htext
    obtain ⟨n, _, hn⟩ := bind_eq_ok.mp htext
    cases hn
    exact h.contained_int64Text n
  | natural =>
    simp only [ScalarFamily.literal] at htext
    split at htext
    · cases htext
    obtain ⟨whole, _, htext⟩ := bind_eq_ok.mp htext
    obtain ⟨n, _, hn⟩ := bind_eq_ok.mp htext
    cases hn
    exact h.contained_int64Text n
  | double => exact h.contained_doubleLiteral htext
  | boolean =>
    cases htext
    exact h.contained_boolean _

/-- A type that does not pass text through has contained texts for all scalars. -/
theorem contained_coerceScalar (h : config.Guarded rule quote) {type : SlotType}
    (htype : type ≠ .raw) {scalar : Scalar} {result : Option String}
    (hresult : coerceScalar config type scalar = .ok result) :
    ∀ text ∈ result, Contained rule quote text.toList := by
  -- In every case but two the result is one text that some lemma above is about.
  have hsome : ∀ {judgement : Except Rejection String},
      (∀ text, judgement = .ok text → Contained rule quote text.toList) →
      some <$> judgement = .ok result → ∀ text ∈ result, Contained rule quote text.toList := by
    intro judgement hjudgement hmap text htext
    obtain ⟨inner, hinner, hsame⟩ := map_eq_ok.mp hmap
    rw [← hsame] at htext
    cases htext
    exact hjudgement _ hinner
  unfold coerceScalar at hresult
  split at hresult
  · cases hresult
    rintro _ ⟨⟩
    have hword : "NULL".toList.all isPatternWord = true := by decide +kernel
    exact contained_of_forall h.isQuote fun c hc =>
      isNeutral_word (List.all_eq_true.mp hword c hc)
  cases type with
  | any nullable | list nullable | pairs style nullable =>
    exact hsome (fun text => h.contained_anyLiteral) hresult
  | constant nullable =>
    cases scalar with
    | text raw => exact hsome (fun text => h.contained_constantText) hresult
    | null | boolean | integer | double => cases hresult
  | scalar family strict nullable =>
    simp only at hresult
    split at hresult
    · cases hresult
    · exact hsome (fun text => h.contained_familyLiteral) hresult
  | raw => exact absurd rfl htype
  | identifier style =>
    cases scalar with
    | text raw => exact hsome (fun text => h.contained_identifierText) hresult
    | null | boolean | integer | double => cases hresult
  | keys style | values style => cases hresult
  | flag =>
    cases hresult
    intro text htext
    cases htruth : scalar.truth
    · simp [htruth] at htext
    · simp only [htruth, if_true] at htext
      cases htext
      exact contained_nil

/-! ## Values -/

theorem ensures_entryLiteral (h : config.Guarded rule quote) {type : SlotType}
    (htype : type ≠ .raw) (value : Value) :
    Ensures (entryLiteral config type value) fun text => Contained rule quote text.toList := by
  refine ensures_resolveBind fun resolved => ?_
  cases resolved with
  | array entries => exact ensures_throw _
  | scalar scalar =>
    refine ensures_judge fun text htext => ?_
    obtain ⟨result, hresult, rfl⟩ := map_eq_ok.mp htext
    cases result with
    | none => exact contained_nil
    | some written => exact h.contained_coerceScalar htype hresult written rfl

theorem ensures_entryKey (h : config.Guarded rule quote) (style : QuoteStyle) (key : Key) :
    Ensures (entryKey config style key) fun text => Contained rule quote text.toList :=
  ensures_judge fun _ => h.contained_identifierText

theorem ensures_entryIdentifier (h : config.Guarded rule quote) (style : QuoteStyle)
    (value : Value) :
    Ensures (entryIdentifier config style value) fun text => Contained rule quote text.toList := by
  refine ensures_resolveBind fun resolved => ?_
  split
  · exact ensures_judge fun _ => h.contained_identifierText
  · exact ensures_throw _

theorem ensures_entryPair (h : config.Guarded rule quote) {type : SlotType}
    (htype : type ≠ .raw) (style : QuoteStyle) (entry : Key × Value) :
    Ensures (entryPair config type style entry) fun text => Contained rule quote text.toList := by
  refine ensures_bind (h.ensures_entryKey style entry.1) fun name hname => ?_
  refine ensures_bind (h.ensures_entryLiteral htype entry.2) fun literal hliteral => ?_
  refine ensures_pure ?_
  have hequals : IsNeutral quote '=' := isNeutral_mark (by decide)
  have htail := contained_cons h.isQuote hequals
    (contained_cons h.isQuote isNeutral_blank hliteral)
  have hjoin := contained_append_cons h.isQuote isNeutral_blank hname htail
  simpa using hjoin

theorem ensures_coerceEntries (h : config.Guarded rule quote) {type : SlotType}
    (htype : type ≠ .raw) (entries : ArrayEntries) :
    Ensures (coerceEntries config type entries) fun texts =>
      ∀ text ∈ texts, Contained rule quote text.toList := by
  unfold coerceEntries
  split
  · exact ensures_mapM fun entry => h.ensures_entryPair htype _ entry
  · exact ensures_mapM fun entry => h.ensures_entryLiteral htype entry.2
  · exact ensures_mapM fun entry => h.ensures_entryKey _ entry.1
  · exact ensures_mapM fun entry => h.ensures_entryIdentifier _ entry.2
  · exact ensures_throw _

theorem ensures_coerce (h : config.Guarded rule quote) {type : SlotType} (htype : type ≠ .raw)
    (value : Value) :
    Ensures (coerce config type value) fun result =>
      ∀ text ∈ result, Contained rule quote text.toList := by
  refine ensures_resolveBind fun resolved => ?_
  cases resolved with
  | array entries =>
    refine ensures_bind (h.ensures_coerceEntries htype entries) fun texts htexts => ?_
    refine ensures_pure ?_
    rintro _ ⟨⟩
    exact contained_commaSeparated h.isQuote htexts
  | scalar scalar =>
    show Ensures (if type.needsArray && scalar != .null then _ else _) _
    split
    · exact ensures_throw _
    · exact ensures_judge fun result => h.contained_coerceScalar htype

end Config.Guarded

/-! ## Configurations of the dialects -/

theorem Config.guarded_ofDialect (dialect : Dialect) :
    ∃ quote, (Config.ofDialect dialect).Guarded dialect.literalRule quote := by
  cases dialect with
  | mysql => exact ⟨'\x60', rfl, rfl, rfl, by decide, by decide, Or.inl rfl⟩
  | postgres => exact ⟨'"', rfl, rfl, rfl, by decide, by decide, Or.inr rfl⟩
  | sqlite => exact ⟨'\x60', rfl, rfl, rfl, by decide, by decide, Or.inl rfl⟩

/-! ## Assignments -/

/-- The text that an assignment binds is contained, whatever the value and whatever its
suppliers answer, unless the placeholder passes text through. -/
theorem Placeholder.contained_of_assign {config : Config} {rule : LiteralRule} {quote : Char}
    (h : config.Guarded rule quote) {placeholder changed : Placeholder}
    (htype : placeholder.type ≠ .raw) {value : Value} {log after : CallLog} {text : String}
    (hassign : placeholder.assign config value log = ((.ok (), changed), after))
    (htext : changed.value = some text) : Contained rule quote text.toList := by
  rcases hcoerce : coerce config placeholder.type value log with ⟨rejected | result, between⟩
  · rw [assign_of_error hcoerce] at hassign
    cases hassign
  · rw [assign_of_ok hcoerce] at hassign
    cases hassign
    exact h.ensures_coerce htype value log result _ hcoerce text htext

/-- A text that would end a literal and begin a comment, under a key that is quoted. -/
theorem Placeholder.contained_of_assign_pair :
    let placeholder := Placeholder.new (.name "set") (.pairs .quoted false) false
    let value := Value.array [(.name "a", .scalar (.text "x'; -- "))]
    let text := "`a` = 'x\\'; -- '"
    placeholder.assign (Config.ofDialect .mysql) value [] =
        ((.ok (), { placeholder with value := some text }), []) ∧
      Contained .backslashed '\x60' text.toList := by
  intro placeholder value text
  have hassign : placeholder.assign (Config.ofDialect .mysql) value [] =
      ((.ok (), { placeholder with value := some text }), []) :=
    rfl
  have hguarded : (Config.ofDialect .mysql).Guarded .backslashed '\x60' :=
    ⟨rfl, rfl, rfl, by decide, by decide, Or.inl rfl⟩
  exact ⟨hassign, contained_of_assign hguarded (by decide) hassign rfl⟩

end SqlTemplate
