import SqlTemplate.Proofs.Injection
import SqlTemplate.Proofs.Splitting

/-!
# Arrays are found again in what they are written as

An array is written as one text, with commas between its entries.  Whoever splits the text at the
commas outside of literals gets back what was written for each entry, whatever the entries are.

* `Config.Separable` says which configurations this is about.
* `IsTight` says which characters stand in names and numbers, and `Separable.free_coerceScalar`
  and `free_identifierText` that nothing else stands outside of the literals of an entry.
* `InTurn` relates items to results while the suppliers are asked, and `inTurn_of_mapM` gets it
  from a coercion of entries.
* `IsPart` says what is written for an entry, type by type, and `parts_of_coerceEntries` that this
  is what a coercion writes.
* `Placeholder.split_of_assign` states it for an assignment.
-/

namespace SqlTemplate

open Text Sql

/-! ## Separable configurations -/

/-- The escape writes for the rule, identifiers match the pattern of a new configuration, and they
are between two quotes of one kind. -/
structure Config.Separable (config : Config) (rule : LiteralRule) (quote : Char) : Prop where
  escape : config.escape = rule.escape
  quantifier : config.quantifier = .identifier
  startQuote : config.startQuote = quote.toString
  endQuote : config.endQuote = quote.toString
  isQuote : IsIdentifierQuote quote

/-! ## Names and numbers -/

/-- A character of a name or of a number. -/
def IsTight (quote c : Char) : Prop :=
  isPatternWord c = true ∨ c = quote ∨ c = '.' ∨ c = '-'

section Tight

variable {rule : LiteralRule} {quote : Char}

theorem IsTight.separates (hquote : IsIdentifierQuote quote) {c : Char} (h : IsTight quote c) :
    c ≠ '\'' ∧ c ∉ [',', ' '] := by
  have hliteral : isPatternWord '\'' = false := by decide +kernel
  have hcomma : isPatternWord ',' = false := by decide +kernel
  have hblank : isPatternWord ' ' = false := by decide +kernel
  have hword : ∀ d ∈ ['\'', ',', ' '], isPatternWord d = false := by
    simp [hliteral, hcomma, hblank]
  have hout : c ∉ ['\'', ',', ' '] := by
    intro hmem
    rcases h with h | rfl | rfl | rfl
    · rw [hword c hmem] at h
      cases h
    · rcases hquote with rfl | rfl <;> revert hmem <;> decide
    · revert hmem
      decide
    · revert hmem
      decide
  exact ⟨List.ne_of_not_mem_cons hout, List.not_mem_of_not_mem_cons hout⟩

theorem free_of_tight (hquote : IsIdentifierQuote quote) {text : List Char}
    (h : ∀ c ∈ text, IsTight quote c) : Free rule [',', ' '] text :=
  free_of_forall fun c hc => (h c hc).separates hquote

theorem free_of_signed (hquote : IsIdentifierQuote quote) {sign magnitude : List Char}
    (hsign : sign = [] ∨ sign = ['-']) (h : ∀ c ∈ magnitude, isAsciiDigit c = true ∨ c = '.') :
    Free rule [',', ' '] (sign ++ magnitude) := by
  refine free_of_tight hquote fun c hc => ?_
  rcases List.mem_append.mp hc with hmem | hmem
  · rcases hsign with rfl | rfl
    · cases hmem
    · exact Or.inr (Or.inr (Or.inr (List.mem_singleton.mp hmem)))
  · rcases h c hmem with hdigit | hpoint
    · exact Or.inl (isPatternWord_of_isAsciiDigit hdigit)
    · exact Or.inr (Or.inr (Or.inl hpoint))

end Tight

namespace Config.Separable

variable {config : Config} {rule : LiteralRule} {quote : Char}

theorem free_anyLiteral (h : config.Separable rule quote) {scalar : Scalar} {text : String}
    (htext : anyLiteral config scalar = .ok text) : Free rule [',', ' '] text.toList := by
  cases scalar with
  | null =>
    cases htext
    have hempty : ∀ c ∈ ([] : List Char), c ≠ '\'' ∧ c ≠ '\\' := nofun
    exact free_of_read (rule.read_verbatim hempty (by simp))
  | boolean value =>
    cases htext
    have hwords : (config.boolean value).toList.all isPatternWord = true := by
      unfold Config.boolean
      cases config.booleans <;> cases value <;> decide +kernel
    exact free_of_tight h.isQuote fun c hc => Or.inl (List.all_eq_true.mp hwords c hc)
  | integer n =>
    cases htext
    obtain ⟨sign, digits, hdigits, hsign, hmem⟩ := intText_eq n.toInt
    rw [int64Text, String.toList_ofList, hdigits]
    exact free_of_signed h.isQuote hsign fun c hc => Or.inl (hmem c hc)
  | double x =>
    obtain ⟨y, hfinite, hy⟩ := bind_eq_ok.mp htext
    cases hy
    obtain ⟨sign, magnitude, hdigits, hsign, hmem⟩ :=
      Double.text_eq (Guarded.isFinite_of_finite hfinite)
    rw [hdigits]
    exact free_of_signed h.isQuote hsign hmem
  | text raw =>
    cases htext
    rw [toList_literal h.escape]
    exact free_of_read (rule.read_escape raw (by simp))

/-- What a slot for the literals of an array holds for one of them. -/
theorem free_coerceScalar (h : config.Separable rule quote) {type : SlotType}
    (htype : type.needsList = true ∨ type.needsPairs = true) {scalar : Scalar}
    {result : Option String} (hresult : coerceScalar config type scalar = .ok result) :
    ∃ text, result = some text ∧ Free rule [',', ' '] text.toList := by
  unfold coerceScalar at hresult
  split at hresult
  · cases hresult
    have hword : "NULL".toList.all isPatternWord = true := by decide +kernel
    exact ⟨_, rfl, free_of_tight h.isQuote fun c hc => Or.inl (List.all_eq_true.mp hword c hc)⟩
  cases type with
  | list nullable | pairs style nullable =>
    obtain ⟨text, htext, rfl⟩ := map_eq_ok.mp hresult
    exact ⟨text, rfl, h.free_anyLiteral htext⟩
  | any | constant | scalar | raw | identifier | keys | values | flag =>
    rcases htype with htype | htype <;> cases htype

theorem free_identifierText (h : config.Separable rule quote) {style : QuoteStyle}
    {raw text : String} (htext : identifierText config style raw = .ok text) :
    Free rule [',', ' '] text.toList := by
  obtain ⟨haccepted, rfl⟩ := identifierText_eq_ok.mp htext
  rw [Config.isQuantifier, h.quantifier] at haccepted
  have hraw : ∀ c ∈ raw.toList, IsTight quote c := by
    intro c hc
    rcases Pattern.accepts_identifier haccepted c hc with hword | hdot
    · exact Or.inl hword
    · exact Or.inr (Or.inr (Or.inl hdot))
  refine free_of_tight h.isQuote fun c hc => ?_
  cases style with
  | quoted =>
    rcases mem_quoteIdentifier h.startQuote h.endQuote hc with hquote | hdot | hmem
    · exact Or.inr (Or.inl hquote)
    · exact Or.inr (Or.inr (Or.inl hdot))
    · exact hraw c hmem
  | unquoted => exact hraw c hc

end Config.Separable

/-! ## Entries in turn -/

/-- The items have the results in order, and the state goes through the steps from the first to the
last. -/
inductive InTurn {α β σ : Type} (step : α → σ → β → σ → Prop) :
    List α → σ → List β → σ → Prop where
  | nil (state : σ) : InTurn step [] state [] state
  | cons {item : α} {items : List α} {result : β} {results : List β} {state between after : σ}
      (h : step item state result between) (hrest : InTurn step items between results after) :
      InTurn step (item :: items) state (result :: results) after

section InTurn

variable {α β σ : Type} {step other : α → σ → β → σ → Prop} {items : List α} {results : List β}
  {state after : σ}

theorem InTurn.imp (h : ∀ item state result after, step item state result after →
      other item state result after) (hrun : InTurn step items state results after) :
    InTurn other items state results after := by
  induction hrun with
  | nil state => exact .nil state
  | cons hstep _ ih => exact .cons (h _ _ _ _ hstep) ih

theorem InTurn.length_eq (h : InTurn step items state results after) :
    results.length = items.length := by
  induction h with
  | nil => rfl
  | cons _ _ ih => rw [List.length_cons, List.length_cons, ih]

/-- What every step ensures of its result holds of all results. -/
theorem InTurn.forall_mem {property : β → Prop}
    (h : ∀ item state result after, step item state result after → property result)
    (hrun : InTurn step items state results after) : ∀ result ∈ results, property result := by
  induction hrun with
  | nil => exact nofun
  | cons hstep _ ih => exact List.forall_mem_cons.mpr ⟨h _ _ _ _ hstep, ih⟩

theorem inTurn_of_mapM {step : α → Coercing β} {log after : CallLog}
    (h : items.mapM step log = (.ok results, after)) :
    InTurn (fun item log result after => step item log = (.ok result, after))
      items log results after := by
  induction items generalizing log results with
  | nil =>
    cases h
    exact .nil _
  | cons item items ih =>
    rw [List.mapM_cons] at h
    obtain ⟨result, between, hitem, h⟩ := coercing_bind_eq_ok.mp h
    obtain ⟨others, last, hitems, h⟩ := coercing_bind_eq_ok.mp h
    cases h
    exact .cons hitem (ih hitems)

end InTurn

/-! ## Parts -/

section Parts

variable {config : Config} {rule : LiteralRule} {quote : Char} {type : SlotType}
  {log after : CallLog}

/-- What is written for an entry in a slot of a type, and the log before and after the suppliers
of the entry were asked.  The name and the literal of a pair are what the first equals sign
between blanks separates. -/
def IsPart (config : Config) (rule : LiteralRule) (type : SlotType) (entry : Key × Value)
    (log : CallLog) (part : String) (after : CallLog) : Prop :=
  match type with
  | .list _ =>
      ∃ scalar, entry.2.resolve log = (.scalar scalar, after) ∧
        coerceScalar config type scalar = .ok (some part)
  | .pairs style _ =>
      ∃ scalar name literal, entry.2.resolve log = (.scalar scalar, after) ∧
        identifierText config style entry.1.text = .ok name ∧
        coerceScalar config type scalar = .ok (some literal) ∧
        part = name ++ " = " ++ literal ∧
        splitOutside rule " = ".toList part.toList = [name.toList, literal.toList]
  | .keys style => after = log ∧ identifierText config style entry.1.text = .ok part
  | .values style =>
      ∃ raw, entry.2.resolve log = (.scalar (.text raw), after) ∧
        identifierText config style raw = .ok part
  | _ => False

/-- The literal of an entry is what the slot holds for the scalar that the entry resolves to. -/
theorem ok_of_entryLiteral (h : config.Separable rule quote)
    (htype : type.needsList = true ∨ type.needsPairs = true) {value : Value} {text : String}
    (hrun : entryLiteral config type value log = (.ok text, after)) :
    ∃ scalar, value.resolve log = (.scalar scalar, after) ∧
      coerceScalar config type scalar = .ok (some text) ∧ Free rule [',', ' '] text.toList := by
  rcases hvalue : value.resolve log with ⟨scalar | entries, between⟩
  · rw [entryLiteral_of_scalar hvalue] at hrun
    obtain ⟨hmap, rfl⟩ := ok_of_judge hrun
    obtain ⟨result, hresult, rfl⟩ := map_eq_ok.mp hmap
    obtain ⟨text, rfl, hfree⟩ := h.free_coerceScalar htype hresult
    exact ⟨scalar, rfl, hresult, hfree⟩
  · rw [entryLiteral_of_array hvalue] at hrun
    cases hrun

theorem ok_of_entryIdentifier {style : QuoteStyle} {value : Value} {text : String}
    (hrun : entryIdentifier config style value log = (.ok text, after)) :
    ∃ raw, value.resolve log = (.scalar (.text raw), after) ∧
      identifierText config style raw = .ok text := by
  unfold entryIdentifier at hrun
  rw [resolve_bind] at hrun
  rcases hvalue : value.resolve log with ⟨(_ | _ | _ | _ | raw) | entries, between⟩
  case scalar.text =>
    rw [hvalue] at hrun
    obtain ⟨hjudge, rfl⟩ := ok_of_judge hrun
    exact ⟨raw, rfl, hjudge⟩
  all_goals
    rw [hvalue] at hrun
    cases hrun

/-- The parts that are written for the entries of an array have no comma outside of literals. -/
theorem parts_of_coerceEntries (h : config.Separable rule quote) {entries : ArrayEntries}
    {parts : List String} (hrun : coerceEntries config type entries log = (.ok parts, after)) :
    InTurn (fun entry log part after => IsPart config rule type entry log part after ∧
      Free rule [','] part.toList) entries log parts after := by
  cases type with
  | list nullable =>
    refine (inTurn_of_mapM hrun).imp fun entry log part after hentry => ?_
    obtain ⟨scalar, hvalue, hresult, hfree⟩ := ok_of_entryLiteral h (Or.inl rfl) hentry
    exact ⟨⟨scalar, hvalue, hresult⟩, hfree.mono (by decide)⟩
  | pairs style nullable =>
    refine (inTurn_of_mapM hrun).imp fun entry log part after hentry => ?_
    obtain ⟨name, between, hkey, hentry⟩ := coercing_bind_eq_ok.mp hentry
    obtain ⟨literal, last, hliteral, hentry⟩ := coercing_bind_eq_ok.mp hentry
    cases hentry
    obtain ⟨hname, rfl⟩ := ok_of_judge hkey
    obtain ⟨scalar, hvalue, hresult, hfree⟩ := ok_of_entryLiteral h (Or.inr rfl) hliteral
    have hfreeName := h.free_identifierText hname
    have hpart : (name ++ " = " ++ literal).toList =
        name.toList ++ (' ' :: ['=', ' '] ++ literal.toList) := by
      simp
    refine ⟨⟨scalar, name, literal, hvalue, hname, hresult, rfl, ?_⟩, ?_⟩
    · -- Neither the name nor the literal has a blank outside, so the first one is the separator's.
      show splitOutside rule (' ' :: ['=', ' ']) _ = _
      rw [hpart, splitOutside_free_separator (by decide) (hfreeName.mono (by decide)),
        splitOutside_free (hfree.mono (by decide))]
    · rw [hpart]
      have hfreeLiteral : Free rule [','] literal.toList := hfree.mono (by decide)
      exact (hfreeName.mono (by decide)).append (((hfreeLiteral.cons (by decide) (by decide)).cons
        (by decide) (by decide)).cons (by decide) (by decide)) (by simp)
  | keys style =>
    refine (inTurn_of_mapM hrun).imp fun entry log part after hentry => ?_
    obtain ⟨hname, rfl⟩ := ok_of_judge hentry
    exact ⟨⟨rfl, hname⟩, (h.free_identifierText hname).mono (by decide)⟩
  | values style =>
    refine (inTurn_of_mapM hrun).imp fun entry log part after hentry => ?_
    obtain ⟨raw, hvalue, hname⟩ := ok_of_entryIdentifier hentry
    exact ⟨⟨raw, hvalue, hname⟩, (h.free_identifierText hname).mono (by decide)⟩
  | any | constant | scalar | raw | identifier | flag => cases hrun

end Parts

/-- The text that an assignment binds for an array falls apart into what is written for its entries,
one part for each, when it is split at the commas outside of literals. -/
theorem Placeholder.split_of_assign {config : Config} {rule : LiteralRule} {quote : Char}
    (h : config.Separable rule quote) {placeholder changed : Placeholder} {value : Value}
    {entries : ArrayEntries} {log between after : CallLog}
    (hvalue : value.resolve log = (.array entries, between)) (hne : entries ≠ [])
    (hassign : placeholder.assign config value log = ((.ok (), changed), after)) :
    ∃ text parts, changed.value = some text ∧
      splitOutside rule ", ".toList text.toList = parts.map String.toList ∧
      parts.length = entries.length ∧
      InTurn (IsPart config rule placeholder.type) entries between parts after := by
  rcases hcoerce : coerce config placeholder.type value log with ⟨rejected | result, last⟩
  · rw [assign_of_error hcoerce] at hassign
    cases hassign
  rw [assign_of_ok hcoerce] at hassign
  cases hassign
  rw [coerce_resolve config placeholder.type hvalue, Resolved.toValue, coerce_array] at hcoerce
  obtain ⟨parts, _, hentries, hpure⟩ := coercing_bind_eq_ok.mp hcoerce
  cases hpure
  have hrun := parts_of_coerceEntries h hentries
  have hlength := hrun.length_eq
  have hparts : parts ≠ [] := by
    rintro rfl
    exact hne (List.eq_nil_of_length_eq_zero hlength.symm)
  refine ⟨commaSeparated parts, parts, rfl, ?_, hlength, hrun.imp fun _ _ _ _ hpart => hpart.1⟩
  exact splitOutside_commaSeparated hparts (hrun.forall_mem fun _ _ _ _ hpart => hpart.2)

/-- An entry that has a whole assignment in its text, with a quote and a backslash in front of the
end of its literal. -/
theorem Placeholder.split_of_assign_pairs :
    let placeholder := Placeholder.new (.name "set") (.pairs .quoted true) false
    let value := Value.array
      [(.name "a", .scalar (.text "x', `b` = 'y\\")), (.name "b", .scalar .null)]
    let first := "`a` = 'x\\', `b` = \\'y\\\\'"
    let second := "`b` = NULL"
    placeholder.assign (Config.ofDialect .mysql) value [] =
        ((.ok (), { placeholder with value := some (first ++ ", " ++ second) }), []) ∧
      splitOutside .backslashed ", ".toList (first ++ ", " ++ second).toList =
        [first.toList, second.toList] := by
  intro placeholder value first second
  have hassign : placeholder.assign (Config.ofDialect .mysql) value [] =
      ((.ok (), { placeholder with value := some (first ++ ", " ++ second) }), []) :=
    rfl
  have hseparable : (Config.ofDialect .mysql).Separable .backslashed '\x60' :=
    ⟨rfl, rfl, by decide, by decide, Or.inl rfl⟩
  obtain ⟨text, parts, htext, hsplit, -, hparts⟩ :=
    split_of_assign hseparable rfl (List.cons_ne_nil _ _) hassign
  obtain rfl : first ++ ", " ++ second = text := Option.some.inj htext
  refine ⟨hassign, hsplit.trans ?_⟩
  obtain _ | ⟨hfirst, hrest⟩ := hparts
  obtain _ | ⟨hsecond, hnil⟩ := hrest
  cases hnil
  obtain ⟨scalar, name, literal, hscalar, hname, hliteral, rfl, -⟩ := hfirst
  cases hscalar
  cases hname
  cases hliteral
  obtain ⟨scalar, name, literal, hscalar, hname, hliteral, rfl, -⟩ := hsecond
  cases hscalar
  cases hname
  cases hliteral
  rfl

end SqlTemplate
