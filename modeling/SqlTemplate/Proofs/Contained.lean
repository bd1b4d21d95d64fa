import Mathlib.Data.List.Chain
import SqlTemplate.Proofs.Literal
import SqlTemplate.Proofs.Number
import SqlTemplate.Text.Listing

/-!
# Contained texts

A contained text can neither leave a string literal open, nor begin a comment, nor end a
statement: its literals are closed, and the characters around them are harmless.

* `Contained` is the property, for a rule of literals and a quote of identifiers.
* `contained_cons` and `contained_append_cons`: contained texts joined by a separator are
  contained, and so is a list of them (`contained_commaSeparated`).
* `contained_intText`, `contained_double` and `contained_numeral`: numbers, whose minus
  signs are never next to each other.
* `contained_escape` and `contained_verbatim`: literals.
-/

namespace SqlTemplate.Sql

open Text

/-! ## Contained texts -/

/-- A character that quotes identifiers. -/
def IsIdentifierQuote (c : Char) : Prop :=
  c = '\x60' ∨ c = '"'

/-- A character that may stand outside of literals. -/
def IsOutside (quote c : Char) : Prop :=
  isPatternWord c = true ∨ isWhiteSpace c = true ∨ c = quote ∨
    c ∈ ['.', ',', '=', '+', '-', '(', ')']

/-- A character that may stand outside of literals and has no part in a comment. -/
structure IsNeutral (quote c : Char) : Prop where
  outside : IsOutside quote c
  ne_minus : c ≠ '-'

/-- Read by the rule, the text ends outside of literals, has harmless characters outside
of them, and no two minus signs in a row there. -/
def Contained (rule : LiteralRule) (quote : Char) (text : List Char) : Prop :=
  ∃ parts, tokens rule text = some parts ∧ (∀ c, .plain c ∈ parts → IsOutside quote c) ∧
    parts.IsChain fun a b => ¬ (a = .plain '-' ∧ b = .plain '-')

variable {rule : LiteralRule} {quote : Char}

theorem IsOutside.ne_quote (hquote : IsIdentifierQuote quote) {c : Char}
    (h : IsOutside quote c) : c ≠ '\'' := by
  intro hsame
  subst hsame
  have hword : isPatternWord '\'' = false := by decide +kernel
  have hspace : isWhiteSpace '\'' = false := by decide +kernel
  rcases h with h | h | h | h
  · rw [hword] at h
    cases h
  · rw [hspace] at h
    cases h
  · rcases hquote with rfl | rfl <;> revert h <;> decide
  · revert h
    decide

theorem isNeutral_word {c : Char} (h : isPatternWord c = true) :
    IsNeutral quote c := by
  refine ⟨Or.inl h, ?_⟩
  intro hsame
  subst hsame
  have hminus : isPatternWord '-' = false := by decide +kernel
  rw [hminus] at h
  cases h

theorem isNeutral_space {c : Char} (h : isWhiteSpace c = true) :
    IsNeutral quote c := by
  refine ⟨Or.inr (Or.inl h), ?_⟩
  intro hsame
  subst hsame
  have hminus : isWhiteSpace '-' = false := by decide +kernel
  rw [hminus] at h
  cases h

theorem isNeutral_blank : IsNeutral quote ' ' :=
  isNeutral_space (by decide +kernel)

theorem isNeutral_quote (hquote : IsIdentifierQuote quote) :
    IsNeutral quote quote := by
  refine ⟨Or.inr (Or.inr (Or.inl rfl)), ?_⟩
  rcases hquote with rfl | rfl <;> decide

theorem isNeutral_mark {c : Char} (h : c ∈ ['.', ',', '=', '+', '(', ')']) :
    IsNeutral quote c := by
  have hmem : c ∈ ['.', ',', '=', '+', '-', '(', ')'] := by
    refine List.Sublist.subset ?_ h
    decide
  refine ⟨Or.inr (Or.inr (Or.inr hmem)), ?_⟩
  intro hsame
  subst hsame
  revert h
  decide

theorem contained_nil : Contained rule quote [] :=
  ⟨[], tokens_nil, by simp, List.IsChain.nil⟩

theorem contained_cons (hquote : IsIdentifierQuote quote) {c : Char}
    (hc : IsNeutral quote c) {text : List Char} (h : Contained rule quote text) :
    Contained rule quote (c :: text) := by
  obtain ⟨parts, htokens, hplain, hchain⟩ := h
  refine ⟨.plain c :: parts, ?_, ?_, ?_⟩
  · rw [tokens_plain (hc.outside.ne_quote hquote), htokens]
    rfl
  · intro d hd
    rcases List.mem_cons.mp hd with hsame | hmem
    · cases hsame
      exact hc.outside
    · exact hplain d hmem
  · refine List.isChain_cons.mpr ⟨fun next _ hboth => hc.ne_minus ?_, hchain⟩
    exact Token.plain.inj hboth.1

/-- A separator between two contained texts keeps their minus signs apart. -/
theorem contained_append_cons (hquote : IsIdentifierQuote quote) {c : Char}
    (hc : IsNeutral quote c) {first second : List Char}
    (hfirst : Contained rule quote first) (hsecond : Contained rule quote second) :
    Contained rule quote (first ++ c :: second) := by
  obtain ⟨right, hright, hrightPlain, hrightChain⟩ := contained_cons hquote hc hsecond
  obtain ⟨left, hleft, hleftPlain, hleftChain⟩ := hfirst
  have hhead : (c :: second).head? ≠ some '\'' := by
    simpa using hc.outside.ne_quote hquote
  have hstart : right.head? = some (.plain c) := by
    rw [tokens_plain (hc.outside.ne_quote hquote)] at hright
    obtain ⟨others, _, rfl⟩ := Option.map_eq_some_iff.mp hright
    rfl
  refine ⟨left ++ right, tokens_append hleft hright hhead, ?_, ?_⟩
  · intro d hd
    rcases List.mem_append.mp hd with hmem | hmem
    · exact hleftPlain d hmem
    · exact hrightPlain d hmem
  · refine List.isChain_append.mpr ⟨hleftChain, hrightChain, ?_⟩
    intro last _ next hnext hboth
    rw [hstart] at hnext
    cases hnext
    exact hc.ne_minus (Token.plain.inj hboth.2)

theorem contained_of_forall (hquote : IsIdentifierQuote quote) {text : List Char}
    (h : ∀ c ∈ text, IsNeutral quote c) : Contained rule quote text := by
  induction text with
  | nil => exact contained_nil
  | cons c text ih =>
    have hc := h c List.mem_cons_self
    exact contained_cons hquote hc (ih fun d hd => h d (List.mem_cons_of_mem _ hd))

theorem contained_commaSeparated (hquote : IsIdentifierQuote quote) {texts : List String}
    (h : ∀ text ∈ texts, Contained rule quote text.toList) :
    Contained rule quote (commaSeparated texts).toList := by
  fun_induction commaSeparated texts with
  | case1 => exact contained_nil
  | case2 only => exact h only List.mem_cons_self
  | case3 first rest _ ih =>
    have hrest := ih fun text htext => h text (List.mem_cons_of_mem _ htext)
    have htail := contained_cons hquote isNeutral_blank hrest
    have hcomma : IsNeutral quote ',' := isNeutral_mark (by decide)
    have hjoin := contained_append_cons hquote hcomma (h first List.mem_cons_self) htail
    simpa using hjoin

/-! ## Numbers -/

theorem isPatternWord_of_isAsciiDigit {c : Char} (h : isAsciiDigit c = true) :
    isPatternWord c = true := by
  obtain ⟨hlow, hhigh⟩ := toNat_of_isAsciiDigit h
  have hdigits : ∀ n : Fin 10, Unicode.decimalNumber.holds (48 + n) = true := by decide +kernel
  have hc := hdigits ⟨c.toNat - 48, by omega⟩
  have hcode : 48 + (c.toNat - 48) = c.toNat := by omega
  simp only [hcode] at hc
  simp [isPatternWord, hc]

theorem isNeutral_digit {c : Char} (h : isAsciiDigit c = true) :
    IsNeutral quote c :=
  isNeutral_word (isPatternWord_of_isAsciiDigit h)

/-- The point of a number, like a digit, is harmless. -/
theorem isNeutral_of_digit_or_point {c : Char} (h : isAsciiDigit c = true ∨ c = '.') :
    IsNeutral quote c := by
  rcases h with hdigit | rfl
  · exact isNeutral_digit hdigit
  · exact isNeutral_mark (by decide)

/-- A minus sign in front of neutral characters begins no comment. -/
theorem contained_minus (hquote : IsIdentifierQuote quote) {text : List Char}
    (h : ∀ c ∈ text, IsNeutral quote c) : Contained rule quote ('-' :: text) := by
  obtain ⟨parts, htokens, hplain, hchain⟩ : Contained rule quote text :=
    contained_of_forall hquote h
  have hparts : parts = text.map .plain := by
    rw [tokens_of_forall_ne fun c hc => (h c hc).outside.ne_quote hquote] at htokens
    exact (Option.some.inj htokens).symm
  refine ⟨.plain '-' :: parts, ?_, ?_, ?_⟩
  · rw [tokens_plain (by decide), htokens]
    rfl
  · intro d hd
    rcases List.mem_cons.mp hd with hsame | hmem
    · cases hsame
      exact Or.inr (Or.inr (Or.inr (by decide)))
    · exact hplain d hmem
  · refine List.isChain_cons.mpr ⟨fun next hnext hboth => ?_, hchain⟩
    rw [hboth.2, hparts] at hnext
    have hmem : Token.plain '-' ∈ text.map .plain := List.mem_of_mem_head? hnext
    obtain ⟨c, hc, hsame⟩ := List.mem_map.mp hmem
    exact (h c hc).ne_minus (Token.plain.inj hsame)

theorem contained_signed (hquote : IsIdentifierQuote quote) {sign magnitude : List Char}
    (hsign : Numeral.IsSign sign) (h : ∀ c ∈ magnitude, isAsciiDigit c = true ∨ c = '.') :
    Contained rule quote (sign ++ magnitude) := by
  have hmagnitude : ∀ c ∈ magnitude, IsNeutral quote c :=
    fun c hc => isNeutral_of_digit_or_point (h c hc)
  rcases hsign with rfl | rfl | rfl
  · exact contained_of_forall hquote hmagnitude
  · exact contained_minus hquote hmagnitude
  · exact contained_cons hquote (isNeutral_mark (by decide))
      (contained_of_forall hquote hmagnitude)

/-- No character of a signed number would be misread in a literal. -/
theorem forall_ne_of_signed {sign magnitude : List Char} (hsign : Numeral.IsSign sign)
    (h : ∀ c ∈ magnitude, isAsciiDigit c = true ∨ c = '.') :
    ∀ c ∈ sign ++ magnitude, c ≠ '\'' ∧ c ≠ '\\' := by
  intro c hc
  rcases List.mem_append.mp hc with hmem | hmem
  · rcases hsign with rfl | rfl | rfl
    · cases hmem
    · rw [List.mem_singleton.mp hmem]
      decide
    · rw [List.mem_singleton.mp hmem]
      decide
  rcases h c hmem with hdigit | rfl
  · obtain ⟨hlow, hhigh⟩ := toNat_of_isAsciiDigit hdigit
    constructor
    · intro hsame
      subst hsame
      revert hlow
      decide
    · intro hsame
      subst hsame
      revert hhigh
      decide
  · decide

theorem contained_intText (hquote : IsIdentifierQuote quote) (n : Int) :
    Contained rule quote (intText n) := by
  obtain ⟨sign, digits, htext, hsign, hdigits⟩ := intText_eq n
  rw [htext]
  exact contained_signed hquote (hsign.imp_right Or.inl) fun c hc => Or.inl (hdigits c hc)

theorem contained_double (hquote : IsIdentifierQuote quote) {x : Double}
    (hfinite : x.isFinite = true) : Contained rule quote x.text.toList := by
  obtain ⟨sign, magnitude, htext, hsign, hmagnitude⟩ := Double.text_eq hfinite
  rw [htext]
  exact contained_signed hquote (hsign.imp_right Or.inl) hmagnitude

/-- A numeral is contained although it may have two signs: the mark of the exponent is
between them. -/
theorem contained_numeral (hquote : IsIdentifierQuote quote) {cs : List Char} {n : Numeral}
    (h : Numeral.ofChars? cs = some n) : Contained rule quote cs := by
  obtain ⟨sign, whole, fraction, exponent, hcs, hsign, hwhole, hfraction, hexponent⟩ :=
    Numeral.ofChars?_eq_some h
  have hmagnitude : ∀ c ∈ whole ++ fraction, isAsciiDigit c = true ∨ c = '.' := by
    intro c hc
    rcases List.mem_append.mp hc with hmem | hmem
    · exact Or.inl (hwhole c hmem)
    rcases hfraction with rfl | ⟨digits, rfl, hdigits⟩
    · cases hmem
    rcases List.mem_cons.mp hmem with hpoint | hdigit
    · exact Or.inr hpoint
    · exact Or.inl (hdigits c hdigit)
  have hmantissa : Contained rule quote (sign ++ (whole ++ fraction)) :=
    contained_signed hquote hsign hmagnitude
  rw [List.append_assoc sign] at hcs
  rcases hexponent with rfl | ⟨mark, expSign, digits, rfl, hmark, hexpSign, hdigits⟩
  · rwa [hcs, List.append_nil]
  · rw [hcs]
    have hletter : IsNeutral quote mark := by
      rcases hmark with rfl | rfl <;> exact isNeutral_word (by decide +kernel)
    exact contained_append_cons hquote hletter hmantissa
      (contained_signed hquote hexpSign fun c hc => Or.inl (hdigits c hc))

/-! ## Literals -/

/-- A literal is one token, so nothing in it is outside of literals. -/
theorem contained_of_read {content cs : List Char} (h : rule.read cs = some (content, [])) :
    Contained rule quote ('\'' :: cs) := by
  refine ⟨[.literal content], ?_, by simp, List.IsChain.singleton _⟩
  rw [tokens_quote h, tokens_nil]
  rfl

theorem contained_escape (raw : String) :
    Contained rule quote ('\'' :: ((rule.escape raw).toList ++ ['\''])) :=
  contained_of_read (rule.read_escape raw (by simp))

theorem contained_verbatim {cs : List Char} (h : ∀ c ∈ cs, c ≠ '\'' ∧ c ≠ '\\') :
    Contained rule quote ('\'' :: (cs ++ ['\''])) :=
  contained_of_read (rule.read_verbatim h (by simp))

theorem contained_emptyLiteral : Contained rule quote "''".toList := by
  have hempty : ∀ c ∈ ([] : List Char), c ≠ '\'' ∧ c ≠ '\\' := nofun
  exact contained_verbatim hempty

theorem contained_intLiteral (n : Int) :
    Contained rule quote ('\'' :: (intText n ++ ['\''])) := by
  obtain ⟨sign, digits, htext, hsign, hdigits⟩ := intText_eq n
  rw [htext]
  exact contained_verbatim
    (forall_ne_of_signed (hsign.imp_right Or.inl) fun c hc => Or.inl (hdigits c hc))

theorem contained_doubleLiteral {x : Double} (hfinite : x.isFinite = true) :
    Contained rule quote ('\'' :: (x.text.toList ++ ['\''])) := by
  obtain ⟨sign, magnitude, htext, hsign, hmagnitude⟩ := Double.text_eq hfinite
  rw [htext]
  exact contained_verbatim (forall_ne_of_signed (hsign.imp_right Or.inl) hmagnitude)

end SqlTemplate.Sql
