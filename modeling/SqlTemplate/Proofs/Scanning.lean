import SqlTemplate.Template.Piece

/-!
# Scanning, step by step

What the scanner does at one place of a template.

* `leadingWord_append` and `braced?_word`: how far a name reaches, and what stands behind
  it in braces.
* `braced?_typed` and `braced?_reference`: the markers in braces.
* `noBracket_of_notMem`, `noBracket_of_isReserved` and `FreeSigil.noBracket`: where no bracket
  begins.  `scan_opening` and `scan_closing`: what a bracket by itself is scanned as.
* `scanFrom_opening`, `scanFrom_closing`, `scanFrom_braced`, `scanFrom_sigil`,
  `scanFrom_doubled` and `scanFrom_plain`: one step of the scanner each.
* `merged` joins neighbouring texts.  `merged_afterText` says that pending text joins what
  follows it, so it does not matter where the scanner cuts a text.
-/

namespace SqlTemplate.Template

open Text

/-! ## Names -/

/-- The characters begin with no word character. -/
def EndsWord (cs : List Char) : Prop :=
  ∀ c ∈ cs.head?, isWordChar c = false

section Names

variable {word rest : List Char}

theorem leadingWord_append (hword : ∀ c ∈ word, isWordChar c = true) (hrest : EndsWord rest) :
    leadingWord (word ++ rest) = word := by
  rw [leadingWord, List.takeWhile_append_of_pos hword]
  cases rest with
  | nil => simp
  | cons c rest =>
    have hc : isWordChar c = false := hrest c rfl
    simp [hc]

theorem isWordChar_closingBrace : isWordChar '}' = false := by
  decide +kernel

theorem isWordChar_sigil (sigil : Sigil) : isWordChar sigil.char = false := by
  cases sigil <;> decide +kernel

theorem ofChar?_char (sigil : Sigil) : Sigil.ofChar? sigil.char = some sigil := by
  cases sigil <;> decide

theorem char_of_ofChar? {c : Char} {sigil : Sigil} (h : Sigil.ofChar? c = some sigil) :
    sigil.char = c := by
  unfold Sigil.ofChar? at h
  split at h
  · rename_i hc
    cases h
    exact hc.symm
  · split at h
    · rename_i hc
      cases h
      exact hc.symm
    · cases h

theorem ofChar?_of_isWordChar {c : Char} (h : isWordChar c = true) : Sigil.ofChar? c = none := by
  cases hsigil : Sigil.ofChar? c with
  | none => rfl
  | some sigil =>
    rw [← char_of_ofChar? hsigil, isWordChar_sigil] at h
    cases h

theorem char_ne_openingBrace (sigil : Sigil) : sigil.char ≠ '{' := by
  cases sigil <;> decide

theorem char_ne_closingBrace (sigil : Sigil) : sigil.char ≠ '}' := by
  cases sigil <;> decide

/-- No sigil and no brace can be the letter of a code. -/
theorem codeLetter?_sigil (sigil other : Sigil) (rest : List Char) :
    codeLetter? sigil (other.char :: rest) = none := by
  cases sigil <;> cases other <;> rfl

theorem codeLetter?_closingBrace (sigil : Sigil) (rest : List Char) :
    codeLetter? sigil ('}' :: rest) = none := by
  cases sigil <;> rfl

theorem codeLetter?_of_mem {sigil : Sigil} {letter : Char} (h : letter ∈ sigil.letters)
    (rest : List Char) : codeLetter? sigil (letter :: rest) = some letter := by
  simp [codeLetter?, h]

/-! ## Braces -/

/-- A name in braces is followed by a closing brace or by a code. -/
theorem braced?_word (hword : ∀ c ∈ word, isWordChar c = true) {c : Char}
    (hc : isWordChar c = false) :
    braced? (word ++ c :: rest) =
      if c = '}' then
        (nameOf? word).map fun name => (.reference name, word.length + 1)
      else
        (Sigil.ofChar? c).bind fun sigil =>
          let letter := codeLetter? sigil rest
          let size := letter.toList.length
          if (rest.drop size).head? = some '}' then
            some (.typed (nameOf? word) ⟨sigil, letter⟩, word.length + 1 + size + 1)
          else
            none := by
  have hends : EndsWord (c :: rest) := by
    rintro d ⟨⟩
    exact hc
  rw [braced?]
  simp only [leadingWord_append hword hends, List.drop_left]

theorem braced?_word_nil (hword : ∀ c ∈ word, isWordChar c = true) : braced? word = none := by
  have hends : EndsWord [] := nofun
  have hleading := leadingWord_append hword hends
  rw [List.append_nil] at hleading
  rw [braced?]
  simp only [hleading, List.drop_length]

theorem braced?_reference (hword : ∀ c ∈ word, isWordChar c = true) (hne : word ≠ []) :
    braced? (word ++ '}' :: rest) =
      some (.reference (Index.ofString (String.ofList word)), word.length + 1) := by
  rw [braced?_word hword isWordChar_closingBrace, if_pos rfl, nameOf?,
    if_neg (by simpa using hne)]
  rfl

theorem braced?_typed (hword : ∀ c ∈ word, isWordChar c = true) (sigil : Sigil)
    {letter : Option Char} (hletter : ∀ c ∈ letter, c ∈ sigil.letters) :
    braced? (word ++ sigil.char :: (letter.toList ++ '}' :: rest)) =
      some (.typed (nameOf? word) ⟨sigil, letter⟩,
        word.length + 1 + letter.toList.length + 1) := by
  have hcode : codeLetter? sigil (letter.toList ++ '}' :: rest) = letter := by
    cases letter with
    | none => exact codeLetter?_closingBrace sigil rest
    | some c => exact codeLetter?_of_mem (hletter c rfl) _
  rw [braced?_word hword (isWordChar_sigil sigil), if_neg (char_ne_closingBrace sigil),
    ofChar?_char]
  simp [hcode]

/-- A doubled sigil in braces makes no marker. -/
theorem braced?_doubled (hword : ∀ c ∈ word, isWordChar c = true) (sigil : Sigil) :
    braced? (word ++ sigil.char :: sigil.char :: rest) = none := by
  rw [braced?_word hword (isWordChar_sigil sigil), if_neg (char_ne_closingBrace sigil),
    ofChar?_char]
  simp [codeLetter?_sigil, char_ne_closingBrace]

end Names

/-! ## Brackets -/

/-- Neither bracket is here. -/
def NoBracket (brackets : Brackets) (cs : List Char) : Prop :=
  brackets.opening.toList.isPrefixOf cs = false ∧ brackets.closing.toList.isPrefixOf cs = false

/-- The sigil by itself is no bracket. -/
structure FreeSigil (brackets : Brackets) (sigil : Sigil) : Prop where
  opening : brackets.opening.toList ≠ [sigil.char]
  closing : brackets.closing.toList ≠ [sigil.char]

section Bracket

variable {brackets : Brackets} {bracket : String} {c : Char}

theorem ne_nil_of_isBracket (h : isBracket bracket = true) : bracket.toList ≠ [] := by
  rw [isBracket, Bool.and_eq_true] at h
  simpa using h.1

theorem notMem_of_isReserved (hc : isReserved c = true)
    (h : isBracket bracket = true) : c ∉ bracket.toList := by
  intro hmem
  simp only [isBracket, Bool.and_eq_true, Bool.not_eq_true', List.any_eq_false] at h
  exact h.2 c hmem hc

theorem isPrefixOf_of_notMem (h : isBracket bracket = true) (hc : c ∉ bracket.toList)
    (rest : List Char) : bracket.toList.isPrefixOf (c :: rest) = false := by
  cases htext : bracket.toList with
  | nil => exact absurd htext (ne_nil_of_isBracket h)
  | cons d tail =>
    rw [htext, List.mem_cons, not_or] at hc
    simp [List.isPrefixOf, Ne.symm hc.1]

theorem noBracket_of_notMem (hopening : c ∉ brackets.opening.toList)
    (hclosing : c ∉ brackets.closing.toList) (rest : List Char) : NoBracket brackets (c :: rest) :=
  ⟨isPrefixOf_of_notMem brackets.opening_isBracket hopening rest,
    isPrefixOf_of_notMem brackets.closing_isBracket hclosing rest⟩

theorem noBracket_of_isReserved (hc : isReserved c = true) (rest : List Char) :
    NoBracket brackets (c :: rest) :=
  noBracket_of_notMem (notMem_of_isReserved hc brackets.opening_isBracket)
    (notMem_of_isReserved hc brackets.closing_isBracket) rest

/-- A bracket has no word characters, so only its first character can be in front of a word. -/
theorem isPrefixOf_word (hbracket : isBracket bracket = true)
    (hne : bracket.toList ≠ [c]) {cs : List Char} (hcs : ∀ d ∈ cs, isWordChar d = true) :
    bracket.toList.isPrefixOf (c :: cs) = false := by
  rw [← Bool.not_eq_true, List.isPrefixOf_iff_prefix]
  intro hprefix
  cases htext : bracket.toList with
  | nil => exact ne_nil_of_isBracket hbracket htext
  | cons d rest =>
    rw [htext] at hprefix hne
    obtain ⟨rfl, hrest⟩ := List.cons_prefix_cons.mp hprefix
    cases rest with
    | nil => exact hne rfl
    | cons e rest =>
      have hreserved : isReserved e = true := by
        simp [isReserved, hcs e (hrest.subset List.mem_cons_self)]
      have hmem : e ∈ bracket.toList := by simp [htext]
      exact notMem_of_isReserved hreserved hbracket hmem

theorem FreeSigil.noBracket {sigil : Sigil} (h : FreeSigil brackets sigil) {cs : List Char}
    (hcs : ∀ c ∈ cs, isWordChar c = true) : NoBracket brackets (sigil.char :: cs) :=
  ⟨isPrefixOf_word brackets.opening_isBracket h.opening hcs,
    isPrefixOf_word brackets.closing_isBracket h.closing hcs⟩

end Bracket

/-! ## One step -/

section Step

variable {brackets : Brackets} {last : Option Char} {pending rest : List Char} {c : Char}

theorem scanFrom_opening (h : brackets.opening.toList.isPrefixOf (c :: rest) = true) :
    scanFrom brackets last pending (c :: rest) =
      let ahead := brackets.opening.toList.length - 1
      afterText pending
        (.opening :: scanFrom brackets (lastOf c rest ahead) [] (rest.drop ahead)) := by
  rw [scanFrom, lexeme, if_pos h]

theorem scanFrom_closing (hopening : brackets.opening.toList.isPrefixOf (c :: rest) = false)
    (h : brackets.closing.toList.isPrefixOf (c :: rest) = true) :
    scanFrom brackets last pending (c :: rest) =
      let ahead := brackets.closing.toList.length - 1
      afterText pending
        (.closing :: scanFrom brackets (lastOf c rest ahead) [] (rest.drop ahead)) := by
  have hnot : ¬ brackets.opening.toList.isPrefixOf (c :: rest) = true := by simp [hopening]
  rw [scanFrom, lexeme, if_neg hnot, if_pos h]

theorem lexeme_braced (h : NoBracket brackets ('{' :: rest)) {marker : Marker} {ahead : Nat}
    (hbraced : braced? rest = some (marker, ahead)) :
    lexeme brackets last pending '{' rest = .marker marker 0 ahead := by
  simp [lexeme, h.1, h.2, hbraced]

theorem lexeme_doubled {sigil : Sigil}
    (h : NoBracket brackets (sigil.char :: sigil.char :: rest)) :
    lexeme brackets last pending sigil.char (sigil.char :: rest) = .doubled := by
  simp [lexeme, h.1, h.2, char_ne_openingBrace, ofChar?_char, sigilLexeme]

theorem lexeme_plain (h : NoBracket brackets (c :: rest))
    (hbrace : c = '{' → braced? rest = none) (hsigil : Sigil.ofChar? c = none) :
    lexeme brackets last pending c rest = .plain := by
  by_cases hc : c = '{'
  · have hnone := hbrace hc
    subst hc
    simp [lexeme, h.1, h.2, hnone]
  · simp [lexeme, h.1, h.2, hc, hsigil]

theorem scanFrom_braced (h : NoBracket brackets ('{' :: rest)) {marker : Marker} {ahead : Nat}
    (hbraced : braced? rest = some (marker, ahead)) :
    scanFrom brackets last pending ('{' :: rest) =
      afterText pending
        (.marker marker :: scanFrom brackets (lastOf '{' rest ahead) [] (rest.drop ahead)) := by
  simp only [scanFrom, lexeme_braced h hbraced, List.drop_zero]

theorem scanFrom_doubled {sigil : Sigil}
    (h : NoBracket brackets (sigil.char :: sigil.char :: rest)) :
    scanFrom brackets last pending (sigil.char :: sigil.char :: rest) =
      afterText (sigil.char :: pending) (scanFrom brackets (some sigil.char) [] rest) := by
  simp only [scanFrom, lexeme_doubled h, List.drop_succ_cons, List.drop_zero]

/-- A sigil that nothing beside it makes literal goes on with the word in front of it. -/
theorem scanFrom_sigil {sigil : Sigil} (h : NoBracket brackets (sigil.char :: rest))
    (hlast : last ≠ some sigil.char ∧ last ≠ some '}')
    (hnext : rest.head? ≠ some sigil.char ∧ rest.head? ≠ some '{') :
    scanFrom brackets last pending (sigil.char :: rest) =
      let word := leadingWord pending
      let found := unbraced word.reverse sigil rest
      afterText (pending.drop word.length)
        (.marker found.1 ::
          scanFrom brackets (lastOf sigil.char rest found.2) [] (rest.drop found.2)) := by
  have hlexeme : lexeme brackets last pending sigil.char rest =
      let word := leadingWord pending
      let found := unbraced word.reverse sigil rest
      .marker found.1 word.length found.2 := by
    simp [lexeme, h.1, h.2, char_ne_openingBrace, ofChar?_char, sigilLexeme, hlast, hnext]
  simp only [scanFrom, hlexeme]

/-- A character that begins neither a marker nor a doubled sigil is literal. -/
theorem scanFrom_plain (h : NoBracket brackets (c :: rest))
    (hbrace : c = '{' → braced? rest = none) (hsigil : Sigil.ofChar? c = none) :
    scanFrom brackets last pending (c :: rest) =
      scanFrom brackets (some c) (c :: pending) rest := by
  simp only [scanFrom, lexeme_plain h hbrace hsigil]

end Step

/-! ## Brackets by themselves -/

theorem scan_opening (brackets : Brackets) : scan brackets brackets.opening = [.opening] := by
  obtain ⟨c, rest, htext⟩ :=
    List.exists_cons_of_ne_nil (ne_nil_of_isBracket brackets.opening_isBracket)
  have hprefix : brackets.opening.toList.isPrefixOf (c :: rest) = true :=
    List.isPrefixOf_iff_prefix.mpr (htext ▸ List.prefix_rfl)
  rw [scan, htext, scanFrom_opening hprefix, htext]
  simp [scanFrom, afterText]

/-- The closing bracket is found unless it begins with the opening bracket, which comes first. -/
theorem scan_closing {brackets : Brackets}
    (h : ¬ brackets.opening.toList <+: brackets.closing.toList) :
    scan brackets brackets.closing = [.closing] := by
  obtain ⟨c, rest, htext⟩ :=
    List.exists_cons_of_ne_nil (ne_nil_of_isBracket brackets.closing_isBracket)
  have hopening : brackets.opening.toList.isPrefixOf (c :: rest) = false := by
    rwa [← htext, ← Bool.not_eq_true, List.isPrefixOf_iff_prefix]
  have hprefix : brackets.closing.toList.isPrefixOf (c :: rest) = true :=
    List.isPrefixOf_iff_prefix.mpr (htext ▸ List.prefix_rfl)
  rw [scan, htext, scanFrom_closing hopening hprefix, htext]
  simp [scanFrom, afterText]

/-! ## Joining texts -/

/-- Pieces with a text in front of them, which joins the text that follows it. -/
def consText (content : String) : List Piece → List Piece
  | .text next :: rest => .text (content ++ next) :: rest
  | pieces => .text content :: pieces

/-- Pieces with neighbouring texts joined. -/
def merged : List Piece → List Piece
  | [] => []
  | .text content :: rest => consText content (merged rest)
  | .marker marker :: rest => .marker marker :: merged rest
  | .opening :: rest => .opening :: merged rest
  | .closing :: rest => .closing :: merged rest

/-- Pieces with some characters in front of them; no characters are no text. -/
def withText (cs : List Char) (pieces : List Piece) : List Piece :=
  if cs = [] then pieces else consText (String.ofList cs) pieces

theorem withText_append (first second : List Char) (pieces : List Piece) :
    withText (first ++ second) pieces = withText first (withText second pieces) := by
  by_cases hfirst : first = []
  · rw [hfirst]
    rfl
  by_cases hsecond : second = []
  · rw [hsecond, List.append_nil]
    rfl
  have happend : first ++ second ≠ [] := by simp [hfirst]
  rw [withText, withText, withText, if_neg happend, if_neg hfirst, if_neg hsecond,
    String.ofList_append]
  rcases pieces with _ | ⟨_ | _ | _ | _, _⟩ <;> simp [consText, String.append_assoc]

/-- Pending text joins the text that follows it. -/
theorem merged_afterText (pending : List Char) (pieces : List Piece) :
    merged (afterText pending pieces) = withText pending.reverse (merged pieces) := by
  cases pending with
  | nil => rfl
  | cons c pending =>
    have hne : (c :: pending).reverse ≠ [] := by simp
    rw [withText, if_neg hne]
    rfl

end SqlTemplate.Template
