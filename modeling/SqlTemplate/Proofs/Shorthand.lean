import SqlTemplate.Proofs.Joining
import SqlTemplate.Proofs.Separator

/-!
# Markers without braces

A marker without braces is short for one in braces: between blanks, either of them can be written
for the other, and the template is read the same.

* `unbraced_code`, `unbraced_numbered` and `unbraced_reference` are what is read behind a sigil,
  and `scan_of_spells` says that a marker by itself is scanned as nothing but that marker, in
  whichever way it is spelled.
* `declarations_withSource` and `Query.new_of_merged_eq`: of the template itself an error quotes
  the text and nothing else, so templates with the same pieces are read alike.
* `Abbreviates` lists the markers without braces with what they are short for, and
  `Query.readAlike_of_abbreviates` puts the above together.
-/

namespace SqlTemplate

namespace Template

open Text

/-! ## Markers by themselves -/

section Spelling

variable {cs digits : List Char} {sigil : Sigil} {marker : Marker}

theorem not_isAsciiDigit_of_mem_letters {c : Char} (h : c ∈ sigil.letters) :
    isAsciiDigit c = false := by
  have hletters : sigil.letters.all (!isAsciiDigit ·) = true := by
    cases sigil <;> decide
  simpa using List.all_eq_true.mp hletters c h

theorem codeLetter?_toList {letter : Option Char} (h : ∀ c ∈ letter, c ∈ sigil.letters) :
    codeLetter? sigil letter.toList = letter := by
  cases letter with
  | none => rfl
  | some c => exact codeLetter?_of_mem (h c rfl) []

/-- A code is read behind any word, and it takes up its letter. -/
theorem unbraced_code (word : List Char) {letter : Option Char}
    (h : ∀ c ∈ letter, c ∈ sigil.letters) :
    unbraced word sigil letter.toList =
      (.typed (nameOf? word) ⟨sigil, letter⟩, letter.toList.length) := by
  have hdigits : letter.toList.takeWhile isAsciiDigit = [] := by
    cases letter with
    | none => rfl
    | some c => simp [not_isAsciiDigit_of_mem_letters (h c rfl)]
  simp [unbraced, hdigits, codeLetter?_toList h]

theorem unbraced_numbered {letter : Char} (hne : digits ≠ [])
    (hdigits : ∀ c ∈ digits, isAsciiDigit c = true) (hletter : letter ∈ sigil.letters) :
    unbraced [] sigil (digits ++ [letter]) =
      (.typed (some (Index.ofString (String.ofList digits))) ⟨sigil, some letter⟩,
        digits.length + 1) := by
  have htake : (digits ++ [letter]).takeWhile isAsciiDigit = digits := by
    rw [List.takeWhile_append_of_pos hdigits]
    simp [not_isAsciiDigit_of_mem_letters hletter]
  simp [unbraced, htake, hne, codeLetter?_of_mem hletter]

theorem unbraced_reference (hne : digits ≠ []) (hdigits : ∀ c ∈ digits, isAsciiDigit c = true) :
    unbraced [] sigil digits =
      (.reference (Index.ofString (String.ofList digits)), digits.length) := by
  have htake : digits.takeWhile isAsciiDigit = digits := List.takeWhile_eq_self_iff.mpr hdigits
  simp [unbraced, htake, hne, codeLetter?]

variable {brackets : Brackets}

/-- A sigil with its word in front and what it takes up behind is a marker. -/
theorem scanFrom_unbraced (h : FreeSigil brackets sigil) {word : List Char}
    (hword : ∀ c ∈ word, isWordChar c = true) (hcs : ∀ c ∈ cs, isWordChar c = true)
    (hread : unbraced word sigil cs = (marker, cs.length)) :
    scanFrom brackets none [] (word ++ sigil.char :: cs) = [.marker marker] := by
  have hinert : ∀ c ∈ word, IsInert brackets c := fun c hc => isInert_of_isWordChar (hword c hc)
  have hlast : ∀ c, isWordChar c = false → word.getLast?.or none ≠ some c := by
    intro c hc hsame
    rw [Option.or_none] at hsame
    rw [hword c (List.mem_of_getLast? hsame)] at hc
    cases hc
  have hnext : ∀ c, isWordChar c = false → cs.head? ≠ some c := by
    intro c hc hsame
    rw [hcs c (List.mem_of_mem_head? hsame)] at hc
    cases hc
  have hbraces : isWordChar '{' = false ∧ isWordChar '}' = false := by decide +kernel
  have hback : leadingWord word.reverse = word.reverse := by
    rw [leadingWord, List.takeWhile_eq_self_iff]
    simpa using hword
  rw [scanFrom_inert hinert, List.append_nil,
    scanFrom_sigil (h.noBracket hcs)
    ⟨hlast _ (isWordChar_sigil sigil), hlast _ hbraces.2⟩
    ⟨hnext _ (isWordChar_sigil sigil), hnext _ hbraces.1⟩]
  simp only [hback, List.reverse_reverse, hread, List.drop_length, scanFrom]
  rfl

theorem scanFrom_braces (h : braced? cs = some (marker, cs.length)) :
    scanFrom brackets none [] ('{' :: cs) = [.marker marker] := by
  have hnone : NoBracket brackets ('{' :: cs) := noBracket_of_isReserved (by decide +kernel) cs
  rw [scanFrom_braced hnone h, List.drop_length, scanFrom]
  rfl

/-- A marker by itself is scanned as nothing else, whichever way it is spelled. -/
theorem scan_of_spells (hfree : ∀ sigil, FreeSigil brackets sigil) (h : Spells cs marker) :
    scan brackets (String.ofList cs) = [.marker marker] := by
  have hdigit : ∀ {digits : List Char}, (∀ c ∈ digits, isAsciiDigit c = true) →
      ∀ c ∈ digits, isWordChar c = true :=
    fun hdigits c hc => isWordChar_of_isAsciiDigit (hdigits c hc)
  rw [scan, String.toList_ofList]
  cases h with
  | shorthand sigil hword hletter =>
    refine scanFrom_unbraced (hfree sigil) hword ?_ (unbraced_code _ hletter)
    intro c hc
    exact isWordChar_of_mem_letters (hletter c (Option.mem_toList.mp hc))
  | numbered sigil hne hdigits hletter =>
    refine scanFrom_unbraced (hfree sigil) (List.forall_mem_nil _) ?_ ?_
    · simpa [or_imp, forall_and] using
        And.intro (hdigit hdigits) (isWordChar_of_mem_letters hletter)
    · rw [unbraced_numbered hne hdigits hletter, List.length_append, List.length_singleton]
  | numberedReference sigil hne hdigits =>
    exact scanFrom_unbraced (hfree sigil) (List.forall_mem_nil _) (hdigit hdigits)
      (unbraced_reference hne hdigits)
  | reference hne hword =>
    refine scanFrom_braces ?_
    rw [braced?_reference hword hne, List.length_append, List.length_singleton]
  | braced sigil hword hletter =>
    refine scanFrom_braces ?_
    rw [braced?_typed hword sigil hletter]
    simp only [List.length_append, List.length_cons, List.length_nil]
    congr 2
    omega

end Spelling

/-! ## Errors and the text that they quote -/

end Template

/-- The error about another template. -/
def DeclarationError.withSource (source : String) : DeclarationError → DeclarationError
  | .unknownCode code index => .unknownCode code index
  | .typeChanged _ index declared found => .typeChanged source index declared found
  | .unresolvedReference index => .unresolvedReference index

namespace Template

theorem declaredTypes_withSource (source other : String) (types : List (Index × SlotType))
    (occurring : List (Marker × Index)) :
    declaredTypes other types occurring =
      (declaredTypes source types occurring).mapError (·.withSource other) := by
  fun_induction declaredTypes source types occurring with
  | case1 types => rfl
  | case2 types name own rest ih => rw [declaredTypes, ih]
  | case3 types name code own rest hcode =>
    rw [declaredTypes, hcode]
    rfl
  | case4 types name code own rest found hcode hget ih =>
    rw [declaredTypes, hcode, hget]
    exact ih
  | case5 types name code own rest found hcode hget ih =>
    rw [declaredTypes, hcode, hget]
    simpa using ih
  | case6 types name code own rest found hcode declared hget hne =>
    rw [declaredTypes, hcode, hget]
    simp [hne, Except.mapError, DeclarationError.withSource]

/-- Markers declare the same in every template, but for the text that an error quotes. -/
theorem declarations_withSource (source other : String) (markers : List Marker) :
    declarations other markers =
      (declarations source markers).mapError (·.withSource other) := by
  rw [declarations_eq, declarations_eq, declaredTypes_withSource source other]
  cases declaredTypes source [] (occurrences markers) with
  | error error => rfl
  | ok types =>
    show (indices markers).eraseDups.mapM (declarationOf types) =
      ((indices markers).eraseDups.mapM (declarationOf types)).mapError _
    cases hall : (indices markers).eraseDups.mapM (declarationOf types) with
    | ok declared => rfl
    | error error =>
      obtain ⟨front, index, rest, hsplit, _, herror⟩ := exists_of_mapM_eq_error hall
      obtain ⟨_, rfl⟩ := declarationOf_eq_error_iff.mp herror
      rfl

end Template

/-! ## Templates with the same pieces -/

section SamePieces

open Template

variable {first second : String}

theorem Statement.parse_of_merged_eq {brackets : Brackets}
    (h : merged (scan brackets first) = merged (scan brackets second)) :
    parse brackets second = (parse brackets first).mapError (·.withSource second) := by
  have hmarkers : markers (scan brackets second) = markers (scan brackets first) := by
    rw [← markers_merged, ← h, markers_merged]
  have hsegments : Template.segments brackets (indexed brackets second) =
      Template.segments brackets (indexed brackets first) :=
    segments_withIndices_congr h.symm
  rw [indexed, indexed, hmarkers] at hsegments
  unfold parse
  simp only [hmarkers, hsegments, declarations_withSource first second]
  split
  · rfl
  · cases declarations first (markers (scan brackets first)) <;> rfl

namespace Query

variable {config : Config}

theorem new_of_merged_eq
    (h : merged (scan config.brackets first) = merged (scan config.brackets second)) :
    new config second =
      ((new config first).map fun query => { query with source := second }).mapError
        (·.withSource second) := by
  unfold new
  rw [Statement.parse_of_merged_eq h]
  cases Statement.parse config.brackets first <;> rfl

/-- Two templates declare the same placeholders and have one canonical form, or the same is wrong
with both. -/
inductive ReadAlike : Except DeclarationError Query → Except DeclarationError Query → Prop where
  | ok {first second : Query} (canonical : first.canonical = second.canonical)
      (placeholders : first.placeholders = second.placeholders) : ReadAlike (.ok first) (.ok second)
  | error {first second : DeclarationError}
      (same : ∀ source, first.withSource source = second.withSource source) :
      ReadAlike (.error first) (.error second)

theorem readAlike_of_merged_eq
    (h : merged (scan config.brackets first) = merged (scan config.brackets second))
    (hmarkers : markers (scan config.brackets first) ≠ []) :
    ReadAlike (new config first) (new config second) := by
  rw [new_of_merged_eq h]
  cases hnew : new config first with
  | error error =>
    refine .error fun source => ?_
    cases error <;> rfl
  | ok query =>
    obtain ⟨_, statement, hstatement, _⟩ := new_eq_some hnew hmarkers
    refine .ok ?_ rfl
    simp only [canonical, hstatement]

end Query

end SamePieces

/-! ## Abbreviations -/

namespace Template

open Text

/-- The first characters are short for the second ones, which have braces. -/
inductive Abbreviates : List Char → List Char → Prop where
  /-- A code behind a word, which may be empty. -/
  | code {word : List Char} (sigil : Sigil) {letter : Option Char}
      (hword : ∀ c ∈ word, isWordChar c = true) (hletter : ∀ c ∈ letter, c ∈ sigil.letters) :
      Abbreviates (word ++ sigil.char :: letter.toList)
        ('{' :: (word ++ sigil.char :: (letter.toList ++ ['}'])))
  /-- A code with a number between the sigil and the letter. -/
  | numbered {digits : List Char} (sigil : Sigil) {letter : Char} (hne : digits ≠ [])
      (hdigits : ∀ c ∈ digits, isAsciiDigit c = true) (hletter : letter ∈ sigil.letters) :
      Abbreviates (sigil.char :: (digits ++ [letter]))
        ('{' :: (digits ++ [sigil.char, letter, '}']))
  /-- A number behind a sigil. -/
  | reference {digits : List Char} (sigil : Sigil) (hne : digits ≠ [])
      (hdigits : ∀ c ∈ digits, isAsciiDigit c = true) :
      Abbreviates (sigil.char :: digits) ('{' :: (digits ++ ['}']))

theorem Abbreviates.exists_spells {short long : List Char} (h : Abbreviates short long) :
    ∃ marker, Spells short marker ∧ Spells long marker := by
  cases h with
  | code sigil hword hletter =>
    exact ⟨_, .shorthand sigil hword hletter, .braced sigil hword hletter⟩
  | @numbered _ sigil letter hne hdigits hletter =>
    refine ⟨_, .numbered sigil hne hdigits hletter, ?_⟩
    have hsome : ∀ c ∈ some letter, c ∈ sigil.letters := by simpa using hletter
    have hbraced :=
      Spells.braced sigil (fun c hc => isWordChar_of_isAsciiDigit (hdigits c hc)) hsome
    rwa [nameOf?, if_neg (by simpa using hne)] at hbraced
  | reference sigil hne hdigits =>
    exact ⟨_, .numberedReference sigil hne hdigits,
      .reference hne fun c hc => isWordChar_of_isAsciiDigit (hdigits c hc)⟩

theorem freeSigil_square (sigil : Sigil) : FreeSigil .square sigil := by
  cases sigil <;> exact ⟨by decide, by decide⟩

theorem separates_square {c : Char} (h : isWhiteSpace c = true) : Separates .square c := by
  have hbrackets : isWhiteSpace '[' = false ∧ isWhiteSpace ']' = false := by decide +kernel
  have hopening : c ≠ '[' := by
    rintro rfl
    exact Bool.noConfusion (hbrackets.1.symm.trans h)
  have hclosing : c ≠ ']' := by
    rintro rfl
    exact Bool.noConfusion (hbrackets.2.symm.trans h)
  exact separates_of_isWhiteSpace h (List.mem_singleton.not.mpr hopening)
    (List.mem_singleton.not.mpr hclosing)

end Template

namespace Query

open Template Text

/-- Between blanks, or at an end of the template, a marker without braces can be written for the
one that it is short for, and the other way round. -/
theorem readAlike_of_abbreviates {config : Config} (hsquare : config.brackets = .square)
    {short long : List Char} (h : Abbreviates short long) {front back : String}
    (hfront : ∀ c ∈ front.toList.getLast?, isWhiteSpace c = true)
    (hback : ∀ c ∈ back.toList.head?, isWhiteSpace c = true) :
    ReadAlike (new config (front ++ String.ofList short ++ back))
      (new config (front ++ String.ofList long ++ back)) := by
  obtain ⟨marker, hshort, hlong⟩ := h.exists_spells
  obtain ⟨before, behind, hbetween⟩ := exists_merged_scan_between
    (fun c hc => separates_square (hfront c hc)) (fun c hc => separates_square (hback c hc))
  have hspelled := fun {cs} (hcs : Spells cs marker) => scan_of_spells freeSigil_square hcs
  apply readAlike_of_merged_eq
  · rw [hsquare, hbetween, hbetween, hspelled hshort, hspelled hlong]
  · rw [hsquare, ← markers_merged, hbetween, markers_merged, hspelled hshort]
    simp [markers]

/-- A number between a sigil and a letter, inside a block, in front of a marker for the same
slot. -/
theorem readAlike_of_abbreviates_numbered :
    let config := Config.new Text.escapeStandard
    let front := "a = :i [or b = "
    let back := "\t] and c = \x7b7\x7d"
    ReadAlike (new config (front ++ "?7n" ++ back)) (new config (front ++ "\x7b7?n\x7d" ++ back)) ∧
      ∃ query, new config (front ++ "?7n" ++ back) = .ok query ∧ query.placeholders =
        [.new (.ordinal 0) (.scalar .integer false false) false,
          .new (.ordinal 7) (.scalar .natural false true) false] := by
  intro config front back
  have habbreviates : Abbreviates ['?', '7', 'n'] ['{', '7', '?', 'n', '}'] :=
    .numbered .question (List.cons_ne_nil '7' []) (List.forall_mem_singleton.mpr (by decide))
      (by decide)
  have hfront : front.toList.getLast?.all isWhiteSpace = true := by decide +kernel
  have hback : back.toList.head?.all isWhiteSpace = true := by decide +kernel
  rw [Option.all_eq_true] at hfront hback
  exact ⟨readAlike_of_abbreviates rfl habbreviates hfront hback,
    exists_new_of_any (by decide +kernel)⟩

end Query

end SqlTemplate
