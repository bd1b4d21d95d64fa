import SqlTemplate.Proofs.Spans

/-!
# Separators

A character that cannot belong to a name, a code, a brace, a sigil or a bracket keeps what is
in front of it apart from what is behind.

* `Separates` says that a character is one.
* `lexeme_append`: what is read in front of a separator does not depend on what follows, and
  it takes up nothing of that (`ahead_le`).
* `lexeme_behind`: what is read behind a separator does not depend on what is in front.
* `merged_scan_append`: so the pieces of two texts with a separator between are those of the
  first text, the separator, and those of the second one.  `merged_scan_intercalate` is this for
  any number of texts, `exists_merged_scan_between` and `merged_scan_block` for a text with
  separators on both sides, without brackets and with them.
* `IsInert` says that a character is literal wherever it stands, and `scanFrom_inert` that a run
  of such characters joins the pending text.
-/

namespace SqlTemplate.Template

open Text

/-- The character is part of nothing but literal text. -/
structure Separates (brackets : Brackets) (c : Char) : Prop where
  word : isWordChar c = false
  openingBrace : c ≠ '{'
  closingBrace : c ≠ '}'
  sigil : Sigil.ofChar? c = none
  opening : c ∉ brackets.opening.toList
  closing : c ∉ brackets.closing.toList

/-- A blank that no bracket has in it separates. -/
theorem separates_of_isWhiteSpace {brackets : Brackets} {c : Char} (hc : isWhiteSpace c = true)
    (hopening : c ∉ brackets.opening.toList) (hclosing : c ∉ brackets.closing.toList) :
    Separates brackets c := by
  have hblanks : ∀ range ∈ Unicode.whiteSpace, ∀ k ≤ range.2 - range.1,
      let blank := Char.ofNat (range.1 + k)
      isWordChar blank = false ∧ blank ≠ '{' ∧ blank ≠ '}' ∧ Sigil.ofChar? blank = none := by
    decide +kernel
  obtain ⟨range, hrange, hfirst, hlast⟩ := Unicode.Ranges.exists_of_holds hc
  have hblank := hblanks range hrange (c.toNat - range.1) (by omega)
  rw [Nat.add_sub_cancel' hfirst, Char.ofNat_toNat] at hblank
  obtain ⟨hword, hopeningBrace, hclosingBrace, hsigil⟩ := hblank
  exact ⟨hword, hopeningBrace, hclosingBrace, hsigil, hopening, hclosing⟩

theorem separates_space : Separates .square ' ' :=
  separates_of_isWhiteSpace (by decide +kernel) (by decide) (by decide)

/-! ## Word characters -/

theorem isWordChar_of_isAsciiDigit {c : Char} (h : isAsciiDigit c = true) :
    isWordChar c = true := by
  have hdigits : ∀ n < 10, Unicode.decimalNumber.holds (48 + n) = true := by decide +kernel
  obtain ⟨hlow, hhigh⟩ := toNat_of_isAsciiDigit h
  have hc := hdigits (c.toNat - 48) (by omega)
  rw [show 48 + (c.toNat - 48) = c.toNat by omega] at hc
  simp [isWordChar, isAlphanumeric, hc]

theorem isWordChar_of_mem_letters {sigil : Sigil} {c : Char} (h : c ∈ sigil.letters) :
    isWordChar c = true := by
  have hletters : sigil.letters.all isWordChar = true := by
    cases sigil <;> decide +kernel
  exact List.all_eq_true.mp hletters c h

section Separator

variable {brackets : Brackets} {c : Char}

namespace Separates

theorem ne_char (h : Separates brackets c) (sigil : Sigil) : c ≠ sigil.char := by
  intro hsame
  have hsigil := h.sigil
  rw [hsame, ofChar?_char] at hsigil
  cases hsigil

theorem digit (h : Separates brackets c) : isAsciiDigit c = false := by
  by_contra hdigit
  have hword := isWordChar_of_isAsciiDigit (by simpa using hdigit)
  rw [h.word] at hword
  cases hword

theorem not_mem_letters (h : Separates brackets c) (sigil : Sigil) : c ∉ sigil.letters := by
  intro hmem
  have hword := isWordChar_of_mem_letters hmem
  rw [h.word] at hword
  cases hword

end Separates

/-! ## In front of a separator -/

theorem takeWhile_append_cons {p : Char → Bool} (hc : p c = false) (front back : List Char) :
    (front ++ c :: back).takeWhile p = front.takeWhile p := by
  induction front with
  | nil => simp [hc]
  | cons d front ih =>
    rw [List.cons_append, List.takeWhile_cons, List.takeWhile_cons, ih]

theorem head?_append_cons {d : Char} (hne : c ≠ d) (front back : List Char) :
    (front ++ c :: back).head? = some d ↔ front.head? = some d := by
  cases front with
  | nil => simp [hne]
  | cons e front => rfl

theorem isPrefixOf_append_cons {bracket : List Char} (hc : c ∉ bracket) (front back : List Char) :
    bracket.isPrefixOf (front ++ c :: back) = bracket.isPrefixOf front := by
  induction bracket generalizing front with
  | nil => rfl
  | cons d bracket ih =>
    rw [List.mem_cons, not_or] at hc
    cases front with
    | nil => simp [List.isPrefixOf, Ne.symm hc.1]
    | cons e front =>
      rw [List.cons_append, List.isPrefixOf_cons_cons, List.isPrefixOf_cons_cons, ih hc.2]

theorem codeLetter?_append (h : Separates brackets c) (sigil : Sigil) (front back : List Char) :
    codeLetter? sigil (front ++ c :: back) = codeLetter? sigil front := by
  cases front with
  | nil => simp [codeLetter?, h.not_mem_letters sigil]
  | cons d front => rfl

theorem length_codeLetter?_le (sigil : Sigil) (cs : List Char) :
    (codeLetter? sigil cs).toList.length ≤ cs.length := by
  obtain ⟨⟨rest, hrest⟩, _⟩ := codeLetter?_spec sigil cs
  have hlength := congrArg List.length hrest
  rw [List.length_append] at hlength
  omega

theorem braced?_append (h : Separates brackets c) (front back : List Char) :
    braced? (front ++ c :: back) = braced? front := by
  have hword : leadingWord (front ++ c :: back) = leadingWord front :=
    takeWhile_append_cons h.word front back
  have hle : (leadingWord front).length ≤ front.length := (List.takeWhile_prefix _).length_le
  unfold braced?
  simp only [hword, List.drop_append_of_le_length hle]
  cases front.drop (leadingWord front).length with
  | nil => simp [h.closingBrace, h.sigil]
  | cons d tail =>
    simp only [List.cons_append, codeLetter?_append h,
      List.drop_append_of_le_length (length_codeLetter?_le _ tail),
      head?_append_cons h.closingBrace]

theorem unbraced_append (h : Separates brackets c) (word : List Char) (sigil : Sigil)
    (front back : List Char) :
    unbraced word sigil (front ++ c :: back) = unbraced word sigil front := by
  have hdigits : (front ++ c :: back).takeWhile isAsciiDigit = front.takeWhile isAsciiDigit :=
    takeWhile_append_cons h.digit front back
  have hle : (front.takeWhile isAsciiDigit).length ≤ front.length :=
    (List.takeWhile_prefix _).length_le
  unfold unbraced
  simp only [hdigits, List.drop_append_of_le_length hle, codeLetter?_append h]

theorem sigilLexeme_append (h : Separates brackets c) (last : Option Char) (pending : List Char)
    (sigil : Sigil) (front back : List Char) :
    sigilLexeme last pending sigil (front ++ c :: back) = sigilLexeme last pending sigil front := by
  unfold sigilLexeme
  simp only [head?_append_cons (h.ne_char sigil), head?_append_cons h.openingBrace,
    unbraced_append h]

/-- What is read in front of a separator does not depend on what follows. -/
theorem lexeme_append (h : Separates brackets c) (last : Option Char) (pending : List Char)
    (d : Char) (front back : List Char) :
    lexeme brackets last pending d (front ++ c :: back) = lexeme brackets last pending d front := by
  unfold lexeme
  simp only [← List.cons_append, isPrefixOf_append_cons h.opening,
    isPrefixOf_append_cons h.closing, braced?_append h, sigilLexeme_append h]

/-! ## How far a reading reaches -/

/-- How many characters behind the first one belong to a reading. -/
def Lexeme.ahead : Lexeme → Nat
  | .plain => 0
  | .doubled => 1
  | .opening ahead | .closing ahead | .marker _ _ ahead => ahead

/-- How many characters of the pending text belong to a reading. -/
def Lexeme.back : Lexeme → Nat
  | .plain | .doubled | .opening _ | .closing _ => 0
  | .marker _ back _ => back

theorem ahead_braced?_le {cs : List Char} {marker : Marker} {ahead : Nat}
    (h : braced? cs = some (marker, ahead)) : ahead ≤ cs.length := by
  have hle : (leadingWord cs).length ≤ cs.length := (List.takeWhile_prefix _).length_le
  simp only [braced?] at h
  split at h
  · cases h
  · rename_i d tail hdrop
    have hlength := congrArg List.length hdrop
    rw [List.length_drop, List.length_cons] at hlength
    split at h
    · obtain ⟨name, _, hname⟩ := Option.map_eq_some_iff.mp h
      cases hname
      omega
    · obtain ⟨sigil, _, hcode⟩ := Option.bind_eq_some_iff.mp h
      split at hcode
      · rename_i hclosing
        cases hcode
        have hrest : (tail.drop (codeLetter? sigil tail).toList.length).length ≠ 0 := by
          intro hzero
          rw [List.eq_nil_of_length_eq_zero hzero] at hclosing
          cases hclosing
        rw [List.length_drop] at hrest
        omega
      · cases hcode

theorem ahead_unbraced_le (word : List Char) (sigil : Sigil) (cs : List Char) :
    (unbraced word sigil cs).2 ≤ cs.length := by
  have hle : (cs.takeWhile isAsciiDigit).length ≤ cs.length := (List.takeWhile_prefix _).length_le
  unfold unbraced
  simp only
  split
  · have hletter := length_codeLetter?_le sigil (cs.drop (cs.takeWhile isAsciiDigit).length)
    split
    · rename_i letter hcode
      rw [hcode, List.length_drop, Option.toList_some, List.length_singleton] at hletter
      show (cs.takeWhile isAsciiDigit).length + 1 ≤ cs.length
      omega
    · exact hle
  · exact length_codeLetter?_le sigil cs

/-- A reading takes up no more than there is. -/
theorem reach_lexeme (brackets : Brackets) (last : Option Char) (pending : List Char) (d : Char)
    (rest : List Char) :
    (lexeme brackets last pending d rest).ahead ≤ rest.length ∧
      (lexeme brackets last pending d rest).back ≤ pending.length := by
  have hbracket : ∀ bracket : List Char, bracket.isPrefixOf (d :: rest) = true →
      bracket.length - 1 ≤ rest.length := by
    intro bracket hprefix
    have hlength := (List.isPrefixOf_iff_prefix.mp hprefix).length_le
    rw [List.length_cons] at hlength
    omega
  have hword : (leadingWord pending).length ≤ pending.length :=
    (List.takeWhile_prefix _).length_le
  unfold lexeme
  split
  · rename_i hopening
    exact ⟨hbracket _ hopening, Nat.zero_le _⟩
  · split
    · rename_i hclosing
      exact ⟨hbracket _ hclosing, Nat.zero_le _⟩
    · split
      · split
        · rename_i hbraced
          exact ⟨ahead_braced?_le hbraced, Nat.zero_le _⟩
        · exact ⟨Nat.zero_le _, Nat.zero_le _⟩
      · split
        · unfold sigilLexeme
          split
          · rename_i hnext
            obtain ⟨tail, htail⟩ := List.head?_eq_some_iff.mp hnext
            rw [htail]
            exact ⟨Nat.succ_le_succ (Nat.zero_le _), Nat.zero_le _⟩
          · split
            · exact ⟨Nat.zero_le _, Nat.zero_le _⟩
            · exact ⟨ahead_unbraced_le _ _ _, hword⟩
        · exact ⟨Nat.zero_le _, Nat.zero_le _⟩

section Reach

variable {last : Option Char} {pending : List Char} {d : Char} {rest : List Char} {found : Lexeme}

theorem ahead_le (h : lexeme brackets last pending d rest = found) :
    found.ahead ≤ rest.length := by
  rw [← h]
  exact (reach_lexeme brackets last pending d rest).1

theorem back_le (h : lexeme brackets last pending d rest = found) :
    found.back ≤ pending.length := by
  rw [← h]
  exact (reach_lexeme brackets last pending d rest).2

end Reach

/-! ## Behind a separator -/

/-- What is read behind a separator does not depend on what is in front. -/
theorem lexeme_behind (h : Separates brackets c) {last other : Option Char}
    (hlast : ∀ d, d ≠ c → (last = some d ↔ other = some d)) (pending before : List Char) (d : Char)
    (rest : List Char) :
    lexeme brackets last (pending ++ c :: before) d rest =
      lexeme brackets other pending d rest := by
  have hword : leadingWord (pending ++ c :: before) = leadingWord pending :=
    takeWhile_append_cons h.word pending before
  have hsigil : ∀ sigil, sigilLexeme last (pending ++ c :: before) sigil rest =
      sigilLexeme other pending sigil rest := by
    intro sigil
    unfold sigilLexeme
    simp only [hword, hlast _ (h.ne_char sigil).symm, hlast _ h.closingBrace.symm]
  unfold lexeme
  simp only [hsigil]

theorem merged_afterText_append (pending before : List Char) (pieces : List Piece) :
    merged (afterText (pending ++ c :: before) pieces) =
      withText (before.reverse ++ [c]) (merged (afterText pending pieces)) := by
  rw [merged_afterText, merged_afterText, ← withText_append, List.reverse_append,
    List.reverse_cons]

/-- Text in front of a separator and the separator only join the text behind. -/
theorem merged_scanFrom_behind (h : Separates brackets c) {last other : Option Char}
    (hlast : ∀ d, d ≠ c → (last = some d ↔ other = some d)) (pending before cs : List Char) :
    merged (scanFrom brackets last (pending ++ c :: before) cs) =
      withText (before.reverse ++ [c]) (merged (scanFrom brackets other pending cs)) := by
  fun_induction scanFrom brackets other pending cs generalizing last with
  | case1 other pending =>
    rw [scanFrom]
    exact merged_afterText_append pending before []
  | case2 other pending d rest hlexeme ih =>
    rw [scanFrom, lexeme_behind h hlast, hlexeme]
    exact ih fun _ _ => Iff.rfl
  | case3 other pending d rest hlexeme ih =>
    rw [scanFrom, lexeme_behind h hlast, hlexeme]
    exact merged_afterText_append (d :: pending) before _
  | case4 other pending d rest ahead hlexeme ih =>
    rw [scanFrom, lexeme_behind h hlast, hlexeme]
    exact merged_afterText_append pending before _
  | case5 other pending d rest ahead hlexeme ih =>
    rw [scanFrom, lexeme_behind h hlast, hlexeme]
    exact merged_afterText_append pending before _
  | case6 other pending d rest marker back ahead hlexeme ih =>
    rw [scanFrom, lexeme_behind h hlast, hlexeme]
    have hback : back ≤ pending.length := back_le hlexeme
    simp only [List.drop_append_of_le_length hback]
    exact merged_afterText_append (pending.drop back) before _

/-! ## Around a separator -/

theorem lastOf_append {rest : List Char} {ahead : Nat} (h : ahead ≤ rest.length) (d : Char)
    (back : List Char) : lastOf d (rest ++ back) ahead = lastOf d rest ahead := by
  rw [lastOf, lastOf, List.take_append_of_le_length h]

theorem afterText_append (pending : List Char) (pieces others : List Piece) :
    afterText pending pieces ++ others = afterText pending (pieces ++ others) := by
  unfold afterText
  split <;> rfl

theorem scanFrom_separator (h : Separates brackets c) (last : Option Char)
    (pending back : List Char) :
    scanFrom brackets last pending (c :: back) =
      scanFrom brackets (some c) (c :: pending) back :=
  scanFrom_plain (noBracket_of_notMem h.opening h.closing back)
    (fun hbrace => absurd hbrace h.openingBrace) h.sigil

theorem merged_scanFrom_append (h : Separates brackets c) (last : Option Char)
    (pending front back : List Char) :
    merged (scanFrom brackets last pending (front ++ c :: back)) =
      merged (scanFrom brackets last pending front ++
        .text (String.singleton c) :: scanFrom brackets none [] back) := by
  fun_induction scanFrom brackets last pending front with
  | case1 last pending =>
    rw [List.nil_append, scanFrom_separator h, afterText_append, merged_afterText, List.nil_append]
    have hlast : ∀ d, d ≠ c → (some c = some d ↔ none = some d) := by
      intro d hne
      simp [hne.symm]
    rw [← List.nil_append (c :: pending), merged_scanFrom_behind h hlast [] pending back,
      withText_append]
    rfl
  | case2 last pending d rest hlexeme ih =>
    rw [List.cons_append, scanFrom, lexeme_append h, hlexeme]
    exact ih
  | case3 last pending d rest hlexeme ih =>
    have hahead : 1 ≤ rest.length := ahead_le hlexeme
    rw [List.cons_append, scanFrom, lexeme_append h, hlexeme]
    simp only [List.drop_append_of_le_length hahead]
    rw [afterText_append, merged_afterText, merged_afterText, ih]
  | case4 last pending d rest ahead hlexeme ih =>
    have hahead : ahead ≤ rest.length := ahead_le hlexeme
    rw [List.cons_append, scanFrom, lexeme_append h, hlexeme]
    simp only [List.drop_append_of_le_length hahead, lastOf_append hahead]
    rw [afterText_append, merged_afterText, merged_afterText, List.cons_append, merged, merged, ih]
  | case5 last pending d rest ahead hlexeme ih =>
    have hahead : ahead ≤ rest.length := ahead_le hlexeme
    rw [List.cons_append, scanFrom, lexeme_append h, hlexeme]
    simp only [List.drop_append_of_le_length hahead, lastOf_append hahead]
    rw [afterText_append, merged_afterText, merged_afterText, List.cons_append, merged, merged, ih]
  | case6 last pending d rest marker back ahead hlexeme ih =>
    have hahead : ahead ≤ rest.length := ahead_le hlexeme
    rw [List.cons_append, scanFrom, lexeme_append h, hlexeme]
    simp only [List.drop_append_of_le_length hahead, lastOf_append hahead]
    rw [afterText_append, merged_afterText, merged_afterText, List.cons_append, merged, merged, ih]

/-- The pieces of two texts with a separator between are those of the texts and, between them,
the separator. -/
theorem merged_scan_append (h : Separates brackets c) (front back : String) :
    merged (scan brackets (front ++ String.singleton c ++ back)) =
      merged (scan brackets front ++ .text (String.singleton c) :: scan brackets back) := by
  have hcs : (front ++ String.singleton c ++ back).toList = front.toList ++ c :: back.toList := by
    simp
  rw [scan, hcs]
  exact merged_scanFrom_append h none [] front.toList back.toList

theorem merged_append_congr (pieces : List Piece) {first second : List Piece}
    (h : merged first = merged second) : merged (pieces ++ first) = merged (pieces ++ second) := by
  induction pieces with
  | nil => exact h
  | cons piece rest ih => exact merged_cons_congr ih

/-- A text and what follows behind a separator are scanned apart from each other. -/
theorem merged_scan_separated (h : Separates brackets c) (front : String) {back : String}
    {pieces : List Piece} (hback : merged (scan brackets back) = merged pieces) :
    merged (scan brackets (front ++ String.singleton c ++ back)) =
      merged (scan brackets front ++ .text (String.singleton c) :: pieces) := by
  rw [merged_scan_append h]
  exact merged_append_congr _ (merged_cons_congr hback)

theorem scan_empty (brackets : Brackets) : scan brackets "" = [] := by
  rw [scan, String.toList_empty, scanFrom]
  rfl

/-- The pieces of texts with a separator between each two are those of the texts with the
separator between. -/
theorem merged_scan_intercalate (h : Separates brackets c) (texts : List String) :
    merged (scan brackets ((String.singleton c).intercalate texts)) =
      merged ([.text (String.singleton c)].intercalate (texts.map (scan brackets))) := by
  induction texts with
  | nil =>
    rw [String.intercalate_nil, scan_empty]
    rfl
  | cons text others ih =>
    cases others with
    | nil => simp
    | cons next others =>
      rw [String.intercalate_cons_cons, merged_scan_separated h text ih]
      simp only [List.map_cons, List.intercalate_cons_cons, List.append_assoc,
        List.singleton_append]

/-- Scanning is compositional at a blank: nothing at the end of a text, whether a brace, a sigil,
digits or a name, has anything to do with what stands behind the blank. -/
theorem merged_scan_around_blank (front back : String) :
    merged (scan .square (front ++ " " ++ back)) =
      merged (scan .square front ++ .text " " :: scan .square back) :=
  merged_scan_append separates_space front back

/-- Whatever stands between two separators is scanned apart from what is around it. -/
theorem exists_merged_scan_between {front back : String}
    (hfront : ∀ c ∈ front.toList.getLast?, Separates brackets c)
    (hback : ∀ c ∈ back.toList.head?, Separates brackets c) :
    ∃ before behind, ∀ text, merged (scan brackets (front ++ text ++ back)) =
      merged (before ++ (scan brackets text ++ behind)) := by
  obtain ⟨behind, hbehind⟩ : ∃ behind, ∀ text,
      merged (scan brackets (text ++ back)) = merged (scan brackets text ++ behind) := by
    cases hcs : back.toList with
    | nil =>
      refine ⟨[], fun text => ?_⟩
      rw [String.toList_eq_nil_iff.mp hcs, String.append_empty, List.append_nil]
    | cons c tail =>
      have hc : Separates brackets c := hback c (by rw [hcs]; rfl)
      have hsplit : back = String.singleton c ++ String.ofList tail := by
        rw [← String.toList_inj, hcs]
        simp
      refine ⟨.text (String.singleton c) :: scan brackets (String.ofList tail), fun text => ?_⟩
      rw [hsplit, ← String.append_assoc, merged_scan_append hc]
  cases hcs : front.toList.getLast? with
  | none =>
    refine ⟨[], behind, fun text => ?_⟩
    rw [String.toList_eq_nil_iff.mp (List.getLast?_eq_none_iff.mp hcs), String.empty_append,
      hbehind, List.nil_append]
  | some c =>
    have hc : Separates brackets c := hfront c hcs
    obtain ⟨body, hbody⟩ := List.getLast?_eq_some_iff.mp hcs
    have hsplit : front = String.ofList body ++ String.singleton c := by
      rw [← String.toList_inj, hbody]
      simp
    refine ⟨scan brackets (String.ofList body) ++ [.text (String.singleton c)], behind,
      fun text => ?_⟩
    rw [hsplit, String.append_assoc, merged_scan_separated hc _ (hbehind text),
      List.append_assoc, List.singleton_append]

/-- A text between brackets, with blanks around them, is scanned apart from what is in front and
from what is behind. -/
theorem merged_scan_block (hblank : Separates brackets ' ')
    (h : ¬ brackets.opening.toList <+: brackets.closing.toList) (front body back : String) :
    merged (scan brackets (front ++ " " ++ brackets.opening ++ " " ++ body ++ " " ++
        brackets.closing ++ " " ++ back)) =
      merged (scan brackets front ++ .text " " :: .opening :: .text " " ::
        (scan brackets body ++ .text " " :: .closing :: .text " " :: scan brackets back)) := by
  have hsource : front ++ " " ++ brackets.opening ++ " " ++ body ++ " " ++ brackets.closing ++
      " " ++ back = front ++ " " ++ (brackets.opening ++ " " ++ (body ++ " " ++
        (brackets.closing ++ " " ++ back))) := by
    simp only [String.append_assoc]
  have hback : merged (scan brackets back) = merged (scan brackets back) := rfl
  have hclosing := merged_scan_separated hblank brackets.closing hback
  have hbody := merged_scan_separated hblank body hclosing
  have hopening := merged_scan_separated hblank brackets.opening hbody
  rw [hsource]
  refine (merged_scan_separated hblank front hopening).trans ?_
  rw [scan_opening, scan_closing h]
  rfl

end Separator

/-! ## Runs of literal text -/

/-- The character is literal wherever it stands. -/
structure IsInert (brackets : Brackets) (c : Char) : Prop where
  brace : c ≠ '{'
  sigil : Sigil.ofChar? c = none
  opening : c ∉ brackets.opening.toList
  closing : c ∉ brackets.closing.toList

section Inert

variable {brackets : Brackets} {c : Char}

theorem Separates.isInert (h : Separates brackets c) : IsInert brackets c :=
  ⟨h.openingBrace, h.sigil, h.opening, h.closing⟩

theorem isInert_of_isWordChar (h : isWordChar c = true) : IsInert brackets c := by
  have hbrace : isWordChar '{' = false := by decide +kernel
  have hreserved : isReserved c = true := by simp [isReserved, h]
  refine ⟨?_, ofChar?_of_isWordChar h, notMem_of_isReserved hreserved brackets.opening_isBracket,
    notMem_of_isReserved hreserved brackets.closing_isBracket⟩
  intro hsame
  rw [hsame, hbrace] at h
  cases h

/-- A run of inert characters joins the pending text. -/
theorem scanFrom_inert {cs : List Char} (h : ∀ c ∈ cs, IsInert brackets c) (last : Option Char)
    (pending rest : List Char) :
    scanFrom brackets last pending (cs ++ rest) =
      scanFrom brackets (cs.getLast?.or last) (cs.reverse ++ pending) rest := by
  induction cs generalizing last pending with
  | nil => rfl
  | cons c cs ih =>
    have hc := h c List.mem_cons_self
    have hnone := noBracket_of_notMem hc.opening hc.closing (cs ++ rest)
    have hlast : (c :: cs).getLast?.or last = cs.getLast?.or (some c) := by
      rw [List.getLast?_cons]
      cases cs.getLast? <;> rfl
    rw [List.cons_append, scanFrom_plain hnone (fun hbrace => absurd hbrace hc.brace) hc.sigil,
      ih fun d hd => h d (List.mem_cons_of_mem _ hd), hlast, List.reverse_cons, List.append_assoc]
    rfl

theorem merged_scan_inert {text : String} (h : ∀ c ∈ text.toList, IsInert brackets c)
    (pieces : List Piece) :
    merged (scan brackets text ++ pieces) = withText text.toList (merged pieces) := by
  have hscan : scan brackets text = afterText text.toList.reverse [] := by
    have hrun := scanFrom_inert h none [] []
    rwa [List.append_nil, List.append_nil, scanFrom] at hrun
  rw [hscan, afterText_append, List.nil_append, merged_afterText, List.reverse_reverse]

end Inert

end SqlTemplate.Template
