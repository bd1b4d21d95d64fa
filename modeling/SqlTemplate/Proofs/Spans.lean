import SqlTemplate.Proofs.Declaring
import SqlTemplate.Proofs.Scanning
import SqlTemplate.Proofs.Segments

/-!
# The canonical form, span by span

The canonical form of a template keeps every character of it in its place, but for markers
and doubled sigils.

* `Spells` lists the ways to write a marker.  `spells_of_braced?`, `spells_unbraced` and
  `spells_of_lexeme` say that what the scanner takes for a marker is written in one of them.
* `Span` is a run of characters of a template with what becomes of it, and `Cut` says that
  some spans are the characters that are scanned as some pieces.  `Cut.afterText`,
  `Cut.doubled`, `Cut.bracket` and `Cut.marker` put one reading in front of others, and
  `exists_cut` follows the scanner through a template.
* `canonical_segments`: blocks do not show in the canonical form.  `written_merged`: nor does
  it show where the scanner cuts a text.
* `Query.exists_spans` puts this together.
-/

namespace SqlTemplate

namespace Template

open Text

/-! ## Spellings -/

/-- The characters are a way to write the marker. -/
inductive Spells : List Char → Marker → Prop where
  /-- A code behind a word, which may be empty. -/
  | shorthand {word : List Char} (sigil : Sigil) {letter : Option Char}
      (hword : ∀ c ∈ word, isWordChar c = true) (hletter : ∀ c ∈ letter, c ∈ sigil.letters) :
      Spells (word ++ sigil.char :: letter.toList) (.typed (nameOf? word) ⟨sigil, letter⟩)
  /-- A number inside of a code. -/
  | numbered {digits : List Char} (sigil : Sigil) {letter : Char} (hne : digits ≠ [])
      (hdigits : ∀ c ∈ digits, isAsciiDigit c = true) (hletter : letter ∈ sigil.letters) :
      Spells (sigil.char :: (digits ++ [letter]))
        (.typed (some (Index.ofString (String.ofList digits))) ⟨sigil, some letter⟩)
  /-- A number behind a sigil. -/
  | numberedReference {digits : List Char} (sigil : Sigil) (hne : digits ≠ [])
      (hdigits : ∀ c ∈ digits, isAsciiDigit c = true) :
      Spells (sigil.char :: digits) (.reference (Index.ofString (String.ofList digits)))
  /-- A word in braces. -/
  | reference {word : List Char} (hne : word ≠ []) (hword : ∀ c ∈ word, isWordChar c = true) :
      Spells ('{' :: (word ++ ['}'])) (.reference (Index.ofString (String.ofList word)))
  /-- A code in braces, behind a word, which may be empty. -/
  | braced {word : List Char} (sigil : Sigil) {letter : Option Char}
      (hword : ∀ c ∈ word, isWordChar c = true) (hletter : ∀ c ∈ letter, c ∈ sigil.letters) :
      Spells ('{' :: (word ++ sigil.char :: (letter.toList ++ ['}'])))
        (.typed (nameOf? word) ⟨sigil, letter⟩)

section Spelling

variable {cs rest : List Char} {marker : Marker} {ahead : Nat}

/-- The letter of a code is in front of the characters, and it is one of the sigil's. -/
theorem codeLetter?_spec (sigil : Sigil) (cs : List Char) :
    (∃ rest, cs = (codeLetter? sigil cs).toList ++ rest) ∧
      ∀ c ∈ codeLetter? sigil cs, c ∈ sigil.letters := by
  cases cs with
  | nil => exact ⟨⟨[], rfl⟩, by simp [codeLetter?]⟩
  | cons c cs =>
    by_cases hc : c ∈ sigil.letters
    · rw [codeLetter?_of_mem hc]
      refine ⟨⟨cs, rfl⟩, ?_⟩
      intro d hd
      cases hd
      exact hc
    · have hnone : codeLetter? sigil (c :: cs) = none := by simp [codeLetter?, hc]
      rw [hnone]
      exact ⟨⟨c :: cs, rfl⟩, by simp⟩

/-- What is read as a marker in braces is written as one. -/
theorem spells_of_braced? (h : braced? cs = some (marker, ahead)) :
    Spells ('{' :: cs.take ahead) marker := by
  have hword : ∀ c ∈ leadingWord cs, isWordChar c = true :=
    fun c hc => List.mem_takeWhile_imp hc
  have hsplit : leadingWord cs ++ cs.dropWhile isWordChar = cs := List.takeWhile_append_dropWhile
  have hhead := List.head?_dropWhile_not isWordChar cs
  generalize leadingWord cs = word at hword hsplit
  generalize cs.dropWhile isWordChar = tail at hsplit hhead
  subst hsplit
  cases tail with
  | nil =>
    rw [List.append_nil, braced?_word_nil hword] at h
    cases h
  | cons c tail =>
    rw [braced?_word hword hhead] at h
    split at h
    · rename_i hbrace
      obtain ⟨name, hname, hmarker⟩ := Option.map_eq_some_iff.mp h
      cases hmarker
      unfold nameOf? at hname
      split at hname
      · cases hname
      · rename_i hne
        cases hname
        have htake : (word ++ c :: tail).take (word.length + 1) = word ++ ['}'] := by
          rw [hbrace, List.append_cons]
          exact List.take_left' (by simp)
        rw [htake]
        exact .reference (by simpa using hne) hword
    · obtain ⟨sigil, hsigil, hcode⟩ := Option.bind_eq_some_iff.mp h
      obtain ⟨⟨rest, hrest⟩, hletter⟩ := codeLetter?_spec sigil tail
      simp only at hcode
      generalize codeLetter? sigil tail = letter at hcode hrest hletter
      subst hrest
      rw [List.drop_left] at hcode
      split at hcode
      · rename_i hclosing
        cases hcode
        obtain ⟨others, hothers⟩ := List.head?_eq_some_iff.mp hclosing
        have htake : (word ++ c :: (letter.toList ++ rest)).take
            (word.length + 1 + letter.toList.length + 1) =
              word ++ sigil.char :: (letter.toList ++ ['}']) := by
          rw [hothers, char_of_ofChar? hsigil]
          have hwhole : word ++ c :: (letter.toList ++ '}' :: others) =
              (word ++ c :: (letter.toList ++ ['}'])) ++ others := by simp
          rw [hwhole]
          apply List.take_left'
          simp only [List.length_append, List.length_cons, List.length_nil]
          omega
        rw [htake]
        exact .braced sigil hword hletter
      · cases hcode

/-- What is read as a marker behind a sigil is written as one, with the word in front. -/
theorem spells_unbraced {word : List Char} (hword : ∀ c ∈ word, isWordChar c = true)
    (sigil : Sigil) (cs : List Char) :
    Spells (word ++ sigil.char :: cs.take (unbraced word sigil cs).2)
      (unbraced word sigil cs).1 := by
  have hdigits : ∀ c ∈ cs.takeWhile isAsciiDigit, isAsciiDigit c = true :=
    fun c hc => List.mem_takeWhile_imp hc
  have hsplit : cs.takeWhile isAsciiDigit ++ cs.dropWhile isAsciiDigit = cs :=
    List.takeWhile_append_dropWhile
  unfold unbraced
  generalize cs.takeWhile isAsciiDigit = digits at hdigits hsplit
  generalize cs.dropWhile isAsciiDigit = tail at hsplit
  simp only
  split
  · rename_i hnumber
    rw [Bool.and_eq_true, List.isEmpty_iff, Bool.not_eq_true', List.isEmpty_eq_false_iff]
      at hnumber
    obtain ⟨hempty, hne⟩ := hnumber
    subst hsplit
    rw [hempty, List.drop_left, List.nil_append]
    obtain ⟨⟨rest, hrest⟩, hletter⟩ := codeLetter?_spec sigil tail
    cases hcode : codeLetter? sigil tail with
    | none =>
      rw [List.take_left]
      exact .numberedReference sigil hne hdigits
    | some letter =>
      rw [hcode] at hrest hletter
      have htake : (digits ++ tail).take (digits.length + 1) = digits ++ [letter] := by
        rw [hrest, Option.toList_some, List.singleton_append, List.append_cons]
        exact List.take_left' (by simp)
      show Spells (sigil.char :: (digits ++ tail).take (digits.length + 1)) _
      rw [htake]
      exact .numbered sigil hne hdigits (hletter letter rfl)
  · obtain ⟨⟨rest, hrest⟩, hletter⟩ := codeLetter?_spec sigil cs
    have htake : cs.take (codeLetter? sigil cs).toList.length = (codeLetter? sigil cs).toList := by
      generalize codeLetter? sigil cs = letter at hrest
      rw [hrest, List.take_left]
    rw [htake]
    exact .shorthand sigil hword hletter

end Spelling

/-! ## What a reading takes up -/

/-- The characters that a reading takes up: `c` and `rest` are at its place, and `pending` is
in front of it, its last character first. -/
inductive Takes (brackets : Brackets) (pending : List Char) (c : Char) (rest : List Char) :
    Lexeme → Prop where
  | plain : Takes brackets pending c rest .plain
  | doubled (sigil : Sigil) (here : c = sigil.char) (next : rest.head? = some sigil.char) :
      Takes brackets pending c rest .doubled
  | opening {ahead : Nat} (here : c :: rest.take ahead = brackets.opening.toList) :
      Takes brackets pending c rest (.opening ahead)
  | closing {ahead : Nat} (here : c :: rest.take ahead = brackets.closing.toList) :
      Takes brackets pending c rest (.closing ahead)
  | marker {marker : Marker} {back ahead : Nat}
      (here : Spells ((pending.take back).reverse ++ c :: rest.take ahead) marker) :
      Takes brackets pending c rest (.marker marker back ahead)

section Reading

variable (brackets : Brackets) (last : Option Char) (pending : List Char) (c : Char)
  (rest : List Char)

variable {c rest} in
theorem take_of_isPrefixOf {bracket : List Char} (h : bracket.isPrefixOf (c :: rest) = true)
    (hne : bracket ≠ []) : c :: rest.take (bracket.length - 1) = bracket := by
  obtain ⟨back, hback⟩ := List.isPrefixOf_iff_prefix.mp h
  cases bracket with
  | nil => exact absurd rfl hne
  | cons d bracket =>
    rw [List.cons_append, List.cons_eq_cons] at hback
    rw [hback.1, ← hback.2]
    simp

variable {c} in
/-- The word in front of a sigil belongs to its marker. -/
theorem takes_sigilLexeme {sigil : Sigil} (hsigil : Sigil.ofChar? c = some sigil) :
    Takes brackets pending c rest (sigilLexeme last pending sigil rest) := by
  unfold sigilLexeme
  split
  · rename_i hnext
    exact .doubled sigil (char_of_ofChar? hsigil).symm hnext
  · split
    · exact .plain
    · apply Takes.marker
      have hleading : pending.take (leadingWord pending).length = leadingWord pending :=
        List.prefix_iff_eq_take.mp (List.takeWhile_prefix _) |>.symm
      have hword : ∀ d ∈ (leadingWord pending).reverse, isWordChar d = true :=
        fun d hd => List.mem_takeWhile_imp (List.mem_reverse.mp hd)
      rw [hleading, ← char_of_ofChar? hsigil]
      exact spells_unbraced hword sigil rest

theorem takes_lexeme : Takes brackets pending c rest (lexeme brackets last pending c rest) := by
  unfold lexeme
  split
  · rename_i hopening
    exact .opening (take_of_isPrefixOf hopening (ne_nil_of_isBracket brackets.opening_isBracket))
  · split
    · rename_i hclosing
      exact .closing (take_of_isPrefixOf hclosing (ne_nil_of_isBracket brackets.closing_isBracket))
    · split
      · rename_i hbrace
        split
        · rename_i hbraced
          apply Takes.marker
          rw [hbrace]
          exact spells_of_braced? hbraced
        · exact .plain
      · split
        · rename_i hsigil
          exact takes_sigilLexeme brackets last pending rest hsigil
        · exact .plain

end Reading

/-! ## Spans -/

/-- A run of characters of a template, and what it stands for. -/
inductive Span where
  /-- Literal text. -/
  | text (content : List Char)
  /-- A sigil that is written twice. -/
  | doubled (sigil : Sigil)
  /-- The opening bracket. -/
  | opening
  /-- The closing bracket. -/
  | closing
  /-- A marker as it is spelled, with its index. -/
  | marker (spelling : List Char) (marker : Marker) (index : Index)

namespace Span

/-- A span as it stands in the template. -/
def source (brackets : Brackets) : Span → List Char
  | .text content => content
  | .doubled sigil => [sigil.char, sigil.char]
  | .opening => brackets.opening.toList
  | .closing => brackets.closing.toList
  | .marker spelling _ _ => spelling

/-- A span as it stands in the canonical form. -/
def canonical (brackets : Brackets) : Span → String
  | .text content => String.ofList content
  | .doubled sigil => String.ofList [sigil.char]
  | .opening => brackets.opening
  | .closing => brackets.closing
  | .marker _ _ index => index.token

/-- The piece that a span is scanned as. -/
def piece : Span → Piece
  | .text content => .text (String.ofList content)
  | .doubled sigil => .text (String.ofList [sigil.char])
  | .opening => .opening
  | .closing => .closing
  | .marker _ found _ => .marker found

/-- The marker of a span with its index. -/
def occurrence? : Span → Option (Marker × Index)
  | .marker _ found index => some (found, index)
  | .text _ | .doubled _ | .opening | .closing => none

end Span

/-- The spans are some characters in order, which are scanned as some pieces whose markers
have some indices. -/
structure Cut (brackets : Brackets) (cs : List Char) (pieces : List Piece)
    (names : List Index) (spans : List Span) : Prop where
  source : spans.flatMap (Span.source brackets) = cs
  pieces : merged (spans.map Span.piece) = merged pieces
  indices : (spans.filterMap Span.occurrence?).map Prod.snd = names
  spells : ∀ spelling marker index, .marker spelling marker index ∈ spans →
    Spells spelling marker

theorem merged_cons_congr {piece : Piece} {pieces others : List Piece}
    (h : merged pieces = merged others) : merged (piece :: pieces) = merged (piece :: others) := by
  cases piece <;> simp only [merged, h]

namespace Cut

variable {brackets : Brackets} {cs : List Char} {pieces : List Piece} {names : List Index}
  {spans : List Span}

theorem nil (brackets : Brackets) : Cut brackets [] [] [] [] :=
  ⟨rfl, rfl, rfl, nofun⟩

/-- A span that is no marker. -/
theorem cons (h : Cut brackets cs pieces names spans) (span : Span)
    (hspan : span.occurrence? = none) :
    Cut brackets (span.source brackets ++ cs) (span.piece :: pieces) names (span :: spans) := by
  refine ⟨?_, merged_cons_congr h.pieces, ?_, ?_⟩
  · rw [List.flatMap_cons, h.source]
  · rw [List.filterMap_cons_none hspan, h.indices]
  · intro spelling marker index hmem
    cases hmem with
    | head => cases hspan
    | tail _ hmem => exact h.spells spelling marker index hmem

theorem marker (h : Cut brackets cs pieces names spans) {spelling : List Char} {found : Marker}
    (hspells : Spells spelling found) (index : Index) :
    Cut brackets (spelling ++ cs) (.marker found :: pieces) (index :: names)
      (.marker spelling found index :: spans) := by
  refine ⟨?_, merged_cons_congr h.pieces, ?_, ?_⟩
  · rw [List.flatMap_cons, h.source]
    rfl
  · exact congrArg (index :: ·) h.indices
  · intro other marker own hmem
    cases hmem with
    | head => exact hspells
    | tail _ hmem => exact h.spells other marker own hmem

/-- Pending text is a span of its own. -/
theorem afterText (h : Cut brackets cs pieces names spans) (pending : List Char) :
    ∃ others, Cut brackets (pending.reverse ++ cs) (afterText pending pieces) names others := by
  cases pending with
  | nil => exact ⟨spans, h⟩
  | cons c pending => exact ⟨_, h.cons (.text (c :: pending).reverse) rfl⟩

/-- A span that is no marker, behind pending text. -/
theorem behind (h : Cut brackets cs pieces names spans) (pending : List Char) (span : Span)
    (hspan : span.occurrence? = none) :
    ∃ others, Cut brackets (pending.reverse ++ (span.source brackets ++ cs))
      (Template.afterText pending (span.piece :: pieces)) names others :=
  (h.cons span hspan).afterText pending

/-- A doubled sigil ends the pending text, and is a span of its own nevertheless. -/
theorem doubled (h : Cut brackets cs pieces names spans) (pending : List Char) (sigil : Sigil) :
    ∃ others, Cut brackets (pending.reverse ++ sigil.char :: sigil.char :: cs)
      (Template.afterText (sigil.char :: pending) pieces) names others := by
  obtain ⟨others, hothers⟩ := h.behind pending (.doubled sigil) rfl
  refine ⟨others, hothers.source, ?_, hothers.indices, hothers.spells⟩
  rw [hothers.pieces, merged_afterText, merged_afterText, List.reverse_cons, withText_append]
  rfl

end Cut

/-! ## Cutting a template -/

theorem markers_afterText (pending : List Char) (pieces : List Piece) :
    markers (afterText pending pieces) = markers pieces := by
  cases pending with
  | nil => rfl
  | cons c pending => rfl

/-- What is scanned can be cut into spans, with the pending text in front. -/
theorem exists_cut (brackets : Brackets) (last : Option Char) (pending cs : List Char)
    (names : List Index)
    (h : (markers (scanFrom brackets last pending cs)).length = names.length) :
    ∃ spans, Cut brackets (pending.reverse ++ cs) (scanFrom brackets last pending cs) names
      spans := by
  fun_induction scanFrom brackets last pending cs generalizing names with
  | case1 last pending =>
    rw [markers_afterText] at h
    obtain rfl : names = [] := List.eq_nil_of_length_eq_zero h.symm
    exact (Cut.nil brackets).afterText pending
  | case2 last pending c rest hlexeme ih =>
    obtain ⟨spans, hspans⟩ := ih names h
    rw [List.reverse_cons, List.append_assoc] at hspans
    exact ⟨spans, hspans⟩
  | case3 last pending c rest hlexeme ih =>
    have htakes := takes_lexeme brackets last pending c rest
    rw [hlexeme] at htakes
    cases htakes with
    | doubled sigil here next =>
      obtain ⟨others, hothers⟩ := List.head?_eq_some_iff.mp next
      rw [markers_afterText] at h
      obtain ⟨spans, hspans⟩ := ih names h
      rw [here, hothers] at hspans ⊢
      exact hspans.doubled pending sigil
  | case4 last pending c rest ahead hlexeme ih =>
    have htakes := takes_lexeme brackets last pending c rest
    rw [hlexeme] at htakes
    cases htakes with
    | opening here =>
      rw [markers_afterText] at h
      obtain ⟨spans, hspans⟩ := ih names h
      have hsource : Span.source brackets .opening ++ rest.drop ahead = c :: rest := by
        rw [Span.source, ← here, List.cons_append, List.take_append_drop]
      rw [← hsource]
      exact hspans.behind pending .opening rfl
  | case5 last pending c rest ahead hlexeme ih =>
    have htakes := takes_lexeme brackets last pending c rest
    rw [hlexeme] at htakes
    cases htakes with
    | closing here =>
      rw [markers_afterText] at h
      obtain ⟨spans, hspans⟩ := ih names h
      have hsource : Span.source brackets .closing ++ rest.drop ahead = c :: rest := by
        rw [Span.source, ← here, List.cons_append, List.take_append_drop]
      rw [← hsource]
      exact hspans.behind pending .closing rfl
  | case6 last pending c rest marker back ahead hlexeme ih =>
    have htakes := takes_lexeme brackets last pending c rest
    rw [hlexeme] at htakes
    cases htakes with
    | marker here =>
      rw [markers_afterText] at h
      cases names with
      | nil => cases h
      | cons index names =>
        obtain ⟨spans, hspans⟩ := ih names (Nat.succ.inj h)
        obtain ⟨others, hothers⟩ := (hspans.marker here index).afterText (pending.drop back)
        have hpending : (pending.drop back).reverse ++ (pending.take back).reverse =
            pending.reverse := by
          rw [← List.reverse_append, List.take_append_drop]
        rw [List.reverse_nil, List.nil_append, List.append_assoc, List.cons_append,
          List.take_append_drop, ← List.append_assoc, hpending] at hothers
        exact ⟨others, hothers⟩

theorem mem_merged_iff {piece : Piece} (hpiece : ∀ content, piece ≠ .text content)
    {pieces : List Piece} : piece ∈ merged pieces ↔ piece ∈ pieces := by
  induction pieces with
  | nil => rfl
  | cons first rest ih =>
    rw [List.mem_cons, ← ih]
    cases first with
    | text content =>
      rw [merged]
      generalize merged rest = others
      rcases others with _ | ⟨_ | _ | _ | _, _⟩ <;> simp [consText, hpiece]
    | marker | opening | closing => rw [merged, List.mem_cons]

/-- Where a bracket is scanned there are its characters. -/
theorem source_subset_of_mem_scan {brackets : Brackets} {source : String} {span : Span}
    (hspan : span = .opening ∨ span = .closing) (h : span.piece ∈ scan brackets source) :
    span.source brackets ⊆ source.toList := by
  obtain ⟨spans, hcut⟩ := exists_cut brackets none [] source.toList
    (indices (markers (scan brackets source))) (length_indicesFrom _ _ _).symm
  have hnotText : ∀ content, span.piece ≠ .text content := by
    rcases hspan with rfl | rfl <;> exact fun _ => nofun
  have hpiece : span.piece ∈ spans.map Span.piece := by
    rw [← mem_merged_iff hnotText, hcut.pieces, mem_merged_iff hnotText]
    exact h
  obtain ⟨other, hother, hsame⟩ := List.mem_map.mp hpiece
  have heq : other = span := by
    rcases hspan with rfl | rfl <;> cases other <;> first | rfl | cases hsame
  subst heq
  have hsource : spans.flatMap (Span.source brackets) = source.toList := hcut.source
  rw [← hsource]
  exact fun c hc => List.mem_flatMap.mpr ⟨other, hother, hc⟩

/-! ## What the spans are written as -/

section Written

variable {brackets : Brackets}

/-- Pieces as they stand in the canonical form, their markers with some indices. -/
def written (brackets : Brackets) (pieces : List Piece) (names : List Index) : String :=
  writeParts Index.token ((indexedPieces pieces names).map (literal brackets))

theorem written_text (content : String) (pieces : List Piece) (names : List Index) :
    written brackets (.text content :: pieces) names = content ++ written brackets pieces names :=
  writeParts_cons Index.token _ _

theorem written_marker (found : Marker) (index : Index) (pieces : List Piece)
    (names : List Index) :
    written brackets (.marker found :: pieces) (index :: names) =
      index.token ++ written brackets pieces names :=
  writeParts_cons Index.token _ _

theorem written_opening (pieces : List Piece) (names : List Index) :
    written brackets (.opening :: pieces) names =
      brackets.opening ++ written brackets pieces names :=
  writeParts_cons Index.token _ _

theorem written_closing (pieces : List Piece) (names : List Index) :
    written brackets (.closing :: pieces) names =
      brackets.closing ++ written brackets pieces names :=
  writeParts_cons Index.token _ _

/-- It does not show in the canonical form where a text is cut. -/
theorem written_merged (pieces : List Piece) (names : List Index) :
    written brackets (merged pieces) names = written brackets pieces names := by
  induction pieces generalizing names with
  | nil => rfl
  | cons piece rest ih =>
    cases piece with
    | text content =>
      rw [written_text, ← ih, merged]
      generalize merged rest = others
      cases others with
      | nil => exact written_text content [] names
      | cons next others =>
        cases next with
        | text next => rw [consText, written_text, written_text, String.append_assoc]
        | marker | opening | closing => exact written_text content _ names
    | marker found =>
      cases names with
      | nil => exact ih []
      | cons index names => rw [merged, written_marker, written_marker, ih]
    | opening => rw [merged, written_opening, written_opening, ih]
    | closing => rw [merged, written_closing, written_closing, ih]

/-- Blocks do not show in the canonical form. -/
theorem canonical_segments (brackets : Brackets) (pieces : List IndexedPiece) :
    canonical brackets (segments brackets pieces) =
      writeParts Index.token (pieces.map (literal brackets)) := by
  have halways : ∀ part, canonicalSegment brackets (.always part) = writePart Index.token part :=
    fun _ => rfl
  induction pieces using induction_on_blocks with
  | nil =>
    rw [segments]
    rfl
  | part content rest ih =>
    rw [segments, canonical, join_consSegment halways, List.map_cons, writeParts_cons, ← ih]
    rfl
  | closing rest ih =>
    rw [segments, canonical, join_consSegment halways, List.map_cons, writeParts_cons, ← ih]
    rfl
  | unclosed body hbody =>
    rw [segments_unclosed hbody, canonical, join_literally halways]
    exact String.append_empty
  | block body rest hbody ih =>
    have hparts : writeParts Index.token ((block body).map (literal brackets)) =
        brackets.opening ++ writeParts Index.token (body.map (literal brackets)) ++
          brackets.closing := by
      rw [block, List.map_cons, writeParts_cons, List.map_append, writeParts, writeParts,
        List.map_append, String.join_append, String.append_assoc]
      simp [literal, writePart]
    have hjoin : writeParts Index.token ((block body ++ rest).map (literal brackets)) =
        writeParts Index.token ((block body).map (literal brackets)) ++
          writeParts Index.token (rest.map (literal brackets)) := by
      rw [List.map_append, writeParts, List.map_append, String.join_append]
      rfl
    rw [segments_block hbody, hjoin, ← ih, canonical]
    split
    · rw [List.map_cons, String.join_cons, canonicalSegment, writeParts_blockParts, hparts]
      rfl
    · rw [join_literally halways]
      rfl

/-- The spans are written as their pieces are, with their indices. -/
theorem join_canonical (spans : List Span) :
    String.join (spans.map (Span.canonical brackets)) =
      written brackets (spans.map Span.piece)
        ((spans.filterMap Span.occurrence?).map Prod.snd) := by
  induction spans with
  | nil => rfl
  | cons span rest ih =>
    rw [List.map_cons, String.join_cons, ih]
    cases span with
    | text content => exact (written_text _ _ _).symm
    | doubled sigil => exact (written_text _ _ _).symm
    | opening => exact (written_opening _ _).symm
    | closing => exact (written_closing _ _).symm
    | marker spelling found index => exact (written_marker found index _ _).symm

end Written

/-! ## Indices of spans -/

section Indices

theorem markers_merged (pieces : List Piece) : markers (merged pieces) = markers pieces := by
  induction pieces with
  | nil => rfl
  | cons piece rest ih =>
    cases piece with
    | text content =>
      rw [merged]
      refine Eq.trans ?_ ih
      generalize merged rest = others
      cases others with
      | nil => rfl
      | cons next others => cases next <;> rfl
    | marker found => exact congrArg (found :: ·) ih
    | opening | closing => exact ih

theorem map_fst_filterMap_occurrence (spans : List Span) :
    (spans.filterMap Span.occurrence?).map Prod.fst = markers (spans.map Span.piece) := by
  induction spans with
  | nil => rfl
  | cons span rest ih =>
    cases span with
    | marker spelling found index => exact congrArg (found :: ·) ih
    | text | doubled | opening | closing => exact ih

/-- The index that a marker spells, if it spells one. -/
def name? : Marker → Option Index
  | .typed name _ => name
  | .reference name => some name

/-- A marker has the index that it spells, or else an ordinal. -/
theorem index_of_mem_occurrences {found : List Marker} {marker : Marker} {index : Index}
    (h : (marker, index) ∈ occurrences found) :
    name? marker = some index ∨ name? marker = none ∧ ∃ n, index = .ordinal n := by
  rw [occurrences, indices] at h
  generalize found.filterMap claimed? = claims at h
  generalize 0 = next at h
  fun_induction indicesFrom claims next found with
  | case1 next => cases h
  | case2 next name code rest ih =>
    rcases List.mem_cons.mp h with hsame | hmem
    · cases hsame
      exact Or.inl rfl
    · exact ih hmem
  | case3 next name rest ih =>
    rcases List.mem_cons.mp h with hsame | hmem
    · cases hsame
      exact Or.inl rfl
    · exact ih hmem
  | case4 next code rest free ih =>
    rcases List.mem_cons.mp h with hsame | hmem
    · cases hsame
      exact Or.inr ⟨rfl, free, rfl⟩
    · exact ih hmem

end Indices

end Template

/-! ## Templates -/

namespace Query

open Template

/-- A template that is read can be cut into spans so that its canonical form is the same
spans one after the other, with a token for every marker, one sigil for a doubled one, and
everything else as it is.  The spans are scanned as the pieces of the template, and every
marker is spelled in one of the ways there are, with the index that it spells or the ordinal
that it is given. -/
theorem exists_spans {config : Config} {source : String} {query : Query}
    (h : new config source = .ok query)
    (hmarkers : markers (scan config.brackets source) ≠ []) :
    ∃ spans : List Span,
      spans.flatMap (Span.source config.brackets) = source.toList ∧
      query.canonical = String.join (spans.map (Span.canonical config.brackets)) ∧
      merged (spans.map Span.piece) = merged (scan config.brackets source) ∧
      spans.filterMap Span.occurrence? = occurrences (markers (scan config.brackets source)) ∧
      ∀ spelling marker index, .marker spelling marker index ∈ spans →
        Spells spelling marker ∧
          (name? marker = some index ∨ name? marker = none ∧ ∃ n, index = .ordinal n) := by
  obtain ⟨_, statement, hstatement, hbrackets, hsegments⟩ := new_eq_some h hmarkers
  obtain ⟨spans, hcut⟩ := exists_cut config.brackets none [] source.toList
    (indices (markers (scan config.brackets source))) (length_indicesFrom _ _ _).symm
  have hoccurrences : spans.filterMap Span.occurrence? =
      occurrences (markers (scan config.brackets source)) := by
    refine List.zip_of_prod ?_ hcut.indices
    rw [map_fst_filterMap_occurrence, ← markers_merged, hcut.pieces, markers_merged]
    rfl
  refine ⟨spans, hcut.source, ?_, hcut.pieces, hoccurrences, ?_⟩
  · rw [canonical, hstatement]
    show Template.canonical statement.brackets statement.segments = _
    rw [hbrackets, hsegments, canonical_segments, join_canonical, ← written_merged, hcut.pieces,
      written_merged, hcut.indices]
    rfl
  · intro spelling marker index hmem
    refine ⟨hcut.spells spelling marker index hmem, ?_⟩
    apply index_of_mem_occurrences
    rw [← hoccurrences]
    exact List.mem_filterMap.mpr ⟨_, hmem, rfl⟩

/-- Brackets with a sigil in them stay around a block, and so does an opening bracket that is
never closed; the doubled sigil becomes one. -/
theorem exists_spans_unclosed :
    let brackets : Brackets := ⟨"<?", "?>", by decide +kernel, by decide +kernel⟩
    let config := { Config.new Text.escapeStandard with brackets := brackets }
    let source := "a::b <?x:i :2s?> \x7bx\x7d <?:"
    ∃ query, new config source = .ok query ∧
      query.canonical = "a:b <?\x7bx\x7d \x7b2\x7d?> \x7bx\x7d <?\x7b0\x7d" ∧
      ∃ spans : List Span,
        spans.flatMap (Span.source brackets) = source.toList ∧
        query.canonical = String.join (spans.map (Span.canonical brackets)) ∧
        merged (spans.map Span.piece) = merged (scan brackets source) ∧
        spans.filterMap Span.occurrence? = occurrences (markers (scan brackets source)) ∧
        ∀ spelling marker index, .marker spelling marker index ∈ spans →
          Spells spelling marker ∧
            (name? marker = some index ∨ name? marker = none ∧ ∃ n, index = .ordinal n) := by
  intro brackets config source
  have hmarkers : markers (scan brackets source) ≠ [] := by decide +kernel
  have hcanonical : (new config source).toOption.map Query.canonical =
      some "a:b <?\x7bx\x7d \x7b2\x7d?> \x7bx\x7d <?\x7b0\x7d" := by
    decide +kernel
  cases hnew : new config source with
  | error error =>
    rw [hnew] at hcanonical
    cases hcanonical
  | ok query =>
    rw [hnew] at hcanonical
    exact ⟨query, rfl, Option.some.inj hcanonical, exists_spans hnew hmarkers⟩

end Query

end SqlTemplate
