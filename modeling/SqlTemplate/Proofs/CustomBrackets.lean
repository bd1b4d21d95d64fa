import SqlTemplate.Proofs.Outcome
import SqlTemplate.Proofs.Shorthand

/-!
# Brackets of one's own

A configuration takes any two texts for brackets that could be no part of a name.  They delimit an
optional block if the scanner can tell them apart, which looks for the opening bracket first and
for sigils last: the closing bracket must not begin with the opening one, and neither of them can
be a sigil by itself.

* `ToldApart` says so of the sigil `:`, and `merged_scan_integer` how a block with an integer in it
  is scanned between two texts without markers.
* `segments_integer` has the segments of such a template, and `new_integer` the query.
* `Query.list_of_withBrackets` renders it with and without the integer, and
  `Query.list_of_withBrackets_ne` with brackets that are the same.
-/

namespace SqlTemplate

namespace Template

open Text

/-- The brackets are found between blanks, and the sigil `:` between them is none of them. -/
structure ToldApart (brackets : Brackets) : Prop where
  blank : ∀ c, isWhiteSpace c = true → Separates brackets c
  apart : ¬ brackets.opening.toList <+: brackets.closing.toList
  sigil : FreeSigil brackets .colon

/-- The marker of an integer without a name. -/
def integerMarker : Marker :=
  .typed none ⟨.colon, some 'i'⟩

variable {brackets : Brackets} {front back : String}

theorem scan_integer (h : FreeSigil brackets .colon) :
    scan brackets ":i" = [.marker integerMarker] := by
  have hword : isWordChar 'i' = true := by decide +kernel
  exact scanFrom_unbraced h (List.forall_mem_nil _) (List.forall_mem_singleton.mpr hword) rfl

/-- The text of words and blanks is literal. -/
theorem ToldApart.isInert (h : ToldApart brackets) {text : String}
    (htext : ∀ c ∈ text.toList, isWordChar c = true ∨ isWhiteSpace c = true) :
    ∀ c ∈ text.toList, IsInert brackets c := by
  intro c hc
  rcases htext c hc with hword | hblank
  · exact isInert_of_isWordChar hword
  · exact (h.blank c hblank).isInert

theorem merged_blank (pieces : List Piece) :
    merged (.text " " :: pieces) = withText [' '] (merged pieces) :=
  rfl

theorem merged_blank_scan (hback : ∀ c ∈ back.toList, IsInert brackets c) :
    merged (.text " " :: scan brackets back) = [.text (" " ++ back)] := by
  have hscan := merged_scan_inert hback []
  rw [List.append_nil] at hscan
  rw [merged_blank, hscan, ← withText_append]
  show [Piece.text (String.ofList (" ".toList ++ back.toList))] = _
  rw [← String.toList_append, String.ofList_toList]

theorem merged_scan_blank (hfront : ∀ c ∈ front.toList, IsInert brackets c) (pieces : List Piece) :
    merged (scan brackets front ++ .text " " :: .opening :: pieces) =
      .text (front ++ " ") :: .opening :: merged pieces := by
  have hne : front.toList ++ [' '] ≠ [] := by simp
  rw [merged_scan_inert hfront, merged_blank, ← withText_append, withText, if_neg hne]
  show [Piece.text (String.ofList (front.toList ++ " ".toList))] ++ _ = _
  rw [← String.toList_append, String.ofList_toList]
  rfl

/-- The pieces of a template with an integer in a block, between two texts. -/
def integerPieces (front back : String) : List Piece :=
  [.text (front ++ " "), .opening, .text " ", .marker integerMarker, .text " ", .closing,
    .text (" " ++ back)]

theorem merged_scan_integer (h : ToldApart brackets)
    (hfront : ∀ c ∈ front.toList, IsInert brackets c)
    (hback : ∀ c ∈ back.toList, IsInert brackets c) :
    merged (scan brackets (front ++ " " ++ brackets.opening ++ " :i " ++ brackets.closing ++
        " " ++ back)) = integerPieces front back := by
  have hsource : front ++ " " ++ brackets.opening ++ " :i " ++ brackets.closing ++ " " ++ back =
      front ++ " " ++ brackets.opening ++ " " ++ ":i" ++ " " ++ brackets.closing ++ " " ++
        back := by
    simp [String.append_assoc]
  rw [hsource, merged_scan_block (h.blank ' ' (by decide +kernel)) h.apart,
    merged_scan_blank hfront, scan_integer h.sigil]
  show _ :: _ :: consText " " (.marker integerMarker ::
    consText " " (.closing :: merged (.text " " :: scan brackets back))) = _
  rw [merged_blank_scan hback]
  rfl

/-- The segments of the template. -/
def integerSegments (front back : String) : List Segment :=
  [.always (.text (front ++ " ")), .optional [.text " ", .slot (.ordinal 0), .text " "],
    .always (.text (" " ++ back))]

theorem segments_integer (brackets : Brackets) (front back : String) :
    segments brackets (withIndices (integerPieces front back)) = integerSegments front back := by
  have hfront : front ++ " " ≠ "" := by simp
  have hback : " " ++ back ≠ "" := by simp
  have hindexed : withIndices (integerPieces front back) =
      .part (.text (front ++ " ")) ::
        (block [.part (.text " "), .part (.slot (.ordinal 0)), .part (.text " ")] ++
          [.part (.text (" " ++ back))]) :=
    rfl
  rw [hindexed, segments, segments_block (by simp), segments, segments]
  simp [consSegment, hfront, hback, hasSlot, blockParts, literal, consPart, integerSegments]

theorem render_integerSegments (bound : Index → Option String) (front back : String) :
    render bound (integerSegments front back) =
      match bound (.ordinal 0) with
      | none => front ++ "  " ++ back
      | some text => front ++ "  " ++ text ++ "  " ++ back := by
  have hblanks : "  " = " " ++ " " := rfl
  cases hbound : bound (.ordinal 0) <;>
    simp [-String.reduceAppend, render, integerSegments, renderSegment, writeParts, writePart,
      isBound, Part.index?, hbound, hblanks, String.append_assoc]

end Template

theorem Config.withBrackets_eq_ok {config bracketed : Config} {opening closing : String}
    (h : config.withBrackets opening closing = .ok bracketed) :
    bracketed.brackets.opening = opening ∧ bracketed.brackets.closing = closing := by
  unfold Config.withBrackets Brackets.of? at h
  split at h
  · rename_i brackets hbrackets
    split at hbrackets
    · cases hbrackets
      cases h
      exact ⟨rfl, rfl⟩
    · cases hbrackets
  · cases h

namespace Query

open Template Text

variable {config : Config} {source front back : String} {query : Query}

/-- The placeholder of the template. -/
def integerPlaceholder : Placeholder :=
  .new (.ordinal 0) (.scalar .integer false false) true

section Integer

variable (hmerged : merged (scan config.brackets source) = integerPieces front back)

include hmerged

theorem markers_integer : markers (scan config.brackets source) = [integerMarker] := by
  rw [← markers_merged, hmerged]
  rfl

theorem segments_indexed_integer :
    segments config.brackets (indexed config.brackets source) = integerSegments front back := by
  have hsame : merged (integerPieces front back) = integerPieces front back := rfl
  rw [← segments_integer config.brackets]
  exact segments_withIndices_congr (hmerged.trans hsame.symm)

theorem exists_new_integer :
    ∃ query, new config source = .ok query ∧ query.placeholders = [integerPlaceholder] := by
  have hdeclared : declarations source [integerMarker] =
      .ok [(.ordinal 0, .scalar .integer false false)] :=
    rfl
  cases hnew : new config source with
  | error error =>
    rw [new_eq_error_iff, markers_integer hmerged, hdeclared] at hnew
    cases hnew
  | ok query =>
    refine ⟨query, rfl, ?_⟩
    obtain ⟨hparse, _⟩ := new_eq_ok hnew
    rcases Statement.parse_eq_ok hparse with ⟨hnone, _⟩ | ⟨_, declared, hfound, hstatement⟩
    · rw [markers_integer hmerged] at hnone
      cases hnone
    · rw [markers_integer hmerged, hdeclared] at hfound
      cases hfound
      rw [placeholders, hstatement, segments_indexed_integer hmerged]
      rfl

variable {supply : List (Index × Value)} {log : CallLog}

/-- The template renders with whatever is accepted for the integer. -/
theorem render_integer (h : new config source = .ok query)
    (hplaceholders : query.placeholders = [integerPlaceholder])
    (hplain : ∀ pair ∈ supply, pair.2.Plain)
    (haccepted : ∀ value, Entries.get? (.ordinal 0) supply.reverse = some value →
      integerPlaceholder.refusal? config value = none) :
    (query.render supply log).1.1 =
      .ok (Template.render (query.text? config supply) (integerSegments front back)) := by
  have hmarkers : markers (scan config.brackets source) ≠ [] := by
    rw [markers_integer hmerged]
    exact List.cons_ne_nil _ _
  rw [render_eq_ok_iff h hmarkers hplain, segments_indexed_integer hmerged]
  refine ⟨fun index hexposed => ?_, ?_, rfl⟩
  · rw [← mem_segments_iff config.brackets, segments_indexed_integer hmerged] at hexposed
    simp [integerSegments] at hexposed
  · rw [hplaceholders]
    exact List.forall_mem_singleton.mpr haccepted

end Integer

theorem text?_integer (hplaceholders : query.placeholders = [integerPlaceholder])
    (supply : List (Index × Value)) :
    query.text? config supply (.ordinal 0) =
      (Entries.get? (.ordinal 0) supply.reverse).bind (integerPlaceholder.text? config) := by
  have hmem : integerPlaceholder ∈ query.placeholders := by
    rw [hplaceholders]
    exact List.mem_singleton_self _
  have hfound : query.placeholder? (.ordinal 0) = some integerPlaceholder :=
    placeholder?_of_mem hmem
  rw [text?, hfound]
  rfl

/-- Brackets without blanks that can be told apart from each other and from the sigil `:` delimit
an optional block. -/
theorem list_of_withBrackets {config bracketed : Config} {opening closing : String}
    (h : config.withBrackets opening closing = .ok bracketed)
    (hblank : ∀ c ∈ opening.toList ++ closing.toList, isWhiteSpace c = false)
    (hapart : ¬ opening.toList <+: closing.toList) (hopening : opening ≠ ":")
    (hclosing : closing ≠ ":") {front back : String}
    (hfront : ∀ c ∈ front.toList, isWordChar c = true ∨ isWhiteSpace c = true)
    (hback : ∀ c ∈ back.toList, isWordChar c = true ∨ isWhiteSpace c = true) :
    ∃ query, new bracketed (front ++ " " ++ opening ++ " :i " ++ closing ++ " " ++ back) =
        .ok query ∧
      query.placeholders = [.new (.ordinal 0) (.scalar .integer false false) true] ∧
      ∀ log, (query.list [] log).1.1 = .ok (front ++ "  " ++ back) ∧
        ∀ n, (query.list [.scalar (.integer n)] log).1.1 =
          .ok (front ++ "  " ++ int64Text n ++ "  " ++ back) := by
  obtain ⟨rfl, rfl⟩ := Config.withBrackets_eq_ok h
  have hnone : ∀ c, isWhiteSpace c = true →
      c ∉ bracketed.brackets.opening.toList ++ bracketed.brackets.closing.toList := by
    intro c hc hmem
    rw [hblank c hmem] at hc
    cases hc
  have hcolon : ∀ {text : String}, text ≠ ":" → text.toList ≠ [Sigil.colon.char] :=
    fun hne hsame => hne (String.toList_inj.mp (hsame.trans (by decide)))
  have happart : ToldApart bracketed.brackets := by
    refine ⟨fun c hc => ?_, hapart, hcolon hopening, hcolon hclosing⟩
    exact separates_of_isWhiteSpace hc (fun hmem => hnone c hc (List.mem_append_left _ hmem))
      (fun hmem => hnone c hc (List.mem_append_right _ hmem))
  have hmerged := merged_scan_integer happart (happart.isInert hfront) (happart.isInert hback)
  obtain ⟨query, hnew, hplaceholders⟩ := exists_new_integer hmerged
  refine ⟨query, hnew, hplaceholders, fun log => ⟨?_, fun n => ?_⟩⟩
  · rw [list, render_integer hmerged hnew hplaceholders, render_integerSegments,
      text?_integer hplaceholders]
    · rfl
    · nofun
    · nofun
  · rw [list, render_integer hmerged hnew hplaceholders, render_integerSegments,
      text?_integer hplaceholders]
    · rfl
    · exact List.forall_mem_singleton.mpr (.scalar _)
    · rintro value ⟨⟩
      rfl

/-- Brackets of two characters that begin alike, one with a sigil in it. -/
theorem list_of_withBrackets_sigil :
    let config := Config.new escapeStandard
    let bracketed := { config with brackets := ⟨"<?", "<:", by decide, by decide⟩ }
    config.withBrackets "<?" "<:" = .ok bracketed ∧
      ∃ query, new bracketed ("é 1" ++ " " ++ "<?" ++ " :i " ++ "<:" ++ " " ++ "") = .ok query ∧
        query.placeholders = [.new (.ordinal 0) (.scalar .integer false false) true] ∧
        (query.list [] []).1.1 = .ok ("é 1" ++ "  " ++ "") ∧
        (query.list [.scalar (.integer 7)] []).1.1 = .ok ("é 1" ++ "  7  " ++ "") := by
  intro config bracketed
  have hbrackets : config.withBrackets "<?" "<:" = .ok bracketed := rfl
  have hblank : ("<?".toList ++ "<:".toList).all (!isWhiteSpace ·) = true := by decide +kernel
  have hfront : "é 1".toList.all (fun c => isWordChar c || isWhiteSpace c) = true := by
    decide +kernel
  have hback : ∀ c ∈ "".toList, isWordChar c = true ∨ isWhiteSpace c = true := nofun
  simp only [List.all_eq_true, Bool.not_eq_true', Bool.or_eq_true] at hblank hfront
  obtain ⟨query, hnew, hplaceholders, hlist⟩ := list_of_withBrackets hbrackets hblank (by decide)
    (by decide) (by decide) hfront hback
  exact ⟨hbrackets, query, hnew, hplaceholders, (hlist []).1, (hlist []).2 7⟩

/-- With one text for both brackets no block is ever closed. -/
theorem list_of_withBrackets_ne :
    let config := Config.new escapeStandard
    let bracketed := { config with brackets := ⟨"|", "|", by decide, by decide⟩ }
    config.withBrackets "|" "|" = .ok bracketed ∧
      (∀ c ∈ "|".toList ++ "|".toList, isWhiteSpace c = false) ∧
      ∃ query, new bracketed ("a" ++ " " ++ "|" ++ " :i " ++ "|" ++ " " ++ "b") = .ok query ∧
        query.placeholders = [.new (.ordinal 0) (.scalar .integer false false) false] ∧
        (query.list [] []).1.1 ≠ .ok ("a" ++ "  " ++ "b") ∧
        (query.list [.scalar (.integer 7)] []).1.1 ≠ .ok ("a" ++ "  7  " ++ "b") := by
  intro config bracketed
  have hblank : ("|".toList ++ "|".toList).all (!isWhiteSpace ·) = true := by decide +kernel
  simp only [List.all_eq_true, Bool.not_eq_true'] at hblank
  exact ⟨rfl, hblank, exists_new_of_any (by decide +kernel)⟩

end Query

end SqlTemplate
