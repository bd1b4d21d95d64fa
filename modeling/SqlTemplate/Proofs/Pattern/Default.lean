import SqlTemplate.Proofs.Pattern.Match

/-!
# The texts that the default patterns accept

Both default patterns are anchored at both ends, so they judge whole texts, and their
classes bound the characters of the texts that they accept.

* `accepts_identifier_iff`: identifiers are the names with word characters at both ends, word
  characters and dots between them, and no digit at the front.
* `accepts_constant`: word characters, dots, parentheses and blanks.
-/

namespace SqlTemplate.Pattern

open Text Regex

/-! ## Anchored patterns -/

/-- An expression between two anchors matches a whole text if it matches any part. -/
theorem matches_of_anchored {inner : Regex} {text : List Char}
    (hend : ∀ s e w, Matches s e inner w → e = true)
    (h : MatchesIn true (.seq .start inner) text) : Matches true true (.seq .start inner) text := by
  obtain ⟨before, w, after, rfl, hmatch⟩ := h
  have hbefore : before = [] := by simpa using hmatch.atStart
  have hafter : after = [] := by
    obtain ⟨_, _, hinner⟩ := hmatch.last
    simpa using hend _ _ _ hinner
  subst hbefore
  subst hafter
  simpa using hmatch

theorem matches_identifier_iff {text : String} : identifier.accepts text = true ↔
    Matches true true identifier.expression text.toList := by
  refine search_iff.trans ⟨matches_of_anchored fun s e w hmatch => ?_, fun hmatch => ?_⟩
  · obtain ⟨_, _, htail⟩ := hmatch.last
    obtain ⟨_, _, hfinish⟩ := htail.last
    exact (matches_finish hfinish).1
  · exact ⟨[], text.toList, [], by simp, hmatch⟩

theorem matches_constant {text : String} (h : constant.accepts text = true) :
    Matches true true constant.expression text.toList := by
  refine matches_of_anchored (fun s e w hmatch => ?_) (search_iff.mp h)
  obtain ⟨_, _, htail⟩ := hmatch.last
  obtain ⟨_, _, htail⟩ := htail.last
  obtain ⟨_, _, htail⟩ := htail.last
  obtain ⟨_, _, hfinish⟩ := htail.last
  exact (matches_finish hfinish).1

/-! ## Characters -/

section Classes

variable {c : Char}

theorem holds_single {d : Char} : (⟨false, [.range d d]⟩ : CharSet).holds c = true ↔ c = d := by
  simp only [CharSet.holds, ClassItem.holds, List.any_cons, List.any_nil, Bool.or_false,
    Bool.bne_false, Bool.and_eq_true, decide_eq_true_eq]
  constructor
  · intro hboth
    obtain ⟨hle, hge⟩ := hboth
    exact Char.le_antisymm hge hle
  · intro hsame
    subst hsame
    exact ⟨Char.le_refl _, Char.le_refl _⟩

theorem holds_wordStart : (⟨true, [.word true, .digit false]⟩ : CharSet).holds c = true ↔
    isPatternWord c = true ∧ isPatternDigit c = false := by
  simp [CharSet.holds, ClassItem.holds]

theorem holds_wordPart :
    (⟨false, [.word false]⟩ : CharSet).holds c = true ↔ isPatternWord c = true := by
  simp [CharSet.holds, ClassItem.holds]

theorem holds_dottedPart : (⟨false, [.word false, .range '.' '.']⟩ : CharSet).holds c = true ↔
    isPatternWord c = true ∨ c = '.' := by
  have hdot : ('.' ≤ c ∧ c ≤ '.') ↔ c = '.' :=
    ⟨fun hboth => Char.le_antisymm hboth.2 hboth.1, fun hsame => by simp [hsame]⟩
  simp [CharSet.holds, ClassItem.holds, hdot]

theorem space_of_holds_blank (h : (⟨false, [.space false]⟩ : CharSet).holds c = true) :
    isWhiteSpace c = true := by
  simpa [CharSet.holds, ClassItem.holds] using h

end Classes

/-! ## The two languages -/

/-- Word characters and dots, with a word character at both ends and no digit at the front. -/
structure IsDottedName (name : List Char) : Prop where
  first : ∃ c, name.head? = some c ∧ isPatternWord c = true ∧ isPatternDigit c = false
  last : ∃ c, name.getLast? = some c ∧ isPatternWord c = true
  chars : ∀ c ∈ name, isPatternWord c = true ∨ c = '.'

/-- The expression of identifiers, part by part. -/
theorem matches_identifier_parts {name : List Char} :
    Matches true true identifier.expression name ↔
      ∃ c rest, name = c :: rest ∧ (isPatternWord c = true ∧ isPatternDigit c = false) ∧
        (rest = [] ∨ ∃ middle d, rest = middle ++ [d] ∧
          (∀ b ∈ middle, isPatternWord b = true ∨ b = '.') ∧ isPatternWord d = true) := by
  show Matches true true (.seq .start (.seq wordStart (.seq
    (.between (.seq (.between dottedPart 0 none) wordPart) 0 (some 1)) .finish))) name ↔ _
  simp only [matches_start_seq_iff, @matches_seq_iff _ _ _ wordStart, matches_seq_finish_iff,
    matches_between_zero_one_iff, @matches_seq_iff _ _ _ _ wordPart]
  simp only [wordStart, dottedPart, wordPart, matches_one_iff, matches_between_zero_none_iff,
    holds_wordStart, holds_dottedPart, holds_wordPart]
  constructor
  · rintro ⟨_, rest, rfl, ⟨c, rfl, hfirst⟩, hrest⟩
    refine ⟨c, rest, rfl, hfirst, hrest.imp_right ?_⟩
    rintro ⟨middle, _, hparts, hmiddle, d, rfl, hlast⟩
    exact ⟨middle, d, hparts, hmiddle, hlast⟩
  · rintro ⟨c, rest, rfl, hfirst, hrest⟩
    refine ⟨[c], rest, rfl, ⟨c, rfl, hfirst⟩, hrest.imp_right ?_⟩
    rintro ⟨middle, d, hparts, hmiddle, hlast⟩
    exact ⟨middle, [d], hparts, hmiddle, d, rfl, hlast⟩

/-- The pattern of identifiers accepts the dotted names. -/
theorem accepts_identifier_iff {text : String} :
    identifier.accepts text = true ↔ IsDottedName text.toList := by
  rw [matches_identifier_iff, matches_identifier_parts]
  constructor
  · rintro ⟨c, rest, hname, hfirst, hrest⟩
    rw [hname]
    rcases hrest with rfl | ⟨middle, d, rfl, hmiddle, hlast⟩
    · refine ⟨⟨c, rfl, hfirst⟩, ⟨c, rfl, hfirst.1⟩, ?_⟩
      exact List.forall_mem_singleton.mpr (Or.inl hfirst.1)
    · refine ⟨⟨c, rfl, hfirst⟩, ⟨d, by rw [← List.cons_append, List.getLast?_concat], hlast⟩, ?_⟩
      refine List.forall_mem_cons.mpr ⟨Or.inl hfirst.1, List.forall_mem_append.mpr ⟨hmiddle, ?_⟩⟩
      exact List.forall_mem_singleton.mpr (Or.inl hlast)
  · rintro ⟨⟨c, hhead, hfirst⟩, ⟨d, hend, hlast⟩, hchars⟩
    obtain ⟨rest, hname⟩ := List.head?_eq_some_iff.mp hhead
    refine ⟨c, rest, hname, hfirst, ?_⟩
    rcases List.eq_nil_or_concat rest with hnil | ⟨middle, b, hrest⟩
    · exact Or.inl hnil
    · rw [List.concat_eq_append] at hrest
      rw [hname, hrest] at hend hchars
      refine Or.inr ⟨middle, b, hrest, fun a ha => hchars a (by simp [ha]), ?_⟩
      rw [← List.cons_append, List.getLast?_concat] at hend
      rwa [Option.some.inj hend]

/-- An identifier has word characters and dots only. -/
theorem accepts_identifier {text : String} (h : identifier.accepts text = true) :
    ∀ c ∈ text.toList, isPatternWord c = true ∨ c = '.' :=
  (accepts_identifier_iff.mp h).chars

/-- A constant has word characters, blanks, dots and parentheses only. -/
theorem accepts_constant {text : String} (h : constant.accepts text = true) :
    ∀ c ∈ text.toList, isPatternWord c = true ∨ isWhiteSpace c = true ∨
      c = '.' ∨ c = '(' ∨ c = ')' := by
  intro c hc
  obtain ⟨set, hmem, hset⟩ := (matches_constant h).sets c hc
  have hsubset : constant.expression.sets ⊆ [⟨true, [.word true, .digit false]⟩,
      ⟨false, [.word false, .range '.' '.']⟩, ⟨false, [.range '(' '(']⟩,
      ⟨false, [.range ')' ')']⟩, ⟨false, [.space false]⟩] := by decide
  have hsets := hsubset hmem
  simp only [List.mem_cons, List.not_mem_nil, or_false] at hsets
  rcases hsets with rfl | rfl | rfl | rfl | rfl
  · exact Or.inl (holds_wordStart.mp hset).1
  · rcases holds_dottedPart.mp hset with hword | hdot
    · exact Or.inl hword
    · exact Or.inr (Or.inr (Or.inl hdot))
  · exact Or.inr (Or.inr (Or.inr (Or.inl (holds_single.mp hset))))
  · exact Or.inr (Or.inr (Or.inr (Or.inr (holds_single.mp hset))))
  · exact Or.inr (Or.inl (space_of_holds_blank hset))

end SqlTemplate.Pattern
