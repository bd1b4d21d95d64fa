import SqlTemplate.Proofs.Literal
import SqlTemplate.Text.Listing

/-!
# Splitting texts outside of literals

How the parts of a listing are found again: the text is cut at every separator that is not inside
a string literal.

* `splitOutside` cuts a text, and `intercalate_splitOutside` puts the parts together again.
* `Free` says that some characters do not stand outside of the literals of a text.
* `splitOutside_append` and `splitOutside_separator`: a text that is free of the first character
  of the separator is not cut, and a separator behind it is found.
* `splitOutside_commaSeparated`: a listing is cut into the texts that it lists.
-/

namespace SqlTemplate.Sql

open Text

/-! ## Splitting -/

/-- The parts of a text between the separators outside of its literals.  A literal that is left
open goes on to the end. -/
def splitOutside (rule : LiteralRule) (separator : List Char) : List Char → List (List Char)
  | [] => [[]]
  | c :: rest =>
      if c = '\'' then
        match _h : rule.read rest with
        | none => [c :: rest]
        | some (_, after) =>
            (splitOutside rule separator after).modifyHead
              (c :: rest.take (rest.length - after.length) ++ ·)
      else if separator.isPrefixOf (c :: rest) then
        [] :: splitOutside rule separator (rest.drop (separator.length - 1))
      else
        (splitOutside rule separator rest).modifyHead (c :: ·)
termination_by cs => cs.length
decreasing_by
  all_goals simp only [List.length_cons, List.length_drop]
  · have := LiteralRule.length_lt_of_read _h
    omega
  all_goals omega

variable {rule : LiteralRule} {separator : List Char}

@[simp] theorem splitOutside_nil : splitOutside rule separator [] = [[]] := by
  rw [splitOutside]

/-- A literal belongs to the part in which it begins. -/
theorem splitOutside_literal {literal content after : List Char}
    (h : rule.read (literal ++ after) = some (content, after)) :
    splitOutside rule separator ('\'' :: (literal ++ after)) =
      (splitOutside rule separator after).modifyHead ('\'' :: literal ++ ·) := by
  rw [splitOutside, if_pos rfl]
  split
  · rename_i hnone
    rw [hnone] at h
    cases h
  · rename_i hsome
    rw [hsome] at h
    cases h
    rw [List.length_append, Nat.add_sub_cancel, List.take_left]

theorem splitOutside_plain {c : Char} {rest : List Char} (hc : c ≠ '\'')
    (hseparator : ¬ separator <+: c :: rest) :
    splitOutside rule separator (c :: rest) =
      (splitOutside rule separator rest).modifyHead (c :: ·) := by
  rw [splitOutside, if_neg hc, if_neg (by rwa [List.isPrefixOf_iff_prefix])]

/-- A part ends where a separator begins. -/
theorem splitOutside_separator {c : Char} {others : List Char} (hc : c ≠ '\'')
    (rest : List Char) :
    splitOutside rule (c :: others) (c :: others ++ rest) =
      [] :: splitOutside rule (c :: others) rest := by
  have hprefix : (c :: others).isPrefixOf (c :: (others ++ rest)) = true :=
    List.isPrefixOf_iff_prefix.mpr (List.prefix_append (c :: others) rest)
  rw [List.cons_append, splitOutside, if_neg hc, if_pos hprefix, List.length_cons,
    Nat.add_sub_cancel, List.drop_left]

theorem splitOutside_ne_nil (text : List Char) : splitOutside rule separator text ≠ [] := by
  fun_induction splitOutside rule separator text with
  | case1 | case2 | case4 => exact List.cons_ne_nil _ _
  | case3 _ _ _ _ ih | case5 _ _ _ _ ih => simpa using ih

/-- Splitting loses nothing but the separators. -/
theorem intercalate_splitOutside (hseparator : separator ≠ []) (text : List Char) :
    separator.intercalate (splitOutside rule separator text) = text := by
  have hhead : ∀ (front : List Char) {parts : List (List Char)}, parts ≠ [] →
      separator.intercalate (parts.modifyHead (front ++ ·)) =
        front ++ separator.intercalate parts := by
    intro front parts hparts
    obtain ⟨first, others, rfl⟩ := List.exists_cons_of_ne_nil hparts
    cases others <;> simp [List.intercalate]
  fun_induction splitOutside rule separator text with
  | case1 => simp [List.intercalate]
  | case2 => simp [List.intercalate]
  | case3 rest _ after hread ih =>
    obtain ⟨literal, rfl⟩ := (List.suffix_cons _ _).trans (LiteralRule.suffix_of_read hread)
    rw [hhead _ (splitOutside_ne_nil after), ih, List.length_append, Nat.add_sub_cancel,
      List.take_left]
    rfl
  | case4 c rest _ hprefix ih =>
    obtain ⟨others, hothers⟩ := List.isPrefixOf_iff_prefix.mp hprefix
    obtain ⟨d, tail, rfl⟩ := List.exists_cons_of_ne_nil hseparator
    rw [List.cons_append] at hothers
    obtain ⟨rfl, rfl⟩ := List.cons.inj hothers
    rw [List.length_cons, Nat.add_sub_cancel, List.drop_left] at ih ⊢
    rw [List.intercalate_cons_of_ne_nil (splitOutside_ne_nil others), ih]
    rfl
  | case5 c rest _ _ ih =>
    have hrest : splitOutside rule separator rest ≠ [] := splitOutside_ne_nil rest
    have hcons := hhead [c] hrest
    rw [ih] at hcons
    exact hcons

/-! ## Texts without separators -/

/-- Read by the rule, the text ends outside of literals, and none of the characters stands
outside of them. -/
def Free (rule : LiteralRule) (chars : List Char) (text : List Char) : Prop :=
  ∃ parts, tokens rule text = some parts ∧ ∀ c ∈ chars, .plain c ∉ parts

variable {chars : List Char}

theorem Free.mono {fewer : List Char} {text : List Char} (h : Free rule chars text)
    (hsubset : fewer ⊆ chars) : Free rule fewer text := by
  obtain ⟨parts, htokens, hparts⟩ := h
  exact ⟨parts, htokens, fun c hc => hparts c (hsubset hc)⟩

theorem free_of_forall {text : List Char} (h : ∀ c ∈ text, c ≠ '\'' ∧ c ∉ chars) :
    Free rule chars text := by
  refine ⟨text.map .plain, tokens_of_forall_ne fun c hc => (h c hc).1, fun c hc hmem => ?_⟩
  obtain ⟨d, hd, hsame⟩ := List.mem_map.mp hmem
  rw [Token.plain.inj hsame] at hd
  exact (h c hd).2 hc

theorem Free.cons {c : Char} (hquote : c ≠ '\'') (hc : c ∉ chars) {text : List Char}
    (h : Free rule chars text) : Free rule chars (c :: text) := by
  obtain ⟨parts, htokens, hfree⟩ := h
  refine ⟨.plain c :: parts, by rw [tokens_plain hquote, htokens]; rfl, fun d hd hmem => ?_⟩
  rcases List.mem_cons.mp hmem with hsame | hmem
  · rw [Token.plain.inj hsame] at hd
    exact hc hd
  · exact hfree d hd hmem

/-- A literal is free of everything. -/
theorem free_of_read {content cs : List Char} (h : rule.read cs = some (content, [])) :
    Free rule chars ('\'' :: cs) := by
  refine ⟨[.literal content], ?_, by simp⟩
  rw [tokens_quote h, tokens_nil]
  rfl

theorem Free.append {first second : List Char} (hfirst : Free rule chars first)
    (hsecond : Free rule chars second) (hquote : second.head? ≠ some '\'') :
    Free rule chars (first ++ second) := by
  obtain ⟨left, hleft, hleftFree⟩ := hfirst
  obtain ⟨right, hright, hrightFree⟩ := hsecond
  refine ⟨left ++ right, tokens_append hleft hright hquote, fun c hc hmem => ?_⟩
  rcases List.mem_append.mp hmem with hmem | hmem
  · exact hleftFree c hc hmem
  · exact hrightFree c hc hmem

/-! ## Splitting listings -/

section Separated

variable {c : Char} {others : List Char}

/-- A text that is free of the character with which the separator begins stays in one part. -/
theorem splitOutside_append {text : List Char} (h : Free rule [c] text) {rest : List Char}
    (hrest : rest.head? ≠ some '\'') :
    splitOutside rule (c :: others) (text ++ rest) =
      (splitOutside rule (c :: others) rest).modifyHead (text ++ ·) := by
  have hcombine : ∀ (front back : List Char) (parts : List (List Char)),
      (parts.modifyHead (back ++ ·)).modifyHead (front ++ ·) =
        parts.modifyHead (front ++ back ++ ·) := by
    intro front back parts
    cases parts <;> simp
  obtain ⟨parts, htokens, hfree⟩ := h
  simp only [List.mem_singleton, forall_eq] at hfree
  -- The splitter and `tokens` stay at the same place: both pass over a literal in one step.
  fun_induction tokens rule text generalizing parts with
  | case1 =>
    rw [List.nil_append]
    cases splitOutside rule (c :: others) rest <;> rfl
  | case2 => cases htokens
  | case3 _ content after hread ih =>
    obtain ⟨tail, htail, rfl⟩ := Option.map_eq_some_iff.mp htokens
    obtain ⟨literal, rfl⟩ := (List.suffix_cons _ _).trans (LiteralRule.suffix_of_read hread)
    have hwhole := LiteralRule.read_append hread hrest
    rw [List.append_assoc] at hwhole
    rw [List.cons_append, List.append_assoc, splitOutside_literal hwhole,
      ih tail htail (List.not_mem_of_not_mem_cons hfree), hcombine]
    rfl
  | case4 d after hd ih =>
    obtain ⟨tail, htail, rfl⟩ := Option.map_eq_some_iff.mp htokens
    have hother : ¬ (c :: others) <+: d :: (after ++ rest) := by
      rintro ⟨_, hsame⟩
      exact List.ne_of_not_mem_cons hfree (by rw [(List.cons.inj hsame).1])
    rw [List.cons_append, splitOutside_plain hd hother,
      ih tail htail (List.not_mem_of_not_mem_cons hfree)]
    exact hcombine [d] after _

theorem splitOutside_free {text : List Char} (h : Free rule [c] text) :
    splitOutside rule (c :: others) text = [text] := by
  have hsplit : splitOutside rule (c :: others) (text ++ []) = _ :=
    splitOutside_append h (by simp)
  simpa using hsplit

/-- A separator behind a text that is free of its first character ends the first part. -/
theorem splitOutside_free_separator (hc : c ≠ '\'') {text : List Char} (h : Free rule [c] text)
    (rest : List Char) :
    splitOutside rule (c :: others) (text ++ (c :: others ++ rest)) =
      text :: splitOutside rule (c :: others) rest := by
  rw [splitOutside_append h (by simpa using hc), splitOutside_separator hc]
  simp

end Separated

/-- A listing of texts that have no comma outside of literals is cut into these texts. -/
theorem splitOutside_commaSeparated {texts : List String} (hne : texts ≠ [])
    (h : ∀ text ∈ texts, Free rule [','] text.toList) :
    splitOutside rule ", ".toList (commaSeparated texts).toList = texts.map String.toList := by
  induction texts with
  | nil => exact absurd rfl hne
  | cons first rest ih =>
    have hfirst := h first List.mem_cons_self
    cases rest with
    | nil => exact splitOutside_free hfirst
    | cons second others =>
      have htail := ih (List.cons_ne_nil _ _) fun text htext =>
        h text (List.mem_cons_of_mem _ htext)
      have hlisting : (commaSeparated (first :: second :: others)).toList =
          first.toList ++ (", ".toList ++ (commaSeparated (second :: others)).toList) := by
        simp [commaSeparated]
      rw [hlisting, List.map_cons, ← htail]
      exact splitOutside_free_separator (by decide) hfirst _

end SqlTemplate.Sql
