import SqlTemplate.Pattern

/-!
# What a pattern matches

The search of `Pattern.Regex` holds residuals and looks at the text one character at a
time.  `Matches` says what an expression matches without any of that, and the search is
shown to decide it.

* `Matches atStart atEnd r w`: the expression `r` matches all of `w`, where `w` begins at
  the beginning of the whole text if `atStart` is set and ends at its end if `atEnd` is.
* `matchesEmpty_iff`, `matches_of_residual` and `exists_residual` are the facts about one
  step, for the empty text and for a first character.
* `searchFrom_iff` and `search_iff`: a search succeeds if and only if the expression
  matches some part of the text.
* `Matches.atStart` and `Matches.last` peel an anchored expression, and `Matches.sets` says
  that every character of a match belongs to a class of the expression.
* `matches_seq_iff` and the lemmas after it say what an expression matches in terms of its parts.
-/

namespace SqlTemplate.Regex

/-- The expression matches the text, which begins at the beginning of the whole text, or
ends at its end, as the two flags say. -/
inductive Matches : (atStart atEnd : Bool) → Regex → List Char → Prop where
  | empty {s e : Bool} : Matches s e .empty []
  | start {e : Bool} : Matches true e .start []
  | finish {s : Bool} : Matches s true .finish []
  | one {s e : Bool} {set : CharSet} {c : Char} (h : set.holds c = true) :
      Matches s e (.one set) [c]
  | seq {s e : Bool} {first second : Regex} {w v : List Char}
      (hfirst : Matches s (e && v.isEmpty) first w)
      (hsecond : Matches (s && w.isEmpty) e second v) :
      Matches s e (.seq first second) (w ++ v)
  | altLeft {s e : Bool} {left right : Regex} {w : List Char} (h : Matches s e left w) :
      Matches s e (.alt left right) w
  | altRight {s e : Bool} {left right : Regex} {w : List Char} (h : Matches s e right w) :
      Matches s e (.alt left right) w
  | starNil {s e : Bool} {body : Regex} : Matches s e (.star body) []
  | starCons {s e : Bool} {body : Regex} {w v : List Char}
      (hbody : Matches s (e && v.isEmpty) body w)
      (hrest : Matches (s && w.isEmpty) e (.star body) v) :
      Matches s e (.star body) (w ++ v)

/-! ## One step -/

/-- The empty text is matched exactly where `matchesEmpty` says so. -/
theorem matchesEmpty_iff {s e : Bool} {r : Regex} :
    r.matchesEmpty s e = true ↔ Matches s e r [] := by
  constructor
  · intro h
    induction r with
    | empty => exact .empty
    | start =>
      cases s with
      | true => exact .start
      | false => cases h
    | finish =>
      cases e with
      | true => exact .finish
      | false => cases h
    | one set => cases h
    | seq first second ihFirst ihSecond =>
      simp only [matchesEmpty, Bool.and_eq_true] at h
      have hfirst : Matches s (e && ([] : List Char).isEmpty) first [] := by
        simpa using ihFirst h.1
      have hsecond : Matches (s && ([] : List Char).isEmpty) e second [] := by
        simpa using ihSecond h.2
      exact .seq hfirst hsecond
    | alt left right ihLeft ihRight =>
      simp only [matchesEmpty, Bool.or_eq_true] at h
      rcases h with hleft | hright
      · exact .altLeft (ihLeft hleft)
      · exact .altRight (ihRight hright)
    | star body _ => exact .starNil
  · intro h
    generalize hw : ([] : List Char) = w at h
    induction h with
    | empty | start | finish | starNil => rfl
    | one => cases hw
    | seq _ _ ihFirst ihSecond =>
      obtain ⟨rfl, rfl⟩ := List.append_eq_nil_iff.mp hw.symm
      have hfirst := ihFirst rfl
      have hsecond := ihSecond rfl
      rw [List.isEmpty_nil, Bool.and_true] at hfirst hsecond
      rw [matchesEmpty, hfirst, hsecond]
      rfl
    | altLeft _ ih => simp [matchesEmpty, ih hw]
    | altRight _ ih => simp [matchesEmpty, ih hw]
    | starCons => rfl

/-- A match of a residual is a match of the expression without its first character. -/
theorem matches_of_residual {s e : Bool} {c : Char} {r rest : Regex} {w : List Char}
    (hmem : rest ∈ r.residuals s c) (h : Matches false e rest w) : Matches s e r (c :: w) := by
  induction r generalizing rest w e with
  | empty | start | finish => cases hmem
  | one set =>
    rw [residuals] at hmem
    split at hmem
    · rename_i hset
      obtain rfl := List.mem_singleton.mp hmem
      cases h
      exact .one hset
    · cases hmem
  | seq first second ihFirst ihSecond =>
    rw [residuals, List.mem_append] at hmem
    rcases hmem with hleft | hright
    · obtain ⟨inner, hinner, rfl⟩ := List.mem_map.mp hleft
      cases h with
      | @seq _ _ _ _ u v hfirst hsecond =>
        have hwhole := ihFirst hinner hfirst
        have hafter : Matches (s && (c :: u).isEmpty) e second v := by
          simpa using hsecond
        exact .seq hwhole hafter
    · split at hright
      · rename_i hempty
        have hfirst : Matches s (e && (c :: w).isEmpty) first [] := by
          simpa using matchesEmpty_iff.mp hempty
        have hsecond : Matches (s && ([] : List Char).isEmpty) e second (c :: w) := by
          simpa using ihSecond hright h
        exact .seq hfirst hsecond
      · cases hright
  | alt left right ihLeft ihRight =>
    rw [residuals, List.mem_append] at hmem
    rcases hmem with hleft | hright
    · exact .altLeft (ihLeft hleft h)
    · exact .altRight (ihRight hright h)
  | star body ih =>
    rw [residuals] at hmem
    obtain ⟨inner, hinner, rfl⟩ := List.mem_map.mp hmem
    cases h with
    | @seq _ _ _ _ u v hfirst hsecond =>
      have hwhole := ih hinner hfirst
      have hafter : Matches (s && (c :: u).isEmpty) e (.star body) v := by
        simpa using hsecond
      exact .starCons hwhole hafter

/-- A match that begins with a character leaves a residual that matches what is left. -/
theorem exists_residual {s e : Bool} {c : Char} {r : Regex} {w : List Char}
    (h : Matches s e r (c :: w)) : ∃ rest ∈ r.residuals s c, Matches false e rest w := by
  generalize hcw : c :: w = text at h
  induction h generalizing c w with
  | empty | start | finish | starNil => cases hcw
  | one hset =>
    cases hcw
    exact ⟨.empty, by simp [residuals, hset], .empty⟩
  | @seq s e first second u v hfirst hsecond ihFirst ihSecond =>
    cases u with
    | nil =>
      -- The first part took nothing, so the character is the first one of the second part.
      cases hcw
      obtain ⟨rest, hrest, hmatch⟩ := ihSecond rfl
      have hempty : first.matchesEmpty s false = true := by
        rw [matchesEmpty_iff]
        simpa using hfirst
      refine ⟨rest, ?_, hmatch⟩
      rw [residuals, if_pos hempty, List.mem_append]
      exact Or.inr (by simpa using hrest)
    | cons d u =>
      cases hcw
      obtain ⟨rest, hrest, hmatch⟩ := ihFirst rfl
      refine ⟨.seq rest second, ?_, .seq hmatch (by simpa using hsecond)⟩
      rw [residuals, List.mem_append]
      exact Or.inl (List.mem_map.mpr ⟨rest, hrest, rfl⟩)
  | altLeft _ ih =>
    obtain ⟨rest, hrest, hmatch⟩ := ih hcw
    exact ⟨rest, by simp [residuals, hrest], hmatch⟩
  | altRight _ ih =>
    obtain ⟨rest, hrest, hmatch⟩ := ih hcw
    exact ⟨rest, by simp [residuals, hrest], hmatch⟩
  | @starCons s e body u v hbody hrest ihBody ihRest =>
    cases u with
    | nil =>
      -- A round that took nothing is as good as no round.
      cases hcw
      simpa using ihRest rfl
    | cons d u =>
      cases hcw
      obtain ⟨rest, hmem, hmatch⟩ := ihBody rfl
      refine ⟨.seq rest (.star body), ?_, .seq hmatch (by simpa using hrest)⟩
      rw [residuals]
      exact List.mem_map.mpr ⟨rest, hmem, rfl⟩

/-! ## Searching -/

section Searching

variable {s : Bool} {r : Regex} {c : Char} {rest : List Char}

/-- A text begins with a match. -/
def MatchesFront (atStart : Bool) (r : Regex) (text : List Char) : Prop :=
  ∃ w after, text = w ++ after ∧ Matches atStart after.isEmpty r w

/-- A text can be cut into a part in front, a match, and a part behind, where the match may
begin at the beginning of the whole text only if nothing is in front. -/
def MatchesIn (atStart : Bool) (r : Regex) (text : List Char) : Prop :=
  ∃ before w after, text = before ++ w ++ after ∧
    Matches (atStart && before.isEmpty) after.isEmpty r w

theorem matchesFront_nil : MatchesFront s r [] ↔ r.matchesEmpty s true = true := by
  rw [matchesEmpty_iff]
  constructor
  · intro ⟨w, after, hcut, hmatch⟩
    obtain ⟨rfl, rfl⟩ := List.append_eq_nil_iff.mp hcut.symm
    exact hmatch
  · intro hmatch
    exact ⟨[], [], rfl, hmatch⟩

/-- A match at the front is empty, or it goes on behind its first character. -/
theorem matchesFront_cons : MatchesFront s r (c :: rest) ↔
    r.matchesEmpty s false = true ∨
      ∃ residual ∈ r.residuals s c, MatchesFront false residual rest := by
  constructor
  · intro ⟨w, after, hcut, hmatch⟩
    cases w with
    | nil =>
      obtain rfl : after = c :: rest := by simpa using hcut.symm
      exact Or.inl (matchesEmpty_iff.mpr hmatch)
    | cons d w =>
      cases hcut
      obtain ⟨residual, hmem, htail⟩ := exists_residual hmatch
      exact Or.inr ⟨residual, hmem, w, after, rfl, htail⟩
  · intro h
    rcases h with hempty | ⟨residual, hmem, w, after, rfl, htail⟩
    · exact ⟨[], c :: rest, rfl, matchesEmpty_iff.mp hempty⟩
    · exact ⟨c :: w, after, rfl, matches_of_residual hmem htail⟩

theorem matchesIn_nil : MatchesIn s r [] ↔ MatchesFront s r [] := by
  constructor
  · intro ⟨before, w, after, hcut, hmatch⟩
    obtain ⟨hfront, rfl⟩ := List.append_eq_nil_iff.mp hcut.symm
    obtain ⟨rfl, rfl⟩ := List.append_eq_nil_iff.mp hfront
    exact ⟨[], [], rfl, by simpa using hmatch⟩
  · intro ⟨w, after, hcut, hmatch⟩
    exact ⟨[], w, after, hcut, by simpa using hmatch⟩

/-- A match is at the front or begins behind the first character. -/
theorem matchesIn_cons :
    MatchesIn s r (c :: rest) ↔ MatchesFront s r (c :: rest) ∨ MatchesIn false r rest := by
  constructor
  · intro ⟨before, w, after, hcut, hmatch⟩
    cases before with
    | nil => exact Or.inl ⟨w, after, hcut, by simpa using hmatch⟩
    | cons d before =>
      cases hcut
      exact Or.inr ⟨before, w, after, rfl, by simpa using hmatch⟩
  · intro h
    rcases h with ⟨w, after, hcut, hmatch⟩ | ⟨before, w, after, rfl, hmatch⟩
    · exact ⟨[], w, after, hcut, by simpa using hmatch⟩
    · exact ⟨c :: before, w, after, rfl, by simpa using hmatch⟩

/-- A search from a place on finds what was begun earlier and is completed from here, or
what begins here or later. -/
theorem searchFrom_iff {pattern : Regex} {begun : List Regex} {text : List Char} :
    pattern.searchFrom begun s text = true ↔
      (∃ r ∈ begun, MatchesFront s r text) ∨ MatchesIn s pattern text := by
  have hcons : ∀ {others : List Regex} {p : Regex → Prop},
      (∃ r ∈ pattern :: others, p r) ↔ (∃ r ∈ others, p r) ∨ p pattern := by
    simp [or_comm]
  induction text generalizing begun s with
  | nil =>
    rw [searchFrom, List.any_eq_true, hcons, matchesIn_nil, matchesFront_nil]
    simp only [matchesFront_nil]
  | cons c rest ih =>
    -- What is empty is complete here; the others go on with their residuals.
    have hfront : (∃ r ∈ pattern :: begun, MatchesFront s r (c :: rest)) ↔
        (∃ r ∈ pattern :: begun, r.matchesEmpty s false = true) ∨
          ∃ residual ∈ ((pattern :: begun).flatMap (·.residuals s c)).eraseDups,
            MatchesFront false residual rest := by
      constructor
      · intro ⟨r, hmem, hfront⟩
        rcases matchesFront_cons.mp hfront with hempty | ⟨residual, hresidual, htail⟩
        · exact Or.inl ⟨r, hmem, hempty⟩
        · refine Or.inr ⟨residual, ?_, htail⟩
          rw [List.mem_eraseDups, List.mem_flatMap]
          exact ⟨r, hmem, hresidual⟩
      · intro h
        rcases h with ⟨r, hmem, hempty⟩ | ⟨residual, hmem, htail⟩
        · exact ⟨r, hmem, matchesFront_cons.mpr (Or.inl hempty)⟩
        · rw [List.mem_eraseDups, List.mem_flatMap] at hmem
          obtain ⟨r, hwhole, hresidual⟩ := hmem
          exact ⟨r, hwhole, matchesFront_cons.mpr (Or.inr ⟨residual, hresidual, htail⟩)⟩
    have hrest : pattern.searchFrom
        ((pattern :: begun).flatMap (·.residuals s c)).eraseDups false rest = true ↔ _ := ih
    rw [searchFrom, Bool.or_eq_true, List.any_eq_true, hrest, matchesIn_cons, ← or_assoc,
      ← or_assoc, ← hfront, hcons]

end Searching

/-- A search succeeds exactly if the expression matches some part of the text. -/
theorem search_iff {pattern : Regex} {text : List Char} :
    pattern.search text = true ↔ MatchesIn true pattern text := by
  rw [search, searchFrom_iff]
  simp

/-! ## Anchors and classes -/

theorem matches_start {s e : Bool} {w : List Char} (h : Matches s e .start w) :
    s = true ∧ w = [] := by
  cases h
  exact ⟨rfl, rfl⟩

theorem matches_finish {s e : Bool} {w : List Char} (h : Matches s e .finish w) :
    e = true ∧ w = [] := by
  cases h
  exact ⟨rfl, rfl⟩

/-- A sequence that begins with the anchor matches at the beginning only. -/
theorem Matches.atStart {s e : Bool} {rest : Regex} {w : List Char}
    (h : Matches s e (.seq .start rest) w) : s = true := by
  cases h with
  | seq hfirst _ => exact (matches_start hfirst).1

/-- The last expression of a sequence is matched at the end of what the sequence matches. -/
theorem Matches.last {s e : Bool} {first rest : Regex} {w : List Char}
    (h : Matches s e (.seq first rest) w) : ∃ t v, Matches t e rest v := by
  cases h with
  | seq _ hsecond => exact ⟨_, _, hsecond⟩

/-- The classes of an expression. -/
def sets : Regex → List CharSet
  | .empty => []
  | .start => []
  | .finish => []
  | .one set => [set]
  | .seq first second => first.sets ++ second.sets
  | .alt left right => left.sets ++ right.sets
  | .star body => body.sets

/-- Every character of a match belongs to a class of the expression. -/
theorem Matches.sets {s e : Bool} {r : Regex} {w : List Char} (h : Matches s e r w) :
    ∀ c ∈ w, ∃ set ∈ r.sets, set.holds c = true := by
  induction h with
  | empty | start | finish | starNil =>
    intro c hc
    cases hc
  | one hset =>
    intro c hc
    obtain rfl := List.mem_singleton.mp hc
    exact ⟨_, List.mem_singleton.mpr rfl, hset⟩
  | seq _ _ ihFirst ihSecond =>
    intro c hc
    rcases List.mem_append.mp hc with hw | hv
    · obtain ⟨set, hmem, hholds⟩ := ihFirst c hw
      exact ⟨set, List.mem_append_left _ hmem, hholds⟩
    · obtain ⟨set, hmem, hholds⟩ := ihSecond c hv
      exact ⟨set, List.mem_append_right _ hmem, hholds⟩
  | altLeft _ ih =>
    intro c hc
    obtain ⟨set, hmem, hholds⟩ := ih c hc
    exact ⟨set, List.mem_append_left _ hmem, hholds⟩
  | altRight _ ih =>
    intro c hc
    obtain ⟨set, hmem, hholds⟩ := ih c hc
    exact ⟨set, List.mem_append_right _ hmem, hholds⟩
  | starCons _ _ ihBody ihRest =>
    intro c hc
    rcases List.mem_append.mp hc with hw | hv
    · exact ihBody c hw
    · exact ihRest c hv

/-! ## Expression by expression -/

section Expressions

variable {s e : Bool} {w : List Char}

theorem matches_empty_iff : Matches s e .empty w ↔ w = [] := by
  constructor
  · rintro ⟨⟩
    rfl
  · rintro rfl
    exact .empty

theorem matches_one_iff {set : CharSet} :
    Matches s e (.one set) w ↔ ∃ c, w = [c] ∧ set.holds c = true := by
  constructor
  · rintro ⟨⟩
    exact ⟨_, rfl, ‹_›⟩
  · rintro ⟨c, rfl, hset⟩
    exact .one hset

theorem matches_seq_iff {first second : Regex} :
    Matches s e (.seq first second) w ↔
      ∃ u v, w = u ++ v ∧ Matches s (e && v.isEmpty) first u ∧
        Matches (s && u.isEmpty) e second v := by
  constructor
  · rintro ⟨⟩
    exact ⟨_, _, rfl, ‹_›, ‹_›⟩
  · rintro ⟨u, v, rfl, hfirst, hsecond⟩
    exact .seq hfirst hsecond

theorem matches_alt_iff {left right : Regex} :
    Matches s e (.alt left right) w ↔ Matches s e left w ∨ Matches s e right w := by
  constructor
  · rintro ⟨⟩
    · exact Or.inl ‹_›
    · exact Or.inr ‹_›
  · rintro (hleft | hright)
    · exact .altLeft hleft
    · exact .altRight hright

theorem matches_empty_seq_iff {body : Regex} :
    Matches s e (.seq .empty body) w ↔ Matches s e body w := by
  rw [matches_seq_iff]
  constructor
  · rintro ⟨u, v, rfl, hempty, hbody⟩
    obtain rfl := matches_empty_iff.mp hempty
    simpa using hbody
  · intro hbody
    exact ⟨[], w, rfl, .empty, by simpa using hbody⟩

theorem matches_seq_empty_iff {body : Regex} :
    Matches s e (.seq body .empty) w ↔ Matches s e body w := by
  rw [matches_seq_iff]
  constructor
  · rintro ⟨u, v, rfl, hbody, hempty⟩
    obtain rfl := matches_empty_iff.mp hempty
    simpa using hbody
  · intro hbody
    exact ⟨w, [], (List.append_nil w).symm, by simpa using hbody, .empty⟩

theorem matches_start_seq_iff {rest : Regex} :
    Matches true e (.seq .start rest) w ↔ Matches true e rest w := by
  rw [matches_seq_iff]
  constructor
  · rintro ⟨u, v, rfl, hstart, hrest⟩
    obtain ⟨-, rfl⟩ := matches_start hstart
    simpa using hrest
  · intro hrest
    exact ⟨[], w, rfl, .start, by simpa using hrest⟩

theorem matches_seq_finish_iff {first : Regex} :
    Matches s true (.seq first .finish) w ↔ Matches s true first w := by
  rw [matches_seq_iff]
  constructor
  · rintro ⟨u, v, rfl, hfirst, hfinish⟩
    obtain ⟨-, rfl⟩ := matches_finish hfinish
    simpa using hfirst
  · intro hfirst
    exact ⟨w, [], (List.append_nil w).symm, by simpa using hfirst, .finish⟩

/-- An expression that may be missing. -/
theorem matches_between_zero_one_iff {body : Regex} :
    Matches s e (body.between 0 (some 1)) w ↔ w = [] ∨ Matches s e body w := by
  show Matches s e (.seq .empty (.alt (.seq body .empty) .empty)) w ↔ _
  rw [matches_empty_seq_iff, matches_alt_iff, matches_seq_empty_iff, matches_empty_iff, or_comm]

/-- A class that may be repeated matches the texts of its characters. -/
theorem matches_between_zero_none_iff {set : CharSet} :
    Matches s e ((Regex.one set).between 0 none) w ↔ ∀ c ∈ w, set.holds c = true := by
  show Matches s e (.seq .empty (.star (.one set))) w ↔ _
  rw [matches_empty_seq_iff]
  constructor
  · intro hmatch c hc
    obtain ⟨other, hmem, hset⟩ := hmatch.sets c hc
    rwa [List.mem_singleton.mp hmem] at hset
  · intro hset
    induction w generalizing s with
    | nil => exact .starNil
    | cons c rest ih =>
      rw [List.forall_mem_cons] at hset
      exact .starCons (w := [c]) (.one hset.1) (ih hset.2)

end Expressions

end SqlTemplate.Regex
