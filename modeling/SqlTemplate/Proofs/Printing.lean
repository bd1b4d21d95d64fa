import Mathlib.Data.List.Chain
import Mathlib.Data.List.TakeWhile
import SqlTemplate.Proofs.Scanning

/-!
# Scanning undoes printing

Templates are printed item by item: markers in braces, sigils of literal texts doubled.
Scanning what was printed gives the items back.

* `Word` and `Item` are what can be printed, `Item.print` prints it, and `Item.piece` is the
  piece that an item stands for.
* `Printable` says which items can stand in a row: a text has neither a bracket nor
  anything that reads as a reference in it, and no text is next to another one.
* `braced?_literal`: a brace in a text begins no marker, whatever stands behind the text.
* `merged_scanFrom_doubled` scans a text, and `merged_scanFrom_print` any items, behind
  whatever text is still pending.
* `merged_scan_print`: the pieces of what was printed are the items.
-/

namespace SqlTemplate.Template

open Text

/-! ## Items -/

/-- Characters that can stand in a name, and at least one of them. -/
structure Word where
  chars : List Char
  ne_nil : chars ≠ []
  isWordChar_of_mem : ∀ c ∈ chars, isWordChar c = true

/-- The index that a word names. -/
def Word.index (word : Word) : Index :=
  Index.ofString (String.ofList word.chars)

/-- A part of a template that can be printed. -/
inductive Item where
  /-- Literal text. -/
  | text (content : List Char)
  /-- A marker with a code. -/
  | typed (name : Option Word) (sigil : Sigil) (letter : Option { c // c ∈ sigil.letters })
  /-- A marker without a code. -/
  | reference (name : Word)
  /-- The opening bracket. -/
  | opening
  /-- The closing bracket. -/
  | closing

/-- Text with its sigils doubled. -/
def doubled (content : List Char) : List Char :=
  content.flatMap fun c => if c = ':' ∨ c = '?' then [c, c] else [c]

namespace Item

/-- An item as it is printed between the brackets `start` and `finish`. -/
def print (start finish : Char) : Item → List Char
  | .text content => doubled content
  | .typed name sigil letter =>
      '{' :: (name.elim [] Word.chars ++
        sigil.char :: ((letter.map Subtype.val).toList ++ ['}']))
  | .reference name => '{' :: (name.chars ++ ['}'])
  | .opening => [start]
  | .closing => [finish]

/-- The piece that an item stands for. -/
def piece : Item → Piece
  | .text content => .text (String.ofList content)
  | .typed name sigil letter =>
      .marker (.typed (name.map Word.index) ⟨sigil, letter.map Subtype.val⟩)
  | .reference name => .marker (.reference name.index)
  | .opening => .opening
  | .closing => .closing

/-- Whether an item is literal text. -/
def isText : Item → Bool
  | .text _ => true
  | _ => false

end Item

/-- The brackets are two different characters, and neither is a sigil. -/
structure SingleBrackets (brackets : Brackets) (start finish : Char) : Prop where
  opening : brackets.opening = String.ofList [start]
  closing : brackets.closing = String.ofList [finish]
  ne : start ≠ finish
  start_ne : ∀ sigil : Sigil, start ≠ sigil.char
  finish_ne : ∀ sigil : Sigil, finish ≠ sigil.char

/-- A text with neither a bracket nor a word in braces in it. -/
structure IsLiteral (start finish : Char) (content : List Char) : Prop where
  ne_nil : content ≠ []
  noBracket : ∀ c ∈ content, c ≠ start ∧ c ≠ finish
  noReference : ∀ word : Word, ¬ '{' :: (word.chars ++ ['}']) <:+: content

/-- Items that can be told apart when they are printed. -/
structure Printable (start finish : Char) (items : List Item) : Prop where
  literal : ∀ content, .text content ∈ items → IsLiteral start finish content
  apart : items.IsChain fun first second => ¬ (first.isText = true ∧ second.isText = true)

/-! ## Braces in texts -/

/-- The characters do not go on with what a brace has begun. -/
def Stops (tail : List Char) : Prop :=
  ∀ c ∈ tail.head?, isWordChar c = false ∧ c ≠ '}' ∧ Sigil.ofChar? c = none

theorem ofChar?_eq_none {c : Char} : Sigil.ofChar? c = none ↔ ¬ (c = ':' ∨ c = '?') := by
  unfold Sigil.ofChar?
  split
  · rename_i hcolon
    simp [hcolon]
  · split
    · rename_i hquestion
      simp [hquestion]
    · simp_all

theorem doubled_cons_of_none {c : Char} (h : Sigil.ofChar? c = none) (content : List Char) :
    doubled (c :: content) = c :: doubled content := by
  rw [doubled, List.flatMap_cons, if_neg (ofChar?_eq_none.mp h)]
  rfl

theorem doubled_cons_sigil (sigil : Sigil) (content : List Char) :
    doubled (sigil.char :: content) = sigil.char :: sigil.char :: doubled content := by
  have hsigil : sigil.char = ':' ∨ sigil.char = '?' := by
    cases sigil <;> decide
  rw [doubled, List.flatMap_cons, if_pos hsigil]
  rfl

theorem doubled_append_of_word {word : List Char} (hword : ∀ c ∈ word, isWordChar c = true)
    (content : List Char) : doubled (word ++ content) = word ++ doubled content := by
  induction word with
  | nil => rfl
  | cons c word ih =>
    have hc := ofChar?_of_isWordChar (hword c List.mem_cons_self)
    rw [List.cons_append, doubled_cons_of_none hc,
      ih fun d hd => hword d (List.mem_cons_of_mem _ hd)]
    rfl

/-- A brace in a text begins no marker. -/
theorem braced?_literal {content tail : List Char}
    (hcontent : ∀ word : Word, ¬ word.chars ++ ['}'] <+: content) (htail : Stops tail) :
    braced? (doubled content ++ tail) = none := by
  -- The name would be the word that the text begins with.
  generalize hword : content.takeWhile isWordChar = word
  generalize hrest : content.dropWhile isWordChar = rest
  have hsplit : content = word ++ rest := by
    rw [← hword, ← hrest, List.takeWhile_append_dropWhile]
  have hchars : ∀ c ∈ word, isWordChar c = true := by
    rw [← hword]
    exact fun c hc => List.mem_takeWhile_imp hc
  rw [hsplit, doubled_append_of_word hchars, List.append_assoc]
  cases rest with
  | nil =>
    cases tail with
    | nil => simpa [doubled] using braced?_word_nil hchars
    | cons c tail =>
      obtain ⟨hc, hbrace, hsigil⟩ := htail c rfl
      show braced? (word ++ c :: tail) = none
      rw [braced?_word hchars hc, if_neg hbrace, hsigil]
      rfl
  | cons d rest =>
    have hd : isWordChar d = false := by
      have hhead := List.head?_dropWhile_not isWordChar content
      rwa [hrest] at hhead
    cases hsigil : Sigil.ofChar? d with
    | some sigil =>
      rw [← char_of_ofChar? hsigil, doubled_cons_sigil]
      exact braced?_doubled hchars sigil
    | none =>
      rw [doubled_cons_of_none hsigil, List.cons_append, braced?_word hchars hd]
      split
      · rename_i hbrace
        -- Only the empty word may be in braces.
        have hempty : word = [] := by
          by_contra hne
          refine hcontent ⟨word, hne, hchars⟩ ⟨rest, ?_⟩
          rw [hsplit, hbrace, List.append_assoc]
          rfl
        rw [hempty]
        rfl
      · rw [hsigil]
        rfl

/-! ## Scanning what was printed -/

section Scan

variable {brackets : Brackets} {start finish : Char}

theorem isReserved_eq_false {text : String} {bracket : Char} (h : isBracket text = true)
    (htext : text = String.ofList [bracket]) : isReserved bracket = false := by
  rw [htext, isBracket] at h
  simpa using h

theorem SingleBrackets.noBracket_of_ne (h : SingleBrackets brackets start finish) {c : Char}
    (hc : c ≠ start ∧ c ≠ finish) (rest : List Char) : NoBracket brackets (c :: rest) := by
  rw [NoBracket, h.opening, h.closing]
  simp [List.isPrefixOf, hc.1.symm, hc.2.symm]

theorem SingleBrackets.isReserved_start (h : SingleBrackets brackets start finish) :
    isReserved start = false :=
  isReserved_eq_false brackets.opening_isBracket h.opening

theorem SingleBrackets.isReserved_finish (h : SingleBrackets brackets start finish) :
    isReserved finish = false :=
  isReserved_eq_false brackets.closing_isBracket h.closing

theorem stops_brace (tail : List Char) : Stops ('{' :: tail) := by
  have hbrace : isWordChar '{' = false ∧ '{' ≠ '}' ∧ Sigil.ofChar? '{' = none := by
    decide +kernel
  intro c hc
  cases hc
  exact hbrace

theorem stops_bracket {bracket : Char} (hreserved : isReserved bracket = false)
    (hsigil : ∀ sigil : Sigil, bracket ≠ sigil.char) (tail : List Char) :
    Stops (bracket :: tail) := by
  intro c hc
  cases hc
  simp only [isReserved, Bool.or_eq_false_iff, beq_eq_false_iff_ne] at hreserved
  refine ⟨hreserved.1.1, hreserved.2, ?_⟩
  cases hchar : Sigil.ofChar? bracket with
  | none => rfl
  | some sigil => exact absurd (char_of_ofChar? hchar).symm (hsigil sigil)

/-- Nothing that can follow a text goes on with what a brace in the text has begun. -/
theorem SingleBrackets.stops_print (h : SingleBrackets brackets start finish) {items : List Item}
    (hitems : ∀ item ∈ items.head?, item.isText = false) :
    Stops (items.flatMap (Item.print start finish)) := by
  cases items with
  | nil => exact nofun
  | cons item items =>
    have hitem := hitems item rfl
    rw [List.flatMap_cons]
    cases item with
    | text content => cases hitem
    | typed name sigil letter => exact stops_brace _
    | reference name => exact stops_brace _
    | opening => exact stops_bracket h.isReserved_start h.start_ne _
    | closing => exact stops_bracket h.isReserved_finish h.finish_ne _

/-- A text joins the pending text and what the characters behind it are scanned as. -/
theorem merged_scanFrom_doubled (h : SingleBrackets brackets start finish)
    {content tail : List Char} {pieces : List Piece}
    (hcontent : ∀ c ∈ content, c ≠ start ∧ c ≠ finish)
    (hreference : ∀ word : Word, ¬ '{' :: (word.chars ++ ['}']) <:+: content)
    (hstops : Stops tail)
    (htail : ∀ last pending,
      merged (scanFrom brackets last pending tail) = withText pending.reverse pieces)
    (last : Option Char) (pending : List Char) :
    merged (scanFrom brackets last pending (doubled content ++ tail)) =
      withText (pending.reverse ++ content) pieces := by
  induction content generalizing last pending with
  | nil =>
    rw [List.append_nil]
    exact htail last pending
  | cons c content ih =>
    have hrest : ∀ d ∈ content, d ≠ start ∧ d ≠ finish :=
      fun d hd => hcontent d (List.mem_cons_of_mem _ hd)
    have hinfix : ∀ word : Word, ¬ '{' :: (word.chars ++ ['}']) <:+: content :=
      fun word hword => hreference word (List.infix_cons hword)
    have hnone := h.noBracket_of_ne (hcontent c List.mem_cons_self)
    cases hsigil : Sigil.ofChar? c with
    | some sigil =>
      rw [← char_of_ofChar? hsigil] at hnone ⊢
      rw [doubled_cons_sigil, List.cons_append, List.cons_append, scanFrom_doubled (hnone _),
        merged_afterText, ih hrest hinfix, ← withText_append]
      simp
    | none =>
      have hbrace : c = '{' → braced? (doubled content ++ tail) = none := by
        intro hsame
        subst hsame
        refine braced?_literal (fun word hword => hreference word ?_) hstops
        exact ((List.prefix_cons_inj '{').mpr hword).isInfix
      rw [doubled_cons_of_none hsigil, List.cons_append, scanFrom_plain (hnone _) hbrace hsigil,
        ih hrest hinfix]
      simp

/-- A marker in braces ends the pending text. -/
theorem merged_scanFrom_marker {body tail : List Char} {marker : Marker} {pieces : List Piece}
    (hbraced : braced? (body ++ tail) = some (marker, body.length))
    (htail : ∀ last pending,
      merged (scanFrom brackets last pending tail) = withText pending.reverse pieces)
    (last : Option Char) (pending : List Char) :
    merged (scanFrom brackets last pending ('{' :: (body ++ tail))) =
      withText pending.reverse (.marker marker :: pieces) := by
  have hnone : NoBracket brackets ('{' :: (body ++ tail)) :=
    noBracket_of_isReserved (by decide +kernel) _
  rw [scanFrom_braced hnone hbraced, merged_afterText, List.drop_left, merged, htail]
  rfl

theorem nameOf?_elim (name : Option Word) :
    nameOf? (name.elim [] Word.chars) = name.map Word.index := by
  cases name with
  | none => rfl
  | some word =>
    have hne : word.chars.isEmpty = false := by simpa using word.ne_nil
    show nameOf? word.chars = some word.index
    rw [nameOf?, if_neg (by simp [hne])]
    rfl

theorem braced?_print_typed (name : Option Word) (sigil : Sigil)
    (letter : Option { c // c ∈ sigil.letters }) (tail : List Char) :
    let body := name.elim [] Word.chars ++
      sigil.char :: ((letter.map Subtype.val).toList ++ ['}'])
    braced? (body ++ tail) =
      some (.typed (name.map Word.index) ⟨sigil, letter.map Subtype.val⟩, body.length) := by
  have hname : ∀ c ∈ name.elim [] Word.chars, isWordChar c = true := by
    cases name with
    | none => exact nofun
    | some word => exact word.isWordChar_of_mem
  have hletter : ∀ c ∈ letter.map Subtype.val, c ∈ sigil.letters := by
    intro c hc
    obtain ⟨⟨d, hd⟩, _, rfl⟩ := Option.map_eq_some_iff.mp hc
    exact hd
  have hbraced : braced? (name.elim [] Word.chars ++
      sigil.char :: ((letter.map Subtype.val).toList ++ '}' :: tail)) = some (_, _) :=
    braced?_typed hname sigil hletter
  intro body
  have hbody : body ++ tail = name.elim [] Word.chars ++
      sigil.char :: ((letter.map Subtype.val).toList ++ '}' :: tail) := by
    simp [body]
  have hlength : body.length = (name.elim [] Word.chars).length + 1 +
      (letter.map Subtype.val).toList.length + 1 := by
    simp only [body, List.length_append, List.length_cons, List.length_nil]
    omega
  rw [hbody, hlength, hbraced, nameOf?_elim]

theorem braced?_print_reference (name : Word) (tail : List Char) :
    braced? (name.chars ++ ['}'] ++ tail) =
      some (.reference name.index, (name.chars ++ ['}']).length) := by
  rw [List.append_assoc, List.singleton_append,
    braced?_reference name.isWordChar_of_mem name.ne_nil, List.length_append]
  rfl

theorem merged_scanFrom_start (h : SingleBrackets brackets start finish) {tail : List Char}
    {pieces : List Piece}
    (htail : ∀ last pending,
      merged (scanFrom brackets last pending tail) = withText pending.reverse pieces)
    (last : Option Char) (pending : List Char) :
    merged (scanFrom brackets last pending (start :: tail)) =
      withText pending.reverse (.opening :: pieces) := by
  have hhere : brackets.opening.toList.isPrefixOf (start :: tail) = true := by
    simp [h.opening, List.isPrefixOf]
  have hlength : brackets.opening.toList.length - 1 = 0 := by
    simp [h.opening]
  rw [scanFrom_opening hhere, merged_afterText, hlength, List.drop_zero, merged, htail]
  rfl

theorem merged_scanFrom_finish (h : SingleBrackets brackets start finish) {tail : List Char}
    {pieces : List Piece}
    (htail : ∀ last pending,
      merged (scanFrom brackets last pending tail) = withText pending.reverse pieces)
    (last : Option Char) (pending : List Char) :
    merged (scanFrom brackets last pending (finish :: tail)) =
      withText pending.reverse (.closing :: pieces) := by
  have hother : brackets.opening.toList.isPrefixOf (finish :: tail) = false := by
    simp [h.opening, List.isPrefixOf, h.ne]
  have hhere : brackets.closing.toList.isPrefixOf (finish :: tail) = true := by
    simp [h.closing, List.isPrefixOf]
  have hlength : brackets.closing.toList.length - 1 = 0 := by
    simp [h.closing]
  rw [scanFrom_closing hother hhere, merged_afterText, hlength, List.drop_zero, merged, htail]
  rfl

/-- A text in front of items that begin with no text stays a piece of its own. -/
theorem withText_map_piece {content : List Char} (hcontent : content ≠ []) {items : List Item}
    (hitems : ∀ item ∈ items.head?, item.isText = false) :
    withText content (items.map Item.piece) =
      .text (String.ofList content) :: items.map Item.piece := by
  rw [withText, if_neg hcontent]
  cases items with
  | nil => rfl
  | cons item items =>
    have hitem := hitems item rfl
    cases item with
    | text other => cases hitem
    | typed | reference | opening | closing => rfl

/-- Printed items are scanned as their pieces, whatever stands in front of them. -/
theorem merged_scanFrom_print (h : SingleBrackets brackets start finish) {items : List Item}
    (hitems : Printable start finish items) (last : Option Char) (pending : List Char) :
    merged (scanFrom brackets last pending (items.flatMap (Item.print start finish))) =
      withText pending.reverse (items.map Item.piece) := by
  induction items generalizing last pending with
  | nil =>
    rw [List.flatMap_nil, scanFrom, merged_afterText]
    rfl
  | cons item items ih =>
    have hrest : Printable start finish items :=
      ⟨fun content hmem => hitems.literal content (List.mem_cons_of_mem _ hmem),
        hitems.apart.tail⟩
    have htail := ih hrest
    rw [List.flatMap_cons, List.map_cons]
    cases item with
    | text content =>
      have hliteral := hitems.literal content List.mem_cons_self
      have hhead : ∀ next ∈ items.head?, next.isText = false := by
        intro next hnext
        have hchain := (List.isChain_cons.mp hitems.apart).1 next hnext
        simpa [Item.isText] using hchain
      rw [Item.print, merged_scanFrom_doubled h hliteral.noBracket hliteral.noReference
        (h.stops_print hhead) htail, withText_append, withText_map_piece hliteral.ne_nil hhead]
      rfl
    | typed name sigil letter =>
      rw [Item.print, List.cons_append]
      exact merged_scanFrom_marker (braced?_print_typed name sigil letter _) htail last pending
    | reference name =>
      rw [Item.print, List.cons_append]
      exact merged_scanFrom_marker (braced?_print_reference name _) htail last pending
    | opening => exact merged_scanFrom_start h htail last pending
    | closing => exact merged_scanFrom_finish h htail last pending

/-- Scanning printed items and joining the texts gives the pieces of the items. -/
theorem merged_scan_print (h : SingleBrackets brackets start finish) {items : List Item}
    (hitems : Printable start finish items) :
    merged (scan brackets (String.ofList (items.flatMap (Item.print start finish)))) =
      items.map Item.piece := by
  rw [scan, String.toList_ofList, merged_scanFrom_print h hitems]
  rfl

/-- A text with an unfinished marker in it stands next to markers. -/
theorem merged_scan_print_unfinished :
    let items : List Item :=
      [.text "a:b\x7bc:?".toList, .typed (some ⟨['x'], by decide, by simp; decide +kernel⟩) .colon
        (some ⟨'i', by decide⟩), .opening,
        .reference ⟨['0', '7'], by decide, by simp; decide +kernel⟩, .closing,
        .typed none .question none]
    let source := "a::b\x7bc::??\x7bx:i\x7d[\x7b07\x7d]\x7b?\x7d"
    String.ofList (items.flatMap (Item.print '[' ']')) = source ∧
      merged (scan .square source) = items.map Item.piece := by
  intro items source
  have hsource : String.ofList (items.flatMap (Item.print '[' ']')) = source := rfl
  have hbrackets : SingleBrackets .square '[' ']' :=
    ⟨rfl, rfl, by decide, by rintro ⟨⟩ <;> decide, by rintro ⟨⟩ <;> decide⟩
  have hitems : Printable '[' ']' items := by
    refine ⟨fun content hmem => ?_, by simp [items, Item.isText]⟩
    have hcontent : content = "a:b\x7bc:?".toList := by simpa [items] using hmem
    rw [hcontent]
    refine ⟨by decide, by simp, fun word hword => ?_⟩
    have hmem : '}' ∈ "a:b\x7bc:?".toList := hword.subset (by simp)
    revert hmem
    decide
  refine ⟨hsource, ?_⟩
  rw [← hsource]
  exact merged_scan_print hbrackets hitems

end Scan

end SqlTemplate.Template
