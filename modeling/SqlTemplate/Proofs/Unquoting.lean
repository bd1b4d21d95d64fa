import Mathlib.Data.List.Basic
import SqlTemplate.Proofs.Identifier

/-!
# Taking the quotes off a name

A quoted name has quotes around each part of the name.  Going the other way, the quotes are taken
off part by part, and a part with a quote inside of it is refused, because it would end there for
whoever reads it.

* `nameParts_quoteIdentifier`: quotes without dots leave the parts of a name where they are.
* `quoteChar_notMem_nameParts`: the parts of an accepted name have no quotes in them.
* `Config.unquoted_quoteIdentifier`: so an accepted name comes back when it is quoted and the
  quotes are taken off again.
-/

namespace SqlTemplate

open Text

/-! ## Parts put together -/

theorem intercalate_nameParts (name : String) : ".".intercalate (nameParts name) = name := by
  have hparts : (nameParts name).map String.toList = name.toList.splitOn '.' := by
    simp [nameParts, Function.comp_def]
  rw [← String.toList_inj, String.toList_intercalate, hparts]
  exact List.intercalate_splitOn '.'

/-- Parts without dots are found again when they are put together. -/
theorem nameParts_intercalate {parts : List String} (hne : parts ≠ [])
    (h : ∀ part ∈ parts, '.' ∉ part.toList) : nameParts (".".intercalate parts) = parts := by
  have hsplit : (['.'].intercalate (parts.map String.toList)).splitOn '.' =
      parts.map String.toList :=
    List.splitOn_intercalate '.' (List.forall_mem_map.mpr h) (by simpa using hne)
  rw [nameParts, String.toList_intercalate, show ".".toList = ['.'] from rfl, hsplit, List.map_map]
  simp [Function.comp_def]

theorem nameParts_ne_nil (name : String) : nameParts name ≠ [] := by
  simp [nameParts]

theorem dot_notMem_of_mem_nameParts {name part : String} (h : part ∈ nameParts name) :
    '.' ∉ part.toList := by
  obtain ⟨chars, hchars, rfl⟩ := List.mem_map.mp h
  rw [String.toList_ofList]
  exact fun hdot => (mem_of_mem_splitOn hchars '.' hdot).2 rfl

theorem mapM_map_eq_some {α β : Type} {change : α → β} {undo : β → Option α} {items : List α}
    (h : ∀ item ∈ items, undo (change item) = some item) :
    (items.map change).mapM undo = some items := by
  induction items with
  | nil => rfl
  | cons item rest ih =>
    rw [List.forall_mem_cons] at h
    rw [List.map_cons, List.mapM_cons, h.1, ih h.2]
    rfl

/-! ## Quotes around parts -/

namespace Config

/-- The characters of the quotes. -/
def quoteChars (config : Config) : List Char :=
  config.startQuote.toList ++ config.endQuote.toList

/-- A part without the quotes around it.  There must be quotes on both sides, and none between. -/
def unquotedPart? (config : Config) (part : String) : Option String := do
  let behind ← part.toList.dropPrefix? config.startQuote.toList
  let between ← behind.dropSuffix? config.endQuote.toList
  if between.any config.quoteChars.contains then none else some (String.ofList between)

/-- A name without the quotes around its parts. -/
def unquoted? (config : Config) (text : String) : Option String :=
  ((nameParts text).mapM config.unquotedPart?).map fun parts => ".".intercalate parts

variable {config : Config} {name : String}

theorem unquotedPart?_quotePart {part : String} (h : ∀ c ∈ part.toList, c ∉ config.quoteChars) :
    config.unquotedPart? (config.quotePart part) = some part := by
  have hstart : (config.quotePart part).toList.dropPrefix? config.startQuote.toList =
      some (part.toList ++ config.endQuote.toList) := by
    rw [quotePart, String.toList_append, String.toList_append, List.append_assoc]
    exact List.dropPrefix?_append_of_beq _ (beq_self_eq_true _)
  have hfinish : (part.toList ++ config.endQuote.toList).dropSuffix? config.endQuote.toList =
      some part.toList :=
    List.dropSuffix?_eq_some_iff.mpr ⟨_, rfl, beq_self_eq_true _⟩
  have hbetween : part.toList.any config.quoteChars.contains = false := by
    rw [List.any_eq_false]
    exact fun c hc hquote => h c hc (List.contains_iff_mem.mp hquote)
  simp only [unquotedPart?, hstart, hfinish, hbetween, Option.bind_eq_bind, Option.bind_some,
    Bool.false_eq_true, if_false, String.ofList_toList]

/-- Quotes without dots leave the parts of a name where they are. -/
theorem nameParts_quoteIdentifier (h : '.' ∉ config.quoteChars) (name : String) :
    nameParts (config.quoteIdentifier name) = (nameParts name).map config.quotePart := by
  rw [quoteChars, List.mem_append, not_or] at h
  rw [quoteIdentifier_eq]
  refine nameParts_intercalate (by simpa using nameParts_ne_nil name) ?_
  refine List.forall_mem_map.mpr fun part hpart => ?_
  have hdot := dot_notMem_of_mem_nameParts hpart
  simp [quotePart, h, hdot]

/-- The parts of an accepted name have no quotes in them that are not words themselves. -/
theorem quoteChar_notMem_nameParts (hquantifier : config.quantifier = .identifier)
    (haccepted : config.isQuantifier name = true)
    (hquotes : ∀ c ∈ config.quoteChars, isPatternWord c = false) :
    ∀ part ∈ nameParts name, ∀ c ∈ part.toList, c ∉ config.quoteChars := by
  rw [isQuantifier, hquantifier, Pattern.accepts_identifier_iff] at haccepted
  intro part hpart c hc hquote
  have hword := (hasParts_of_dotted haccepted).words part hpart c hc
  rw [hquotes c hquote] at hword
  cases hword

/-- A quoted name is the parts of the name between the dots, each of them between the quotes, with
dots between them, whatever the quotes are.  With the pattern of a new configuration, and with
quotes that have no words and no dots in them, no part of an accepted name has a quote in it, and
the name comes back when the quotes are taken off the parts of the quoted name. -/
theorem unquoted_quoteIdentifier (config : Config) (name : String) :
    config.quoteIdentifier name = ".".intercalate ((nameParts name).map config.quotePart) ∧
      (config.quantifier = .identifier → config.isQuantifier name = true →
        (∀ c ∈ config.quoteChars, isPatternWord c = false ∧ c ≠ '.') →
        (∀ part ∈ nameParts name, ∀ c ∈ part.toList, c ∉ config.quoteChars) ∧
          config.unquoted? (config.quoteIdentifier name) = some name) := by
  refine ⟨config.quoteIdentifier_eq name, fun hquantifier haccepted hquotes => ?_⟩
  have hparts := quoteChar_notMem_nameParts hquantifier haccepted fun c hc => (hquotes c hc).1
  have hdot : '.' ∉ config.quoteChars := fun hmem => (hquotes '.' hmem).2 rfl
  refine ⟨hparts, ?_⟩
  rw [unquoted?, nameParts_quoteIdentifier hdot,
    mapM_map_eq_some fun part hpart => unquotedPart?_quotePart (hparts part hpart),
    Option.map_some, intercalate_nameParts]

/-- A name in which two dots are next to each other, between two different quotes. -/
theorem unquoted_quoteIdentifier_empty_part :
    let config := (Config.new escapeStandard).withQuotes "[]"
    config.isQuantifier "имя..c2" = true ∧ config.quoteIdentifier "имя..c2" = "[имя].[].[c2]" ∧
      (∀ part ∈ nameParts "имя..c2", ∀ c ∈ part.toList, c ∉ config.quoteChars) ∧
      config.unquoted? "[имя].[].[c2]" = some "имя..c2" := by
  intro config
  have haccepted : config.isQuantifier "имя..c2" = true := by decide +kernel
  have hquoted : config.quoteIdentifier "имя..c2" = "[имя].[].[c2]" := by decide +kernel
  have hwords : isPatternWord '[' = false ∧ isPatternWord ']' = false := by decide +kernel
  have hchars : config.quoteChars = ['[', ']'] := by decide +kernel
  have hquotes : ∀ c ∈ config.quoteChars, isPatternWord c = false ∧ c ≠ '.' := by
    rw [hchars, List.forall_mem_cons, List.forall_mem_singleton]
    exact ⟨⟨hwords.1, by decide⟩, hwords.2, by decide⟩
  obtain ⟨hparts, hback⟩ := (unquoted_quoteIdentifier config "имя..c2").2 rfl haccepted hquotes
  rw [hquoted] at hback
  exact ⟨haccepted, hquoted, hparts, hback⟩

end Config

end SqlTemplate
