import SqlTemplate.Placeholder
import SqlTemplate.Proofs.Literal
import SqlTemplate.Proofs.Rendering

/-!
# Texts in quotes

The types that take any text write it between single quotes, and whoever reads a literal there
gets the text back, whatever it is and whatever is written behind it.

* `LiteralRule.readLiteral` reads a literal with its quotes, and `readLiteral_literal` reads back
  what a configuration writes.
* `quotes_of_text_mem` says which types have the codes of texts in quotes, and
  `assign_of_quotes` what an assignment of a text to a placeholder of such a type binds.
* `Placeholder.readLiteral_of_assign` puts the two together.
-/

namespace SqlTemplate

open Text Sql

/-! ## Reading a literal with its quotes -/

namespace Sql.LiteralRule

/-- Reads a literal at the start of a text: the text that it stands for, and what follows it. -/
def readLiteral (rule : LiteralRule) : List Char → Option (List Char × List Char)
  | '\'' :: rest => rule.read rest
  | _ => none

theorem readLiteral_literal (rule : LiteralRule) (raw rest : String)
    (hrest : rest.toList.head? ≠ some '\'') :
    rule.readLiteral ("'" ++ rule.escape raw ++ "'" ++ rest).toList =
      some (raw.toList, rest.toList) := by
  have hwritten : ("'" ++ rule.escape raw ++ "'" ++ rest).toList =
      '\'' :: ((rule.escape raw).toList ++ '\'' :: rest.toList) := by
    simp
  rw [hwritten]
  exact rule.read_escape raw hrest

end Sql.LiteralRule

/-! ## Types that quote texts -/

namespace SlotType

/-- The type writes a text as a literal. -/
inductive Quotes : SlotType → Prop where
  | any (nullable : Bool) : Quotes (.any nullable)
  | text (strict nullable : Bool) : Quotes (.scalar .text strict nullable)

instance (type : SlotType) : Decidable type.Quotes :=
  match type with
  | .any nullable => isTrue (.any nullable)
  | .scalar .text strict nullable => isTrue (.text strict nullable)
  | .scalar .integer _ _ | .scalar .unsigned _ _ | .scalar .natural _ _ | .scalar .double _ _
  | .scalar .boolean _ _ | .constant _ | .raw | .identifier _ | .list _ | .pairs _ _ | .keys _
  | .values _ | .flag => isFalse nofun

theorem Quotes.needsArray {type : SlotType} (h : type.Quotes) : type.needsArray = false := by
  cases h <;> rfl

theorem quotes_of_text_mem {type : SlotType}
    (h : type.text ∈ [":", "?", ":s", ":S", "?s", "?S"]) : type.Quotes := by
  have heach : ∀ type ∈ all, type.text ∈ [":", "?", ":s", ":S", "?s", "?S"] → type.Quotes := by
    decide +kernel
  exact heach type (mem_all type) h

end SlotType

theorem coerceScalar_of_quotes (config : Config) {type : SlotType} (h : type.Quotes)
    (raw : String) : coerceScalar config type (.text raw) = .ok (some (config.literal raw)) := by
  cases h with
  | any nullable => cases nullable <;> rfl
  | text strict nullable => cases strict <;> cases nullable <;> rfl

/-- An assignment of a text binds its literal, also when suppliers are asked for the text. -/
theorem Placeholder.assign_of_quotes {config : Config} {placeholder : Placeholder}
    (h : placeholder.type.Quotes) {value : Value} {log after : CallLog} {raw : String}
    (hvalue : value.resolve log = (.scalar (.text raw), after)) :
    placeholder.assign config value log =
      ((.ok (), { placeholder with value := some (config.literal raw) }), after) := by
  refine assign_of_ok ?_
  rw [coerce_resolve config placeholder.type hvalue]
  simp only [Resolved.toValue, coerce_scalar, h.needsArray, Bool.false_and, Bool.false_eq_true,
    if_false, coerceScalar_of_quotes config h]
  rfl

/-- The literal of a text is read back as the text and leaves what follows it, and it is what the
types of texts in quotes bind. -/
theorem Placeholder.readLiteral_of_assign (rule : LiteralRule) (raw : String) :
    let quoted := "'" ++ rule.escape raw ++ "'"
    (∀ rest : String, rest.toList.head? ≠ some '\'' →
      rule.readLiteral (quoted ++ rest).toList = some (raw.toList, rest.toList)) ∧
    ∀ config : Config, config.escape = rule.escape →
      ∀ placeholder : Placeholder,
        placeholder.type.text ∈ [":", "?", ":s", ":S", "?s", "?S"] →
        ∀ value log after, value.resolve log = (.scalar (.text raw), after) →
          placeholder.assign config value log =
            ((.ok (), { placeholder with value := some quoted }), after) := by
  intro quoted
  refine ⟨fun rest hrest => rule.readLiteral_literal raw rest hrest, ?_⟩
  intro config hconfig placeholder htype value log after hvalue
  rw [assign_of_quotes (SlotType.quotes_of_text_mem htype) hvalue, Config.literal, hconfig]

/-- A text that ends with a backslash before a quote, and a text behind its literal that would go
on if the literal were left open. -/
theorem Placeholder.readLiteral_of_assign_backslash :
    let raw := "\\' \x00\\'"
    let rest := " OR '1'='1'"
    let quoted := "'\\\\\\' \\0\\\\\\''"
    let placeholder := Placeholder.new (.name "text") (.scalar .text true true) false
    rest.toList.head? ≠ some '\'' ∧
      LiteralRule.backslashed.readLiteral (quoted ++ rest).toList =
        some (raw.toList, rest.toList) ∧
      placeholder.assign (Config.ofDialect .mysql) (.scalar (.text raw)) [] =
        ((.ok (), { placeholder with value := some quoted }), []) := by
  intro raw rest quoted placeholder
  have hquoted : quoted = "'" ++ LiteralRule.backslashed.escape raw ++ "'" := by decide
  have hrest : rest.toList.head? ≠ some '\'' := by decide
  obtain ⟨hread, hassign⟩ := readLiteral_of_assign .backslashed raw
  rw [← hquoted] at hread hassign
  exact ⟨hrest, hread rest hrest,
    hassign (Config.ofDialect .mysql) rfl placeholder (by decide) _ [] [] rfl⟩

end SqlTemplate
