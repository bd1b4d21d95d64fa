/-!
# Listings

Texts in a row with commas between them.
-/

namespace SqlTemplate.Text

/-- The texts in order, with a comma and a blank between neighbours. -/
def commaSeparated : List String → String
  | [] => ""
  | [only] => only
  | first :: rest => first ++ ", " ++ commaSeparated rest

end SqlTemplate.Text
