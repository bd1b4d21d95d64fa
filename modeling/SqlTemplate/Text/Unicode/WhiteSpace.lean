import SqlTemplate.Text.Unicode.Ranges

/-!
# White space

The ranges of the Unicode property White_Space, version 17.
-/

namespace SqlTemplate.Text.Unicode

/-- Characters with the property White_Space. -/
def whiteSpace : Ranges := [
  (0x09, 0x0D), (0x20, 0x20), (0x85, 0x85), (0xA0, 0xA0), (0x1680, 0x1680), (0x2000, 0x200A),
  (0x2028, 0x2029), (0x202F, 0x202F), (0x205F, 0x205F), (0x3000, 0x3000)]

end SqlTemplate.Text.Unicode
