import SqlTemplate.Text.Unicode.Ranges

/-!
# Connectors and joiners

The ranges of the Unicode general category Connector_Punctuation and of the property
Join_Control, version 17.  Both belong inside words.
-/

namespace SqlTemplate.Text.Unicode

/-- Characters of the general category Connector_Punctuation (Pc). -/
def connectorPunctuation : Ranges := [
  (0x5F, 0x5F), (0x203F, 0x2040), (0x2054, 0x2054), (0xFE33, 0xFE34), (0xFE4D, 0xFE4F),
  (0xFF3F, 0xFF3F)]

/-- Characters with the property Join_Control. -/
def joinControl : Ranges := [
  (0x200C, 0x200D)]

end SqlTemplate.Text.Unicode
