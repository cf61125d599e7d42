/-!
# The characters of documents

Any character may stand in a document except the controls, of which tab, line
feed and carriage return are allowed, and the two noncharacters at the end of
the first plane.
-/

namespace VulkanRegistry.Markup

/-- Whether a character may stand in a document, in person or by reference. -/
def isDocumentCharacter (c : Char) : Bool :=
  (0x20 ≤ c.toNat || c == '\t' || c == '\n' || c == '\r') && c.toNat != 0xFFFE
    && c.toNat != 0xFFFF

/-- Whether a character separates the parts of a tag. -/
def isSpace (c : Char) : Bool :=
  c == ' ' || c == '\t' || c == '\n' || c == '\r'

/-- A text in which each line end, of whichever form, is one line feed. -/
def normalizeLineEnds : List Char → List Char
  | '\r' :: '\n' :: rest => '\n' :: normalizeLineEnds rest
  | '\r' :: rest => '\n' :: normalizeLineEnds rest
  | c :: rest => c :: normalizeLineEnds rest
  | [] => []

end VulkanRegistry.Markup
