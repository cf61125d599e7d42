import VulkanRegistry.Markup.Element

/-!
# Readers of documents

A reader makes an element of the content of a file, or says why it cannot.  What
a content is, and which contents are documents, is up to the reader.
-/

namespace VulkanRegistry.Markup

/-- Why a content cannot be read as a document, in the reader's own words. -/
inductive ReadError where
  /-- The content is no well-formed document. -/
  | malformed (complaint : String)
  /-- The document declares an encoding that there is not. -/
  | unknownEncoding (complaint : String)
  /-- The document declares an encoding that documents cannot be read in. -/
  | unusableEncoding (complaint : String)
  deriving DecidableEq, Repr

/-- The words of a reader about a content that it cannot read. -/
def ReadError.complaint : ReadError → String
  | malformed complaint => complaint
  | unknownEncoding complaint => complaint
  | unusableEncoding complaint => complaint

/-- What reads contents as documents. -/
abbrev Reader (Content : Type) :=
  Content → Except ReadError Element

end VulkanRegistry.Markup
