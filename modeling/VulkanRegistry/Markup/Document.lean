import VulkanRegistry.Markup.Declaration
import VulkanRegistry.Markup.Encoding
import VulkanRegistry.Markup.Namespace
import VulkanRegistry.Markup.Piece

/-!
# Documents

A document is one element with asides and space around it, and before it perhaps
one document type.  Its elements nest, each end tag repeats the name of the
start tag that it belongs to, and every name and reference in it can be
resolved.

Left out are document types with declarations of their own, which make a
document malformed here; references to anything but a character, which do so
too, though a declaration elsewhere may tell what they stand for; and the
encodings that are not in `Encoding.table`, each of which counts as unknown.
-/

namespace VulkanRegistry.Markup

/-- An element whose end tag has not been met: the character data before its
first child, and its children so far, latest first. -/
structure OpenElement where
  name : QualifiedName
  scope : Scope
  tag : String
  attributes : List (String × String)
  characters : List Char
  children : List Element

namespace OpenElement

/-- The element that a start tag opens in a scope. -/
def ofTag (scope : Scope) (tag : StartTag) : Option OpenElement :=
  (tag.resolve scope).map fun (inner, name, attributes) =>
    ⟨tag.name, inner, name, attributes, [], []⟩

/-- Character data counts only before the first child. -/
def addCharacters (parent : OpenElement) (characters : List Char) :
    OpenElement :=
  if parent.children.isEmpty then
    { parent with characters := parent.characters ++ characters }
  else parent

/-- Adds a child after those there are. -/
def addChild (parent : OpenElement) (child : Element) : OpenElement :=
  { parent with children := child :: parent.children }

/-- The element once it is closed. -/
def close (element : OpenElement) : Element :=
  let text :=
    if element.characters.isEmpty then none
    else some (String.ofList element.characters)
  .mk element.tag element.attributes text element.children.reverse

end OpenElement

/-- Adds a complete element to the innermost of the open elements, or ends the
document's element when none is open. -/
def place (child : Element) : List OpenElement → Sum Element (List OpenElement)
  | [] => .inl child
  | parent :: outer => .inr (parent.addChild child :: outer)

/-- The element that the pieces of its content complete, and the pieces after
it, given the open elements, innermost first. -/
def complete : List OpenElement → List Piece → Option (Element × List Piece)
  | _, [] => none
  | [], _ :: _ => none
  | current :: outer, piece :: rest =>
      match piece with
      | .aside => complete (current :: outer) rest
      | .documentType => none
      | .literal characters =>
          complete (current.addCharacters characters :: outer) rest
      | .text written =>
          match resolveReferences id written with
          | none => none
          | some characters =>
              complete (current.addCharacters characters :: outer) rest
      | .start tag =>
          match OpenElement.ofTag current.scope tag with
          | none => none
          | some opened =>
              if tag.selfClosing then
                complete (current.addChild opened.close :: outer) rest
              else complete (opened :: current :: outer) rest
      | .finish name =>
          if name = current.name then
            match place current.close outer with
            | .inl element => some (element, rest)
            | .inr outer => complete outer rest
          else none

/-- Whether a piece may stand outside the document's element. -/
def Piece.isOutside : Piece → Bool
  | .aside => true
  | .text written => written.all isSpace
  | _ => false

/-- The pieces after the document type, if one stands before the element. -/
def dropDocumentType (pieces : List Piece) : List Piece :=
  match pieces.dropWhile Piece.isOutside with
  | .documentType :: rest => rest
  | others => others

/-- The element of a document, given the document's pieces. -/
def ofPieces (pieces : List Piece) : Option Element :=
  match (dropDocumentType pieces).dropWhile Piece.isOutside with
  | .start tag :: rest => do
      let opened ← OpenElement.ofTag Scope.initial tag
      let (element, after) ←
        if tag.selfClosing then some (opened.close, rest)
        else complete [opened] rest
      guard (after.all Piece.isOutside)
      return element
  | _ => none

/-- The element of the text after a document's declaration. -/
def readBody (body : List Char) : Option Element := do
  guard (body.all isDocumentCharacter)
  ofPieces (← readPieces body)

/-- Reads a document, which may begin with a byte order mark, from the text that
its bytes are in UTF-8.  Whatever makes it malformed, the reader's words for it
are `complaint`. -/
def readDocument (complaint : String) : Reader String := fun document =>
  let text :=
    match document.toList with
    | '\uFEFF' :: rest => rest
    | text => text
  match readDeclaration (normalizeLineEnds text) with
  | none => .error (.malformed complaint)
  | some (declared, written) => do
      let encoding ← Encoding.ofName (declared.getD "utf-8")
      let body ← encoding.decode complaint written
      match readBody body with
      | none => .error (.malformed complaint)
      | some root => .ok root

end VulkanRegistry.Markup
