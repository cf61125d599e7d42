import VulkanRegistry.Markup.Element
import VulkanRegistry.Numeral
import VulkanRegistry.Registry.Basic

/-!
# Reading a registry from its document

Only the sections that are indexed are read, whatever the root element is
called; other elements are skipped at every level.  A missing attribute reads as
the empty text unless its absence means something.  Reading fails only on a
number that is no numeral, and then on the first such number: an enumerant's
offset comes before its extension number, and the number of an extension comes
after everything within the extension.
-/

namespace VulkanRegistry

open Markup (Element)

/-- The payload of an enumerant.  Of several payload attributes the first of
value, bit position, offset and alias counts, and no number is read from the
others. -/
def Payload.ofElement (element : Element) : Except Numeral.Error Payload :=
  let target := element.get? "extends"
  match element.get? "value", element.get? "bitpos", element.get? "offset",
    element.get? "alias" with
  | some text, _, _, _ => .ok (.value text target)
  | none, some position, _, _ =>
      (Numeral.parse position).map fun position => .bit position target
  | none, none, some distance, _ => do
      let distance ← Numeral.parse distance
      let number ← Numeral.parseOptional (element.get? "extnumber")
      return .offset distance (target.getD "") number (element.getD "dir")
  | none, none, none, some aliased => .ok (.aliasOf aliased target)
  | none, none, none, none => .ok .mention

/-- The enumerant that an element declares or mentions. -/
def Enumerant.ofElement (element : Element) : Except Numeral.Error Enumerant :=
  (Payload.ofElement element).map fun payload => ⟨element.getD "name", payload⟩

/-- The item that an element of an interface block stands for, if it stands for
one. -/
def InterfaceItem.ofElement? (element : Element) :
    Except Numeral.Error (Option InterfaceItem) :=
  match element.tag with
  | "enum" =>
      (Enumerant.ofElement element).map fun enumerant =>
        some (.enumerant enumerant)
  | "type" => .ok (some (.type (element.getD "name")))
  | "command" => .ok (some (.command (element.getD "name")))
  | "comment" => .ok (some (.comment (element.text.getD "")))
  | _ => .ok none

/-- The items of an interface block. -/
def InterfaceItem.listOfElement (element : Element) :
    Except Numeral.Error (List InterfaceItem) :=
  (element.children.mapM InterfaceItem.ofElement?).map (·.filterMap id)

/-- The block that an element of an extension stands for, if it stands for
one. -/
def InterfaceBlock.ofElement? (element : Element) :
    Except Numeral.Error (Option InterfaceBlock) :=
  match element.tag with
  | "require" =>
      (InterfaceItem.listOfElement element).map fun items =>
        some (.require items (element.getD "depends"))
  | "remove" =>
      (InterfaceItem.listOfElement element).map fun items =>
        some (.remove items)
  | _ => .ok none

/-- The extension that an element declares. -/
def Extension.ofElement (element : Element) :
    Except Numeral.Error Extension := do
  let blocks ← element.children.mapM InterfaceBlock.ofElement?
  let number ← Numeral.parseOptional (element.get? "number")
  return {
    name := element.getD "name"
    blocks := blocks.filterMap id
    number := number
    supported := element.getD "supported" }

/-- The vendor tag that an element declares. -/
def Tag.ofElement (element : Element) : Tag :=
  ⟨element.getD "name", element.getD "author", element.getD "contact"⟩

/-- A name found so far, or the text of an element when the name is missing or
empty and there is such an element. -/
def nameOrText (name : Option String) (source : Option Element) :
    Option String :=
  match source with
  | none => name
  | some element => if (name.getD "").isEmpty then element.text else name

/-- The name of a declared type: its attribute, else the text of its first name,
else, for a pointer to a function, the text of the first name in its
prototype. -/
def TypeDeclaration.nameOf (element : Element) : Option String :=
  let name :=
    nameOrText (element.get? "name") (element.childrenNamed "name").head?
  if element.get? "category" = some "funcpointer" then
    nameOrText name
      ((element.childrenNamed "proto").flatMap (·.childrenNamed "name")).head?
  else name

/-- The type that an element declares. -/
def TypeDeclaration.ofElement (element : Element) : TypeDeclaration :=
  ⟨TypeDeclaration.nameOf element, element.getD "category",
    element.get? "alias"⟩

/-- The section that a child of the root stands for, if it stands for one. -/
def Section.ofElement? (element : Element) :
    Except Numeral.Error (Option Section) :=
  match element.tag with
  | "tags" =>
      .ok (some (.tags ((element.childrenNamed "tag").map Tag.ofElement)))
  | "types" =>
      .ok (some (.types
        ((element.childrenNamed "type").map TypeDeclaration.ofElement)))
  | "enums" =>
      ((element.childrenNamed "enum").mapM Enumerant.ofElement).map
        fun enumerants =>
          some (.enums ⟨element.get? "name", element.get? "type", enumerants⟩)
  | "extensions" =>
      ((element.childrenNamed "extension").mapM Extension.ofElement).map
        fun extensions => some (.extensions extensions)
  | "comment" => .ok (some (.comment (element.text.getD "")))
  | _ => .ok none

/-- The registry that a document's element holds. -/
def Registry.ofElement (root : Element) : Except Numeral.Error Registry :=
  (root.children.mapM Section.ofElement?).map fun sections =>
    ⟨sections.filterMap id⟩

end VulkanRegistry
