import VulkanRegistry.Markup.Tag

/-!
# Namespaces

An attribute that declares a namespace binds a qualifier, or the empty qualifier
of plain element names, to the name of a namespace within its element.  A
qualified name is known by its namespace and its local name; an attribute
without a qualifier is in no namespace.
-/

namespace VulkanRegistry.Markup

/-- The names of the namespaces in force by qualifier, innermost first.  The
empty qualifier is that of plain element names, and an empty name stands for no
namespace. -/
abbrev Scope := List (String × String)

/-- The name of a namespace of the markup language itself. -/
def standardNamespace (path : List String) : String :=
  "/".intercalate ("http:" :: "" :: "www.w3.org" :: path)

/-- The namespace that the qualifier `xml` is always bound to. -/
def xmlNamespace : String :=
  standardNamespace ["XML", "1998", "namespace"]

/-- The namespace of declarations, which nothing may be bound to. -/
def declarationNamespace : String :=
  standardNamespace ["2000", "xmlns", ""]

/-- The scope at the root of a document. -/
def Scope.initial : Scope :=
  [("xml", xmlNamespace)]

/-- The qualifier that an attribute declares, if it is a declaration. -/
def WrittenAttribute.declared? (written : WrittenAttribute) : Option String :=
  match written.name.qualifier with
  | some "xmlns" => some written.name.localName
  | some _ => none
  | none => if written.name.localName = "xmlns" then some "" else none

/-- Whether a qualifier may be bound to a namespace: `xml` to its own namespace
and nothing else to it, nothing to the namespace of declarations, and none but
the empty qualifier to no namespace. -/
def isLegalBinding (qualifier uri : String) : Bool :=
  qualifier != "xmlns" && !uri.toList.contains '\x7d'
    && (qualifier.isEmpty || !uri.isEmpty)
    && ((qualifier == "xml") == (uri == xmlNamespace))
    && uri != declarationNamespace

/-- The name of an element or attribute in a namespace. -/
def expandedName (uri localName : String) : String :=
  if uri.isEmpty then localName else "\x7b" ++ uri ++ "\x7d" ++ localName

/-- The name of an element in a scope, if its qualifier is bound. -/
def Scope.elementName? (scope : Scope) (name : QualifiedName) : Option String :=
  match name.qualifier with
  | some qualifier =>
      (scope.lookup qualifier).map (expandedName · name.localName)
  | none => some (expandedName ((scope.lookup "").getD "") name.localName)

/-- The name of an attribute in a scope, if its qualifier is bound. -/
def Scope.attributeName? (scope : Scope) (name : QualifiedName) :
    Option String :=
  match name.qualifier with
  | some qualifier =>
      (scope.lookup qualifier).map (expandedName · name.localName)
  | none => some name.localName

/-- An element's scope, its name and its attributes, if the tag's declarations
are legal, all its qualifiers are bound and no attribute occurs twice, as it is
written or as it is known. -/
def StartTag.resolve (scope : Scope) (tag : StartTag) :
    Option (Scope × String × List (String × String)) := do
  guard (tag.attributes.map (·.name)).Nodup
  let bindings := tag.attributes.filterMap fun written =>
    written.declared?.map fun qualifier => (qualifier, written.value)
  guard (bindings.all fun (qualifier, uri) => isLegalBinding qualifier uri)
  let inner : Scope := bindings ++ scope
  let name ← inner.elementName? tag.name
  let plain := tag.attributes.filter fun written => written.declared?.isNone
  let attributes ← plain.mapM fun written =>
    (inner.attributeName? written.name).map fun key => (key, written.value)
  guard (attributes.map Prod.fst).Nodup
  return (inner, name, attributes)

end VulkanRegistry.Markup
