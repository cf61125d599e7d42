/-!
# Elements

A marked-up document is a tree of elements.  Comments and processing
instructions leave no trace in it, and of the character data only the part
before an element's first child is kept.
-/

namespace VulkanRegistry.Markup

/-- An element with its tag, its attributes, the text before its first child and
its children.  A tag or attribute name in a namespace is written with the
namespace in braces before it. -/
inductive Element where
  | mk (tag : String) (attributes : List (String × String))
      (text : Option String) (children : List Element)

namespace Element

/-- The name of an element's kind. -/
def tag : Element → String
  | mk tag _ _ _ => tag

/-- The attributes of an element, each name once. -/
def attributes : Element → List (String × String)
  | mk _ attributes _ _ => attributes

/-- The character data before the first child, if there is any. -/
def text : Element → Option String
  | mk _ _ text _ => text

/-- The child elements in document order. -/
def children : Element → List Element
  | mk _ _ _ children => children

/-- The value of an attribute, if the element carries it. -/
def get? (element : Element) (name : String) : Option String :=
  element.attributes.lookup name

/-- The value of an attribute, and the empty text if the element does not carry
it. -/
def getD (element : Element) (name : String) : String :=
  (element.get? name).getD ""

/-- The children with a given tag, in document order. -/
def childrenNamed (element : Element) (tag : String) : List Element :=
  element.children.filter fun child => child.tag == tag

theorem mem_childrenNamed {element child : Element} {tag : String} :
    child ∈ element.childrenNamed tag ↔
      child ∈ element.children ∧ child.tag = tag := by
  simp [childrenNamed]

end Element

end VulkanRegistry.Markup
