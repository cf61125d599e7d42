/-!
# The registry tree

The part of a Vulkan registry that is indexed: vendor tags, types, groups of
enumerants, and extensions with the enumerants that they require.  Sections of
one kind may occur several times, and the tree keeps everything in document
order, faults included.
-/

namespace VulkanRegistry

/-- The vendor tag that ends the names of a vendor's extensions. -/
structure Tag where
  name : String
  author : String
  contact : String
  deriving DecidableEq, Repr

/-- The declaration of a type, which may be another name for the type
`aliased`. -/
structure TypeDeclaration where
  name : Option String
  category : String
  aliased : Option String
  deriving DecidableEq, Repr

/-- What an enumerant stands for, with the group that it is meant for. -/
inductive Payload where
  | value (text : String) (target : Option String)
  | bit (position : Int) (target : Option String)
  /-- A value that is counted within the range of an extension; it always has a
  target. -/
  | offset (distance : Int) (target : String) (extensionNumber : Option Int)
      (direction : String)
  /-- Another name for the enumerant `aliased`. -/
  | aliasOf (aliased : String) (target : Option String)
  /-- A mention of an enumerant that is declared elsewhere. -/
  | mention
  deriving DecidableEq, Repr

namespace Payload

/-- The group that a payload extends; a mention extends none. -/
def target? : Payload → Option String
  | value _ target => target
  | bit _ target => target
  | offset _ target _ _ => some target
  | aliasOf _ target => target
  | mention => none

/-- Whether a payload is another name for an enumerant. -/
def isAlias : Payload → Bool
  | aliasOf _ _ => true
  | _ => false

end Payload

/-- A named constant of a group. -/
structure Enumerant where
  name : String
  payload : Payload
  deriving DecidableEq, Repr

/-- A declared group of enumerants.  Its marker says what kind of group it is; a
group without a name is a fault that the tree carries. -/
structure EnumBlock where
  name : Option String
  marker : Option String
  enumerants : List Enumerant
  deriving DecidableEq, Repr

/-- One item of what an extension requires or removes. -/
inductive InterfaceItem where
  | enumerant (enumerant : Enumerant)
  | type (name : String)
  | command (name : String)
  | comment (text : String)
  deriving DecidableEq, Repr

/-- One block of an extension. -/
inductive InterfaceBlock where
  | require (items : List InterfaceItem) (depends : String)
  | remove (items : List InterfaceItem)
  deriving DecidableEq, Repr

/-- An extension with what it requires and removes. -/
structure Extension where
  name : String
  blocks : List InterfaceBlock
  number : Option Int
  supported : String
  deriving DecidableEq, Repr

/-- One section of a registry. -/
inductive Section where
  | tags (tags : List Tag)
  | types (types : List TypeDeclaration)
  | enums (block : EnumBlock)
  | extensions (extensions : List Extension)
  | comment (text : String)
  deriving DecidableEq, Repr

/-- A registry with its sections in document order. -/
structure Registry where
  sections : List Section
  deriving DecidableEq, Repr

namespace Registry

/-- The names of all vendor tags. -/
def tagNames (registry : Registry) : List String :=
  registry.sections.flatMap fun
    | .tags tags => tags.map Tag.name
    | _ => []

/-- All type declarations. -/
def types (registry : Registry) : List TypeDeclaration :=
  registry.sections.flatMap fun
    | .types types => types
    | _ => []

/-- All declared groups. -/
def enumBlocks (registry : Registry) : List EnumBlock :=
  registry.sections.flatMap fun
    | .enums block => [block]
    | _ => []

/-- All extensions. -/
def extensions (registry : Registry) : List Extension :=
  registry.sections.flatMap fun
    | .extensions extensions => extensions
    | _ => []

end Registry

end VulkanRegistry
