import VulkanRegistry.Markup.Character
import VulkanRegistry.Text.Search

/-!
# The document declaration

A document may begin with a declaration of its version, then of its encoding,
then of whether it stands alone.  Each setting has a space before it, and its
value is made of ASCII letters, digits, full stops, underscores and hyphens. The
version makes no difference, and neither does whether the document stands alone.
-/

namespace VulkanRegistry.Markup

/-- Whether a character may stand in the value of a setting. -/
def isSettingCharacter (c : Char) : Bool :=
  c.isAlphanum || c == '.' || c == '_' || c == '-'

/-- The setting at the start of a text, and the text after it. -/
def readSetting (text : List Char) :
    Option ((String × String) × List Char) := do
  guard ((text.head?.map isSpace).getD false)
  let body := text.dropWhile isSpace
  let endsName := fun c => c == '=' || isSpace c
  let name := body.takeWhile fun c => !endsName c
  guard (!name.isEmpty)
  match (body.dropWhile fun c => !endsName c).dropWhile isSpace with
  | '=' :: rest =>
      match rest.dropWhile isSpace with
      | mark :: rest =>
          guard (mark == '\x22' || mark == '\x27')
          let (value, after) ← Text.cutAt [mark] rest
          guard (value.all isSettingCharacter)
          return ((String.ofList name, String.ofList value), after)
      | [] => none
  | _ => none

/-- The settings that make up a text, if there are at most `limit` of them. -/
def readSettings (limit : Nat) (text : List Char) :
    Option (List (String × String)) :=
  if text.all isSpace then some []
  else
    match limit with
    | 0 => none
    | limit + 1 => do
        let (setting, after) ← readSetting text
        return setting :: (← readSettings limit after)

/-- Whether a value names an encoding. -/
def isEncodingName (value : String) : Bool :=
  (value.toList.head?.map Char.isAlpha).getD false

/-- Whether a value says if a document stands alone. -/
def isAnswer (value : String) : Bool :=
  value == "yes" || value == "no"

/-- Whether settings make up a declaration. -/
def isDeclaration : List (String × String) → Bool
  | [("version", _)] => true
  | [("version", _), ("encoding", encoding)] => isEncodingName encoding
  | [("version", _), ("standalone", answer)] => isAnswer answer
  | [("version", _), ("encoding", encoding), ("standalone", answer)] =>
      isEncodingName encoding && isAnswer answer
  | _ => false

/-- The encoding that the declaration at the start of a text names, if there is
one and if it does, and the text after the declaration. -/
def readDeclaration (text : List Char) :
    Option (Option String × List Char) :=
  let opening := "<?xml".toList
  let body := text.drop opening.length
  if opening.isPrefixOf text && (body.head?.map isSpace).getD false then do
    let (inner, after) ← Text.cutAt ['?', '>'] body
    let settings ← readSettings 3 inner
    guard (isDeclaration settings)
    return (settings.lookup "encoding", after)
  else some (none, text)

end VulkanRegistry.Markup
