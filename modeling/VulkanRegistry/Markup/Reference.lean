import VulkanRegistry.Markup.Character
import VulkanRegistry.Text.Field
import VulkanRegistry.Text.Search

/-!
# References to characters

A reference stands for one character.  It is written between an ampersand and a
semicolon, as one of the five predefined names, or after a number sign as a code
point, decimal or, after an `x`, hexadecimal.
-/

namespace VulkanRegistry.Markup

/-- The value of a hexadecimal digit of either case. -/
def hexValue? (c : Char) : Option Nat :=
  if '0' ≤ c ∧ c ≤ '9' then some (c.toNat - 0x30)
  else if 'a' ≤ c ∧ c ≤ 'f' then some (c.toNat - 0x57)
  else if 'A' ≤ c ∧ c ≤ 'F' then some (c.toNat - 0x37)
  else none

/-- The value of a decimal digit. -/
def decimalValue? (c : Char) : Option Nat :=
  if '0' ≤ c ∧ c ≤ '9' then some (c.toNat - 0x30) else none

/-- The number that a non-empty sequence of digits stands for. -/
def readDigits? (base : Nat) (value? : Char → Option Nat)
    (digits : List Char) : Option Nat :=
  if digits.isEmpty then none
  else digits.foldlM (fun n c => (value? c).map (base * n + ·)) 0

/-- The character of a document with a given code point. -/
def characterAt? (point : Nat) : Option Char :=
  let c := Char.ofNat point
  if isDocumentCharacter c then some c else none

/-- The character with a predefined name. -/
def predefined? (name : List Char) : Option Char :=
  [("lt", '<'), ("gt", '>'), ("amp", '&'), ("quot", '\x22'),
    ("apos", '\x27')].lookup (String.ofList name)

/-- The character that the text between an ampersand and a semicolon refers
to. -/
def referent? : List Char → Option Char
  | '#' :: 'x' :: digits => (readDigits? 16 hexValue? digits).bind characterAt?
  | '#' :: digits => (readDigits? 10 decimalValue? digits).bind characterAt?
  | name => predefined? name

/-- The text that follows an ampersand, its reference resolved and the rest
mapped by `plain`. -/
def resolveReference (plain : Char → Char) (text : List Char) :
    Option (List Char) :=
  match Text.cutAt [';'] text with
  | none => none
  | some (body, after) => (referent? body).map (· :: after.map plain)

/-- The characters that a text stands for: references are resolved, and the
characters that stand for themselves are mapped by `plain`. -/
def resolveReferences (plain : Char → Char) (text : List Char) :
    Option (List Char) :=
  match Text.fieldsBy (· == '&') text with
  | [] => some []
  | first :: rest =>
      (rest.mapM (resolveReference plain)).map fun resolved =>
        first.map plain ++ resolved.flatten

end VulkanRegistry.Markup
