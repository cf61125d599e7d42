import VulkanRegistry.Text.Blank
import VulkanRegistry.Text.DecimalDigit
import VulkanRegistry.Text.Quoted

/-!
# Integer numerals

A numeral is an optional sign and a sequence of decimal digits of any script,
with blanks around it.  A single underscore may stand between two digits.
Numerals of more than 4300 digits are refused for their length alone, before
what follows the digits is looked at.
-/

namespace VulkanRegistry

namespace Numeral

/-- Why a text gives no integer. -/
inductive Error where
  /-- The text is no numeral. -/
  | malformed (text : String)
  /-- The numeral has more digits than are read. -/
  | tooManyDigits (count : Nat)
  deriving DecidableEq, Repr

/-- The largest number of digits that is read. -/
def digitLimit : Nat := 4300

/-- Blanks may stand around a numeral, the information separators excepted. -/
def isMargin (c : Char) : Bool :=
  Text.isBlank c && !(0x1C ≤ c.toNat && c.toNat ≤ 0x1F)

/-- The digits at the start of a text and the text after them.  There is none
when an underscore has no digit on both sides, or, with `due` set, when the text
does not begin with a digit. -/
def digitsFrom (due : Bool) : List Char → Option (List Nat × List Char)
  | [] => if due then none else some ([], [])
  | c :: rest =>
      if c = '_' then
        if due then none else digitsFrom true rest
      else
        match Text.digitValue? c with
        | some digit =>
            (digitsFrom false rest).map fun (digits, after) =>
              (digit :: digits, after)
        | none => if due then none else some ([], c :: rest)

/-- The number that decimal digits stand for, most significant first. -/
def ofDigits (digits : List Nat) : Nat :=
  digits.foldl (fun n digit => 10 * n + digit) 0

/-- Whether a minus sign begins a text, and the text without its sign. -/
def splitSign : List Char → Bool × List Char
  | '-' :: rest => (true, rest)
  | '+' :: rest => (false, rest)
  | text => (false, text)

/-- The integer that a text stands for. -/
def parse (text : String) : Except Error Int :=
  let (negative, body) := splitSign (text.toList.dropWhile isMargin)
  match digitsFrom true body with
  | none => .error (.malformed text)
  | some (digits, after) =>
      if digitLimit < digits.length then .error (.tooManyDigits digits.length)
      else if after.all isMargin then
        .ok (if negative then -(ofDigits digits : Int) else ofDigits digits)
      else .error (.malformed text)

/-- The integer that an optional text stands for; a missing or empty text stands
for none. -/
def parseOptional : Option String → Except Error (Option Int)
  | none => .ok none
  | some text => if text.isEmpty then .ok none else (parse text).map some

/-- How a numeral's failure is reported; a malformed text is quoted and cut at
200 characters. -/
def Error.message : Error → String
  | .malformed text =>
      "invalid literal for int() with base 10: "
        ++ String.ofList ((Text.quoted text).toList.take 200)
  | .tooManyDigits count =>
      s!"Exceeds the limit ({digitLimit} digits) for integer string "
        ++ s!"conversion: value has {count} digits; use "
        ++ "sys.set_int_max_str_digits() to increase the limit"

end Numeral

end VulkanRegistry
