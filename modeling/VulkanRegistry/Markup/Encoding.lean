import VulkanRegistry.Markup.Reader

/-!
# Declared encodings

A document is at hand as the text that its bytes are in UTF-8.  When it declares
another encoding, its bytes stand for other characters, or for none.  Only the
names below are known, in whichever case; of the encodings with one byte for
each character just ASCII and Latin-1 are among them, so that a document in any
other one is said to be in an unknown encoding.
-/

namespace VulkanRegistry.Markup

/-- How a declared encoding takes the bytes of a document. -/
inductive Encoding where
  | utf8
  /-- One byte for each character; bytes from 128 on stand for none. -/
  | ascii
  /-- One byte for each character, which is its code point. -/
  | latin1
  /-- At least two bytes for each character, which the declaration itself has
  not. -/
  | doubleByte
  /-- A varying number of bytes for each character. -/
  | multiByte
  deriving DecidableEq, Repr

namespace Encoding

/-- The names of encodings in lower case.  Without its hyphen the name of UTF-8
stands for the bytes below 128 only. -/
def table : List (String × Encoding) :=
  [("utf-8", utf8), ("utf8", ascii), ("utf_8", ascii), ("us-ascii", ascii),
   ("ascii", ascii), ("iso-8859-1", latin1), ("iso8859-1", latin1),
   ("latin-1", latin1), ("latin1", latin1), ("utf-16", doubleByte),
   ("utf-16be", doubleByte), ("utf-16le", doubleByte), ("utf16", multiByte),
   ("utf-32", multiByte), ("utf-7", multiByte), ("shift_jis", multiByte),
   ("euc-jp", multiByte), ("gb2312", multiByte), ("gbk", multiByte),
   ("big5", multiByte)]

/-- The encoding with a given name. -/
def ofName (name : String) : Except ReadError Encoding :=
  match table.lookup name.toLower with
  | some encoding => .ok encoding
  | none => .error (.unknownEncoding s!"unknown encoding: {name}")

/-- What a text in UTF-8 is in an encoding, or else why it is none, with
`complaint` as the reason where the document is malformed. -/
def decode (complaint : String) (text : List Char) :
    Encoding → Except ReadError (List Char)
  | utf8 => .ok text
  | ascii =>
      if text.all fun c => c.toNat < 0x80 then .ok text
      else .error (.malformed complaint)
  | latin1 =>
      .ok ((String.ofList text).toUTF8.toList.map fun byte =>
        Char.ofNat byte.toNat)
  | doubleByte => .error (.malformed complaint)
  | multiByte =>
      .error (.unusableEncoding "multi-byte encodings are not supported")

end Encoding

end VulkanRegistry.Markup
