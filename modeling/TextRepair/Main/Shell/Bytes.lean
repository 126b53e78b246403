import TextRepair.Text.Utf8

/-!
# Texts of bytes

A shell works on bytes. Its texts are rows of characters that stand for one byte each: the character
with the number of the byte. In ASCII such a text is the text itself.
-/

namespace TextRepair.Shell.Bytes

/-- The text of some bytes. -/
def ofList (bytes : List UInt8) : String :=
  String.ofList (bytes.map fun b => Char.ofNat b.toNat)

/-- The bytes of a text. -/
def toList (text : String) : List UInt8 :=
  text.toList.map fun c => UInt8.ofNat c.toNat

/-- The text of a content. -/
def ofContent (content : ByteArray) : String :=
  ofList content.toList

/-- The content that a text stands for. -/
def toContent (text : String) : ByteArray :=
  ByteArray.mk (toList text).toArray

/-- The text of the bytes in which a name is written. -/
def ofName (name : String) : String :=
  ofContent name.toUTF8

/-- The name that is written in the bytes of a text, unreadable ones replaced. -/
def toName (text : String) : String :=
  Text.decodeLossy (toList text)

end TextRepair.Shell.Bytes
