import BatchRunner.Text.Utf8

/-!
# Octets as characters

Programs handle bytes. Their texts are strings in which every character stands for one byte, so that the same
functions serve for text and for bytes that are no text; `octets` takes a text to that form and `ofOctets`
shows such a string again.
-/

namespace BatchRunner.Text

/-- The characters that stand for bytes. -/
def ofByteArray (bytes : ByteArray) : String :=
  String.ofList (bytes.toList.map fun b => Char.ofNat b.toNat)

/-- The bytes that characters stand for. -/
def toByteArray (s : String) : ByteArray :=
  if s.toList.all fun c => c.toNat < 128 then s.toUTF8
  else ⟨(s.toList.map fun c => c.toNat.toUInt8).toArray⟩

/-- Whether every character of a text is one byte long. -/
def isPlain (s : String) : Bool := s.utf8ByteSize == s.length

/-- A text with one character for each of its bytes. -/
def octets (s : String) : String :=
  if isPlain s then s else ofByteArray s.toUTF8

/-- The text that bytes write; what is no text is replaced by marks. -/
def ofOctets (s : String) : String :=
  if isPlain s then s else ofBytes (toByteArray s)

end BatchRunner.Text
