import BatchRunner.Decode.Error
import BatchRunner.Text.Escaped

/-!
# The wording of decoding faults
-/

namespace BatchRunner.Decode

/-- How a value that was found is described. -/
def Found.describe : Found → String
  | null => "null"
  | boolean value => "boolean " ++ quoted (toString value)
  | integer value => "integer " ++ quoted (toString value)
  | floating written => "floating point " ++ quoted written
  | text value => "string " ++ Text.escaped value
  | sequence => "sequence"
  | mapping => "map"
  | bareVariant => "unit variant"

namespace DecodeError

/-- The sentence for a fault that has one; a text that is not well formed has none. -/
def sentence? : DecodeError → Option String
  | malformed => none
  | wrongType found expected =>
    some ("invalid type: " ++ found.describe ++ ", expected " ++ expected)
  | wrongValue found expected =>
    some ("invalid value: " ++ found.describe ++ ", expected " ++ expected)
  | wrongLength length expected =>
    some ("invalid length " ++ toString length ++ ", expected " ++ expected)
  | unknownVariant name known => some ("unknown variant " ++ quoted name ++ ", expected " ++ oneOf known)
  | unknownField name known => some ("unknown field " ++ quoted name ++ ", expected " ++ oneOf known)
  | missingField name => some ("missing field " ++ quoted name)
  | duplicateField name => some ("duplicate field " ++ quoted name)
  | overflow type => some ("overflow deserializing " ++ type)

/-- The text of a fault in a report. -/
def message (error : DecodeError) : String :=
  error.sentence?.getD "not well formed"

end DecodeError

end BatchRunner.Decode
