/-!
# Blank text

The characters that count as white space when a text is asked whether it says anything at all, and the
splitting of a text into its lines.
-/

namespace BatchRunner.Text

/-- The characters with the Unicode property White_Space. The zero-width characters U+200B, U+FEFF and
U+180E do not have it. -/
def isBlankChar (c : Char) : Bool :=
  let n := c.toNat
  (0x09 ≤ n && n ≤ 0x0D) || n == 0x20 || n == 0x85 || n == 0xA0 || n == 0x1680 ||
    (0x2000 ≤ n && n ≤ 0x200A) || n == 0x2028 || n == 0x2029 || n == 0x202F || n == 0x205F ||
    n == 0x3000

/-- A text is blank when nothing is left of it after the white space at its ends is dropped, that is,
when every character of it is white space. -/
def isBlank (s : String) : Bool :=
  s.toList.all isBlankChar

/-- Every character that core's ASCII class calls white space is one here. -/
theorem isBlankChar_of_isWhitespace {c : Char} (h : c.isWhitespace = true) : isBlankChar c = true := by
  simp only [Char.isWhitespace, Bool.or_eq_true, decide_eq_true_eq] at h
  rcases h with ((h | h) | h) | h <;> subst h <;> decide

/-- Divides a list at every `sep`; there is always one more part than there are separators. -/
def splitOnChar (sep : Char) : List Char → List (List Char)
  | [] => [[]]
  | c :: rest =>
    if c = sep then [] :: splitOnChar sep rest
    else match splitOnChar sep rest with
      | [] => [[c]]
      | part :: parts => (c :: part) :: parts

/-- What stands between the separators of a text. -/
def parts (sep : Char) (s : String) : List String := (splitOnChar sep s.toList).map String.ofList

/-- A line without the carriage return that may end it. -/
def dropReturn (line : List Char) : List Char :=
  match line.reverse with
  | '\r' :: rest => rest.reverse
  | _ => line

/-- The lines of a text: what stands between line feeds, each without one carriage return at its end. A
line feed at the end of the text starts no further line, and a last line that no line feed ends keeps its
carriage return. -/
def lines (s : String) : List String :=
  let parts := splitOnChar '\n' s.toList
  let ended := parts.dropLast.map fun part => String.ofList (dropReturn part)
  match parts.getLast? with
  | none | some [] => ended
  | some last => ended ++ [String.ofList last]

end BatchRunner.Text
