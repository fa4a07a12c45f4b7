import BatchRunner.Machine.Shell.Builtin

/-!
# Lines into variables

How the command `read` of the shell divides a line: each variable gets a field, and the last one gets all that is
left, with the separators in it.
-/

namespace BatchRunner.Machine.Line

open BatchRunner.Machine.Shell (Context)

/-- How far a line has been divided: complete fields, last first; the current field, last character first, and how
much of its front is kept if nothing follows; how many more fields are wanted; and whether white space that ended a
field is still passed over. -/
structure Division where
  complete : List String
  current : List Char
  keep : Option Nat
  left : Nat
  passing : Bool

/-- The text of a current field. -/
def textOf (chars : List Char) : String := String.ofList chars.reverse

/-- Adds a character that may divide fields. -/
def Division.add (separators : List Char) (d : Division) (c : Char) : Division :=
  let divides := separators.contains c
  let isSpace := divides && Shell.Division.isSpace c
  let grown : Division := { d with current := c :: d.current }
  if d.left = 0 then
    -- All that is left belongs to the last field; what may have to go is its white space at the end.
    if isSpace then { grown with keep := some (d.keep.getD d.current.length) }
    else if divides && d.passing then { grown with passing := false }
    else { grown with keep := none, passing := false }
  else
    if d.passing && isSpace then d
    else if d.passing && divides then { d with passing := false }
    else
      let d := { d with passing := false }
      let grown : Division := { grown with passing := false }
      if !divides then grown
      else if d.current.isEmpty && isSpace then d
      else if d.left = 1 then { grown with left := 0, keep := some d.current.length, passing := isSpace }
      else { d with complete := textOf d.current :: d.complete, current := [], left := d.left - 1, passing := isSpace }

/-- Adds a character of a line; whether it is quoted. A quoted line end stands for nothing but the end of what was
in front of it. -/
def Division.next (separators : List Char) (d : Division) (marked : Char × Bool) : Division :=
  if !marked.2 then d.add separators marked.1
  else
    let d := { d with passing := false }
    if marked.1 == '\n' then d else { d with current := marked.1 :: d.current }

/-- The fields of a line, at most so many. -/
def fields (separators : List Char) (count : Nat) (chars : List (Char × Bool)) : List String :=
  let start : Division := ⟨[], [], none, count, false⟩
  let d := chars.foldl (Division.next separators) start
  let current := match d.keep with
    | some n => d.current.reverse.take n
    | none => d.current.reverse
  (if current.isEmpty then d.complete else String.ofList current :: d.complete).reverse

/-- Sets variables to fields; those without a field become empty. -/
def assignAll : List String → List String → Context → Except String Context
  | [], _, context => .ok context
  | name :: names, values, context => do
    if !Shell.isName name then throw (name ++ ": bad variable name")
    assignAll names values.tail (← context.assign name (values.headD ""))

/-- Sets variables to what a line holds. -/
def assign (context : Context) (names : List String) (chars : List (Char × Bool)) : Except String Context :=
  assignAll names (fields context.separators.toList names.length chars) context

end BatchRunner.Machine.Line
