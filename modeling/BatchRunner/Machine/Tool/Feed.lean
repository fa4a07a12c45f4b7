import BatchRunner.Machine.Tool.Call

/-!
# Line by line

Descriptors that are read line by line, no further than is needed for the line that is asked for, and output that
is gathered until there is enough of it for a block.
-/

namespace BatchRunner.Machine.Tool

/-- A descriptor that is read line by line: the lines that were read and not yet asked for, and what was read behind
the last of their ends. -/
structure Feed where
  fd : Fd
  /-- The character with which lines end. -/
  lineEnd : Char := '\n'
  /-- Whether a zero ends a line, too. -/
  endsAtZero : Bool := false
  ahead : List String := []
  part : String := ""
  isOver : Bool := false
  /-- Whether a zero was read. -/
  hasZero : Bool := false
  deriving Inhabited

namespace Feed

/-- How many bytes were read and not yet asked for. -/
def kept (feed : Feed) : Nat := (feed.ahead.map (·.length + 1)).foldl (· + ·) 0 + feed.part.length

/-- Takes up what was read next. -/
def take (feed : Feed) (text : String) : Feed :=
  let hasZero := text.toList.contains '\x00'
  let text := if hasZero && feed.endsAtZero then text.map fun c => if c == '\x00' then feed.lineEnd else c else text
  let pieces := (feed.part ++ text).splitOn feed.lineEnd.toString
  { feed with
    ahead := feed.ahead ++ pieces.dropLast, part := (pieces.getLast?).getD "", hasZero := feed.hasZero || hasZero }

/-- Goes on with the next line and whether it has an end, or with what came instead of one. The fuel bounds the number
of blocks. -/
def nextWithin (found : String → Bool → Feed → Plan) (atEnd : Option Os.Errno → Plan) : Nat → Feed → Plan
  | 0, _ => atEnd none
  | fuel + 1, feed => match feed.ahead with
    | line :: rest => found line true { feed with ahead := rest }
    | [] =>
      if feed.isOver then
        if feed.part.isEmpty then atEnd none else found feed.part false { feed with part := "" }
      else .read feed.fd Plan.blockSize fun
        | .error errno => atEnd (some errno)
        | .ok block =>
          nextWithin found atEnd fuel
            (if block.isEmpty then { feed with isOver := true } else feed.take (Text.ofByteArray block))

/-- Goes on with the next line and whether it has an end, or with what came instead of one. -/
def next (feed : Feed) (found : String → Bool → Feed → Plan) (atEnd : Option Os.Errno → Plan) : Plan :=
  nextWithin found atEnd Plan.blockLimit feed

end Feed

/-- Output that is gathered: its parts, the last one first, and its size. -/
structure Gathered where
  parts : List String := []
  size : Nat := 0
  deriving Inhabited

namespace Gathered

/-- How much is gathered before it is written. -/
def enough : Nat := 4096

/-- Gathers more. -/
def add (g : Gathered) (text : String) : Gathered := ⟨text :: g.parts, g.size + text.length⟩

/-- What was gathered. -/
def text (g : Gathered) : String := String.join g.parts.reverse

end Gathered

/-- Writes what was gathered. -/
def Call.flush (call : Call) (g : Gathered) (next : Plan) : Plan := call.say g.text next

/-- Writes what was gathered if it is enough. -/
def Call.pour (call : Call) (g : Gathered) (next : Gathered → Plan) : Plan :=
  if g.size < Gathered.enough then next g else call.flush g (next {})

end BatchRunner.Machine.Tool
