import BatchRunner.Machine.Plan
import BatchRunner.Text.Scan

/-!
# Calls of programs

How a program is called, what its arguments say, and the forms that its messages have in common.
-/

namespace BatchRunner.Machine.Tool

/-- How a program is called. -/
structure Call where
  /-- The name under which it was started. -/
  name : String
  args : List String
  setting : Setting
  pid : Pid
  deriving Inhabited

/-! ## Names in messages -/

/-- Whether a character can be seen. -/
def isPrintable (c : Char) : Bool := 32 ≤ c.toNat && c.toNat < 127

/-- The escape that stands for a character that cannot be seen. -/
def escapeOf (c : Char) : List Char :=
  match c.toNat with
  | 7 => ['\\', 'a']
  | 8 => ['\\', 'b']
  | 9 => ['\\', 't']
  | 10 => ['\\', 'n']
  | 11 => ['\\', 'v']
  | 12 => ['\\', 'f']
  | 13 => ['\\', 'r']
  | n =>
    let digits := Nat.toDigits 8 n
    '\\' :: (List.replicate (3 - digits.length) '0' ++ digits)

/-- A name in quotes that a shell would read back. The fuel bounds the number of its runs. -/
def quotedRuns : Nat → List Char → List Char
  | 0, _ => []
  | fuel + 1, cs =>
    let plain := cs.takeWhile fun c => isPrintable c && c != '\''
    let shown := '\'' :: plain ++ ['\'']
    match cs.drop plain.length with
    | [] => shown
    | '\'' :: rest => shown ++ '\\' :: '\'' :: quotedRuns fuel rest
    | rest =>
      let hidden := rest.takeWhile fun c => !isPrintable c
      let behind := rest.drop hidden.length
      shown ++ '$' :: '\'' :: hidden.flatMap escapeOf ++ '\'' :: (if behind.isEmpty then [] else quotedRuns fuel behind)

/-- A name in quotes. One that holds single quotes and nothing else of note is put in double ones. -/
def quote (s : String) : String :=
  let cs := s.toList
  if cs.contains '\'' && cs.all fun c => isPrintable c && !"\"$\\\x60!".toList.contains c then "\"" ++ s ++ "\""
  else String.ofList (quotedRuns (s.length + 1) cs)

/-- Whether a name can be told from the text around it without quotes. -/
def isClear (s : String) : Bool :=
  !s.isEmpty && s.toList.all (fun c => isPrintable c && !" !\"$&'()*;<=>?[\\]^\x60|".toList.contains c) &&
    !s.startsWith "#" && !s.startsWith "~"

/-- A name, in quotes if it needs them. -/
def clear (s : String) : String := if isClear s then s else quote s

/-! ## Messages -/

namespace Call

/-- A message of a program. -/
def warn (call : Call) (text : String) (next : Plan) : Plan := .complain (call.name ++ ": " ++ text ++ "\n") next

/-- A message with which a program ends. -/
def fail (call : Call) (text : String) (status : Nat) : Plan := call.warn text (.done status)

/-- Where to learn more about a program. -/
def advice (call : Call) : String := "Try '" ++ call.name ++ " --help' for more information.\n"

/-- A message about the arguments, with which a program ends. -/
def misuse (call : Call) (text : String) (status : Nat) : Plan :=
  call.warn text (.complain call.advice (.done status))

/-- What a program says that was given too few arguments. -/
def missingOperand (call : Call) (status : Nat) : Plan :=
  match call.args.getLast? with
  | none => call.misuse "missing operand" status
  | some last => call.misuse ("missing operand after '" ++ last ++ "'") status

/-- What a program says of an argument that it has no use for. -/
def extraOperand (call : Call) (operand : String) (status : Nat) : Plan :=
  call.misuse ("extra operand " ++ quote operand) status

/-- Output of a program. -/
def say (call : Call) (text : String) (next : Plan) : Plan := .say call.name text next

/-- Output with which a program ends. -/
def answer (call : Call) (text : String) (status : Nat) : Plan := call.say text (.done status)

end Call

/-! ## Options -/

/-- The options that a program knows: letters without a value, letters with one, and the long names that stand
for letters. -/
structure Options where
  flags : String := ""
  valued : String := ""
  /-- Letters with a value that may be missing, and is part of the same argument if it is not. -/
  attached : String := ""
  long : List (String × Char) := []
  /-- Whether options may only stand in front of the other arguments. -/
  inFront : Bool := false

/-- What the arguments of a program say: its options in order, each with its value, and the other arguments. -/
structure Said where
  options : List (Char × String) := []
  operands : List String := []
  deriving Inhabited

namespace Said

/-- Whether an option was given. -/
def has (said : Said) (letter : Char) : Bool := said.options.any (·.1 == letter)

/-- The value of an option, of several the last. -/
def value? (said : Said) (letter : Char) : Option String := said.options.reverse.lookup letter

/-- The last of some options that was given. -/
def last? (said : Said) (letters : List Char) : Option Char :=
  (said.options.reverse.find? fun o => letters.contains o.1).map (·.1)

end Said

/-- The letters of one argument: the options in it, and whether the value of the last is the next argument. -/
def lettersOf (options : Options) : List Char → List (Char × String) → Except String (List (Char × String) × Option Char)
  | [], done => .ok (done.reverse, none)
  | c :: cs, done =>
    if options.flags.toList.contains c then lettersOf options cs ((c, "") :: done)
    else if options.valued.toList.contains c then
      if cs.isEmpty then .ok (done.reverse, some c) else .ok (((c, String.ofList cs) :: done).reverse, none)
    else if options.attached.toList.contains c then .ok (((c, String.ofList cs) :: done).reverse, none)
    else .error ("invalid option -- '" ++ c.toString ++ "'")

/-- The long options that a name may mean. -/
def longOf (options : Options) (name : String) : List (String × Char) :=
  match options.long.filter (·.1 == name) with
  | [] => options.long.filter fun l => l.1.startsWith name
  | exact => exact

/-- Reads the arguments of a program. -/
def readArguments (options : Options) : List String → Said → Except String Said
  | [], said => .ok said
  | "--" :: rest, said => .ok { said with operands := said.operands ++ rest }
  | a :: rest, said =>
    let add (found : List (Char × String)) : Said := { said with options := said.options ++ found }
    match a.toList with
    | '-' :: '-' :: name =>
      let key := String.ofList (name.takeWhile (· != '='))
      match longOf options key, name.dropWhile (· != '=') with
      | (_, c) :: _, value =>
        if options.valued.toList.contains c then
          match value, rest with
          | _ :: v, rest => readArguments options rest (add [(c, String.ofList v)])
          | [], v :: rest => readArguments options rest (add [(c, v)])
          | [], [] => .error ("option '--" ++ key ++ "' requires an argument")
        else if options.attached.toList.contains c then
          readArguments options rest (add [(c, String.ofList (value.drop 1))])
        else readArguments options rest (add [(c, "")])
      | [], _ => .error ("unrecognized option '--" ++ key ++ "'")
    | '-' :: c :: cs => match lettersOf options (c :: cs) [] with
      | .error text => .error text
      | .ok (found, none) => readArguments options rest (add found)
      | .ok (found, some c) => match rest with
        | v :: rest => readArguments options rest (add (found ++ [(c, v)]))
        | [] => .error ("option requires an argument -- '" ++ c.toString ++ "'")
    | _ =>
      if options.inFront then .ok { said with operands := said.operands ++ a :: rest }
      else readArguments options rest { said with operands := said.operands ++ [a] }

/-- Goes on with what the arguments of a call say, or complains about them. -/
def Call.read (call : Call) (options : Options) (status : Nat) (next : Said → Plan) : Plan :=
  match readArguments options call.args {} with
  | .ok said => next said
  | .error text => call.misuse text status

/-! ## Lines -/

/-- The lines of a text, without their ends. A text that ends in the middle of a line has one line more. -/
def linesOf (s : String) : List String :=
  let pieces := s.splitOn "\n"
  if pieces.getLast? = some "" then pieces.dropLast else pieces

/-- Lines with their ends. -/
def unlines (lines : List String) : String := String.join (lines.map (· ++ "\n"))

/-- The whole number that a text writes in decimal digits. -/
def decimal? (s : String) : Option Nat :=
  let (digits, rest) := Text.someDigits Text.digitValue? s.toList
  if digits.isEmpty || !rest.isEmpty then none else some (Text.numeral 10 digits)

/-- Goes on with the content of each of some files in turn; a hyphen stands for standard input. -/
def eachFile (call : Call) (reading : String → Os.Errno → String) (visit : String → String → Nat → (Nat → Plan) → Plan)
    (finish : Nat → Plan) : List String → Nat → Plan
  | [], status => finish status
  | path :: paths, status => .readPath path fun
    | .error errno => call.warn (reading path errno) (eachFile call reading visit finish paths 1)
    | .ok bytes => visit path (Text.ofByteArray bytes) status fun status =>
        eachFile call reading visit finish paths status

/-- What most programs say of a file that they cannot read. -/
def plainReading (path : String) (errno : Os.Errno) : String := clear path ++ ": " ++ errno.sentence

/-- Goes on with the contents of all files that can be read, and the status. -/
def allFiles (call : Call) (reading : String → Os.Errno → String) (paths : List String)
    (next : List (String × String) → Nat → Plan) : Plan :=
  go (if paths.isEmpty then ["-"] else paths) [] 0
where
  /-- The contents behind those that are read. -/
  go : List String → List (String × String) → Nat → Plan
    | [], done, status => next done.reverse status
    | path :: paths, done, status => .readPath path fun
      | .error errno => call.warn (reading path errno) (go paths done 1)
      | .ok bytes => go paths ((path, Text.ofByteArray bytes) :: done) status

end BatchRunner.Machine.Tool
