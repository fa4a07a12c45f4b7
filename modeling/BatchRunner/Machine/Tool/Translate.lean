import BatchRunner.Machine.Shell.Format
import BatchRunner.Machine.Tool.Stream
import BatchRunner.Text.Regex

/-!
# Programs for characters

`tr` replaces characters, `od` shows bytes, `base64` writes them as letters, and `dd` copies them in blocks.
-/

namespace BatchRunner.Machine.Tool

/-! ## `tr` -/

namespace Tr

/-- What stands in a list of characters. -/
inductive Item where
  | chars (cs : List Char)
  /-- A character so often; as often as it takes to fill up the list if no count is given. -/
  | repeated (c : Char) (count : Option Nat)
  /-- The characters of a class. -/
  | kind (name : String)
  deriving Inhabited

/-- All characters of a class. -/
def charsOf (name : String) : List Char :=
  ((List.range 256).map Char.ofNat).filter (Text.CharSet.isOfKind name)

/-- One character, behind a backslash or not. -/
def charOf : List Char → Option (Char × List Char)
  | [] => none
  | ['\\'] => some ('\\', [])
  | '\\' :: c :: rest =>
    let simple := [('a', 7), ('b', 8), ('f', 12), ('n', 10), ('r', 13), ('t', 9), ('v', 11)]
    match simple.lookup c with
    | some n => some (Char.ofNat n, rest)
    | none =>
      let digits := ((c :: rest).takeWhile fun d => (Shell.Format.octalValue? d).isSome).take 3
      if digits.isEmpty then some (c, rest)
      else
        let n := Text.numeral 8 (digits.filterMap Shell.Format.octalValue?)
        some (Char.ofNat (n % 256), (c :: rest).drop digits.length)
  | c :: rest => some (c, rest)

/-- Reads a list of characters. The fuel bounds the number of items. -/
def read : Nat → List Char → Except String (List Item)
  | 0, _ => .ok []
  | fuel + 1, cs => do
    match cs with
    | [] => return []
    | '[' :: ':' :: rest =>
      let name := rest.takeWhile (· != ':')
      match rest.drop name.length with
      | ':' :: ']' :: rest =>
        let name := String.ofList name
        if Text.CharSet.kinds.contains name then return .kind name :: (← read fuel rest)
        else throw ("invalid character class " ++ quote name)
      | _ => return .chars ['['] :: (← read fuel (':' :: rest))
    | '[' :: '=' :: c :: '=' :: ']' :: rest => return .chars [c] :: (← read fuel rest)
    | cs =>
      let counted : Option (Item × List Char) := match cs with
        | '[' :: rest => match charOf rest with
          | some (c, '*' :: more) =>
            let digits := more.takeWhile Char.isDigit
            match more.drop digits.length with
            | ']' :: rest =>
              let base := if digits.head? == some '0' then 8 else 10
              let n := Text.numeral base (digits.filterMap Text.digitValue?)
              some (.repeated c (if n = 0 then none else some n), rest)
            | _ => none
          | _ => none
        | _ => none
      match counted with
      | some (item, rest) => return item :: (← read fuel rest)
      | none => match charOf cs with
        | none => return []
        | some (first, '-' :: rest) => match charOf rest with
          | none => return .chars [first, '-'] :: []
          | some (last, more) =>
            if last < first then
              let shown (c : Char) : String := if isPrintable c then c.toString else String.ofList (escapeOf c)
              throw ("range-endpoints of '" ++ shown first ++ "-" ++ shown last ++
                "' are in reverse collating sequence order")
            let count := last.toNat - first.toNat + 1
            return .chars ((List.range count).map fun i => Char.ofNat (first.toNat + i)) :: (← read fuel more)
        | some (c, rest) => return .chars [c] :: (← read fuel rest)

/-- The characters of a list, which is filled up to a length if it says so. -/
def expand (length : Nat) (items : List Item) : List Char :=
  let size : Item → Nat
    | .chars cs => cs.length
    | .repeated _ count => count.getD 0
    | .kind name => (charsOf name).length
  let missing := length - (items.map size).foldl (· + ·) 0
  items.flatMap fun
    | .chars cs => cs
    | .repeated c count => List.replicate (count.getD missing) c
    | .kind name => charsOf name

/-- Drops characters that are the same as the one in front of them, if they are of a kind. -/
def squeeze (wanted : Char → Bool) : List Char → List Char
  | [] => []
  | [c] => [c]
  | a :: b :: rest => if a = b && wanted a then squeeze wanted (b :: rest) else a :: squeeze wanted (b :: rest)

end Tr

/-- `tr` replaces characters, or drops them. -/
def tr (call : Call) : Plan :=
  call.read { flags := "cCdst", long := [("complement", 'c'), ("delete", 'd'), ("squeeze-repeats", 's'),
    ("truncate-set1", 't')], inFront := true } 1 fun said =>
  let complement := said.has 'c' || said.has 'C'
  let least := if said.has 'd' == said.has 's' then 2 else 1
  let most := if said.has 'd' && !said.has 's' then 1 else 2
  match said.operands with
  | [] => call.misuse "missing operand" 1
  | operands =>
    if operands.length < least then
      let why := if said.has 'd' then "Two strings must be given when both deleting and squeezing repeats.\n"
        else "Two strings must be given when translating.\n"
      call.warn ("missing operand after " ++ quote (operands.getLast?.getD ""))
        (.complain (why ++ call.advice) (.done 1))
    else if most < operands.length then
      let extra := quote (operands[most]?.getD "")
      if operands.length = 2 then
        call.warn ("extra operand " ++ extra)
          (.complain ("Only one string may be given when deleting without squeezing repeats.\n" ++ call.advice) (.done 1))
      else call.extraOperand (operands[most]?.getD "") 1
    else
      let readList (s : String) : Except String (List Tr.Item) := Tr.read (s.length + 1) s.toList
      match readList (operands.headD ""), readList (operands[1]?.getD "") with
      | .error text, _ => call.fail text 1
      | _, .error text => call.fail text 1
      | .ok first, .ok second =>
        let set := Tr.expand 0 first
        let set := if complement then ((List.range 256).map Char.ofNat).filter fun c => !set.contains c else set
        let translates := operands.length = 2 && !said.has 'd'
        if translates && (operands[1]?.getD "") == "" && !said.has 't' then
          call.fail "when not truncating set1, string2 must be non-empty" 1
        else
          let target := Tr.expand set.length second
          let pairs := set.zip (match target.getLast? with
            | some last => if said.has 't' then target
              else target ++ List.replicate (set.length - target.length) last
            | none => [])
          let table : Array Char := pairs.foldl (fun t (a, b) => t.setIfInBounds a.toNat b)
            ((List.range 256).map Char.ofNat).toArray
          let change (cs : List Char) : List Char :=
            if said.has 'd' then
              let left := cs.filter fun c => !set.contains c
              if said.has 's' then Tr.squeeze target.contains left else left
            else if translates then
              let changed := cs.map fun c => table[c.toNat]?.getD c
              if said.has 's' then Tr.squeeze target.contains changed else changed
            else Tr.squeeze set.contains cs
          .readAll 0 fun
            | .error errno => call.fail ("read error: " ++ errno.sentence) 1
            | .ok bytes => call.answer (String.ofList (change (Text.ofByteArray bytes).toList)) 0

/-! ## `od` -/

/-- How `od` shows bytes. -/
inductive Dump where
  | chars
  | number (base size width : Nat) (signed : Bool)
  deriving DecidableEq, Repr, Inhabited

/-- A number in a base, filled up at the front. -/
def filled (fill : Char) (width : Nat) (digits : List Char) : String :=
  String.ofList (List.replicate (width - digits.length) fill ++ digits)

/-- One unit of bytes, the least valuable first. -/
def Dump.unit (dump : Dump) (bytes : List UInt8) : String :=
  match dump with
  | .chars =>
    let n := ((bytes.headD 0).toNat)
    let text := match n with
      | 0 => "\\0"
      | 7 => "\\a"
      | 8 => "\\b"
      | 9 => "\\t"
      | 10 => "\\n"
      | 11 => "\\v"
      | 12 => "\\f"
      | 13 => "\\r"
      | n => if 32 ≤ n ∧ n < 127 then (Char.ofNat n).toString else filled '0' 3 (Nat.toDigits 8 n)
    filled ' ' 4 text.toList
  | .number base size width signed =>
    let n := bytes.reverse.foldl (fun n b => n * 256 + b.toNat) 0
    let limit := Nat.pow 256 size
    if signed then
      let text := if limit ≤ 2 * n then "-" ++ toString (limit - n) else toString n
      " " ++ filled ' ' width text.toList
    else if base = 10 then " " ++ filled ' ' width (toString n).toList
    else " " ++ filled '0' width (Nat.toDigits base n)

/-- How many bytes a unit has. -/
def Dump.size : Dump → Nat
  | .chars => 1
  | .number _ size _ _ => size

/-- A way of showing bytes, as an option of `od` names it. -/
def dumpOf? (s : String) : Option Dump :=
  let form (base size : Nat) : Option Dump :=
    let width := if base = 8 then (size * 8 + 2) / 3 else if base = 16 then size * 2
      else [(1, 3), (2, 5), (4, 10), (8, 20)].lookup size |>.getD 3
    some (.number base size width false)
  let signed (size : Nat) : Option Dump :=
    some (.number 10 size ([(1, 4), (2, 6), (4, 11), (8, 20)].lookup size |>.getD 4) true)
  match s.toList with
  | ['c'] => some .chars
  | ['a'] => some .chars
  | [kind] => match kind with
    | 'x' => form 16 4
    | 'o' => form 8 4
    | 'u' => form 10 4
    | 'd' => signed 4
    | _ => none
  | [kind, digit] => match kind, Text.digitValue? digit with
    | 'x', some n => form 16 n
    | 'o', some n => form 8 n
    | 'u', some n => form 10 n
    | 'd', some n => signed n
    | _, _ => none
  | _ => none

/-- The bytes of a line of `od`. -/
def dumpWidth : Nat := 16

/-- The lines of a dump; a star stands for lines that are the same as the one in front of them. The fuel bounds the
number of lines. -/
def dumpLines (dump : Dump) (address : Nat → String) (all : Bool) :
    Nat → Nat → Option (List UInt8) → Bool → List UInt8 → List String
  | 0, _, _, _, _ => []
  | fuel + 1, offset, last, starred, bytes =>
    if bytes.isEmpty then (if address offset == "" then [] else [address offset])
    else
      let line := bytes.take dumpWidth
      let rest := bytes.drop dumpWidth
      if !all && last == some line && line.length = dumpWidth then
        (if starred then [] else ["*"]) ++ dumpLines dump address all fuel (offset + dumpWidth) last true rest
      else
        let count := (line.length + dump.size - 1) / dump.size
        let units := (List.range count).map fun i => dump.unit ((line.drop (i * dump.size)).take dump.size)
        (address offset ++ String.join units) :: dumpLines dump address all fuel (offset + line.length) (some line) false rest

/-- `od` shows bytes. -/
def od (call : Call) : Plan :=
  call.read { flags := "abcdoxvs", valued := "AtjNw", long := [("format", 't'), ("address-radix", 'A'),
    ("output-duplicates", 'v'), ("read-bytes", 'N'), ("skip-bytes", 'j')] } 1 fun said =>
  let dump : Option Dump := match said.options.filter fun o => "abcdoxst".toList.contains o.1 with
    | [] => dumpOf? "o2"
    | (letter, value) :: _ => match letter with
      | 't' => dumpOf? value
      | 'c' => some .chars
      | 'a' => some .chars
      | 'b' => dumpOf? "o1"
      | 'd' => dumpOf? "u2"
      | 's' => dumpOf? "d2"
      | 'x' => dumpOf? "x2"
      | _ => dumpOf? "o2"
  match dump with
  | none => call.fail ("invalid type string " ++ quote ((said.value? 't').getD "")) 1
  | some dump =>
    let address (n : Nat) : String := match said.value? 'A' with
      | some "n" => ""
      | some "d" => filled '0' 7 (Nat.toDigits 10 n)
      | some "x" => filled '0' 6 (Nat.toDigits 16 n)
      | _ => filled '0' 7 (Nat.toDigits 8 n)
    allFiles call plainReading said.operands fun files status =>
      if files.isEmpty then .done status else
      let bytes := files.flatMap fun f => (Text.toByteArray f.2).toList
      let start := ((said.value? 'j').bind countOf).getD 0
      let bytes := bytes.drop start
      let bytes := match (said.value? 'N').bind countOf with
        | some n => bytes.take n
        | none => bytes
      call.answer (unlines (dumpLines dump address (said.has 'v') (bytes.length + 1) start none false bytes)) status

/-! ## `base64` -/

/-- The letters of the code. -/
def codeLetters : List Char := "ABCDEFGHIJKLMNOPQRSTUVWXYZabcdefghijklmnopqrstuvwxyz0123456789+/".toList

/-- The letters for bytes, three of them for four letters. -/
def encode64 : List UInt8 → List Char
  | a :: b :: c :: rest => letters 4 (a.toNat * 65536 + b.toNat * 256 + c.toNat) ++ encode64 rest
  | [a, b] => letters 3 (a.toNat * 65536 + b.toNat * 256) ++ ['=']
  | [a] => letters 2 (a.toNat * 65536) ++ ['=', '=']
  | [] => []
where
  /-- The first letters for three bytes. -/
  letters (count n : Nat) : List Char :=
    ([n / 262144, n / 4096 % 64, n / 64 % 64, n % 64].take count).map fun i => codeLetters[i]?.getD 'A'

/-- The bytes for letters, as far as they are a code; and whether they all are. -/
def decode64 : List Char → List UInt8 × Bool
  | a :: b :: c :: d :: rest =>
    match [a, b, c, d].filterMap (codeLetters.idxOf? ·) with
    | [i, j, k, l] =>
      let n := i * 262144 + j * 4096 + k * 64 + l
      let (more, good) := decode64 rest
      ((n / 65536).toUInt8 :: (n / 256).toUInt8 :: n.toUInt8 :: more, good)
    | [i, j, k] =>
      let n := i * 262144 + j * 4096 + k * 64
      ([(n / 65536).toUInt8, (n / 256).toUInt8], d == '=' && rest.isEmpty)
    | [i, j] => ([((i * 262144 + j * 4096) / 65536).toUInt8], c == '=' && d == '=' && rest.isEmpty)
    | _ => ([], false)
  | [] => ([], true)
  | _ => ([], false)

/-- `base64` writes bytes as letters, or reads them back. -/
def base64 (call : Call) : Plan :=
  call.read { flags := "di", valued := "w", long := [("decode", 'd'), ("wrap", 'w'), ("ignore-garbage", 'i')] } 1
    fun said =>
  allFiles call plainReading (said.operands.take 1) fun files status =>
    let text := String.join (files.map (·.2))
    if said.has 'd' then
      let (bytes, good) := decode64 (text.toList.filter (· != '\n'))
      .put call.name ⟨bytes.toArray⟩ (if good then .done status else call.fail "invalid input" 1)
    else
      let letters := encode64 (Text.toByteArray text).toList
      let width := ((said.value? 'w').bind decimal?).getD 76
      let lines := if width = 0 then [String.ofList letters]
        else (List.range ((letters.length + width - 1) / width)).map fun i =>
          String.ofList ((letters.drop (i * width)).take width)
      call.answer (if width = 0 then String.join lines else unlines lines) status

/-! ## `dd` -/

/-- `dd` copies blocks, and tells how many there were. -/
def dd (call : Call) : Plan :=
  let value? (key : String) : Option String :=
    (call.args.reverse.find? (·.startsWith (key ++ "="))).map fun a => String.ofList (a.toList.drop (key.length + 1))
  let number (key : String) (other : Nat) : Nat := ((value? key).bind countOf).getD other
  let size := max 1 (number "bs" (number "ibs" 512))
  let count := (value? "count").bind countOf
  let skip := number "skip" 0
  let quiet := value? "status" == some "none"
  let finish (data : ByteArray) (written : Plan → Plan) : Plan :=
    let whole := data.size / size
    let part := if data.size % size = 0 then 0 else 1
    let records := toString whole ++ "+" ++ toString part
    let told := records ++ " records in\n" ++ records ++ " records out\n" ++ toString data.size ++
      " bytes copied, 0.0001 s, 1.0 MB/s\n"
    written (if quiet then .done 0 else .complain told (.done 0))
  let output (data : ByteArray) : Plan := match value? "of" with
    | none => finish data (.put call.name data)
    | some path => .withFiles fun space _ =>
      match Files.writeBytes space.tree space.cwd (Text.ofOctets path) data with
      | .ok tree => (tree, finish data fun next => next)
      | .error (.os errno) =>
        (space.tree, call.fail ("failed to open " ++ quote path ++ ": " ++ errno.sentence) 1)
      | .error _ => (space.tree, .done 1)
  let input (fd : Fd) : Plan := match count with
    | some n => take fd (n + skip) size .empty fun data => output (data.extract (skip * size) data.size)
    | none => .readAll fd fun
      | .ok data => output (data.extract (skip * size) data.size)
      | .error errno => call.fail ("error reading: " ++ errno.sentence) 1
  match value? "if" with
  | none => input 0
  | some path => .openFile path fun
    | .ok fd => input fd
    | .error errno => call.fail ("failed to open " ++ quote path ++ ": " ++ errno.sentence) 1
where
  /-- Reads so many blocks. -/
  take (fd : Fd) : Nat → Nat → ByteArray → (ByteArray → Plan) → Plan
    | 0, _, done, next => next done
    | count + 1, size, done, next => .read fd size fun
      | .ok block => if block.isEmpty then next done else take fd count size (done ++ block) next
      | .error _ => next done

end BatchRunner.Machine.Tool
