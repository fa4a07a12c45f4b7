import BatchRunner.Machine.Tool.Lines
import BatchRunner.Text.Digest

/-!
# Programs for checksums

`md5sum` and its kin write the digests of files, or compare them with those that were written; `cksum` and `sum` write
shorter checks.
-/

namespace BatchRunner.Machine.Tool

/-- A kind of digest: its name, and how many digits it has. -/
structure DigestKind where
  name : String
  digits : Nat
  digest : List UInt8 → List UInt8

/-- The digest of a text, in digits. -/
def DigestKind.of (kind : DigestKind) (text : String) : String :=
  Text.Digest.hexOf (kind.digest (Text.toByteArray text).toList)

/-- A line of a list of digests: the digest and the name of the file. -/
def digestLine? (kind : DigestKind) (line : String) : Option (String × String) :=
  let cs := line.toList
  let digits := cs.takeWhile fun c => (Text.hexValue? c).isSome
  match cs.drop digits.length with
  | ' ' :: mark :: name =>
    if digits.length = kind.digits && (mark == ' ' || mark == '*') && !name.isEmpty then
      some ((String.ofList digits).toLower, String.ofList name)
    else none
  | _ => none

/-- What has come of comparing digests. -/
structure Compared where
  lines : Nat := 0
  different : Nat := 0
  unread : Nat := 0

/-- A count of things, in words. -/
def countOfThings (n : Nat) (one many : String) : String := toString n ++ " " ++ (if n = 1 then one else many)

/-- What is said when all digests of a list were compared. -/
def Compared.finish (call : Call) (c : Compared) (source : String) (quiet : Bool) (next : Nat → Plan) : Plan :=
  if c.lines = 0 then call.warn (source ++ ": no properly formatted checksum lines found") (next 1)
  else
    let warnIf (n : Nat) (text : String) (plan : Plan) : Plan :=
      if n = 0 || quiet then plan else call.warn ("WARNING: " ++ text) plan
    warnIf c.unread (countOfThings c.unread "listed file could not be read" "listed files could not be read")
      (warnIf c.different (countOfThings c.different "computed checksum did NOT match" "computed checksums did NOT match")
        (next (if c.unread = 0 && c.different = 0 then 0 else 1)))

/-- Compares digests with those that lines name. -/
def compareDigests (call : Call) (kind : DigestKind) (quiet silent : Bool) (next : Compared → Plan) :
    List String → Compared → Plan
  | [], c => next c
  | line :: lines, c => match digestLine? kind line with
    | none => compareDigests call kind quiet silent next lines c
    | some (digest, path) =>
      let c := { c with lines := c.lines + 1 }
      let say (text : String) (plan : Plan) : Plan := if silent then plan else call.say (path ++ ": " ++ text ++ "\n") plan
      .readPath path fun
        | .error errno => call.warn (clear path ++ ": " ++ errno.sentence)
          (say "FAILED open or read" (compareDigests call kind quiet silent next lines { c with unread := c.unread + 1 }))
        | .ok bytes =>
          if kind.of (Text.ofByteArray bytes) = digest then
            let rest := compareDigests call kind quiet silent next lines c
            if quiet then rest else say "OK" rest
          else say "FAILED" (compareDigests call kind quiet silent next lines { c with different := c.different + 1 })

/-- Compares the digests that some files list. -/
def checkDigests (call : Call) (kind : DigestKind) (quiet silent : Bool) : List String → Nat → Plan
  | [], status => .done status
  | path :: paths, status => .readPath path fun
    | .error errno => call.warn (clear path ++ ": " ++ errno.sentence) (checkDigests call kind quiet silent paths 1)
    | .ok bytes =>
      let source := if path = "-" then "'standard input'" else clear path
      compareDigests call kind quiet silent (fun c =>
        c.finish call source silent fun s => checkDigests call kind quiet silent paths (max s status))
        (linesOf (Text.ofByteArray bytes)) {}

/-- `md5sum` and its kin. -/
def digestTool (kind : DigestKind) (call : Call) : Plan :=
  call.read { flags := "bctwzqsg", long := [("binary", 'b'), ("check", 'c'), ("text", 't'), ("warn", 'w'),
    ("zero", 'z'), ("quiet", 'q'), ("status", 's'), ("tag", 'g')] } 1 fun said =>
  let paths := if said.operands.isEmpty then ["-"] else said.operands
  if said.has 'c' then checkDigests call kind (said.has 'q') (said.has 's') paths 0
  else
    let line (path text : String) : String :=
      let hidden := path.toList.any fun c => c == '\n' || c == '\\' || c == '\r'
      let shown := if hidden && !said.has 'z' then
          String.join (path.toList.map fun c => match c with
            | '\n' => "\\n"
            | '\r' => "\\r"
            | '\\' => "\\\\"
            | c => c.toString)
        else path
      let front := if hidden && !said.has 'z' then "\\" else ""
      let ending := if said.has 'z' then "\x00" else "\n"
      if said.has 'g' then front ++ kind.name ++ " (" ++ shown ++ ") = " ++ kind.of text ++ ending
      else front ++ kind.of text ++ (if said.has 'b' then " *" else "  ") ++ shown ++ ending
    allFiles call plainReading paths fun files status =>
      call.answer (String.join (files.map fun f => line f.1 f.2)) status

/-- The kinds of digests, by the names of the programs for them. -/
def digestKinds : List (String × DigestKind) := [
  ("md5sum", ⟨"MD5", 32, Text.Digest.md5⟩), ("sha1sum", ⟨"SHA1", 40, Text.Digest.sha1⟩),
  ("sha224sum", ⟨"SHA224", 56, Text.Digest.sha224⟩), ("sha256sum", ⟨"SHA256", 64, Text.Digest.sha256⟩),
  ("sha384sum", ⟨"SHA384", 96, Text.Digest.sha384⟩), ("sha512sum", ⟨"SHA512", 128, Text.Digest.sha512⟩)]

/-- `cksum` writes the cyclic checks and sizes of files. -/
def cksum (call : Call) : Plan :=
  call.read {} 1 fun said =>
  allFiles call plainReading said.operands fun files status =>
    call.answer (String.join (files.map fun (path, text) =>
      let bytes := (Text.toByteArray text).toList
      toString (Text.Digest.cyclicCheck bytes) ++ " " ++ toString bytes.length ++
        (if said.operands.isEmpty then "" else " " ++ path) ++ "\n")) status

/-- `sum` writes sums over files, and how many blocks they take. -/
def sum (call : Call) : Plan :=
  call.read { flags := "rs", long := [("sysv", 's')] } 1 fun said =>
  let plain := said.last? ['r', 's'] == some 's'
  allFiles call plainReading said.operands fun files status =>
    call.answer (String.join (files.map fun (path, text) =>
      let bytes := (Text.toByteArray text).toList
      let name := if said.operands.isEmpty then "" else " " ++ path
      if plain then
        toString (Text.Digest.plainSum bytes) ++ " " ++ toString ((bytes.length + 511) / 512) ++ name ++ "\n"
      else
        let digits := toString (Text.Digest.turningSum bytes)
        String.ofList (List.replicate (5 - digits.length) '0') ++ digits ++ " " ++
          padded 5 ((bytes.length + 1023) / 1024) ++ name ++ "\n")) status

end BatchRunner.Machine.Tool
