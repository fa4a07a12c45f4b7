import BatchRunner.Files.Tree
import BatchRunner.Text.Octets

/-!
# Patterns

What a pattern of the shell matches, and the files whose names match one. A character that was quoted stands for
itself.
-/

namespace BatchRunner.Machine.Shell

/-- A character of an expanded word, and whether it was quoted. -/
abbrev Marked := Char × Bool

/-- The members of a set of characters. -/
inductive Member where
  | range (low high : Char)
  | kind (name : String)
  deriving DecidableEq, Repr, Inhabited

/-- An element of a pattern. -/
inductive Element where
  | char (c : Char)
  | anyOne
  | anyText
  | oneOf (inverted : Bool) (members : List Member)
  deriving DecidableEq, Repr, Inhabited

/-- Whether a character is of a kind that has a name. -/
def isOfKind (name : String) (c : Char) : Bool :=
  match name with
  | "alnum" => c.isAlphanum
  | "alpha" => c.isAlpha
  | "blank" => c == ' ' || c == '\t'
  | "cntrl" => c.toNat < 32 || c.toNat == 127
  | "digit" => c.isDigit
  | "graph" => 32 < c.toNat && c.toNat < 127
  | "lower" => c.isLower
  | "print" => 32 ≤ c.toNat && c.toNat < 127
  | "punct" => 32 < c.toNat && c.toNat < 127 && !c.isAlphanum
  | "space" => c == ' ' || (9 ≤ c.toNat && c.toNat ≤ 13)
  | "upper" => c.isUpper
  | "xdigit" => c.isDigit || ('a' ≤ c && c ≤ 'f') || ('A' ≤ c && c ≤ 'F')
  | _ => false

/-- Whether a character is a member. -/
def Member.has : Member → Char → Bool
  | range low high, c => low ≤ c && c ≤ high
  | kind name, c => isOfKind name c

/-- Whether an element matches a character. -/
def Element.has : Element → Char → Bool
  | char d, c => c == d
  | oneOf inverted members, c => members.any (·.has c) != inverted
  | _, _ => true

/-- The members of a set up to the bracket that closes it; nothing if none does. The fuel bounds their number. -/
def members : Nat → Bool → List Marked → List Member → Option (List Member × List Marked)
  | 0, _, _, _ => none
  | fuel + 1, first, cs, done =>
    match cs with
    | [] => none
    | (c, quoted) :: rest =>
      if c == ']' && !quoted && !first then some (done.reverse, rest)
      else
        let named : Option (String × List Marked) := match c, quoted, rest with
          | '[', false, (':', false) :: rest =>
            let name := rest.takeWhile fun m => m.1.isAlpha
            match rest.drop name.length with
            | (':', _) :: (']', _) :: rest => some (String.ofList (name.map (·.1)), rest)
            | _ => none
          | _, _, _ => none
        match named with
        | some (name, rest) => members fuel false rest (.kind name :: done)
        | none => match rest with
          | ('-', false) :: (high, highQuoted) :: rest =>
            if high == ']' && !highQuoted then
              members fuel false (('-', true) :: (high, highQuoted) :: rest) (.range c c :: done)
            else members fuel false rest (.range c high :: done)
          | rest => members fuel false rest (.range c c :: done)

/-- The pattern that characters write. The fuel bounds their number. -/
def elements : Nat → List Marked → List Element
  | 0, _ => []
  | _ + 1, [] => []
  | fuel + 1, (c, quoted) :: rest =>
    let plain := Element.char c :: elements fuel rest
    if quoted then plain
    else match c with
      | '*' => .anyText :: elements fuel rest
      | '?' => .anyOne :: elements fuel rest
      | '[' =>
        let (inverted, inner) := match rest with
          | ('!', false) :: inner => (true, inner)
          | inner => (false, inner)
        match members (inner.length + 1) true inner [] with
        | some (ms, rest) => .oneOf inverted ms :: elements fuel rest
        | none => plain
      | _ => plain

/-- The pattern that characters write. -/
def pattern (cs : List Marked) : List Element := elements (cs.length + 1) cs

/-- Whether a pattern matches all of a text. The fuel bounds the length of both. -/
def matchesWith : Nat → List Element → List Char → Bool
  | 0, _, _ => false
  | _ + 1, [], cs => cs.isEmpty
  | fuel + 1, .anyText :: ps, cs =>
    matchesWith fuel ps cs || match cs with
      | [] => false
      | _ :: rest => matchesWith fuel (.anyText :: ps) rest
  | fuel + 1, p :: ps, c :: cs => p.has c && matchesWith fuel ps cs
  | _ + 1, _ :: _, [] => false

/-- Whether a pattern matches all of a text. -/
def patternMatches (ps : List Element) (s : List Char) : Bool := matchesWith (ps.length + s.length + 2) ps s

/-- The text less what a pattern matches at one of its ends: the shortest such part, or the longest. -/
def trimmed (front longest : Bool) (ps : List Element) (s : List Char) : List Char :=
  let sizes := List.range (s.length + 1)
  let sizes := if longest then sizes.reverse else sizes
  let hit := sizes.find? fun n => patternMatches ps (if front then s.take n else s.drop (s.length - n))
  match hit with
  | some n => if front then s.drop n else s.take (s.length - n)
  | none => s

/-! ## Files by pattern -/

/-- Whether an unquoted character of a word makes it a pattern for files. -/
def isWild (m : Marked) : Bool := !m.2 && (m.1 == '*' || m.1 == '?' || m.1 == '[')

/-- The part of a word up to the next slash, the slashes, and the rest. -/
def splitSegment (cs : List Marked) : List Marked × List Marked × List Marked :=
  let name := cs.takeWhile fun m => m.1 != '/'
  let rest := cs.drop name.length
  let slashes := rest.takeWhile fun m => m.1 == '/'
  (name, slashes, rest.drop slashes.length)

/-- The names in a directory that a pattern matches. A name that starts with a point is matched only by a point
that is written. -/
def matchingNames (tree : Files.Tree) (cwd : Files.Path) (directory : String) (ps : List Element) : List String :=
  match Files.resolve tree cwd (Text.ofOctets (if directory == "" then "." else directory)) with
  | .error _ => []
  | .ok place =>
    let names := (tree.children place).map fun child => Text.octets child.1
    let hidden := ps.head? == some (.char '.')
    let names := if hidden then "." :: ".." :: names else names
    names.filter fun name => (hidden || !name.startsWith ".") && patternMatches ps name.toList

/-- The paths that a word matches as a pattern for files, behind a path that is already found. The fuel bounds the
number of names on the path. -/
def matchingPaths (tree : Files.Tree) (cwd : Files.Path) : Nat → String → List Marked → List String
  | 0, _, _ => []
  | fuel + 1, done, cs =>
    let (name, slashes, rest) := splitSegment cs
    let behind := String.ofList (slashes.map (·.1))
    let names :=
      if name.any isWild then matchingNames tree cwd done (pattern name)
      else [String.ofList (name.map (·.1))]
    names.flatMap fun found =>
      let path := done ++ found ++ behind
      if rest.isEmpty then
        let exists? := (Files.locate tree false cwd (Text.ofOctets path)).toOption.bind tree.at?
        if exists?.isSome && (slashes.isEmpty || Files.pathExists tree cwd (Text.ofOctets path)) then [path] else []
      else matchingPaths tree cwd fuel path rest

/-- The order of texts by their bytes. -/
def precedes (a b : String) : Bool := a ≤ b

/-- The paths that a word matches as a pattern for files, in order; nothing if it is no pattern or matches no
file. -/
def paths? (tree : Files.Tree) (cwd : Files.Path) (word : List Marked) : Option (List String) :=
  if word.any isWild then
    let found := matchingPaths tree cwd (word.length + 1) "" word
    if found.isEmpty then none else some (found.mergeSort precedes)
  else none

end BatchRunner.Machine.Shell
