import BatchRunner.Machine.Shell.Arithmetic
import BatchRunner.Machine.Shell.Pattern

/-!
# Expansion of words

A word becomes the fields of a command: parameters, arithmetic and the output of scripts are put in their place,
what was not quoted is divided, and patterns give way to the names of files. Since the output of a script is not
known before the script has run, an expansion says which script it needs and is done again from its start with
that output; what it has changed until then is not kept.
-/

namespace BatchRunner.Machine.Shell

/-- A piece of an expanded word. -/
inductive Atom where
  /-- A character; whether it is quoted, and whether it may divide fields. -/
  | char (c : Char) (quoted divides : Bool)
  /-- Something that makes a field even of nothing. -/
  | mark
  /-- Between arguments; `quoted` ones are fields even if they are empty. -/
  | boundary (quoted : Bool)
  deriving DecidableEq, Repr, Inhabited

/-- Why an expansion gives no fields. -/
inductive Interruption where
  /-- The output of a script is needed, which is to run in a context. -/
  | needs (text : String) (line : Nat) (context : Context)
  /-- The shell is to say what is wrong. -/
  | fails (text : String)
  deriving Inhabited

/-- What an expansion goes on from: the context, and the outputs of scripts that it has not used yet. -/
structure Expanding where
  context : Context
  outputs : List String

/-- Expands something. -/
abbrev Expansion (α : Type) := StateT Expanding (Except Interruption) α

/-- Which kinds of expansion a word is subject to. -/
structure Manner where
  /-- Divided into fields. -/
  divided : Bool := false
  /-- A tilde at the front stands for a home directory. -/
  tilde : Bool := false
  /-- So does one behind a colon, as in a value. -/
  tildeInValue : Bool := false
  deriving Inhabited

/-- The home directory that a tilde with a name stands for. -/
def homeOf (context : Context) (user : String) : Option String :=
  match user with
  | "" => context.value? "HOME"
  | "root" => some "/root"
  | _ => none

/-- Characters of an expansion. -/
def atomsOf (quoted divides : Bool) (s : String) : List Atom := s.toList.map (.char · quoted divides)

/-- Atoms of literal text; a tilde at its front, or behind a colon of a value, stands for a home directory. The
fuel bounds the number of colons. -/
def tildeAtoms (context : Context) (manner : Manner) (last : Bool) : Nat → Bool → List Char → List Atom
  | 0, _, cs => cs.map (.char · false false)
  | fuel + 1, here, cs =>
    match here, cs with
    | true, '~' :: rest =>
      let stops (c : Char) : Bool := c == '/' || (manner.tildeInValue && c == ':')
      let user := rest.takeWhile fun c => !stops c
      let behind := rest.dropWhile fun c => !stops c
      match if behind.isEmpty && !last then none else homeOf context (String.ofList user) with
      | some home => atomsOf true false home ++ tildeAtoms context manner last fuel false behind
      | none => .char '~' false false :: tildeAtoms context manner last fuel false rest
    | _, cs =>
      if manner.tildeInValue then
        let front := cs.takeWhile (· != ':')
        match cs.dropWhile (· != ':') with
        | [] => cs.map (.char · false false)
        | colon :: rest =>
          front.map (.char · false false) ++ .char colon false false :: tildeAtoms context manner last fuel true rest
      else cs.map (.char · false false)

/-- The text of atoms. -/
def atomText (atoms : List Atom) : String :=
  String.ofList (atoms.filterMap fun
    | .char c _ _ => some c
    | .boundary _ => some ' '
    | .mark => none)

/-- The pattern that atoms write. -/
def atomPattern (atoms : List Atom) : List Element :=
  pattern (atoms.filterMap fun
    | .char c quoted _ => some (c, quoted)
    | .boundary _ => some (' ', false)
    | .mark => none)

/-- The output of a script, once it is known. -/
def scriptOutput (text : String) (line : Nat) : Expansion String := do
  let state ← get
  match state.outputs with
  | output :: outputs =>
    set { state with outputs }
    return output
  | [] => throw (.needs text line state.context)

/-- What is said of a parameter that has no value but needs one. -/
def missing (name : String) : String := name ++ ": parameter not set"

mutual

/-- The atoms of a piece of a word. -/
def expandPart (manner : Manner) (atFront last : Bool) : Part → Expansion (List Atom)
  | .text true chars => return .mark :: atomsOf true false chars
  | .text false chars => do
    let context := (← get).context
    return tildeAtoms context manner last (chars.length + 1) (atFront && manner.tilde) chars.toList
  | .script quoted text line => do
    let output ← scriptOutput text line
    return (if quoted then [.mark] else []) ++ atomsOf quoted (!quoted) output
  | .sum quoted expression => do
    let atoms ← expandParts {} false expression
    let state ← get
    match Arithmetic.evaluate state.context (atomText atoms) with
    | .ok (n, context) =>
      set { state with context }
      return (if quoted then [.mark] else []) ++ atomsOf quoted (!quoted) (toString n)
    | .error text => throw (.fails text)
  | .invalid => throw (.fails "Bad substitution")
  | .parameter quoted name use word => do
    let context := (← get).context
    let isAll := name == "@" || name == "*"
    let mark : List Atom := if quoted && !(name == "@" && context.args.isEmpty) then [.mark] else []
    let shown (value : String) : List Atom := mark ++ atomsOf quoted (!quoted) value
    let all (f : String → String) : List Atom :=
      if manner.divided && (name == "@" || !quoted) then
        let texts := context.args.map fun a => mark ++ atomsOf quoted (!quoted) (f a)
        (texts.intersperse [.boundary quoted]).flatten
      else shown (f ((context.parameter? name).getD ""))
    let plain (value : String) : List Atom := if isAll then all id else shown value
    let present (orEmpty : Bool) : Option String := (context.parameter? name).filter fun v => !(orEmpty && v == "")
    let strict : Expansion Unit :=
      if context.hasOption 'u' && !isAll && (context.parameter? name).isNone then throw (.fails (missing name))
      else return ()
    match use with
    | .value => do
      strict
      return plain ((context.parameter? name).getD "")
    | .length => do
      strict
      return shown (toString ((context.parameter? name).getD "").length)
    | .default orEmpty => do
      match present orEmpty with
      | some value => return plain value
      | none => return mark ++ (← expandParts { manner with tildeInValue := false } (!quoted) word)
    | .alternative orEmpty => do
      match present orEmpty with
      | some _ => return mark ++ (← expandParts { manner with tildeInValue := false } (!quoted) word)
      | none => return mark
    | .assign orEmpty => do
      match present orEmpty with
      | some value => return plain value
      | none =>
        if !isName name then throw (.fails (name ++ ": bad variable name"))
        let value := atomText (← expandParts { tilde := true } (!quoted) word)
        let state ← get
        match state.context.assign name value with
        | .ok context =>
          set { state with context }
          return shown value
        | .error text => throw (.fails text)
    | .demand orEmpty => do
      match present orEmpty with
      | some value => return plain value
      | none =>
        if word.isEmpty then throw (.fails (missing name ++ if orEmpty then " or null" else ""))
        else throw (.fails (name ++ ": " ++ atomText (← expandParts { tilde := true } true word)))
    | .trim front longest => do
      strict
      let ps := atomPattern (← expandParts { tilde := true } true word)
      let cut (s : String) : String := String.ofList (trimmed front longest ps s.toList)
      return if isAll then all cut else shown (cut ((context.parameter? name).getD ""))

/-- The atoms of the pieces of a word. -/
def expandParts (manner : Manner) (atFront : Bool) : List Part → Expansion (List Atom)
  | [] => return []
  | part :: parts => do
    let atoms ← expandPart manner atFront parts.isEmpty part
    return atoms ++ (← expandParts manner false parts)

end

/-! ## Fields -/

/-- Fields that are being built: those that are complete, last first, and the one that is not, last character
first; whether anything makes a field of it; and whether white space behind a separator is still passed over, with
one more separator allowed in it. -/
structure Division where
  complete : List (List Marked)
  current : List Marked
  exists? : Bool
  passing : Option Bool

namespace Division

/-- No fields. -/
def none : Division := ⟨[], [], false, .none⟩

/-- Ends a field, whether anything is in it or not. -/
def close (d : Division) (passing : Option Bool) : Division := ⟨d.current.reverse :: d.complete, [], false, passing⟩

/-- Whether a character is white space that may divide fields. -/
def isSpace (c : Char) : Bool := c == ' ' || c == '\t' || c == '\n'

/-- Adds an atom. -/
def add (separators : List Char) (d : Division) : Atom → Division
  | .mark => { d with exists? := true, passing := .none }
  | .boundary quoted =>
    if quoted || d.exists? then d.close .none else { d with passing := .none }
  | .char c quoted divides =>
    let keep : Division := { d with current := (c, quoted) :: d.current, exists? := true, passing := .none }
    if !divides || !separators.contains c then keep
    else match d.passing with
      | some mayDivide =>
        if isSpace c then d
        else if mayDivide then { d with passing := some false }
        else d.close (some false)
      | .none =>
        if isSpace c && !d.exists? then d
        else d.close (some (isSpace c))

/-- The fields in order. -/
def toList (d : Division) : List (List Marked) :=
  (if d.exists? then d.current.reverse :: d.complete else d.complete).reverse

end Division

/-- The fields of atoms. -/
def divide (context : Context) (atoms : List Atom) : List (List Marked) :=
  (atoms.foldl (Division.add context.separators.toList) .none).toList

/-- The text of a field. -/
def fieldText (field : List Marked) : String := String.ofList (field.map (·.1))

/-- The fields of a word, with the names of files in place of patterns. -/
def expandFields (tree : Files.Tree) (word : Word) : Expansion (List String) := do
  let atoms ← expandParts { divided := true, tilde := true } true word
  let context := (← get).context
  return (divide context atoms).flatMap fun field =>
    if context.hasOption 'f' then [fieldText field]
    else (paths? tree context.cwd field).getD [fieldText field]

/-- A word as one text. -/
def expandText (word : Word) : Expansion String :=
  return atomText (← expandParts { tilde := true } true word)

/-- The value that is assigned to a variable, as one text. -/
def expandValue (word : Word) : Expansion String :=
  return atomText (← expandParts { tilde := true, tildeInValue := true } true word)

/-- A word that assigns to a variable, as one text. -/
def expandAssignment (name : String) (value : Word) : Expansion String :=
  return name ++ "=" ++ (← expandValue value)

/-- A word as a pattern. -/
def expandPattern (word : Word) : Expansion (List Element) :=
  return atomPattern (← expandParts { tilde := true } true word)

/-- The text that stands in a script for a redirection. -/
def expandDocument (word : Word) : Expansion String := return atomText (← expandParts {} false word)

end BatchRunner.Machine.Shell
