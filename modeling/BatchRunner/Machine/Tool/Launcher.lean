import BatchRunner.Environment
import BatchRunner.Machine.Tool.Plain
import BatchRunner.Os.Signal
import BatchRunner.Task.Termination

/-!
# Programs that run other programs

`env`, `timeout`, `nohup`, `nice`, `xargs` and others: their arguments name another program, which they become or
run.
-/

namespace BatchRunner.Machine.Tool

/-- Becomes another program; a failure is told, with a status by its kind. -/
def becomeOr (call : Call) (vars : Variables) (text : String → Os.Errno → String) : List String → Plan
  | [] => .done 0
  | name :: args => .become name args vars fun errno =>
      call.fail (text name errno) (if errno = Os.Errno.noEntry then 127 else 126)

/-- Variables with one of them set. -/
def setVar (vars : Variables) (name value : String) : Variables :=
  if (vars.lookup name).isSome then vars.map fun v => if v.1 == name then (name, value) else v
  else vars ++ [(name, value)]

/-- The name and the value in a text with an equals sign. -/
def assignmentOf? (s : String) : Option (String × String) :=
  (Environment.splitEquals s.toList).map fun (k, v) => (String.ofList k, String.ofList v)

/-- `env` shows the variables, or runs a program with others. -/
def env (call : Call) : Plan :=
  -- A lone hyphen means the same as `-i`; one argument may hold several words.
  let args := call.args.flatMap fun a =>
    if a.startsWith "-S" && 2 < a.length then (String.ofList (a.toList.drop 2)).splitOn " " |>.filter (· != "") else [a]
  let args := match args with
    | "-S" :: text :: rest => (text.splitOn " ").filter (· != "") ++ rest
    | args => args
  let inner : Call := { call with args }
  inner.read { inFront := true, flags := "i0v", valued := "uC", long := [("ignore-environment", 'i'),
    ("null", '0'), ("unset", 'u'), ("chdir", 'C'), ("debug", 'v')] } 125 fun said =>
  let (lone, operands) := match said.operands with
    | "-" :: rest => (true, rest)
    | operands => (false, operands)
  let kept := if said.has 'i' || lone then [] else call.setting.vars
  let unset := said.options.filterMap fun o => if o.1 == 'u' then some o.2 else none
  let kept := kept.filter fun v => !unset.contains v.1
  let settings := (operands.takeWhile fun a => a.toList.contains '=').filterMap assignmentOf?
  let vars := settings.foldl (fun vars (k, v) => setVar vars k v) kept
  match operands.drop settings.length with
  | [] =>
    let ending := if said.has '0' then "\x00" else "\n"
    call.answer (String.join (vars.map fun (k, v) => k ++ "=" ++ v ++ ending)) 0
  | command => becomeOr call vars (fun name errno => quote name ++ ": " ++ errno.sentence) command

/-- `printenv` writes the values of variables. -/
def printenv (call : Call) : Plan :=
  call.read { inFront := true, flags := "0", long := [("null", '0')] } 2 fun said =>
  let vars := call.setting.vars
  if said.operands.isEmpty then call.answer (String.join (vars.map fun (k, v) => k ++ "=" ++ v ++ "\n")) 0
  else
    let found := said.operands.filterMap fun name => vars.lookup name
    call.answer (unlines found) (if found.length = said.operands.length then 0 else 1)

/-- What a program that runs another says of one that it cannot run. -/
def cannotRun (name : String) (errno : Os.Errno) : String :=
  "failed to run command " ++ quote name ++ ": " ++ errno.sentence

/-- The signal that a text names, with or without the letters in front of all names, or by its number. -/
def signalNamed? (s : String) : Option Nat :=
  let plain := s.toUpper
  let bare := if plain.startsWith "SIG" then String.ofList (plain.toList.drop 3) else plain
  match decimal? s with
  | some n => if n ≤ 64 then some n else none
  | none => Os.signalNumber? bare

/-- `timeout` runs a program for a time at most. -/
def timeout (call : Call) : Plan :=
  call.read { inFront := true, flags := "v", valued := "sk", long := [("signal", 's'), ("kill-after", 'k'),
    ("preserve-status", 'p'), ("foreground", 'f'), ("verbose", 'v')] } 125 fun said =>
  let signalText := (said.value? 's').getD "TERM"
  match signalNamed? signalText, (said.value? 'k').map fun k => (k, sleepTime? k) with
  | none, _ => call.misuse (quote signalText ++ ": invalid signal") 125
  | _, some (text, none) => call.misuse ("invalid time interval " ++ quote text) 125
  | some signal, grace =>
    match said.operands with
    | time :: name :: args =>
      match sleepTime? time with
      | none => call.misuse ("invalid time interval " ++ quote time) 125
      | some nanoseconds =>
        let everybody := !said.has 'f'
        let last : List Limit := match grace with
          | some (_, some more) => if more = 0 then [] else [⟨nanoseconds + more, 9, everybody⟩]
          | _ => []
        let limits : List Limit := if nanoseconds = 0 then [] else ⟨nanoseconds, signal, everybody⟩ :: last
        .run name args call.setting.vars limits fun
          | .error errno => call.fail (cannotRun name errno) (if errno = Os.Errno.noEntry then 127 else 126)
          | .ok (status, late) =>
            let ended := status.low.toNat
            if late && !said.has 'p' && (status.isExit || ended != 9) then .done 124
            else if status.isExit then .done status.code.toNat
            else if late then .done (128 + ended)
            else .abort ended
    | _ => .complain call.advice (.done 125)

/-- `nohup` and `stdbuf` become the program that their arguments name. -/
def wrapper (valued : String) (call : Call) : Plan :=
  call.read { inFront := true, flags := "cfw", valued } 125 fun said =>
  if said.operands.isEmpty then call.missingOperand 125
  else becomeOr call call.setting.vars cannotRun said.operands

/-- `setsid` becomes the program that its arguments name. -/
def setsid (call : Call) : Plan :=
  call.read { inFront := true, flags := "cfw", long := [("ctty", 'c'), ("fork", 'f'), ("wait", 'w')] } 1 fun said =>
  if said.operands.isEmpty then call.misuse "no command specified" 1
  else becomeOr call call.setting.vars (fun name errno => "failed to execute " ++ name ++ ": " ++ errno.sentence)
    said.operands

/-- `nice` becomes another program, or tells how willingly it gives way. -/
def nice (call : Call) : Plan :=
  call.read { inFront := true, valued := "n", long := [("adjustment", 'n')] } 125 fun said =>
  let isNumber (s : String) : Bool :=
    (decimal? (String.ofList (s.toList.dropWhile fun c => c == '-' || c == '+'))).isSome
  match said.value? 'n' with
  | some text =>
    if !isNumber text then call.fail ("invalid adjustment " ++ quote text) 125
    else if said.operands.isEmpty then call.misuse "a command must be given with an adjustment" 125
    else becomeOr call call.setting.vars (fun name errno => quote name ++ ": " ++ errno.sentence) said.operands
  | none =>
    if said.operands.isEmpty then call.answer "0\n" 0
    else becomeOr call call.setting.vars (fun name errno => quote name ++ ": " ++ errno.sentence) said.operands

/-! ## `xargs` -/

/-- The words of a text: quotes and backslashes protect blanks. The fuel bounds the number of characters. -/
def wordsOf : Nat → Option (List Char) → List Char → List String
  | 0, _, _ => []
  | _ + 1, current, [] => (current.map fun w => String.ofList w.reverse).toList
  | fuel + 1, current, c :: cs =>
    let front := current.getD []
    if c == ' ' || c == '\t' || c == '\n' then
      (current.map fun w => String.ofList w.reverse).toList ++ wordsOf fuel none cs
    else if c == '\\' then match cs with
      | d :: rest => wordsOf fuel (some (d :: front)) rest
      | [] => wordsOf fuel current []
    else if c == '\'' || c == '"' then
      let inner := cs.takeWhile (· != c)
      wordsOf fuel (some (inner.reverse ++ front)) (cs.drop (inner.length + 1))
    else wordsOf fuel (some (c :: front)) cs

/-- Lists of at most so many in a row. The fuel bounds the number of lists. -/
def groupsOf (size : Nat) : Nat → List String → List (List String)
  | 0, _ => []
  | _ + 1, [] => []
  | fuel + 1, xs => xs.take size :: groupsOf size fuel (xs.drop size)

/-- Runs commands one after another, each of which is shown before if that is asked for. -/
def runEach (call : Call) (shown : Bool) : List (List String) → Nat → Plan
  | [], status => .done status
  | [] :: commands, status => runEach call shown commands status
  | (name :: args) :: commands, status =>
    let start : Plan := .run name args call.setting.vars [] fun
      | .error errno =>
        call.fail (name ++ ": " ++ errno.sentence) (if errno = Os.Errno.noEntry then 127 else 126)
      | .ok (ended, _) =>
        if !ended.isExit then call.fail (name ++ ": terminated by signal " ++ toString ended.low.toNat) 125
        else if ended.code = 255 then call.fail (name ++ ": exited with status 255; aborting") 124
        else runEach call shown commands (if ended.code = 0 then status else 123)
    if shown then .complain (" ".intercalate (name :: args.map clear) ++ "\n") start else start

/-- The quote in a text that is not closed on its line, if there is one. The fuel bounds the number of characters. -/
def openQuote? : Nat → List Char → Option Char
  | 0, _ => none
  | _, [] => none
  | fuel + 1, '\\' :: _ :: rest => openQuote? fuel rest
  | fuel + 1, c :: rest =>
    if c == '\'' || c == '"' then
      let inner := rest.takeWhile fun d => d != c && d != '\n'
      match rest.drop inner.length with
      | d :: behind => if d == c then openQuote? fuel behind else some c
      | [] => some c
    else openQuote? fuel rest

/-- What is said of a quote that is not closed. -/
def unmatchedQuote (c : Char) : String :=
  "unmatched " ++ (if c == '"' then "double" else "single") ++
    " quote; by default quotes are special to xargs unless you use the -0 option"

/-- `xargs` runs a program with what it reads as arguments. -/
def xargs (call : Call) : Plan :=
  call.read { inFront := true, flags := "0rtx", valued := "nILdPs", long := [("null", '0'), ("no-run-if-empty", 'r'),
    ("max-args", 'n'), ("replace", 'I'), ("max-lines", 'L'), ("delimiter", 'd')] } 1 fun said =>
  .readAll 0 fun
    | .error _ => .done 1
    | .ok bytes =>
      let input := Text.ofByteArray bytes
      let command := if said.operands.isEmpty then ["echo"] else said.operands
      let isPlain := !said.has '0' && (said.value? 'd').isNone
      match if isPlain then openQuote? (input.length + 1) input.toList else none with
      | some c => call.fail (unmatchedQuote c) 1
      | none =>
      let items :=
        if said.has '0' then (input.splitOn "\x00").filter (· != "")
        else match said.value? 'd' with
          | some "\\n" => linesOf input
          | some d => (input.splitOn d).filter (· != "")
          | none => wordsOf (input.length + 1) none input.toList
      match said.value? 'I' with
      | some mark =>
        let lines := (linesOf input).map fun l => String.ofList (l.toList.dropWhile fun c => c == ' ' || c == '\t')
        runEach call (said.has 't') ((lines.filter (· != "")).map fun l => command.map fun w => w.replace mark l) 0
      | none =>
        if items.isEmpty then (if said.has 'r' then .done 0 else runEach call (said.has 't') [command] 0)
        else
          let size := ((said.value? 'n').bind decimal?).getD items.length
          runEach call (said.has 't') ((groupsOf (max size 1) (items.length + 1) items).map (command ++ ·)) 0

end BatchRunner.Machine.Tool
