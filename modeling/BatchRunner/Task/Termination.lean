import BatchRunner.Os.Signal
import BatchRunner.Decode.Choice
import BatchRunner.Decode.Record
import BatchRunner.Json.Value

/-!
# How a process ends

A process exits with a code or is killed by a signal. The operating system reports either as a word of 32
bits, together with the resources that the process used.
-/

namespace BatchRunner

/-- The word in which the operating system reports the end of a process. -/
structure WaitStatus where
  word : BitVec 32
  deriving DecidableEq, Repr, Inhabited

namespace WaitStatus

/-- The lowest seven bits, which tell the ways to end apart. -/
def low (status : WaitStatus) : BitVec 7 := status.word.extractLsb' 0 7

/-- Whether the process exited. -/
def isExit (status : WaitStatus) : Bool := status.low == 0

/-- The exit code, where there is one. -/
def code (status : WaitStatus) : BitVec 8 := status.word.extractLsb' 8 8

/-- Whether a signal killed the process: one more than the low bits, as a signed byte and halved, is still
positive. That leaves out zero and the all-ones pattern of a process that is merely suspended. -/
def isSignal (status : WaitStatus) : Bool :=
  0 < ((status.low.setWidth 8 + 1).sshiftRight 1).toInt

/-- Whether the process left an image of its memory. -/
def dumpedCore (status : WaitStatus) : Bool := status.word.getLsbD 7

/-- The status of a process that exited with a code. -/
def exited (code : Nat) : WaitStatus := ⟨BitVec.ofNat 32 (code % 256 * 256)⟩

/-- The status of a process that a signal killed. -/
def signalled (number : Nat) : WaitStatus := ⟨BitVec.ofNat 32 (number % 127)⟩

end WaitStatus

/-- A signal that killed a process. -/
structure Signal where
  number : Int
  description : String
  coreDumped : Bool
  deriving DecidableEq, Repr, Inhabited

namespace Signal

/-- The signal with a number, described by the operating system. -/
def ofNumber (number : Int) (coreDumped : Bool) : Signal :=
  ⟨number, Os.describeSignal number, coreDumped⟩

/-- The text of a signal in a report. -/
def message (signal : Signal) : String :=
  "signal " ++ toString signal.number ++ " (" ++ signal.description ++ ")" ++
    if signal.coreDumped then ", core dumped" else ""

/-- A signal as a record. -/
def record : Decode.RecordType :=
  .lenient "Signal" [
    .of "number" .required (Decode.integer .signed32),
    .of "description" .required Decode.text,
    .of "core_dumped" .required Decode.boolean]

/-- Reads a signal. -/
def decode : Decode.Decoder Signal :=
  record.decode fun slots => do
    return {
      number := ← slots.require "number" (Decode.integer .signed32)
      description := ← slots.require "description" Decode.text
      coreDumped := ← slots.require "core_dumped" Decode.boolean }

/-- A signal written as JSON. -/
def toJson (signal : Signal) : Json.Value :=
  .object [
    ("number", .integer signal.number),
    ("description", .text signal.description),
    ("core_dumped", .boolean signal.coreDumped)]

end Signal

/-- How a process ended. -/
inductive Termination where
  | exited (code : Int)
  | signalled (signal : Signal)
  deriving DecidableEq, Repr, Inhabited

namespace Termination

/-- What a status says about the end of a process. A status that is neither an exit nor a death is kept as
the code of an exit. -/
def ofStatus (status : WaitStatus) : Termination :=
  if status.isExit then .exited status.code.toNat
  else if status.isSignal then .signalled (.ofNumber status.low.toNat status.dumpedCore)
  else .exited status.word.toInt

/-- The exit code, if the process exited. -/
def exitCode? : Termination → Option Int
  | exited code => some code
  | signalled _ => none

/-- The signal, if one killed the process. -/
def signal? : Termination → Option Signal
  | exited _ => none
  | signalled signal => some signal

/-- Whether the process exited with zero. -/
def isSuccess (termination : Termination) : Bool := termination == exited 0

/-- The text of an end in a report. -/
def message : Termination → String
  | exited code => "exited with code " ++ toString code
  | signalled signal => "terminated by " ++ signal.message

/-- Both ways to end, by name. -/
def choices : Decode.Choices Termination := [
  ("Exited", .holding fun node => exited <$> Decode.integer .signed32 node),
  ("Signalled", .holding fun node => signalled <$> Signal.decode node)]

/-- Reads an end. -/
def decode : Decode.Decoder Termination := choices.decode

/-- An end written as JSON. -/
def toJson : Termination → Json.Value
  | exited code => .object [("Exited", .integer code)]
  | signalled signal => .object [("Signalled", signal.toJson)]

end Termination

/-- A span of time: whole seconds and less than a thousand million nanoseconds. -/
structure Duration where
  seconds : Nat
  nanoseconds : Nat
  deriving DecidableEq, Repr, Inhabited

namespace Duration

/-- No time. -/
def zero : Duration := ⟨0, 0⟩

/-- The nanoseconds of one second. -/
def nanosecondsPerSecond : Nat := 1000000000

/-- A duration as a record, of which no further key is accepted. -/
def record : Decode.RecordType where
  name := "Duration"
  fields := [
    .of "secs" .required (Decode.natural .unsigned64),
    .of "nanos" .required (Decode.natural .unsigned32)]
  whenShort := "struct Duration"
  refusesOthers := true

/-- Reads a duration; nanoseconds beyond a second are carried over. -/
def decode : Decode.Decoder Duration :=
  record.decode fun slots => do
    let seconds ← slots.require "secs" (Decode.natural .unsigned64)
    let nanoseconds ← slots.require "nanos" (Decode.natural .unsigned32)
    let total := seconds + nanoseconds / nanosecondsPerSecond
    if UInt64.size ≤ total then .error (.overflow "Duration")
    else return ⟨total, nanoseconds % nanosecondsPerSecond⟩

/-- A duration written as JSON. -/
def toJson (duration : Duration) : Json.Value :=
  .object [("secs", .count duration.seconds), ("nanos", .count duration.nanoseconds)]

end Duration

/-- What a process used up, as the operating system reports it. -/
structure ResourceUsage where
  userTime : Duration
  systemTime : Duration
  /-- The most memory that was resident at a time, in units of 1024 bytes. -/
  peakMemory : Nat
  deriving DecidableEq, Repr, Inhabited

namespace ResourceUsage

/-- Nothing used. -/
def zero : ResourceUsage := ⟨.zero, .zero, 0⟩

/-- Usage as a record. -/
def record : Decode.RecordType :=
  .lenient "ResourceUsage" [
    .of "user_time" .required Duration.decode,
    .of "system_time" .required Duration.decode,
    .of "max_rss_kib" .required (Decode.natural .unsigned64)]

/-- Reads usage. -/
def decode : Decode.Decoder ResourceUsage :=
  record.decode fun slots => do
    return {
      userTime := ← slots.require "user_time" Duration.decode
      systemTime := ← slots.require "system_time" Duration.decode
      peakMemory := ← slots.require "max_rss_kib" (Decode.natural .unsigned64) }

/-- Usage written as JSON. -/
def toJson (usage : ResourceUsage) : Json.Value :=
  .object [
    ("user_time", usage.userTime.toJson),
    ("system_time", usage.systemTime.toJson),
    ("max_rss_kib", .count usage.peakMemory)]

end ResourceUsage

end BatchRunner
