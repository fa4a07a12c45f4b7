import BatchRunner.Host
import BatchRunner.Task.Halt

/-!
# Watching descriptors

The descriptors whose input a queue waits for, each with the task that owns it. Entries keep their indices
until the set is compacted, so the events of one wait stay meaningful while tasks leave the queue.
-/

namespace BatchRunner

/-- Descriptors, their owners, and marks on those that are done with, index by index. -/
structure ReadinessSet where
  descriptors : List Fd
  owners : List TaskId
  finished : List Bool
  deriving DecidableEq, Repr, Inhabited

/-- Something that a wait reported of an entry. -/
structure ReadyEvent where
  index : Nat
  owner : TaskId
  /-- There is something to read, or the end of it. -/
  readable : Bool
  /-- Every writer is gone, or the descriptor is of no use. -/
  hungUp : Bool
  deriving DecidableEq, Repr, Inhabited

namespace ReadinessSet

/-- No entries. -/
def empty : ReadinessSet := ⟨[], [], []⟩

/-- Adds an entry at the end. -/
def register (set : ReadinessSet) (fd : Fd) (owner : TaskId) : ReadinessSet where
  descriptors := set.descriptors ++ [fd]
  owners := set.owners ++ [owner]
  finished := set.finished ++ [false]

/-- The number of entries, marked ones included. -/
def size (set : ReadinessSet) : Nat := set.descriptors.length

/-- Whether there is no entry. -/
def isEmpty (set : ReadinessSet) : Bool := set.descriptors.isEmpty

/-- Marks an entry for removal; an index beyond the entries marks none. -/
def markFinished (set : ReadinessSet) (index : Nat) : ReadinessSet :=
  { set with finished := set.finished.set index true }

/-- The elements whose marks are not set. -/
def unmarked {α : Type} : List Bool → List α → List α
  | mark :: marks, a :: as => if mark then unmarked marks as else a :: unmarked marks as
  | [], as => as
  | _, [] => []

/-- Drops the entries that are marked. -/
def compact (set : ReadinessSet) : ReadinessSet where
  descriptors := unmarked set.finished set.descriptors
  owners := unmarked set.finished set.owners
  finished := unmarked set.finished set.finished

/-- The event of an entry, if it has one. -/
def eventAt (set : ReadinessSet) (index : Nat) (conditions : Conditions) : Option ReadyEvent :=
  match set.owners[index]?, set.finished[index]? with
  | some owner, some false =>
    if conditions.any then some ⟨index, owner, conditions.isReadable, conditions.isHungUp⟩ else none
  | _, _ => none

/-- The events of the entries from an index on, given the conditions of each. -/
def eventsFrom (set : ReadinessSet) : Nat → List Conditions → List ReadyEvent
  | _, [] => []
  | index, conditions :: rest =>
    (set.eventAt index conditions).toList ++ set.eventsFrom (index + 1) rest

/-- Waits until an entry has something to report, and gives the events of the entries that are not marked,
in order. A wait that was interrupted is made again; the fuel bounds how often. Without entries there is
nothing to wait for. -/
def wait {W : Type} (set : ReadinessSet) (host : Host W) :
    Nat → W → Except Halt (Except Os.Fault (List ReadyEvent) × W)
  | 0, _ => .error .outOfFuel
  | fuel + 1, w =>
    if set.isEmpty then .ok (.ok [], w)
    else match host.poll set.descriptors w with
      | (.never, _) => .error .stalled
      | (.answer conditions, w) => .ok (.ok (set.eventsFrom 0 conditions), w)
      | (.fault cause, w) =>
        if cause.isInterruption then set.wait host fuel w else .ok (.error cause, w)

end ReadinessSet

end BatchRunner
