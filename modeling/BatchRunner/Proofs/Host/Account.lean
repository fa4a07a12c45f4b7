import BatchRunner.Hooks

/-!
# Accounts of a host

What a queue relies on outside itself is said of an account (`Account`): which pipe is open for it behind each
descriptor, and which of the processes that it started it has not learnt the end of. An account is *orderly*
(`Account.Orderly`) if descriptors and numbers that are in use are not given out again, and nothing but the
queue's own calls opens or closes its descriptors. It is *piped* (`Account.Piped`) if bytes come out of pipes
as they went in, and the end of a pipe is told only when no writer is left. Nothing is assumed of the order in
which processes run, write and end, or of how much of what was written a call finds.
-/

namespace BatchRunner

/-! ## Pipes -/

/-- A pipe, with all that ever went through it. -/
structure Pipe where
  /-- The bytes that were read from it. -/
  taken : ByteArray
  /-- The bytes that were written to it and not read yet. -/
  unread : ByteArray
  /-- The processes that can still write to it. -/
  writers : List Pid

namespace Pipe

/-- All bytes that were written to a pipe, in order. -/
def written (p : Pipe) : ByteArray := p.taken ++ p.unread

/-- What may become of a pipe while nobody reads from it. With no writer left nothing happens to it. -/
structure Grows (p q : Pipe) : Prop where
  taken : q.taken = p.taken
  unread : ∃ more, q.unread = p.unread ++ more
  ended : p.writers = [] → q = p

/-- What a read from a pipe may reply, and the pipe after it. -/
inductive Gives : Pipe → Reply ByteArray → Pipe → Prop
  | bytes {p : Pipe} {chunk rest : ByteArray} (hsome : chunk.isEmpty = false) (hfirst : p.unread = chunk ++ rest) :
    Gives p (.answer chunk) ⟨p.taken ++ chunk, rest, p.writers⟩
  | ended {p : Pipe} {chunk : ByteArray} (hnone : chunk.isEmpty = true) (hunread : p.unread = .empty)
      (hwriters : p.writers = []) :
    Gives p (.answer chunk) p
  /-- A fault takes nothing; that there is nothing to read yet is true. -/
  | fault {p : Pipe} {cause : Os.Fault} (hdry : cause.wouldBlock = true → p.unread = .empty) :
    Gives p (.fault cause) p
  | never {p : Pipe} : Gives p .never p

theorem Grows.refl (p : Pipe) : p.Grows p :=
  ⟨rfl, ⟨.empty, ByteArray.append_empty.symm⟩, fun _ => rfl⟩

theorem Grows.trans {p q r : Pipe} (h : p.Grows q) (h' : q.Grows r) : p.Grows r where
  taken := h'.taken.trans h.taken
  unread := by
    obtain ⟨more, hmore⟩ := h.unread
    obtain ⟨more', hmore'⟩ := h'.unread
    exact ⟨more ++ more', by rw [hmore', hmore, ByteArray.append_assoc]⟩
  ended := fun hwriters => by
    obtain rfl := h.ended hwriters
    exact h'.ended hwriters

/-- Nothing that was written is lost. -/
theorem Grows.written {p q : Pipe} (h : p.Grows q) : ∃ more, q.written = p.written ++ more := by
  obtain ⟨more, hmore⟩ := h.unread
  exact ⟨more, by rw [Pipe.written, h.taken, hmore, Pipe.written, ByteArray.append_assoc]⟩

/-- A read moves bytes from what is unread to what is taken, and writes nothing. -/
theorem Gives.written {p q : Pipe} {reply : Reply ByteArray} (h : p.Gives reply q) : q.written = p.written := by
  cases h with
  | bytes hsome hfirst => rw [Pipe.written, Pipe.written, hfirst, ByteArray.append_assoc]
  | _ => rfl

theorem Gives.writers {p q : Pipe} {reply : Reply ByteArray} (h : p.Gives reply q) : q.writers = p.writers := by
  cases h <;> rfl

theorem written_of_unread {p : Pipe} (h : p.unread = .empty) : p.written = p.taken := by
  rw [Pipe.written, h, ByteArray.append_empty]

end Pipe

/-! ## Accounts -/

/-- The descriptors of the pipes of a process that are open for reading. -/
def Child.descriptors (child : Child) : List Fd := child.stdout.toList ++ child.stderr.toList

theorem Child.mem_descriptors {child : Child} {fd : Fd} :
    fd ∈ child.descriptors ↔ fd ∈ child.stdout ∨ fd ∈ child.stderr := by
  simp [Child.descriptors]

/-- What is known, in each world, of the descriptors and processes that a queue was given. -/
structure Account (W : Type) where
  /-- The pipe that is open for reading behind a descriptor. -/
  pipe? : W → Fd → Option Pipe
  /-- Whether a process was started, and its end has not been learnt. -/
  isChild : W → Pid → Prop

namespace Account

variable {κ W : Type} (account : Account W)

/-- Whether a pipe is open for reading behind a descriptor. -/
def IsOpen (w : W) (fd : Fd) : Prop := (account.pipe? w fd).isSome = true

/-- Whether behind a descriptor a pipe is open that nobody can write to any more. -/
def IsEnded (w : W) (fd : Fd) : Prop := ∃ p, account.pipe? w fd = some p ∧ p.writers = []

/-- From one world to another, only the given descriptors may have been closed and only the ends of the given
processes learnt, and no descriptor was opened. -/
structure Keeps (fds : List Fd) (pids : List Pid) (w w' : W) : Prop where
  isOpen : ∀ fd, fd ∉ fds → account.IsOpen w fd → account.IsOpen w' fd
  wasOpen : ∀ fd, account.IsOpen w' fd → account.IsOpen w fd
  isChild : ∀ pid, pid ∉ pids → account.isChild w pid → account.isChild w' pid

/-- From one world to another a process was started, with fresh pipes under descriptors that were not open and
under a number that was not in use. Standard output always has a pipe; standard error has one if the two are
to be apart. -/
structure Starts (separate : Bool) (w : W) (child : Child) (w' : W) : Prop where
  stdout : child.stdout.isSome = true
  stderr : child.stderr.isSome = separate
  apart : child.descriptors.Nodup
  fresh : ∀ fd ∈ child.descriptors, ¬ account.IsOpen w fd
  opened : ∀ fd ∈ child.descriptors, account.IsOpen w' fd
  keptOpen : ∀ fd, account.IsOpen w fd → account.IsOpen w' fd
  freshPid : ¬ account.isChild w child.pid
  started : account.isChild w' child.pid
  keptChild : ∀ pid, account.isChild w pid → account.isChild w' pid

/-- Descriptors and process numbers that are in use are not given out again, and nothing but the calls that
are made for it opens or closes the descriptors of a queue or learns the ends of its processes. -/
structure Orderly (host : Host W) (hooks : Hooks κ W) : Prop where
  spawn_ok : ∀ {launch w child w'}, host.spawn launch w = (.ok child, w') →
    account.Starts launch.separateErrors w child w'
  spawn_error : ∀ {launch w cause w'}, host.spawn launch w = (.error cause, w') → account.Keeps [] [] w w'
  poll : ∀ fds w, account.Keeps [] [] w (host.poll fds w).2
  read : ∀ fd count w, account.Keeps [] [] w (host.read fd count w).2
  setBlocking : ∀ fd w, account.Keeps [] [] w (host.setBlocking fd w).2
  wait : ∀ pid w, account.Keeps [] [pid] w (host.wait pid w).2
  close : ∀ fd w, account.Keeps [fd] [] w (host.close fd w)
  closed : ∀ fd w, ¬ account.IsOpen (host.close fd w) fd
  tellBegan : ∀ task w, account.Keeps [] [] w (hooks.tellBegan task w)
  terminated : ∀ policy task w, account.Keeps [] [] w (hooks.terminated policy task w).2

/-- From one world to another, nobody read from a pipe, but for those behind the given descriptors. -/
def Grows (fds : List Fd) (w w' : W) : Prop :=
  ∀ fd, fd ∉ fds → ∀ p, account.pipe? w fd = some p → ∃ q, account.pipe? w' fd = some q ∧ p.Grows q

/-- From one world to another, nothing that was written to an open pipe was lost. -/
def Extends (w w' : W) : Prop :=
  ∀ fd p, account.pipe? w fd = some p → ∃ q, account.pipe? w' fd = some q ∧ ∃ more, q.written = p.written ++ more

/-- Pipes hand bytes on in order, and the end of a pipe, be it by a read or by a hang-up, is told only when no
writer is left. A process that has ended writes no more. -/
structure Piped (host : Host W) (hooks : Hooks κ W) : Prop extends account.Orderly host hooks where
  spawn_grows : ∀ launch w, account.Grows [] w (host.spawn launch w).2
  spawn_untaken : ∀ {launch w child w'}, host.spawn launch w = (.ok child, w') →
    ∀ fd ∈ child.descriptors, ∀ p, account.pipe? w' fd = some p → p.taken = .empty
  poll_grows : ∀ fds w, account.Grows [] w (host.poll fds w).2
  /-- Errors are told of the writing ends of pipes, and what is open is a valid descriptor: of an open reading end
  neither is told, and a hang-up no sooner than it happens. -/
  poll_hangUp : ∀ {fds w conditions w'}, host.poll fds w = (.answer conditions, w') →
    ∀ {index : Nat} {fd : Fd} {c : Conditions}, fds[index]? = some fd → conditions[index]? = some c →
      c.isHungUp = true → account.IsOpen w' fd → account.IsEnded w' fd
  read_grows : ∀ fd count w, account.Grows [fd] w (host.read fd count w).2
  read_gives : ∀ {fd count w reply w'}, 0 < count → host.read fd count w = (reply, w') →
    ∀ {p}, account.pipe? w fd = some p →
      ∃ grown q, p.Grows grown ∧ grown.Gives reply q ∧ account.pipe? w' fd = some q
  setBlocking_grows : ∀ fd w, account.Grows [] w (host.setBlocking fd w).2
  wait_grows : ∀ pid w, account.Grows [] w (host.wait pid w).2
  wait_ended : ∀ {pid w found w'}, host.wait pid w = (.answer found, w') →
    ∀ {fd p}, account.pipe? w' fd = some p → pid ∉ p.writers
  close_grows : ∀ fd w, account.Grows [fd] w (host.close fd w)
  tellBegan_grows : ∀ task w, account.Grows [] w (hooks.tellBegan task w)
  terminated_grows : ∀ policy task w, account.Grows [] w (hooks.terminated policy task w).2

variable {account} {fds fds' : List Fd} {pids pids' : List Pid} {w w' w'' : W} {fd : Fd}

theorem Keeps.refl (fds : List Fd) (pids : List Pid) (w : W) : account.Keeps fds pids w w :=
  ⟨fun _ _ h => h, fun _ h => h, fun _ _ h => h⟩

theorem Keeps.trans (h : account.Keeps fds pids w w') (h' : account.Keeps fds pids w' w'') :
    account.Keeps fds pids w w'' where
  isOpen := fun fd hfd hopen => h'.isOpen fd hfd (h.isOpen fd hfd hopen)
  wasOpen := fun fd hopen => h.wasOpen fd (h'.wasOpen fd hopen)
  isChild := fun pid hpid hchild => h'.isChild pid hpid (h.isChild pid hpid hchild)

theorem Keeps.mono (h : account.Keeps fds pids w w') (hfds : fds ⊆ fds') (hpids : pids ⊆ pids') :
    account.Keeps fds' pids' w w' where
  isOpen := fun fd hfd => h.isOpen fd fun hmem => hfd (hfds hmem)
  wasOpen := h.wasOpen
  isChild := fun pid hpid => h.isChild pid fun hmem => hpid (hpids hmem)

theorem Grows.refl (fds : List Fd) (w : W) : account.Grows fds w w :=
  fun _ _ p hp => ⟨p, hp, .refl p⟩

theorem Grows.trans (h : account.Grows fds w w') (h' : account.Grows fds w' w'') :
    account.Grows fds w w'' := by
  intro fd hfd p hp
  obtain ⟨q, hq, hgrows⟩ := h fd hfd p hp
  obtain ⟨r, hr, hgrows'⟩ := h' fd hfd q hq
  exact ⟨r, hr, hgrows.trans hgrows'⟩

theorem Grows.mono (h : account.Grows fds w w') (hfds : fds ⊆ fds') : account.Grows fds' w w' :=
  fun fd hfd => h fd fun hmem => hfd (hfds hmem)

/-- Nobody begins to write to a pipe that no writer was left for. -/
theorem Grows.isEnded (h : account.Grows fds w w') (hfd : fd ∉ fds) (hended : account.IsEnded w fd) :
    account.IsEnded w' fd := by
  obtain ⟨p, hp, hwriters⟩ := hended
  obtain ⟨q, hq, hgrows⟩ := h fd hfd p hp
  exact ⟨q, hq, by rw [hgrows.ended hwriters, hwriters]⟩

theorem Piped.grows_of_spawn {host : Host W} {hooks : Hooks κ W} (h : account.Piped host hooks) {launch : Launch}
    {result : Except Os.Fault Child} (hspawn : host.spawn launch w = (result, w')) : account.Grows [] w w' := by
  have hgrows := h.spawn_grows launch w
  rwa [hspawn] at hgrows

theorem Extends.refl (w : W) : account.Extends w w :=
  fun _ p hp => ⟨p, hp, .empty, ByteArray.append_empty.symm⟩

theorem Extends.trans (h : account.Extends w w') (h' : account.Extends w' w'') : account.Extends w w'' := by
  intro fd p hp
  obtain ⟨q, hq, more, hmore⟩ := h fd p hp
  obtain ⟨r, hr, more', hmore'⟩ := h' fd q hq
  exact ⟨r, hr, more ++ more', by rw [hmore', hmore, ByteArray.append_assoc]⟩

theorem Grows.extends_of_nil (h : account.Grows [] w w') : account.Extends w w' := by
  intro fd p hp
  obtain ⟨q, hq, hgrows⟩ := h fd List.not_mem_nil p hp
  exact ⟨q, hq, hgrows.written⟩

/-- A read loses nothing, for what it takes counts as written. -/
theorem Piped.read_extends {host : Host W} {hooks : Hooks κ W} (h : account.Piped host hooks) (fd' : Fd)
    {count : Nat} (hcount : 0 < count) (w : W) : account.Extends w (host.read fd' count w).2 := by
  intro fd p hp
  by_cases heq : fd = fd'
  · subst heq
    obtain ⟨grown, q, hgrows, hgives, hq⟩ := h.read_gives hcount (Prod.eta _).symm hp
    exact ⟨q, hq, by rw [hgives.written]; exact hgrows.written⟩
  · obtain ⟨q, hq, hgrows⟩ := h.read_grows fd' count w fd (by simpa using heq) p hp
    exact ⟨q, hq, hgrows.written⟩

/-- Reading does not let anybody write again. -/
theorem Piped.read_isEnded {host : Host W} {hooks : Hooks κ W} (h : account.Piped host hooks)
    (fd' : Fd) {count : Nat} (hcount : 0 < count) (w : W) (hended : account.IsEnded w fd) :
    account.IsEnded (host.read fd' count w).2 fd := by
  by_cases heq : fd = fd'
  · subst heq
    obtain ⟨p, hp, hwriters⟩ := hended
    obtain ⟨grown, q, hgrows, hgives, hq⟩ := h.read_gives hcount (Prod.eta _).symm hp
    exact ⟨q, hq, by rw [hgives.writers, hgrows.ended hwriters, hwriters]⟩
  · exact (h.read_grows fd' count w).isEnded (by simpa using heq) hended

end Account

end BatchRunner
