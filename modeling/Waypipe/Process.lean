import Mathlib.Data.List.AList
import Waypipe.Token
import Waypipe.Sockaddr

/-!
# Processes and their descriptor tables

The supervisor's properties are about which process holds which open file description, so
a process is modelled with its descriptor table: a finite map from descriptor numbers to
open file descriptions (`Obj`). An open file description is named by the process that
created it, a serial number of that process, and what the server created it as; `fork`
copies the table, so the child and the parent then hold the same objects.

The kernel's only freedom the server relies on is which unused descriptor number or pid
it hands out; `Kernel` carries that choice with the guarantee that the number is unused.
What each process does is recorded as a list of `Event`s, newest first.

## Main definitions

* `Waypipe.Obj`, `Waypipe.ObjKind`, `Waypipe.Obj.IsPeer`: open file descriptions.
* `Waypipe.FdTable`, `Waypipe.FdTable.objs`: descriptor tables and the objects they hold.
* `Waypipe.Kernel`: the kernel's choice of unused descriptor numbers and pids.
* `Waypipe.Event`, `Waypipe.Child`, `Waypipe.Proc`: what a process did, its children, and
  its state.
-/

namespace Waypipe

/-- What the server created an open file description as. -/
inductive ObjKind
  /-- Open before `run_server` started (stdio and the like). -/
  | inherited
  /-- The listening socket `setup_nb_socket` binds at the display path. -/
  | displaySocket
  /-- The control FIFO, opened `O_RDWR | O_NONBLOCK`. -/
  | controlPipe
  /-- `/dev/urandom`, opened by `fill_random_key`. -/
  | urandom
  /-- A channel from `connect_to_socket`: a session's first one, or a replacement. -/
  | channel (replacement : Bool)
  /-- An application connection from `accept`. -/
  | accepted
  /-- End `sv[0]` (`false`) or `sv[1]` (`true`) of a `socketpair`. -/
  | pairEnd (side : Bool)
deriving DecidableEq, Repr

/-- An open file description: the `serial`-th object process `creator` created, as `kind`. -/
structure Obj where
  creator : Nat
  serial : Nat
  kind : ObjKind
deriving DecidableEq, Repr

/-- `o'` is the other end of the socket pair `o` is an end of. -/
def Obj.IsPeer (o o' : Obj) : Prop :=
  o'.creator = o.creator ∧ o'.serial = o.serial ∧
    ∃ side, o.kind = .pairEnd side ∧ o'.kind = .pairEnd !side

instance (o o' : Obj) : Decidable (o.IsPeer o') :=
  inferInstanceAs (Decidable (_ ∧ _ ∧ ∃ _ : Bool, _))

/-- A descriptor table: descriptor numbers to open file descriptions. -/
abbrev FdTable := AList fun _ : Nat => Obj

namespace FdTable

/-- The open file descriptions a table holds. -/
def objs (t : FdTable) : List Obj := t.entries.map Sigma.snd

theorem mem_objs {t : FdTable} {o : Obj} : o ∈ t.objs ↔ ∃ fd, t.lookup fd = some o := by
  simp only [objs, List.mem_map, AList.lookup, Option.mem_def.symm]
  constructor
  · rintro ⟨⟨fd, o'⟩, h, rfl⟩
    exact ⟨fd, (List.mem_dlookup_iff t.nodupKeys).2 h⟩
  · rintro ⟨fd, h⟩
    exact ⟨⟨fd, o⟩, (List.mem_dlookup_iff t.nodupKeys).1 h, rfl⟩

/-- The table after `fd` is closed. -/
theorem mem_objs_erase {t : FdTable} {o : Obj} {fd : Nat} :
    o ∈ objs (t.erase fd) ↔ ∃ fd', fd' ≠ fd ∧ t.lookup fd' = some o := by
  simp only [mem_objs]
  constructor
  · rintro ⟨fd', h⟩
    by_cases e : fd' = fd
    · subst e
      rw [AList.lookup_erase] at h
      cases h
    · exact ⟨fd', e, by rwa [AList.lookup_erase_ne e] at h⟩
  · rintro ⟨fd', e, h⟩
    exact ⟨fd', by rwa [AList.lookup_erase_ne e]⟩

/-- A new descriptor `fd`, unused in `t`, for `o`. -/
theorem mem_objs_insert {t : FdTable} {o o' : Obj} {fd : Nat} (h : fd ∉ t) :
    o ∈ objs (t.insert fd o') ↔ o = o' ∨ o ∈ t.objs := by
  simp only [objs, AList.insert_entries_of_neg h, List.map_cons, List.mem_cons]

end FdTable

/-- The kernel's choices the server depends on: the descriptor number of a new open file
description and the pid of a forked child, each one not in use. -/
structure Kernel where
  newFd : FdTable → Nat
  newFd_fresh : ∀ t, newFd t ∉ t
  newPid : List Nat → Nat
  newPid_fresh : ∀ used, newPid used ∉ used

/-- One more than the largest number in `l`. -/
def aboveAll (l : List Nat) : Nat := l.foldr max 0 + 1

theorem aboveAll_not_mem (l : List Nat) : aboveAll l ∉ l := by
  suffices ∀ x ∈ l, x < aboveAll l from fun h => Nat.lt_irrefl _ (this _ h)
  induction l with
  | nil => simp
  | cons y l ih =>
    intro x hx
    simp only [aboveAll, List.foldr_cons] at ih ⊢
    rcases List.mem_cons.1 hx with rfl | hx
    · omega
    · have := ih x hx
      omega

/-- A kernel handing out descriptor numbers and pids above all those in use. -/
def Kernel.above : Kernel where
  newFd t := aboveAll t.keys
  newFd_fresh t h := aboveAll_not_mem t.keys (AList.mem_keys.1 h)
  newPid := aboveAll
  newPid_fresh := aboveAll_not_mem

end Waypipe

namespace Waypipe

/-- What a process did, as the server's code sees it. -/
inductive Event
  /-- `connect_to_socket` was called with an address of this family and `sun_path`, and opened
  the channel `chan`, if any. -/
  | connect (family : UInt16) (path : List Byte) (chan : Option Obj)
  /-- A `write` of the token `tok` to `o` that returned `ret`. -/
  | write (o : Obj) (tok : ConnectionToken) (ret : Int)
  /-- `send_one_fd` of `o` over the link socket `link`, and whether it succeeded. -/
  | sendFd (link o : Obj) (ok : Bool)
  /-- `checked_close(fd)` closed `o`. -/
  | close (fd : Nat) (o : Obj)
  /-- A call on `fd`, which is not open; for `checked_close`, a double close. -/
  | badFd (fd : Int)
  /-- `unlink(path)`. -/
  | unlink (path : List Byte)
  /-- `fork()` created the child `pid`. -/
  | fork (pid : Nat)
  /-- `main_interface_loop` was entered with the channel, the second descriptor (the
  application's or `server_link`) and the link socket. -/
  | mainLoop (chan second : Obj) (link : Option Obj)
  /-- `mkfifo(path, 0644)` created a FIFO. -/
  | mkfifo (path : List Byte)
  /-- `setup_nb_socket` bound a listening socket at `path`. -/
  | bind (path : List Byte)
  /-- `setenv(name, value, 1)`. -/
  | setenv (name value : List Byte)
  /-- `unsetenv(name)`. -/
  | unsetenv (name : List Byte)
  /-- `execvp(file, argv)` was called. -/
  | execvp (file : List Byte) (argv : List (List Byte))
deriving DecidableEq, Repr

/-- Why the server forked a process. -/
inductive Role
  /-- The application, forked by `run_server`. -/
  | app
  /-- A per-connection worker, forked by `handle_new_server_connection`. -/
  | worker
  /-- The reconnection controller, forked by `run_single_server`. -/
  | reconnector
deriving DecidableEq, Repr

/-- A forked child: its descriptor table when it enters its long-running part
(`main_interface_loop`, the reconnection loop, or `execvp`), what it did in the server's code,
and whether the supervisor has reaped it. -/
structure Child where
  pid : Nat
  role : Role
  fds : FdTable
  trace : List Event
  reaped : Bool

/-- A process running the server's code: its pid, descriptor table, the number of objects it
has created, what it did (newest first), and the children it forked (newest first). -/
structure Proc where
  pid : Nat
  fds : FdTable
  serial : Nat
  trace : List Event
  children : List Child

/-- A process about to call `run_server`: pid `pid`, with the descriptors `fds` open on
objects it inherited. -/
def Proc.start (pid : Nat) (fds : List Nat) : Proc :=
  ⟨pid, fds.foldr (fun fd t => t.insert fd ⟨pid, fd, .inherited⟩) ∅, 0, [], []⟩

end Waypipe
