import Waypipe.NewConnection

/-!
# `run_multi_server`: the display-mode supervisor loop

Each pass of the loop first reaps the children that have exited, dropping the records of
reaped workers, and ends the loop when the application itself has exited. It then polls the
display socket and, when one is open, the control pipe. A new endpoint path on the control
pipe moves every session to it (`update_connections`); a path that `read_sockaddr` rejects,
or a migration that fails, is ignored. A connection on the display socket is accepted and
handed to `handle_new_server_connection` with a freshly keyed token; its failure ends the
loop. After the loop the supervisor unlinks the channel socket if asked to and closes the
display socket, the control pipe and every recorded link.

The passes are driven by the kernel's answers (`MultiIter`); the list of passes ending is the
shutdown flag being found set.

## Main definitions

* `Waypipe.PollResult`, `Waypipe.ControlRead`, `Waypipe.MultiIter`.
* `Waypipe.waitForPidAndClean`: the reaper, modelled from the spec.
* `Waypipe.MultiState`, `Waypipe.migrate`, `Waypipe.acceptStep`, `Waypipe.multiStep`,
  `Waypipe.multiLoop`, `Waypipe.runMultiServer`.

## References

* `src/src/server.c`, lines 346–438 (`run_multi_server`).
-/

namespace Waypipe

/-- What `poll` reports for one descriptor. -/
structure Revents where
  pollin : Bool
  pollhup : Bool

/-- What `poll` returns. -/
inductive PollResult
  /-- -1 with `errno == EINTR`. -/
  | interrupted
  /-- -1 with another `errno`. -/
  | failed
  /-- 0. -/
  | timeout
  /-- A positive count, with the `revents` of the first and the second descriptor. -/
  | ready (first second : Revents)

/-- One read of the control pipe: what `read` returns (`none` for -1), and the bytes the
uninitialised local `struct sockaddr_un new_sockaddr` holds before `read_sockaddr`. -/
structure ControlRead (P : Platform) where
  bytes : Option (ReadBytes (controlPathSize - 1))
  stale : SockaddrUn P

/-- What `accept` does. -/
inductive AcceptResult
  /-- A new application connection. -/
  | ok
  /-- -1 with `EAGAIN` or `EWOULDBLOCK`. -/
  | wouldBlock
  /-- -1 with another `errno`. -/
  | failed

/-- The kernel's answers to one pass of `run_multi_server`'s loop: which children have exited
by the sweep, the application's wait status, `poll`, the control-pipe read, the passes of
`update_connections`, `accept`, `fill_random_key`'s inputs and the calls of
`handle_new_server_connection`. -/
structure MultiIter (P : Platform) where
  exited : Nat → Bool
  status : Nat
  poll : PollResult
  control : ControlRead P
  replace : Nat → ReplaceOutcome
  accept : AcceptResult
  seed : KeySeed
  conn : NewConnOutcome

/-- `WEXITSTATUS(status)`. -/
def wexitstatus (status : Nat) : Int := (status / 256 % 256 : Nat)

variable (K : Kernel) (c : TokenConsts) {P : Platform}

/-- `checked_close(data[i].linkfd)` for every record. -/
def closeRecordLinks : List ConnAddr → Proc → Proc
  | [], p => p
  | r :: rs, p => closeRecordLinks rs (p.checkedClose r.linkfd)

/-- The reaper's sweep marks a child that has exited and was not reaped yet as reaped. -/
def reapMark (exited : Nat → Bool) (w : Child) : Child :=
  if !w.reaped && exited w.pid then { w with reaped := true } else w

/-- The pids of the children the sweep reaps. -/
def reapedPids (exited : Nat → Bool) (p : Proc) : List Nat :=
  (p.children.filter fun w => !w.reaped && exited w.pid).map Child.pid

/-- Modelled from the spec: `wait_for_pid_and_clean(target_pid, &status, WNOHANG, connmap)` (in
`util.c`, not among the sources) reaps every child that has exited, drops the connection
records of the reaped workers, destroying them with their link descriptors, and reports whether
the application `target` was among the reaped. -/
def waitForPidAndClean (exited : Nat → Bool) (target : Nat) (cm : ConnMap) (p : Proc) :
    Proc × ConnMap × Bool :=
  let dead := reapedPids exited p
  (closeRecordLinks (cm.data.filter fun r => r.pid ∈ dead)
      { p with children := p.children.map (reapMark exited) },
    { cm with data := cm.data.filter fun r => r.pid ∉ dead }, target ∈ dead)

/-- The state `run_multi_server`'s loop carries: the process, the connection table, the current
channel address and the token it keys for each new connection. -/
structure MultiState (P : Platform) where
  proc : Proc
  connmap : ConnMap
  current : SockaddrUn P
  token : ConnectionToken

section Loop

variable (controlPipe wdisplaySocket : Int) (unlinkAtEnd : Bool) (childPid : Nat)

/-- The control-pipe branch: read a new address and, when `read_sockaddr` accepts it, move every
session to it. -/
def migrate (it : MultiIter P) (s : MultiState P) : Option (MultiState P) :=
  (readSockaddr it.control.bytes it.control.stale).map fun (r, newAddr) =>
    if r = -1 then s else
    let (p, cur, cm, _) :=
      updateConnections K c it.replace s.current newAddr s.connmap unlinkAtEnd s.proc
    { s with proc := p, current := cur, connmap := cm }

/-- The display-socket branch: accept a connection, key the token afresh and hand both to
`handle_new_server_connection`. The state, and the code to end the loop with, if any. -/
def acceptStep (it : MultiIter P) (s : MultiState P) : Option (MultiState P × Option Int) :=
  match it.accept with
  | .wouldBlock => some (s, none)
  | .failed => some (s, some exitFailure)
  | .ok =>
    let (p, appfd) := s.proc.openObj K .accepted
    let (p, token) := p.fillRandomKey K it.seed s.token
    (handleNewServerConnection K it.conn s.current controlPipe wdisplaySocket appfd s.connmap
        token p).map fun (p, cm, r) =>
      ({ s with proc := p, connmap := cm, token }, if r = -1 then some exitFailure else none)

/-- One pass of `while (!shutdown_flag)` in `run_multi_server`: the state afterwards and, when
the loop ends there, the code it ends with. -/
def multiStep (it : MultiIter P) (s : MultiState P) : Option (MultiState P × Option Int) :=
  let (p, cm, found) := waitForPidAndClean it.exited childPid s.connmap s.proc
  let s := { s with proc := p, connmap := cm }
  if found then some (s, some (wexitstatus it.status)) else
  match it.poll with
  | .interrupted => some (s, none)
  | .timeout => some (s, none)
  | .failed => some (s, some exitFailure)
  | .ready display fifo =>
    match (if controlPipe ≠ -1 ∧ fifo.pollin = true then
        migrate K c unlinkAtEnd it s else some s) with
    | none => none
    | some s =>
      if display.pollin then acceptStep K controlPipe wdisplaySocket it s else some (s, none)

/-- `while (!shutdown_flag)` in `run_multi_server`, one element of the list per pass. The state
when the loop ends and the return code. -/
def multiLoop : List (MultiIter P) → MultiState P → Option (MultiState P × Int)
  | [], s => some (s, exitSuccess)
  | it :: its, s =>
    match multiStep K c controlPipe wdisplaySocket unlinkAtEnd childPid it s with
    | none => none
    | some (s, none) => multiLoop its s
    | some (s, some r) => some (s, r)

/-- The state `run_multi_server` enters its loop with: no records, the caller's address, and
the token with `conntoken_header(control_pipe != -1, false)` and a zero key. -/
def multiStart (socketAddr : SockaddrUn P) (p : Proc) : MultiState P :=
  ⟨p, ⟨[], 0⟩, socketAddr, ⟨conntokenHeader c (decide (controlPipe ≠ -1)) false, ⟨0, 0, 0⟩⟩⟩

/-- `run_multi_server(control_pipe, socket_addr, unlink_at_end, wdisplay_socket, config,
&child_pid)`: the supervisor after the loop and its cleanup, and the return code. -/
def runMultiServer (socketAddr : SockaddrUn P) (its : List (MultiIter P)) (p : Proc) :
    Option (Proc × Int) :=
  (multiLoop K c controlPipe wdisplaySocket unlinkAtEnd childPid its
      (multiStart c controlPipe socketAddr p)).map fun (s, ret) =>
    let p := if unlinkAtEnd then s.proc.emit (.unlink (cstr s.current.sunPath)) else s.proc
    let p := p.checkedClose wdisplaySocket
    let p := if controlPipe ≠ -1 then p.checkedClose controlPipe else p
    (closeRecordLinks s.connmap.data p, ret)

end Loop

end Waypipe
