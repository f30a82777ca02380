import Waypipe.MultiServer

/-!
# The oneshot supervisor and its reconnection controller

In oneshot mode `run_single_server` opens one channel, writes a freshly keyed token to it and
enters `main_interface_loop` with the channel and `server_link`. When a control pipe is open it
first creates a link socket pair and forks the reconnection controller, which keeps the control
pipe and one end of the link, while the main process keeps the channel, `server_link` and the
other end. The controller, `run_single_server_reconnector`, polls the control pipe and the link;
each new endpoint path read from the pipe is connected to, sent the token with
`CONN_UPDATE_BIT` set, and passed to the main process over the link.

## Main definitions

* `Waypipe.ReconIter`, `Waypipe.reconnectPass`, `Waypipe.reconnectorLoop`,
  `Waypipe.runSingleServerReconnector`.
* `Waypipe.SingleOutcome`, `Waypipe.reconnectorChild`, `Waypipe.runSingleServer`.

## References

* `src/src/server.c`, lines 95–222 (`run_single_server_reconnector`, `run_single_server`).
-/

namespace Waypipe

/-- The kernel's answers to one pass of the reconnection controller's loop: `poll`, the
control-pipe read, and the `connect_to_socket`, `write` and `send_one_fd` of a new address. -/
structure ReconIter (P : Platform) where
  poll : PollResult
  control : ControlRead P
  connects : Bool
  written : Int
  sent : Bool

variable (K : Kernel) (c : TokenConsts) {P : Platform}

/-- The controller's handling of a new address: connect, write the flagged token, pass the
channel over the link when the write was whole, and close the channel on every path that
opened it. -/
def reconnectPass (it : ReconIter P) (linkfd : Int) (flagged : ConnectionToken)
    (addr : SockaddrUn P) (p : Proc) : Proc :=
  let (p, newConn) := p.connectToSocket K it.connects true addr
  if newConn = -1 then p else
  let (p, ret) := p.writeToken it.written newConn flagged
  if ret ≠ tokenSize then p.checkedClose newConn else
  let (p, _) := p.sendOneFd it.sent linkfd newConn
  p.checkedClose newConn

/-- `while (!shutdown_flag)` in `run_single_server_reconnector`, one element of the list per
pass: the process when the loop ends and the return code. -/
def reconnectorLoop (controlPipe linkfd : Int) (flagged : ConnectionToken) :
    List (ReconIter P) → Proc → Option (Proc × Int)
  | [], p => some (p, exitSuccess)
  | it :: its, p =>
    match it.poll with
    | .interrupted => reconnectorLoop controlPipe linkfd flagged its p
    | .timeout => reconnectorLoop controlPipe linkfd flagged its p
    | .failed => some (p, exitFailure)
    | .ready fifo link =>
      if link.pollhup then some (p, exitSuccess) else
      if fifo.pollin then
        match readSockaddr it.control.bytes it.control.stale with
        | none => none
        | some (r, addr) =>
          if r = -1 then some (p, exitFailure) else
          reconnectorLoop controlPipe linkfd flagged its (reconnectPass K it linkfd flagged addr p)
      else reconnectorLoop controlPipe linkfd flagged its p

/-- `run_single_server_reconnector(control_pipe, linkfd, flagged_token)`. -/
def runSingleServerReconnector (controlPipe linkfd : Int) (flagged : ConnectionToken)
    (its : List (ReconIter P)) (p : Proc) : Option (Proc × Int) :=
  (reconnectorLoop K controlPipe linkfd flagged its p).map fun (p, r) =>
    ((p.checkedClose controlPipe).checkedClose linkfd, r)

/-- A read of the control pipe delivering `b`, into a zeroed `new_sockaddr`. -/
def fifoRead (b : List Byte) (h : b.length ≤ controlPathSize - 1) : ControlRead Platform.linux :=
  ⟨some ⟨b, h⟩, SockaddrUn.zero _⟩

/-- A pass of the controller on which only the control pipe is readable, with `r`, and every
later call succeeds. -/
def fifoPass (r : ControlRead Platform.linux) : ReconIter Platform.linux :=
  ⟨.ready ⟨true, false⟩ ⟨false, false⟩, r, true, tokenSize, true⟩

/-- A controller holding the control pipe on descriptor 3 and its end of the link on 4. -/
def reconnectorProc : Proc :=
  ⟨7, ((∅ : FdTable).insert 4 ⟨1, 2, .pairEnd true⟩).insert 3 ⟨1, 1, .controlPipe⟩, 0, [], []⟩

/-- A path of `sizeof(sun_path)` bytes on the control pipe ends the controller with
`EXIT_FAILURE`: the valid path `/s` written after it is never connected to. -/
theorem reconnector_stops_on_long_path :
    ∃ q, runSingleServerReconnector Kernel.above 3 4 ⟨0, ⟨0, 0, 0⟩⟩
        [fifoPass (fifoRead (List.replicate 108 0x61) (by decide)),
          fifoPass (fifoRead [0x2f, 0x73] (by decide))] reconnectorProc = some (q, exitFailure) ∧
      q.trace.filterMap Event.connectTarget = [] :=
  ⟨_, rfl, rfl⟩

/-- `read_sockaddr` writes only `sun_path`: when the uninitialised `new_sockaddr` held a zero
family, the controller, with the flagged token `run_single_server` hands it, connects to `/s`
with family 0, not `AF_UNIX`. -/
theorem reconnector_connects_stale_family :
    ∃ q, runSingleServerReconnector Kernel.above 3 4
        ((⟨conntokenHeader TokenConsts.lowBits true false, ⟨0, 1, 1⟩⟩ : ConnectionToken).flagged
          TokenConsts.lowBits)
        [fifoPass (fifoRead [0x2f, 0x73] (by decide))] reconnectorProc = some (q, exitSuccess) ∧
      (q.trace.filterMap Event.connectTarget).map Prod.fst = [0] ∧
      (0 : UInt16) ≠ Platform.linux.afUnix :=
  ⟨_, rfl, rfl, by decide⟩

/-- The kernel's answers to the calls of `run_single_server`, the value `main_interface_loop`
returns, and the passes of the reconnection controller. -/
structure SingleOutcome (P : Platform) where
  connects : Bool
  seed : KeySeed
  written : Int
  paired : Bool
  forks : Bool
  mainRet : Int
  recon : List (ReconIter P)

/-- The reconnection controller, from a copy of the main process: it closes the channel,
`linkfds[0]` and `server_link`, sets `CONN_UPDATE_BIT` in the token and runs the controller
with the control pipe and `linkfds[1]`. Its table when the loop starts, and its events. -/
def reconnectorChild (chanfd serverLink controlPipe : Int) (linkfds : Int × Int)
    (token : ConnectionToken) (its : List (ReconIter P)) (q : Proc) :
    Option (FdTable × List Event) :=
  let q := ((q.checkedClose chanfd).checkedClose linkfds.1).checkedClose serverLink
  (runSingleServerReconnector K controlPipe linkfds.2 (token.flagged c) its q).map
    fun r => (q.fds, r.1.trace)

/-- `run_single_server(control_pipe, socket_addr, unlink_at_end, server_link, config)`: the
main process when it enters `main_interface_loop` or returns, and the return code. -/
def runSingleServer (o : SingleOutcome P) (controlPipe : Int) (socketAddr : SockaddrUn P)
    (unlinkAtEnd : Bool) (serverLink : Int) (p : Proc) : Option (Proc × Int) :=
  let (p, chanfd) := p.connectToSocket K o.connects false socketAddr
  if chanfd = -1 then some (p.checkedClose serverLink, exitFailure) else
  let p := if unlinkAtEnd then p.emit (.unlink (cstr socketAddr.sunPath)) else p
  let (p, token) := p.fillRandomKey K o.seed ⟨0, ⟨0, 0, 0⟩⟩
  let token := { token with header := conntokenHeader c (decide (controlPipe ≠ -1)) false }
  let (p, ret) := p.writeToken o.written chanfd token
  if ret ≠ tokenSize then some ((p.checkedClose chanfd).checkedClose serverLink, exitFailure) else
  if controlPipe ≠ -1 then
    match p.socketpair K o.paired with
    | (p, none) => some ((p.checkedClose chanfd).checkedClose serverLink, exitFailure)
    | (p, some linkfds) =>
      match p.fork K o.forks .reconnector
          (reconnectorChild K c chanfd serverLink controlPipe linkfds token o.recon) with
      | none => none
      | some (p, pid) =>
        if pid = -1 then
          some ((((p.checkedClose linkfds.1).checkedClose linkfds.2).checkedClose chanfd).checkedClose
            serverLink, exitFailure)
        else
          some (((p.checkedClose controlPipe).checkedClose linkfds.2).mainLoop chanfd serverLink
            linkfds.1, o.mainRet)
  else some (p.mainLoop chanfd serverLink (-1), o.mainRet)

end Waypipe
