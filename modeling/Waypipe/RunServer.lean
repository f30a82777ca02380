import Waypipe.SingleServer
import Waypipe.Shell

/-!
# `run_server`: setting up and running the server side

`run_server` places the display socket (display mode) or creates the socket pair the
application will use (oneshot mode), forks the application, creates and opens the control FIFO
when a path for it is given, and runs the oneshot or display-mode supervisor. Afterwards it
unlinks the control FIFO and the display socket and waits for the application.

## Main definitions

* `Waypipe.ServerArgs`, `Waypipe.ServerEnv`: the arguments and the answers of the system.
* `Waypipe.displayPath`: the display socket's path.
* `Waypipe.appSetup`, `Waypipe.appExec`, `Waypipe.appChild`: what the forked application does
  before `execvp`.
* `Waypipe.openControlPipe`, `Waypipe.Launch`, `Waypipe.launch`, `Waypipe.unlinkServerFiles`,
  `Waypipe.runServer`.

## Main results

* `Waypipe.appChild_eq_some`, `Waypipe.openControlPipe_spec`: what the forked application and
  the control FIFO's creation leave.
* `Waypipe.launch_eq_ok_of_display`, `Waypipe.launch_eq_ok_of_oneshot`: what `run_server` does
  before the supervisor.
* `Waypipe.runServer_leaks_control_pipe`: a path on which the control pipe is never closed.
* `Waypipe.runServer_control_pipe_without_controller`: a path on which the main process keeps the
  control pipe and no reconnection controller exists.

## References

* `src/src/server.c`, lines 476–634 (`run_server`).
-/

namespace Waypipe

/-- The bytes of an ASCII string. -/
def ascii (s : String) : List Byte := s.toList.map fun ch => ch.toNat.toUInt8

/-- `sprintf(buf, "%d", n)`. -/
def decimal (n : Int) : List Byte := ascii (toString n)

variable {P : Platform}

/-- The arguments of `run_server`; `appArgv` is `app_argv` up to its terminating `NULL`. -/
structure ServerArgs (P : Platform) where
  socketAddr : SockaddrUn P
  waylandDisplay : List Byte
  controlPath : Option (List Byte)
  oneshot : Bool
  unlinkAtEnd : Bool
  appArgv : List (List Byte)
  loginShellIfBackup : Bool

/-- How the final `wait_for_pid_and_clean(&pid, &status, shutdown_flag ? WNOHANG : 0, NULL)` of
`run_server` returns. With `shutdown_flag` set it sweeps once (`WNOHANG`) and reaps the children
found `exited`. Otherwise each `waitpid(-1, ...)` blocks until a child exits, and the wait
returns when no child is left (`ECHILD`), every child reaped, or when a signal interrupts it
(`EINTR`), having reaped those `exited` by then. `status` is what `waitpid` reported for the
application. On a run where a child never exits and no signal comes this call does not return;
`run_server` is modelled on the runs on which it returns. -/
structure FinalWait where
  shutdown : Bool
  interrupted : Bool
  exited : Nat → Bool
  status : Nat

/-- The children the final wait reaps: every child, unless it swept once or was interrupted. -/
def FinalWait.reaped (w : FinalWait) : Nat → Bool :=
  if w.shutdown || w.interrupted then w.exited else fun _ => true

/-- What the system answers during `run_server`: `XDG_RUNTIME_DIR`, the child's `SHELL` and the
stack byte below its `shell` array, whether `socketpair`, `setup_nb_socket`, `fork`, `mkfifo`
and `open` succeed, the answers to the oneshot or display-mode supervisor, and how the final wait
returns. -/
structure ServerEnv (P : Platform) where
  xdgRuntimeDir : Option (List Byte)
  shell : Option (List Byte)
  below : Byte
  paired : Bool
  bound : Bool
  forks : Bool
  fifoMade : Bool
  fifoOpened : Bool
  single : SingleOutcome P
  multi : List (MultiIter P)
  final : FinalWait

/-- The display socket's path in `display_path.sun_path`: `WAYLAND_DISPLAY` when absolute,
else under `XDG_RUNTIME_DIR`; `none` when it does not fit or `XDG_RUNTIME_DIR` is unset. -/
def displayPath (size : Nat) (waylandDisplay : List Byte) (xdg : Option (List Byte)) :
    Option (List Byte) :=
  if (cstr waylandDisplay).head? = some 0x2f then
    if strlen waylandDisplay ≥ size then none else some (cstr waylandDisplay)
  else
    match xdg with
    | none => none
    | some x =>
      if strlen x + 1 + strlen waylandDisplay ≥ size then none
      else some (cstr x ++ 0x2f :: cstr waylandDisplay)

/-- The forked application's environment: `WAYLAND_SOCKET` (oneshot) or `WAYLAND_DISPLAY`
(display mode) is set, the other unset, and the server's end is closed. -/
def appSetup (a : ServerArgs P) (waylandSocket serverLink wdisplaySocket : Int) (q : Proc) : Proc :=
  if a.oneshot then
    ((q.emit (.unsetenv (ascii "WAYLAND_DISPLAY"))).emit
      (.setenv (ascii "WAYLAND_SOCKET") (decimal waylandSocket))).checkedClose serverLink
  else
    ((q.emit (.unsetenv (ascii "WAYLAND_SOCKET"))).emit
      (.setenv (ascii "WAYLAND_DISPLAY") (cstr a.waylandDisplay))).checkedClose wdisplaySocket

/-- `execvp` of the application, or of the fallback shell when `app_argv` is empty: the table
and the events at `execvp`. -/
def appExec (a : ServerArgs P) (e : ServerEnv P) (q : Proc) : Option (FdTable × List Event) :=
  match a.appArgv with
  | [] => (setupLoginShellCommand e.shell e.below a.loginShellIfBackup).map fun (shell, shellname) =>
      (q.fds, (q.emit (.execvp shell [shellname])).trace)
  | app :: args => some (q.fds, (q.emit (.execvp app (app :: args))).trace)

/-- The forked application, from a copy of the server: it sets up its environment, closes the
server's end, and calls `execvp` on the application or the fallback shell. Its table at
`execvp`, and its events. -/
def appChild (a : ServerArgs P) (e : ServerEnv P) (waylandSocket serverLink wdisplaySocket : Int)
    (q : Proc) : Option (FdTable × List Event) :=
  appExec a e (appSetup a waylandSocket serverLink wdisplaySocket q)

/-- Every descriptor of the process `run_server` starts in is inherited from its caller. -/
theorem Proc.start_objs (pid : Nat) :
    ∀ (fds : List Nat) (o : Obj), o ∈ (Proc.start pid fds).fds.objs →
      o.creator = pid ∧ o.kind = .inherited
  | [], o, h => by simp [Proc.start, FdTable.objs] at h
  | fd :: fds, o, h => by
    obtain ⟨n, hn⟩ := FdTable.mem_objs.1 h
    simp only [Proc.start, List.foldr_cons] at hn
    by_cases e : n = fd
    · subst e
      rw [AList.lookup_insert] at hn
      cases hn
      exact ⟨rfl, rfl⟩
    · rw [AList.lookup_insert_ne e] at hn
      exact Proc.start_objs pid fds o (FdTable.mem_objs.2 ⟨n, hn⟩)

theorem Proc.start_owned (pid : Nat) (fds : List Nat) : (Proc.start pid fds).Owned := by
  intro o ho
  have ho : o ∈ (Proc.start pid fds).fds.objs := by simpa [Proc.allObjs, Proc.start] using ho
  obtain ⟨h1, h2⟩ := Proc.start_objs pid fds o ho
  exact ⟨h1, .inl h2⟩

theorem lookup_appSetup (a : ServerArgs P) (ws sl wd : Int) (q : Proc) (x : Int) :
    (appSetup a ws sl wd q).lookup x = if x = (if a.oneshot then sl else wd) then none
      else q.lookup x := by
  unfold appSetup
  split <;> simp [Proc.lookup_checkedClose]

/-- Up to `execvp` the application only sets its environment and closes. -/
theorem appSetup_appends (a : ServerArgs P) (ws sl wd : Int) (q : Proc) :
    (appSetup a ws sl wd q).pid = q.pid ∧ (appSetup a ws sl wd q).serial = q.serial ∧
      (appSetup a ws sl wd q).children = q.children ∧
      ∃ evs, (∀ e ∈ evs, e.IsQuiet) ∧ (appSetup a ws sl wd q).trace = evs ++ q.trace := by
  unfold appSetup
  split <;>
  · obtain ⟨evs, he, hevs⟩ := (Proc.closes_checkedClose _ _).trace_eq
    refine ⟨by simp, by simp, by simp, evs ++ [_, _], fun e h => ?_, by rw [he, List.append_assoc]; rfl⟩
    rcases List.mem_append.1 h with h | h
    · exact (hevs e h).1.isQuiet
    · simp only [List.mem_cons, List.mem_singleton, List.not_mem_nil, or_false] at h
      rcases h with rfl | rfl <;> trivial

theorem mem_allObjs_appSetup {a : ServerArgs P} {ws sl wd : Int} {q : Proc} {o : Obj}
    (h : o ∈ (appSetup a ws sl wd q).allObjs) : o ∈ q.allObjs := by
  unfold appSetup at h
  split at h <;>
  · have h := Proc.mem_allObjs_checkedClose _ h
    simpa [Proc.mem_allObjs_emit, Event.objs] using h

theorem appExec_eq_some {a : ServerArgs P} {e : ServerEnv P} {q : Proc} {r : FdTable × List Event}
    (h : appExec a e q = some r) : r.1 = q.fds ∧ ∃ file args, r.2 = .execvp file args :: q.trace := by
  unfold appExec at h
  split at h
  · obtain ⟨⟨shell, shellname⟩, -, rfl⟩ := Option.map_eq_some'.1 h
    exact ⟨rfl, _, _, rfl⟩
  · cases h
    exact ⟨rfl, _, _, rfl⟩

variable (K : Kernel) (c : TokenConsts)

/-- What the forked application ends with at `execvp`: the parent's descriptors but the server's
end, only objects its parent knew of, and its parent's history with quiet events added. -/
theorem appChild_eq_some {a : ServerArgs P} {e : ServerEnv P} {ws sl wd : Int} {q : Proc}
    {r : FdTable × List Event} (h : appChild a e ws sl wd (q.forkCopy K) = some r) :
    (∀ o ∈ r.1.objs, ∃ x, x ≠ (if a.oneshot then sl else wd) ∧ q.lookup x = some o) ∧
      (∀ o ∈ r.1.objs ++ r.2.flatMap Event.objs, o ∈ q.allObjs) ∧
      ∃ evs, (∀ ev ∈ evs, ev.IsQuiet) ∧ r.2 = evs ++ q.trace := by
  obtain ⟨hr1, file, args, hr2⟩ := appExec_eq_some h
  obtain ⟨-, -, -, evsA, hqA, htrA⟩ := appSetup_appends a ws sl wd (q.forkCopy K)
  refine ⟨fun o ho => ?_, fun o ho => ?_, .execvp file args :: evsA, ?_, by rw [hr2, htrA]; rfl⟩
  · obtain ⟨x, hx⟩ := Proc.mem_objs_iff.1 (hr1 ▸ ho)
    rw [lookup_appSetup] at hx
    by_cases hxs : x = (if a.oneshot then sl else wd)
    · rw [if_pos hxs] at hx
      cases hx
    · rw [if_neg hxs] at hx
      exact ⟨x, hxs, hx⟩
  · refine q.mem_allObjs_forkCopy K (mem_allObjs_appSetup
      ((Proc.mem_allObjs (appSetup a ws sl wd (q.forkCopy K))).2 ?_))
    rcases List.mem_append.1 ho with ho | ho
    · exact .inl (hr1 ▸ ho)
    · rw [hr2] at ho
      simp only [List.flatMap_cons, Event.objs, List.nil_append, List.mem_flatMap] at ho
      exact .inr (.inl ho)
  · rintro ev (_ | ⟨_, hev⟩)
    exacts [trivial, hqA ev hev]

/-- The control FIFO: `mkfifo(control_path, 0644)` and, when it succeeds,
`open(control_path, O_RDWR | O_NONBLOCK)`; the descriptor, or -1. -/
def openControlPipe (a : ServerArgs P) (e : ServerEnv P) (p : Proc) : Proc × Int :=
  match a.controlPath with
  | none => (p, -1)
  | some path =>
    if e.fifoMade then
      if e.fifoOpened then (p.emit (.mkfifo path)).openObj K .controlPipe
      else (p.emit (.mkfifo path), -1)
    else (p, -1)

/-- What `mkfifo` and `open` of the control FIFO leave: quiet events, and at most the new control
pipe, on a descriptor that was free. -/
theorem openControlPipe_spec {a : ServerArgs P} {e : ServerEnv P} {q q' : Proc} {cp : Int}
    (h : openControlPipe K a e q = (q', cp)) :
    q'.pid = q.pid ∧ q'.children = q.children ∧
      (∃ evs, (∀ ev ∈ evs, ev.IsQuiet) ∧ q'.trace = evs ++ q.trace) ∧
      (∀ x, q'.lookup x = if cp ≠ -1 ∧ x = cp then some (q.nextObj .controlPipe) else q.lookup x) ∧
      (cp ≠ -1 → q.lookup cp = none) ∧ (q.Owned → q'.Owned) := by
  unfold openControlPipe at h
  split at h
  · obtain ⟨rfl, rfl⟩ := Prod.mk.inj h
    exact ⟨rfl, rfl, ⟨[], by simp, rfl⟩, fun x => by simp, fun h => (h rfl).elim, id⟩
  split_ifs at h
  · obtain ⟨rfl, rfl⟩ := Prod.ext_iff.1 h
    have hne : (K.newFd q.fds : Int) ≠ -1 := by omega
    refine ⟨rfl, rfl, ⟨[.mkfifo _], by simp [Event.IsQuiet], rfl⟩, fun x => ?_,
      fun _ => AList.lookup_eq_none.2 (K.newFd_fresh _), fun h => (h.emit (by rfl)).openObj K _⟩
    rw [Proc.lookup_openObj]
    show _ = if (K.newFd q.fds : Int) ≠ -1 ∧ x = K.newFd q.fds then _ else _
    rw [if_congr (and_iff_right hne) rfl rfl]
    rfl
  · obtain ⟨rfl, rfl⟩ := Prod.mk.inj h
    exact ⟨rfl, rfl, ⟨[.mkfifo _], by simp [Event.IsQuiet], rfl⟩, fun x => by simp,
      fun h => (h rfl).elim, fun h => h.emit (by rfl)⟩
  · obtain ⟨rfl, rfl⟩ := Prod.mk.inj h
    exact ⟨rfl, rfl, ⟨[], by simp, rfl⟩, fun x => by simp, fun h => (h rfl).elim, id⟩

/-- What `run_server` holds when it calls the supervisor: the process, `server_link`,
`wdisplay_socket`, `control_pipe`, the display path and the application's pid. -/
structure Launch where
  proc : Proc
  serverLink : Int
  wdisplaySocket : Int
  controlPipe : Int
  dpath : List Byte
  pid : Int

/-- `run_server` up to the call of the supervisor: `.error` with the process and the code when it
returns before that. -/
def launch (a : ServerArgs P) (e : ServerEnv P) (p : Proc) : Option (Except (Proc × Int) Launch) :=
  match (if a.oneshot then some [] else displayPath P.sunPathSize a.waylandDisplay e.xdgRuntimeDir) with
  | none => some (.error (p, exitFailure))
  | some dpath =>
  -- oneshot: the application's socket pair; display mode: the listening socket
  let setup : Option (Proc × Int × Int × Int) :=
    if a.oneshot then
      match p.socketpair K e.paired with
      | (_, none) => none
      | (p, some (s0, s1)) => some (p, s1, s0, -1)
    else if e.bound then
      let (p, fd) := p.openObj K .displaySocket
      some (p.emit (.bind dpath), -1, -1, fd)
    else none
  match setup with
  | none => some (.error (p, exitFailure))
  | some (p, waylandSocket, serverLink, wdisplaySocket) =>
  match p.fork K e.forks .app (appChild a e waylandSocket serverLink wdisplaySocket) with
  | none => none
  | some (p, pid) =>
  if pid = -1 then
    some (.error ((if a.oneshot then p else p.emit (.unlink dpath)), exitFailure))
  else
  let p := if a.oneshot then p.checkedClose waylandSocket else p
  let (p, controlPipe) := openControlPipe K a e p
  some (.ok ⟨p, serverLink, wdisplaySocket, controlPipe, dpath, pid⟩)

/-- What `run_server` does before a display-mode supervisor: it binds the listening socket,
forks the application, and makes and opens the control FIFO when it can. -/
theorem launch_eq_ok_of_display {a : ServerArgs P} {e : ServerEnv P} {p : Proc} {l : Launch}
    (hd : a.oneshot = false) (h : launch K a e p = some (.ok l)) :
    ∃ dpath r, appChild a e (-1) (-1) (K.newFd p.fds)
        (((p.openObj K .displaySocket).1.emit (.bind dpath)).forkCopy K) = some r ∧
      l.wdisplaySocket = K.newFd p.fds ∧ l.dpath = dpath ∧
      l.pid = ((p.openObj K .displaySocket).1.emit (.bind dpath)).childPid K ∧
      openControlPipe K a e
        (((p.openObj K .displaySocket).1.emit (.bind dpath)).forkParent K .app r) =
        (l.proc, l.controlPipe) := by
  unfold launch at h
  simp only [hd, Bool.false_eq_true, if_false] at h
  split at h
  · cases h
  rename_i dpath _
  split_ifs at h with hb
  · simp only [Proc.openObj_eq] at h
    split at h
    · cases h
    rename_i q npid hf
    obtain ⟨-, rfl, rfl⟩ | ⟨-, rfl, r, hr, rfl⟩ := Proc.fork_eq_some K _ hf
    · rw [if_pos rfl] at h
      cases h
    · rw [if_neg (by omega)] at h
      cases h
      exact ⟨dpath, r, hr, rfl, rfl, rfl, rfl⟩
  · cases h

/-- What `run_server` does before a oneshot supervisor: it creates the application's socket pair,
forks the application on one end, closes that end, and makes and opens the control FIFO when it
can. -/
theorem launch_eq_ok_of_oneshot {a : ServerArgs P} {e : ServerEnv P} {p : Proc} {l : Launch}
    (ho : a.oneshot = true) (h : launch K a e p = some (.ok l)) :
    ∃ r, appChild a e (p.pairFds K).2 (p.pairFds K).1 (-1) ((p.socketpair K true).1.forkCopy K) =
        some r ∧ l.serverLink = (p.pairFds K).1 ∧
      openControlPipe K a e
        (((p.socketpair K true).1.forkParent K .app r).checkedClose (p.pairFds K).2) =
        (l.proc, l.controlPipe) := by
  unfold launch at h
  simp only [ho, if_true] at h
  cases hp : e.paired
  · rw [hp, Proc.socketpair_false] at h
    cases h
  rw [hp, Proc.socketpair_true] at h
  dsimp only at h
  split at h
  · cases h
  rename_i q npid hf
  obtain ⟨-, rfl, rfl⟩ | ⟨-, rfl, r, hr, rfl⟩ := Proc.fork_eq_some K _ hf
  · rw [if_pos rfl] at h
    cases h
  · rw [if_neg (by omega)] at h
    cases h
    exact ⟨r, hr, rfl, rfl⟩

/-- After the supervisor returns, `run_server` unlinks the control FIFO when it opened it, and the
display socket in display mode. -/
def unlinkServerFiles (a : ServerArgs P) (l : Launch) (p : Proc) : Proc :=
  let p := match a.controlPath with
    | some path => if l.controlPipe ≠ -1 then p.emit (.unlink path) else p
    | none => p
  if a.oneshot then p else p.emit (.unlink l.dpath)

/-- `run_server(socket_addr, wayland_display, control_path, config, oneshot, unlink_at_end,
app_argv, login_shell_if_backup)` in the server process: the process when it returns, and the
return code. -/
def runServer (a : ServerArgs P) (e : ServerEnv P) (p : Proc) : Option (Proc × Int) :=
  match launch K a e p with
  | none => none
  | some (.error r) => some r
  | some (.ok l) =>
  let run := if a.oneshot then
      runSingleServer K c e.single l.controlPipe a.socketAddr a.unlinkAtEnd l.serverLink l.proc
    else
      runMultiServer K c l.controlPipe l.wdisplaySocket a.unlinkAtEnd l.pid.toNat a.socketAddr
        e.multi l.proc
  run.map fun (p, ret) =>
    let (p, _, found) :=
      waitForPidAndClean e.final.reaped l.pid.toNat ⟨[], 0⟩ (unlinkServerFiles a l p)
    (p, if found then wexitstatus e.final.status else ret)

/-- Oneshot mode with a control FIFO, where `connect_to_socket` fails: `run_single_server`
returns through `fail_srv` without closing the control pipe, and `run_server` does not close it
either, although its comment says these functions close it. -/
def leakArgs : ServerArgs Platform.linux :=
  ⟨SockaddrUn.zero _, [], some [0x2f, 0x63], true, false, [[0x61]], false⟩

/-- Every call succeeds except `connect_to_socket` in `run_single_server`. -/
def leakEnv : ServerEnv Platform.linux :=
  ⟨none, none, 0, true, false, true, true, true,
    ⟨false, ⟨0, 0, 0, none⟩, tokenSize, true, true, 0, []⟩, [], ⟨true, false, fun _ => false, 0⟩⟩

/-- On that run the server returns `EXIT_FAILURE` with the control pipe still open, never
closed by `checked_close` and never handed to `main_interface_loop`. -/
theorem runServer_leaks_control_pipe :
    ∃ q, runServer Kernel.above TokenConsts.lowBits leakArgs leakEnv (Proc.start 1 [0, 1, 2]) =
        some (q, exitFailure) ∧
      (⟨1, 1, .controlPipe⟩ : Obj) ∈ q.fds.objs ∧
      (⟨1, 1, .controlPipe⟩ : Obj) ∉ q.trace.filterMap Event.closed ∧
      (⟨1, 1, .controlPipe⟩ : Obj) ∉ q.trace.flatMap Event.handed :=
  ⟨_, rfl, by decide, by decide, by decide⟩

/-- Oneshot mode with a control FIFO, where every call succeeds but the `fork` of the
reconnection controller. -/
def controllerForkFails : ServerEnv Platform.linux :=
  ⟨none, none, 0, true, false, true, true, true,
    ⟨true, ⟨0, 0, 0, none⟩, tokenSize, true, false, 0, []⟩, [], ⟨true, false, fun _ => false, 0⟩⟩

/-- On that run no reconnection controller exists, and the server returns `EXIT_FAILURE` with the
control pipe still open in the main process, which also closed the channel and both ends of the
link. -/
theorem runServer_control_pipe_without_controller :
    ∃ q, runServer Kernel.above TokenConsts.lowBits leakArgs controllerForkFails
        (Proc.start 1 [0, 1, 2]) = some (q, exitFailure) ∧
      (⟨1, 1, .controlPipe⟩ : Obj) ∈ q.fds.objs ∧ (∀ w ∈ q.children, w.role ≠ .reconnector) ∧
      Event.write ⟨1, 2, .channel false⟩ ⟨conntokenHeader TokenConsts.lowBits true false, ⟨0, 1, 1⟩⟩
        tokenSize ∈ q.trace :=
  ⟨_, rfl, by decide, by decide, by decide⟩

end Waypipe
