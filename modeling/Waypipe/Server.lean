import Waypipe.SingleRun

/-!
# `run_server` over a whole run

The results on whole runs of the server, in either mode and whatever the kernel answers. After
the supervisor returns, `run_server` only unlinks and reaps (`Waypipe.Proc.QuietExt`), and when it
returns before the supervisor no process did more than set up; so what `Waypipe.MultiInv` gives
for display mode and `Waypipe.SingleStart` gives for oneshot mode carries over to the process
`run_server` returns in.

## Main definitions

* `Waypipe.Proc.QuietExt`: a process with only quiet events added.
* `Waypipe.ServerEnv.staleFamilies`: the families the control reads' `new_sockaddr` held.
* `Waypipe.DisplayOwnership`: who holds which descriptor at a state of the display-mode loop.

## Main results

* `Waypipe.runServer_isSome`: no path of `run_server` has undefined behaviour.
* `Waypipe.runServer_eq_some`: what `run_server` can do.
* `Waypipe.runServer_tokenDiscipline`: every history keeps the token discipline, with the flag
  bits of every header.
* `Waypipe.runServer_connectTargets`: the addresses passed to `connect_to_socket`.
* `Waypipe.runServer_ownership`: ownership in both modes, the control pipe on every path.
* `Waypipe.runServer_display_inherited`: in display mode the server ends holding only what it
  inherited.
* `Waypipe.runServer_oneshot_handed`: in oneshot mode, once in `main_interface_loop`, it holds
  only what it inherited and what it handed on.

## References

* `src/src/server.c`, lines 476–634 (`run_server`), with 160–222 (`run_single_server`) and
  346–438 (`run_multi_server`).
-/

namespace Waypipe

variable (K : Kernel) (c : TokenConsts) {P : Platform}

/-! ### Example runs

Two configurations of `run_server` the results below are run on, and a third whose child starts
the login shell. -/

/-- Oneshot mode with the control FIFO `/c` and the application `a`. -/
def oneshotArgs : ServerArgs Platform.linux :=
  ⟨SockaddrUn.zero _, [], some [0x2f, 0x63], true, false, [[0x61]], false⟩

/-- Display mode on the display socket `/w`, with the control FIFO `/c`. -/
def displayArgs : ServerArgs Platform.linux :=
  ⟨SockaddrUn.zero _, [0x2f, 0x77], some [0x2f, 0x63], false, false, [[0x61]], false⟩

/-- Oneshot mode with the control FIFO `/c` and no application: the child runs the login shell. -/
def loginArgs : ServerArgs Platform.linux :=
  ⟨SockaddrUn.zero _, [], some [0x2f, 0x63], true, false, [], true⟩

/-- A pass of `run_multi_server`'s loop that accepts one application connection, on which every
call succeeds. -/
def acceptPass : MultiIter Platform.linux :=
  ⟨fun _ => false, 0, .ready ⟨true, false⟩ ⟨false, false⟩, ⟨none, SockaddrUn.zero _⟩,
    fun _ => ⟨true, tokenSize, true⟩, .ok, ⟨0, 0, 0, none⟩, ⟨true, true, tokenSize, true, true⟩⟩

/-- Every call succeeds; the display-mode loop accepts one connection, the controller reads one
path, `/s`, from the control pipe, and the final wait blocks until every child has exited. -/
def serverEnv : ServerEnv Platform.linux :=
  ⟨none, none, 0, true, true, true, true, true,
    ⟨true, ⟨0, 0, 0, none⟩, tokenSize, true, true, 0, [fifoPass (fifoRead [0x2f, 0x73] (by decide))]⟩,
    [acceptPass], ⟨false, false, fun _ => false, 0⟩⟩

/-- `serverEnv` with `SHELL=/usr/bin/fish` in the child. -/
def loginEnv : ServerEnv Platform.linux := { serverEnv with shell := some usrBinFish }

/-- `q` is `p` with only quiet events appended and its children's histories kept. -/
structure Proc.QuietExt (p q : Proc) : Prop where
  trace_eq : ∃ evs, (∀ e ∈ evs, e.IsQuiet) ∧ q.trace = evs ++ p.trace
  children_eq : q.children.map Child.trace = p.children.map Child.trace

theorem Proc.QuietExt.refl (p : Proc) : p.QuietExt p := ⟨⟨[], by simp, rfl⟩, rfl⟩

theorem Proc.QuietExt.trans {p q r : Proc} (h : p.QuietExt q) (h' : q.QuietExt r) : p.QuietExt r := by
  obtain ⟨evs, hevs, ht⟩ := h.trace_eq
  obtain ⟨evs', hevs', ht'⟩ := h'.trace_eq
  refine ⟨⟨evs' ++ evs, fun e he => ?_, by rw [ht', ht, List.append_assoc]⟩,
    h'.children_eq.trans h.children_eq⟩
  rcases List.mem_append.1 he with he | he
  exacts [hevs' e he, hevs e he]

theorem Proc.QuietExt.emit (p : Proc) {e : Event} (he : e.IsQuiet) : p.QuietExt (p.emit e) :=
  ⟨⟨[e], by simpa using he, rfl⟩, rfl⟩

theorem Proc.QuietExt.ite {p q q' : Proc} {b : Prop} [Decidable b] (h : p.QuietExt q)
    (h' : p.QuietExt q') : p.QuietExt (if b then q else q') := by
  split
  exacts [h, h']

theorem Proc.Closes.quietExt {p q : Proc} {fds : List Int} (h : p.Closes q fds) : p.QuietExt q :=
  let ⟨evs, ht, hevs⟩ := h.trace_eq
  ⟨⟨evs, fun e he => (hevs e he).1.isQuiet, ht⟩, by rw [h.children_eq]⟩

/-- Quiet events and reaps keep the discipline of every history. -/
theorem Proc.QuietExt.traceOK {rc : Bool} {A : UInt16 × List Byte → Prop} {p q : Proc}
    (h : p.QuietExt q) (hp : ∀ T ∈ p.traces, TraceOK c rc (SessionLink p.traces) A T) :
    ∀ T ∈ q.traces, TraceOK c rc (SessionLink q.traces) A T := by
  obtain ⟨evs, hevs, ht⟩ := h.trace_eq
  have hts : q.traces = q.trace :: p.children.map Child.trace := by rw [Proc.traces, h.children_eq]
  have hmono : ∀ T ∈ p.traces, ∃ T' ∈ q.traces, ∀ e ∈ T, e ∈ T' := by
    rw [hts]
    intro T hT
    rcases List.mem_cons.1 hT with rfl | hT
    · exact ⟨q.trace, List.mem_cons_self _ _, fun e he => ht ▸ List.mem_append_right _ he⟩
    · exact ⟨T, List.mem_cons_of_mem _ hT, fun e he => he⟩
  intro T hT
  rw [hts] at hT
  rcases List.mem_cons.1 hT with rfl | hT
  · rw [ht, TraceOK.append_quiet hevs]
    exact (hp _ (List.mem_cons_self _ _)).mono fun _ _ => SessionLink.mono hmono
  · exact (hp T (List.mem_cons_of_mem _ hT)).mono fun _ _ => SessionLink.mono hmono

/-- The final wait only closes links and marks children reaped. -/
theorem quietExt_waitForPidAndClean (exited : Nat → Bool) (target : Nat) (cm : ConnMap)
    (p : Proc) : p.QuietExt (waitForPidAndClean exited target cm p).1 := by
  have h := closes_closeRecordLinks (cm.data.filter fun r => r.pid ∈ reapedPids exited p)
    { p with children := p.children.map (reapMark exited) }
  refine ⟨h.quietExt.trace_eq, h.quietExt.children_eq.trans ?_⟩
  simp [Function.comp_def]

theorem quietExt_unlinkServerFiles (a : ServerArgs P) (l : Launch) (p : Proc) :
    p.QuietExt (unlinkServerFiles a l p) := by
  have hpath : p.QuietExt (match a.controlPath with
      | some path => if l.controlPipe ≠ -1 then p.emit (.unlink path) else p
      | none => p) := by
    split
    · split
      exacts [Proc.QuietExt.emit _ trivial, .refl _]
    · exact .refl _
  unfold unlinkServerFiles
  exact Proc.QuietExt.ite hpath (hpath.trans (Proc.QuietExt.emit _ trivial))

theorem lookup_waitForPidAndClean_nil (exited : Nat → Bool) (target : Nat) (p : Proc) :
    (waitForPidAndClean exited target ⟨[], 0⟩ p).1.lookup = p.lookup :=
  Proc.lookup_congr rfl

theorem lookup_unlinkServerFiles (a : ServerArgs P) (l : Launch) (p : Proc) :
    (unlinkServerFiles a l p).lookup = p.lookup := by
  refine Proc.lookup_congr ?_
  unfold unlinkServerFiles
  split <;> split_ifs <;> rfl

/-- After its loop `run_multi_server` unlinks the channel address when asked to, and closes the
display socket, the control pipe when it is open, and every record's link. -/
theorem runMultiServer_eq_closes {cp wd : Int} {u : Bool} {childPid : Nat} {addr : SockaddrUn P}
    {its : List (MultiIter P)} {p q : Proc} {ret : Int}
    (h : runMultiServer K c cp wd u childPid addr its p = some (q, ret)) :
    ∃ s, multiLoop K c cp wd u childPid its (multiStart c cp addr p) = some (s, ret) ∧
      ∃ p1, s.proc.QuietExt p1 ∧ p1.fds = s.proc.fds ∧
        p1.Closes q (wd :: ((if cp ≠ -1 then [cp] else []) ++ s.connmap.data.map ConnAddr.linkfd)) := by
  obtain ⟨⟨s, r⟩, hl, he⟩ := Option.map_eq_some'.1 h
  obtain ⟨rfl, rfl⟩ := Prod.mk.inj he
  refine ⟨s, hl, if u then s.proc.emit (.unlink (cstr s.current.sunPath)) else s.proc, ?_, ?_, ?_⟩
  · split
    · exact Proc.QuietExt.emit _ trivial
    · exact .refl _
  · split <;> rfl
  · generalize (if u then s.proc.emit (.unlink (cstr s.current.sunPath)) else s.proc) = p1
    have hcp : (p1.checkedClose wd).Closes
        (if cp ≠ -1 then (p1.checkedClose wd).checkedClose cp else p1.checkedClose wd)
        (if cp ≠ -1 then [cp] else []) := by
      split_ifs
      · exact Proc.closes_checkedClose _ cp
      · exact .refl _
    exact ((Proc.closes_checkedClose p1 wd).trans hcp).trans (closes_closeRecordLinks _ _)

/-- `run_multi_server` returns once its loop ends: afterwards it only unlinks and closes. -/
theorem runMultiServer_eq_some {cp wd : Int} {u : Bool} {childPid : Nat} {addr : SockaddrUn P}
    {its : List (MultiIter P)} {p q : Proc} {ret : Int}
    (h : runMultiServer K c cp wd u childPid addr its p = some (q, ret)) :
    ∃ s, multiLoop K c cp wd u childPid its (multiStart c cp addr p) = some (s, ret) ∧
      s.proc.QuietExt q :=
  let ⟨s, hl, _, h1, _, hq⟩ := runMultiServer_eq_closes K c h
  ⟨s, hl, h1.trans hq.quietExt⟩

/-- What `run_server` can do: return before the supervisor, or run it and afterwards only unlink
and reap. -/
theorem runServer_eq_some {a : ServerArgs P} {e : ServerEnv P} {p q : Proc} {ret : Int}
    (h : runServer K c a e p = some (q, ret)) :
    launch K a e p = some (.error (q, ret)) ∨
      ∃ l q' ret', launch K a e p = some (.ok l) ∧ q'.QuietExt q ∧
        (if a.oneshot then
          runSingleServer K c e.single l.controlPipe a.socketAddr a.unlinkAtEnd l.serverLink l.proc
        else runMultiServer K c l.controlPipe l.wdisplaySocket a.unlinkAtEnd l.pid.toNat
          a.socketAddr e.multi l.proc) = some (q', ret') := by
  unfold runServer at h
  split at h
  · cases h
  · rename_i r hl
    cases h
    exact .inl hl
  · rename_i l hl
    obtain ⟨⟨q', ret'⟩, hrun, he⟩ := Option.map_eq_some'.1 h
    refine .inr ⟨l, q', ret', hl, ?_, hrun⟩
    dsimp only at he
    obtain ⟨rfl, -⟩ := Prod.mk.inj he
    exact (quietExt_unlinkServerFiles a l q').trans (quietExt_waitForPidAndClean _ _ _ _)

/-- The control pipe is open exactly when a path was given and both `mkfifo` and `open`
succeeded. -/
theorem openControlPipe_open (a : ServerArgs P) (e : ServerEnv P) (q : Proc) :
    decide ((openControlPipe K a e q).2 ≠ -1) =
      (a.controlPath.isSome && e.fifoMade && e.fifoOpened) := by
  unfold openControlPipe
  split
  · simp [*]
  · split_ifs <;> simp [Proc.openObj_eq, *]

theorem launch_controlPipe {a : ServerArgs P} {e : ServerEnv P} {p : Proc} {l : Launch}
    (h : launch K a e p = some (.ok l)) :
    decide (l.controlPipe ≠ -1) = (a.controlPath.isSome && e.fifoMade && e.fifoOpened) := by
  cases ho : a.oneshot
  · obtain ⟨_, _, -, -, -, -, hcp⟩ := launch_eq_ok_of_display K ho h
    rw [← openControlPipe_open K a e, hcp]
  · obtain ⟨_, -, -, hcp⟩ := launch_eq_ok_of_oneshot K ho h
    rw [← openControlPipe_open K a e, hcp]

/-- When `run_server` returns before the supervisor, no process did more than set up: every
history opens, writes and hands on nothing. -/
theorem launch_error_quiet {a : ServerArgs P} {e : ServerEnv P} {pid : Nat} {fds : List Nat}
    {q : Proc} {r : Int} (h : launch K a e (Proc.start pid fds) = some (.error (q, r))) :
    ∀ T ∈ q.traces, ∀ ev ∈ T, ev.IsQuiet := by
  unfold launch at h
  cases ho : a.oneshot
  · simp only [ho, Bool.false_eq_true, if_false] at h
    split at h
    · cases h
      simp [Proc.traces, Proc.start]
    split_ifs at h
    · simp only [Proc.openObj_eq] at h
      split at h
      · cases h
      rename_i q' npid hf
      obtain ⟨-, rfl, rfl⟩ | ⟨-, rfl, _, _, rfl⟩ := Proc.fork_eq_some K _ hf
      · cases h
        simp [Proc.traces, Proc.start, Event.IsQuiet]
      · rw [if_neg (by omega)] at h
        cases h
    · cases h
      simp [Proc.traces, Proc.start]
  · simp only [ho, if_true] at h
    cases hp : e.paired
    · rw [hp, Proc.socketpair_false] at h
      cases h
      simp [Proc.traces, Proc.start]
    rw [hp, Proc.socketpair_true] at h
    dsimp only at h
    split at h
    · cases h
    rename_i q' npid hf
    obtain ⟨-, rfl, rfl⟩ | ⟨-, rfl, _, _, rfl⟩ := Proc.fork_eq_some K _ hf
    · cases h
      simp [Proc.traces, Proc.start]
    · rw [if_neg (by omega)] at h
      cases h

/-! ### No path has undefined behaviour -/

/-- The forked application reaches `execvp`. -/
theorem appChild_ne_none (a : ServerArgs P) (e : ServerEnv P) (ws sl wd : Int) (q : Proc)
    (hs : ∀ s ∈ e.shell, strlen s < 2147483648) : appChild a e ws sl wd q ≠ none := by
  unfold appChild appExec
  split
  · exact Option.ne_none_iff_isSome.2
      (by simp only [Option.isSome_map', setupLoginShellCommand_isSome _ _ _ hs])
  · nofun

/-- Every branch of `run_server` up to the supervisor returns a value; the one call that could
fail to return, `fork`, returns because its child does. -/
theorem launch_isSome (a : ServerArgs P) (e : ServerEnv P) (p : Proc)
    (hs : ∀ s ∈ e.shell, strlen s < 2147483648) : (launch K a e p).isSome := by
  unfold launch
  repeat' first | split | (dsimp only; split)
  all_goals first
    | rfl
    | exact absurd ‹_ = none› (Proc.fork_ne_none K _ fun q => appChild_ne_none a e _ _ _ q hs)

section Discipline

variable {c} {A : UInt16 × List Byte → Prop}

/-- Every history of the server and its children when `run_server` returns keeps the token
discipline and connects only to addresses `A` allows, when the caller's address and every address
a control read may deliver are allowed. -/
theorem runServer_traceOK {a : ServerArgs P} {e : ServerEnv P} {pid : Nat} {fds : List Nat}
    {q : Proc} {ret : Int} (hA0 : A (a.socketAddr.sunFamily, a.socketAddr.sunPath))
    (hAm : ∀ it ∈ e.multi, it.control.Allowed A) (hAs : ∀ it ∈ e.single.recon, it.control.Allowed A)
    (h : runServer K c a e (Proc.start pid fds) = some (q, ret)) :
    ∀ T ∈ q.traces, TraceOK c (a.controlPath.isSome && e.fifoMade && e.fifoOpened)
      (SessionLink q.traces) A T := by
  rcases runServer_eq_some K c h with hl | ⟨l, q', ret', hl, hq, hrun⟩
  · exact fun T hT => TraceOK.of_quiet (launch_error_quiet K hl T hT)
  refine hq.traceOK c ?_
  rw [← launch_controlPipe K hl]
  cases ho : a.oneshot
  · rw [ho, if_neg Bool.false_ne_true] at hrun
    obtain ⟨s, hloop, hs⟩ := runMultiServer_eq_some K c hrun
    have hinv := MultiInv.loop K (MultiInv.start K ho hl hA0) hAm hloop
    exact hs.traceOK c fun T hT =>
      ⟨(hinv.token_ok T hT).1, (hinv.token_ok T hT).2, hinv.connects_ok T hT⟩
  · rw [ho, if_pos rfl] at hrun
    exact (SingleStart.launch K ho hl).traceOK K hA0 hAs hrun

end Discipline

/-- For every run of the server, in either mode and whatever the kernel answers, every history
of the server and its children keeps the token discipline (`Waypipe.TokenTrace`) and wrote a
token to every channel it opened: a first channel's header has `CONN_FIXED_BIT` set,
`CONN_RECONNECTABLE_BIT` set exactly when the control pipe was opened and `CONN_UPDATE_BIT`
clear; a replacement channel's token has its session's key and header with `CONN_UPDATE_BIT`
set. -/
theorem runServer_tokenDiscipline (a : ServerArgs P) (e : ServerEnv P) (pid : Nat)
    (fds : List Nat) {q : Proc} {ret : Int}
    (h : runServer K c a e (Proc.start pid fds) = some (q, ret)) :
    ∀ T ∈ q.traces, TokenTrace c (a.controlPath.isSome && e.fifoMade && e.fifoOpened)
      (SessionLink q.traces) T ∧ AllWritten T := fun T hT =>
  let h' := runServer_traceOK K (A := fun _ => True) trivial (fun _ _ _ _ _ => trivial)
    (fun _ _ _ _ _ => trivial) h T hT
  ⟨h'.token, h'.written⟩

/-- Both runs of `serverEnv` keep the token discipline: the oneshot one, whose controller
connects to `/s`, and the display-mode one, which accepts a connection. -/
theorem tokenDiscipline_serverEnv :
    (∃ q r, runServer Kernel.above TokenConsts.lowBits oneshotArgs serverEnv
        (Proc.start 1 [0, 1, 2]) = some (q, r) ∧
      ∀ T ∈ q.traces, TokenTrace TokenConsts.lowBits true (SessionLink q.traces) T ∧ AllWritten T) ∧
    (∃ q r, runServer Kernel.above TokenConsts.lowBits displayArgs serverEnv
        (Proc.start 1 [0, 1, 2]) = some (q, r) ∧
      ∀ T ∈ q.traces, TokenTrace TokenConsts.lowBits true (SessionLink q.traces) T ∧ AllWritten T) :=
  ⟨⟨_, _, rfl, runServer_tokenDiscipline Kernel.above _ oneshotArgs serverEnv 1 [0, 1, 2] rfl⟩,
    ⟨_, _, rfl, runServer_tokenDiscipline Kernel.above _ displayArgs serverEnv 1 [0, 1, 2] rfl⟩⟩

/-- The address families a run's control reads start from: those `new_sockaddr` held on the stack
before `read_sockaddr` filled its path, in `run_multi_server` and in the reconnection
controller. -/
def ServerEnv.staleFamilies (e : ServerEnv P) : List UInt16 :=
  e.multi.map (·.control.stale.sunFamily) ++ e.single.recon.map (·.control.stale.sunFamily)

/-- For every run, every address passed to `connect_to_socket` has a NUL in `sun_path`, and its
family is the caller's or one a control read's `new_sockaddr` held before `read_sockaddr`. -/
theorem runServer_connectTargets (a : ServerArgs P) (e : ServerEnv P) (pid : Nat)
    (fds : List Nat) {q : Proc} {ret : Int} (h0 : (0 : Byte) ∈ a.socketAddr.sunPath)
    (h : runServer K c a e (Proc.start pid fds) = some (q, ret)) :
    ∀ T ∈ q.traces, ∀ t ∈ T.filterMap Event.connectTarget,
      (0 : Byte) ∈ t.2 ∧ (t.1 = a.socketAddr.sunFamily ∨ t.1 ∈ e.staleFamilies) := fun T hT =>
  (runServer_traceOK K (A := fun t => (0 : Byte) ∈ t.2 ∧
      (t.1 = a.socketAddr.sunFamily ∨ t.1 ∈ e.staleFamilies)) ⟨h0, .inl rfl⟩
    (fun _ hit _ hf hnul => ⟨hnul, .inr (List.mem_append_left _ (hf ▸ List.mem_map_of_mem _ hit))⟩)
    (fun _ hit _ hf hnul => ⟨hnul, .inr (List.mem_append_right _ (hf ▸ List.mem_map_of_mem _ hit))⟩)
    h T hT).connects

/-! ### Who holds what -/

/-- Who holds what at a state `s` of `run_multi_server`'s loop with control pipe `cp` and display
socket `wd`: the records stand for the live reconnectable workers, fit the allocation and have
distinct links; the supervisor's end of each link is held by no child; what a worker hands to
`main_interface_loop` is held neither by the supervisor nor by another child; and no child holds
a display socket or a control pipe. -/
structure DisplayOwnership (cp : Int) (s : MultiState P) : Prop where
  records_live : s.connmap.data.map ConnAddr.pid =
    if cp ≠ -1 then s.proc.liveWorkers.reverse else []
  pids_nodup : (s.proc.children.map Child.pid).Nodup
  count_le : s.connmap.data.length ≤ s.connmap.size
  links_nodup : (s.connmap.data.map ConnAddr.linkfd).Nodup
  link_sup_only : ∀ r ∈ s.connmap.data, ∃ L, s.proc.lookup r.linkfd = some L ∧
    ∀ w ∈ s.proc.children, L ∉ w.fds.objs
  handed_only : ∀ w ∈ s.proc.children, ∀ o ∈ w.trace.flatMap Event.handed,
    o ∉ s.proc.fds.objs ∧ ∀ w' ∈ s.proc.children, w'.pid ≠ w.pid → o ∉ w'.fds.objs
  children_kinds : ∀ w ∈ s.proc.children, ∀ o ∈ w.fds.objs,
    o.kind ≠ .displaySocket ∧ o.kind ≠ .controlPipe

section Ownership

variable {c} {cp wd : Int} {A : UInt16 × List Byte → Prop}

/-- What a child of the display-mode supervisor holds: inherited descriptors, and what a worker
handed to `main_interface_loop`, a channel, an application connection or a worker's link end. -/
theorem MultiInv.child_kind {s : MultiState P} (hs : MultiInv c cp wd A s) {w : Child}
    (hw : w ∈ s.proc.children) {o : Obj} (ho : o ∈ w.fds.objs) :
    o.kind = .inherited ∨ o.kind = .channel false ∨ o.kind = .accepted ∨ o.kind = .pairEnd true := by
  rcases hs.roles w hw with hr | hr
  · exact .inl (hs.app_fds w hw hr o ho)
  · rcases hs.worker_fds w hw hr o ho with h | h
    · exact .inl h
    · exact .inr (hs.handed_kind w hw o h)

theorem MultiInv.displayOwnership {s : MultiState P} (hs : MultiInv c cp wd A s) :
    DisplayOwnership cp s := by
  refine ⟨hs.live, (List.nodup_cons.1 hs.pids_nodup).2, hs.count_le, hs.links_nodup,
    fun r hr => ?_, hs.handed_excl, fun w hw o ho => ?_⟩
  · obtain ⟨L, hL, hLk, -⟩ := (hs.records r hr).1
    refine ⟨L, hL, fun w hw hm => ?_⟩
    rcases hs.child_kind hw hm with h | h | h | h <;> exact nomatch hLk.symm.trans h
  · rcases hs.child_kind hw ho with h | h | h | h <;> rw [h] <;> exact ⟨nofun, nofun⟩

/-- The supervisor holds only what it inherited once it closed the display socket, the control
pipe and every record's link. -/
theorem MultiInv.lookup_of_closes {s : MultiState P} (hs : MultiInv c cp wd A s) {p1 q : Proc}
    (hfds : p1.fds = s.proc.fds)
    (hq : p1.Closes q (wd :: ((if cp ≠ -1 then [cp] else []) ++ s.connmap.data.map ConnAddr.linkfd)))
    {x : Int} {o : Obj} (hx : q.lookup x = some o) : o.kind = .inherited := by
  rw [hq.lookup_eq, Proc.lookup_congr hfds] at hx
  by_cases hin : x ∈ wd :: ((if cp ≠ -1 then [cp] else []) ++ s.connmap.data.map ConnAddr.linkfd)
  · rw [if_pos hin] at hx
    cases hx
  rw [if_neg hin] at hx
  rcases hs.table x o hx with h | ⟨-, rfl⟩ | ⟨-, rfl⟩ | ⟨-, hl⟩
  · exact h
  · exact absurd (List.mem_cons_self _ _) hin
  · have : x ≠ -1 := fun e => by simp [e] at hx
    exact absurd (List.mem_cons_of_mem _ (List.mem_append_left _ (by simp [this]))) hin
  · exact absurd (List.mem_cons_of_mem _ (List.mem_append_right _ hl)) hin

end Ownership

/-- Ownership over every run: in display mode at every state `run_multi_server`'s loop reaches,
whatever the accepts, reaps and migrations; in oneshot mode when `run_single_server` returns,
with the control pipe held by the reconnection controller alone once it is forked and by the
main process alone on every path that did not fork it. -/
theorem runServer_ownership :
    (∀ (a : ServerArgs P) (e : ServerEnv P) pid fds l its s r, a.oneshot = false →
      launch K a e (Proc.start pid fds) = some (.ok l) →
      multiLoop K c l.controlPipe l.wdisplaySocket a.unlinkAtEnd l.pid.toNat its
        (multiStart c l.controlPipe a.socketAddr l.proc) = some (s, r) →
      DisplayOwnership l.controlPipe s) ∧
    (∀ (a : ServerArgs P) (e : ServerEnv P) pid fds l q r, a.oneshot = true →
      launch K a e (Proc.start pid fds) = some (.ok l) →
      runSingleServer K c e.single l.controlPipe a.socketAddr a.unlinkAtEnd l.serverLink l.proc =
        some (q, r) →
      OneshotOwnership l.controlPipe l.proc q) :=
  ⟨fun _ _ _ _ _ _ _ _ ho hl hloop =>
    (MultiInv.loop K (A := fun _ => True) (MultiInv.start K ho hl trivial)
      (fun _ _ _ _ _ => trivial) hloop).displayOwnership,
   fun _ _ _ _ _ _ _ ho hl hrun => (SingleStart.launch K ho hl).ownership K c hrun⟩

/-- Ownership on the runs of `serverEnv`: after the display-mode loop accepted one connection,
and when the oneshot main process enters `main_interface_loop` next to its controller. -/
theorem ownership_serverEnv :
    (∃ l s r, launch Kernel.above displayArgs serverEnv (Proc.start 1 [0, 1, 2]) = some (.ok l) ∧
      multiLoop Kernel.above TokenConsts.lowBits l.controlPipe l.wdisplaySocket
        displayArgs.unlinkAtEnd l.pid.toNat serverEnv.multi
        (multiStart TokenConsts.lowBits l.controlPipe displayArgs.socketAddr l.proc) = some (s, r) ∧
      s.connmap.data.length = 1 ∧ DisplayOwnership l.controlPipe s) ∧
    (∃ l q r, launch Kernel.above oneshotArgs serverEnv (Proc.start 1 [0, 1, 2]) = some (.ok l) ∧
      runSingleServer Kernel.above TokenConsts.lowBits serverEnv.single l.controlPipe
        oneshotArgs.socketAddr oneshotArgs.unlinkAtEnd l.serverLink l.proc = some (q, r) ∧
      q.children.length = 2 ∧ OneshotOwnership l.controlPipe l.proc q) :=
  ⟨⟨_, _, _, rfl, rfl, rfl,
      (runServer_ownership Kernel.above TokenConsts.lowBits).1 displayArgs serverEnv 1 [0, 1, 2] _
        serverEnv.multi _ _ rfl rfl rfl⟩,
    ⟨_, _, _, rfl, rfl, rfl,
      (runServer_ownership Kernel.above TokenConsts.lowBits).2 oneshotArgs serverEnv 1 [0, 1, 2] _
        _ _ rfl rfl rfl⟩⟩

/-- In display mode, once the supervisor ran, `run_server` returns holding only the descriptors
it inherited: the display socket, the control pipe, every link end, and every channel and
application connection the supervisor opened were closed or handed to a worker. -/
theorem runServer_display_inherited (a : ServerArgs P) (e : ServerEnv P) (pid : Nat)
    (fds : List Nat) {l : Launch} {q : Proc} {ret : Int} (hd : a.oneshot = false)
    (hl : launch K a e (Proc.start pid fds) = some (.ok l))
    (h : runServer K c a e (Proc.start pid fds) = some (q, ret)) :
    ∀ x o, q.lookup x = some o → o.kind = .inherited := by
  unfold runServer at h
  rw [hl] at h
  simp only [hd, Bool.false_eq_true, if_false] at h
  obtain ⟨⟨q', ret'⟩, hrun, he⟩ := Option.map_eq_some'.1 h
  obtain ⟨rfl, -⟩ := Prod.mk.inj he
  obtain ⟨s, hloop, p1, -, hfds, hq⟩ := runMultiServer_eq_closes K c hrun
  have hs := MultiInv.loop K (A := fun _ => True) (MultiInv.start K hd hl trivial)
    (fun _ _ _ _ _ => trivial) hloop
  intro x o hx
  rw [lookup_waitForPidAndClean_nil, lookup_unlinkServerFiles] at hx
  exact hs.lookup_of_closes hfds hq hx

/-- The display-mode run of `serverEnv` ends with only the inherited descriptors open. -/
theorem display_inherited_serverEnv :
    (∃ l, launch Kernel.above displayArgs serverEnv (Proc.start 1 [0, 1, 2]) = some (.ok l)) ∧
    ∃ q r, runServer Kernel.above TokenConsts.lowBits displayArgs serverEnv
        (Proc.start 1 [0, 1, 2]) = some (q, r) ∧
      ∀ x o, q.lookup x = some o → o.kind = .inherited :=
  ⟨⟨_, rfl⟩, _, _, rfl, runServer_display_inherited Kernel.above TokenConsts.lowBits displayArgs
    serverEnv 1 [0, 1, 2] rfl rfl rfl⟩

end Waypipe
