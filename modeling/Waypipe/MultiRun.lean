import Waypipe.MultiAccept
import Waypipe.RunServer

/-!
# `run_multi_server` over a whole run

The display-mode loop starts in a state that meets `Waypipe.MultiInv` and keeps it on every
pass, whatever the kernel answers; so it holds after any number of passes, that is in every
state the loop reaches. Along the way, every pass returns: no record is written past the
allocation and no address is copied past `sun_path`.

## Main definitions

* `Waypipe.ControlRead.Allowed`: the addresses a control read may make current are allowed.

## Main results

* `Waypipe.multiLoop_isSome`: the loop never runs into undefined behaviour.
* `Waypipe.multiLoop_control_continues`: input on the control pipe never ends the loop: every
  pass continues it (`Waypipe.MultiContinues`).
* `Waypipe.MultiInv.step`, `Waypipe.MultiInv.loop`: a pass, and any number of passes, keep the
  invariant.
* `Waypipe.MultiInv.start`: the loop starts in a state that meets it.

## References

* `src/src/server.c`, lines 346–438 (`run_multi_server`) and 476–634 (`run_server`).
-/

namespace Waypipe

variable (K : Kernel) {c : TokenConsts} {P : Platform} {cp wd : Int} {A : UInt16 × List Byte → Prop}

/-- The addresses a migration on the control read `r` may adopt satisfy `A`. -/
def ControlRead.Allowed (A : UInt16 × List Byte → Prop) (r : ControlRead P) : Prop :=
  ∀ a : SockaddrUn P, a.sunFamily = r.stale.sunFamily → (0 : Byte) ∈ a.sunPath →
    A (a.sunFamily, a.sunPath)

/-! ### Every pass returns -/

section Total

variable (c : TokenConsts) (unlinkAtEnd : Bool) (childPid : Nat)

theorem migrate_isSome (it : MultiIter P) (s : MultiState P) :
    (migrate K c unlinkAtEnd it s).isSome := by
  simp only [migrate, Option.isSome_map', readSockaddr_isSome]

theorem acceptStep_isSome (it : MultiIter P) (s : MultiState P) :
    (acceptStep K cp wd it s).isSome := by
  unfold acceptStep
  split
  · rfl
  · rfl
  · simp only [Option.isSome_map', handleNewServerConnection_isSome]

theorem multiStep_isSome (it : MultiIter P) (s : MultiState P) :
    (multiStep K c cp wd unlinkAtEnd childPid it s).isSome := by
  unfold multiStep
  dsimp only
  split_ifs
  · rfl
  split
  · rfl
  · rfl
  · rfl
  · split
    · rename_i heq
      split_ifs at heq
      exact absurd heq (Option.ne_none_iff_isSome.2 (migrate_isSome K c unlinkAtEnd it _))
    · split_ifs
      · exact acceptStep_isSome K it _
      · rfl

/-- The display-mode loop never runs into undefined behaviour, whatever the kernel answers. -/
theorem multiLoop_isSome : ∀ (its : List (MultiIter P)) (s : MultiState P),
    (multiLoop K c cp wd unlinkAtEnd childPid its s).isSome
  | [], _ => rfl
  | it :: its, s => by
    unfold multiLoop
    split
    · rename_i heq
      exact absurd heq (Option.ne_none_iff_isSome.2 (multiStep_isSome K c unlinkAtEnd childPid it s))
    · exact multiLoop_isSome its _
    · rfl

/-! ### Control input never ends the loop -/

theorem not_mem_reapedPids {exited : Nat → Bool} {target : Nat} (h : exited target = false)
    (p : Proc) : target ∉ reapedPids exited p := fun hm => by
  obtain ⟨w, hw, rfl⟩ := List.mem_map.1 hm
  simp [h] at hw

/-- A pass on which the application is still running and `poll` reports neither a failure nor
the display socket continues the loop, whatever the control pipe delivers. -/
theorem multiStep_continues {it : MultiIter P} (s : MultiState P)
    (hx : it.exited childPid = false) (hp : it.poll ≠ .failed)
    (hd : ∀ d f, it.poll = .ready d f → d.pollin = false) :
    ∃ s', multiStep K c cp wd unlinkAtEnd childPid it s = some (s', none) := by
  unfold multiStep
  dsimp only
  rw [if_neg (by simpa [waitForPidAndClean] using not_mem_reapedPids hx s.proc)]
  cases hpoll : it.poll with
  | interrupted => exact ⟨_, rfl⟩
  | timeout => exact ⟨_, rfl⟩
  | failed => exact absurd hpoll hp
  | ready d f =>
    dsimp only
    split
    · rename_i heq
      split_ifs at heq
      exact absurd heq (Option.ne_none_iff_isSome.2 (migrate_isSome K c unlinkAtEnd it _))
    · rw [if_neg (by simp [hd d f hpoll])]
      exact ⟨_, rfl⟩

/-- Each of the passes `its`, from the state `s`, continues `run_multi_server`'s loop, and the
last leaves the state `s'`. -/
def MultiContinues (cp wd : Int) : List (MultiIter P) → MultiState P → MultiState P → Prop
  | [], s, s' => s' = s
  | it :: its, s, s' => ∃ s1, multiStep K c cp wd unlinkAtEnd childPid it s = some (s1, none) ∧
      MultiContinues cp wd its s1 s'

/-- In display mode input on the control pipe never ends the loop: over passes on which the
application is still running and `poll` reports neither a failure nor a connection on the
display socket, every pass continues the loop, and the loop ends with `EXIT_SUCCESS` only when
the passes run out, whatever each control read delivers (a path `read_sockaddr` rejects
included) and whatever each migration's calls answer. -/
theorem multiLoop_control_continues : ∀ (its : List (MultiIter P)) (s : MultiState P),
    (∀ it ∈ its, it.exited childPid = false ∧ it.poll ≠ .failed ∧
      ∀ d f, it.poll = .ready d f → d.pollin = false) →
    ∃ s', MultiContinues K c unlinkAtEnd childPid cp wd its s s' ∧
      multiLoop K c cp wd unlinkAtEnd childPid its s = some (s', exitSuccess)
  | [], s, _ => ⟨s, rfl, rfl⟩
  | it :: its, s, h => by
    obtain ⟨hx, hp, hd⟩ := h it (List.mem_cons_self _ _)
    obtain ⟨s1, hs1⟩ := multiStep_continues K c unlinkAtEnd childPid s hx hp hd
    obtain ⟨s', hc, hl⟩ :=
      multiLoop_control_continues its s1 fun it' h' => h it' (List.mem_cons_of_mem _ h')
    refine ⟨s', ⟨s1, hs1, hc⟩, ?_⟩
    unfold multiLoop
    rw [hs1]
    exact hl

end Total

/-- Two control passes: a path of `sizeof(sun_path)` bytes, then `/s`. -/
def longThenShort : List (MultiIter Platform.linux) :=
  [⟨fun _ => false, 0, .ready ⟨false, false⟩ ⟨true, false⟩,
      fifoRead (List.replicate 108 0x61) (by decide), fun _ => ⟨true, tokenSize, true⟩, .ok,
      ⟨0, 0, 0, none⟩, ⟨true, true, tokenSize, true, true⟩⟩,
    ⟨fun _ => false, 0, .ready ⟨false, false⟩ ⟨true, false⟩, fifoRead [0x2f, 0x73] (by decide),
      fun _ => ⟨true, tokenSize, true⟩, .ok, ⟨0, 0, 0, none⟩, ⟨true, true, tokenSize, true, true⟩⟩]

/-- The display-mode loop skips the long path, keeps running and adopts `/s`. -/
theorem multiLoop_longThenShort :
    (∀ it ∈ longThenShort, it.exited 2 = false ∧ it.poll ≠ .failed ∧
      ∀ d f, it.poll = .ready d f → d.pollin = false) ∧
    (∃ s', MultiContinues Kernel.above TokenConsts.lowBits false 2 3 4 longThenShort
        (multiStart TokenConsts.lowBits 3 (SockaddrUn.zero _) (Proc.start 1 [0, 1, 2])) s' ∧
      multiLoop Kernel.above TokenConsts.lowBits 3 4 false 2 longThenShort
        (multiStart TokenConsts.lowBits 3 (SockaddrUn.zero _) (Proc.start 1 [0, 1, 2])) =
      some (s', exitSuccess)) ∧
    ∃ s', multiLoop Kernel.above TokenConsts.lowBits 3 4 false 2 longThenShort
        (multiStart TokenConsts.lowBits 3 (SockaddrUn.zero _) (Proc.start 1 [0, 1, 2])) =
      some (s', exitSuccess) ∧ cstr s'.current.sunPath = [0x2f, 0x73] := by
  have h : ∀ it ∈ longThenShort, it.exited 2 = false ∧ it.poll ≠ .failed ∧
      ∀ d f, it.poll = .ready d f → d.pollin = false := by
    simp only [longThenShort, List.mem_cons, List.mem_singleton, List.not_mem_nil, or_false]
    rintro it (rfl | rfl) <;> exact ⟨rfl, nofun, fun d f h => by cases h; rfl⟩
  exact ⟨h, multiLoop_control_continues Kernel.above TokenConsts.lowBits false 2 _ _ h, _, rfl, rfl⟩

/-! ### The invariant along a run -/

/-- A pass of `run_multi_server`'s loop keeps the invariant. -/
theorem MultiInv.step {s s' : MultiState P} (hs : MultiInv c cp wd A s) {unlinkAtEnd : Bool}
    {childPid : Nat} {it : MultiIter P} (hA : it.control.Allowed A) {r : Option Int}
    (h : multiStep K c cp wd unlinkAtEnd childPid it s = some (s', r)) : MultiInv c cp wd A s' := by
  have h1 := hs.reap it.exited childPid
  unfold multiStep at h
  generalize waitForPidAndClean it.exited childPid s.connmap s.proc = x at h h1
  obtain ⟨p, cm, found⟩ := x
  dsimp only at h h1
  split_ifs at h
  · exact (Prod.mk.inj (Option.some.inj h)).1 ▸ h1
  split at h
  · exact (Prod.mk.inj (Option.some.inj h)).1 ▸ h1
  · exact (Prod.mk.inj (Option.some.inj h)).1 ▸ h1
  · exact (Prod.mk.inj (Option.some.inj h)).1 ▸ h1
  · rename_i display fifo
    split at h
    · cases h
    · rename_i s2 hs2
      have h2 : MultiInv c cp wd A s2 := by
        split_ifs at hs2
        · exact h1.migrate K unlinkAtEnd hA hs2
        · exact Option.some.inj hs2 ▸ h1
      split_ifs at h
      · exact h2.accept K h
      · exact (Prod.mk.inj (Option.some.inj h)).1 ▸ h2

/-- The loop keeps the invariant over any number of passes. -/
theorem MultiInv.loop {unlinkAtEnd : Bool} {childPid : Nat} :
    ∀ {its : List (MultiIter P)} {s s' : MultiState P} {r : Int}, MultiInv c cp wd A s →
      (∀ it ∈ its, it.control.Allowed A) →
      multiLoop K c cp wd unlinkAtEnd childPid its s = some (s', r) → MultiInv c cp wd A s'
  | [], s, s', r, hs, _, h => by
    cases h
    exact hs
  | it :: its, s, s', r, hs, hA, h => by
    unfold multiLoop at h
    split at h
    · cases h
    · exact MultiInv.loop (hs.step K (hA it (List.mem_cons_self _ _)) ‹_›)
        (fun it' h' => hA it' (List.mem_cons_of_mem _ h')) h
    · cases h
      exact hs.step K (hA it (List.mem_cons_self _ _)) ‹_›

/-! ### The state the loop starts in -/

/-- `run_multi_server`'s loop starts in a state that meets the invariant. -/
theorem MultiInv.start {a : ServerArgs P} {e : ServerEnv P} {pid : Nat} {fds : List Nat}
    {l : Launch} (hd : a.oneshot = false) (h : launch K a e (Proc.start pid fds) = some (.ok l))
    (hA : A (a.socketAddr.sunFamily, a.socketAddr.sunPath)) :
    MultiInv c l.controlPipe l.wdisplaySocket A (multiStart c l.controlPipe a.socketAddr l.proc) := by
  obtain ⟨dpath, r, hr, hwd, -, -, hcp⟩ := launch_eq_ok_of_display K hd h
  set q0 := Proc.start pid fds
  set wd := K.newFd q0.fds
  set q1 := (q0.openObj K .displaySocket).1.emit (.bind dpath)
  have hlk1 : ∀ x, q1.lookup x = if x = wd then some (q0.nextObj .displaySocket) else q0.lookup x :=
    q0.lookup_openObj K _
  have hown1 : q1.Owned := ((Proc.start_owned pid fds).openObj K _).emit rfl
  -- the application holds only inherited descriptors
  obtain ⟨happ0, hrsub, evsA, hqA, htrA⟩ := appChild_eq_some K hr
  have happ : ∀ o ∈ r.1.objs, o.kind = .inherited := by
    intro o ho
    obtain ⟨x, hxw, hx⟩ := happ0 o ho
    rw [hd, if_neg Bool.false_ne_true] at hxw
    rw [hlk1, if_neg hxw] at hx
    exact (Proc.start_objs pid fds o (Proc.mem_objs_of_lookup hx)).2
  -- the control pipe
  obtain ⟨hpid, hch, ⟨evs, hevs, htr⟩, hlk, hfresh, hown⟩ := openControlPipe_spec K hcp
  have hown := hown (hown1.forkParent K .app hrsub)
  replace hch : l.proc.children = [⟨q1.childPid K, .app, r.1, r.2, false⟩] := hch
  have hcpwd : l.controlPipe ≠ -1 → (wd : Int) ≠ l.controlPipe := fun h =>
    Proc.ne_of_lookup (show (q1.forkParent K .app r).lookup wd = _ by
      rw [Proc.lookup_forkParent, hlk1, if_pos rfl]) (hfresh h)
  -- every history so far opens, writes and hands on nothing
  have hq1 : ∀ ev ∈ q1.trace, ev.IsQuiet := by
    intro ev hev
    rw [show q1.trace = [.bind dpath] from rfl, List.mem_singleton] at hev
    subst hev
    trivial
  have htrq : ∀ ev ∈ l.proc.trace, ev.IsQuiet := by
    rw [htr]
    intro ev hev
    rcases List.mem_append.1 hev with hev | hev
    · exact hevs ev hev
    · change ev ∈ .fork _ :: q1.trace at hev
      rcases List.mem_cons.1 hev with rfl | hev
      exacts [trivial, hq1 ev hev]
  have htrr : ∀ ev ∈ r.2, ev.IsQuiet := by
    rw [htrA]
    intro ev hev
    rcases List.mem_append.1 hev with hev | hev
    exacts [hqA ev hev, hq1 ev hev]
  have hts : l.proc.traces = [l.proc.trace, r.2] := by simp [Proc.traces, hch]
  have hq : ∀ T ∈ l.proc.traces, ∀ ev ∈ T, ev.IsQuiet := by
    rw [hts]
    simp only [List.mem_cons, List.mem_singleton, List.not_mem_nil, or_false]
    rintro T (rfl | rfl)
    exacts [htrq, htrr]
  refine ⟨hown, ?pids, ?disp, ?ctl, ?table, (fun _ h => nomatch h), List.nodup_nil, le_rfl, ?live,
    ?roles, ?app, ?wfds, ?hkind, ?hexcl, handed_of_quiet htrq, rfl, ?token, hA, ?connects⟩
  all_goals dsimp only [multiStart]
  case pids =>
    rw [hpid, hch]
    have := K.newPid_fresh [q1.pid]
    simp only [List.map_cons, List.map_nil, List.nodup_cons, List.mem_singleton, List.not_mem_nil,
      not_false_eq_true, List.nodup_nil, and_true]
    exact fun h => this (List.mem_singleton.2 h.symm)
  case disp =>
    refine ⟨q0.nextObj .displaySocket, ?_, rfl⟩
    rw [hwd, hlk, if_neg fun h => hcpwd h.1 h.2, Proc.lookup_forkParent, hlk1, if_pos rfl]
  case ctl =>
    intro h
    exact ⟨(q1.forkParent K .app r).nextObj .controlPipe, by rw [hlk, if_pos ⟨h, rfl⟩], rfl⟩
  case table =>
    intro x o hx
    rw [hlk] at hx
    split_ifs at hx with hc
    · cases hx
      exact .inr (.inr (.inl ⟨rfl, hc.2⟩))
    rw [Proc.lookup_forkParent, hlk1] at hx
    split_ifs at hx with hw
    · cases hx
      exact .inr (.inl ⟨rfl, hwd ▸ hw⟩)
    · exact .inl (Proc.start_objs pid fds o (Proc.mem_objs_of_lookup hx)).2
  case live =>
    show [] = if l.controlPipe ≠ -1 then l.proc.liveWorkers.reverse else []
    split_ifs
    · simp [Proc.liveWorkers, hch]
    · rfl
  case roles =>
    rw [hch, List.forall_mem_singleton]
    exact .inl rfl
  case app =>
    rw [hch, List.forall_mem_singleton]
    exact fun _ => happ
  case wfds =>
    rw [hch, List.forall_mem_singleton]
    exact fun h => nomatch h
  case hkind =>
    rw [hch, List.forall_mem_singleton, handed_of_quiet htrr]
    exact fun _ h => nomatch h
  case hexcl =>
    rw [hch, List.forall_mem_singleton, handed_of_quiet htrr]
    exact fun _ h => nomatch h
  case token =>
    exact fun T hT => ⟨tokenTrace_of_quiet (hq T hT), allWritten_of_quiet (hq T hT)⟩
  case connects =>
    intro T hT t ht
    rw [connectTarget_of_quiet (hq T hT)] at ht
    cases ht

end Waypipe
