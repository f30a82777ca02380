import Waypipe.UpdateConnections

/-!
# `handle_new_server_connection`: one application connection, one worker

On an accepted application connection the display-mode supervisor makes room for a record
when the session is reconnectable, opens a channel to the current endpoint, writes the
session's token, creates the link socket pair, and forks a worker. The worker closes the
display socket, the control pipe, its copy of the supervisor's end of its own link and the
links of every recorded session, and enters `main_interface_loop` with the channel, the
application connection and its end of the link. The supervisor closes the channel, the
application connection and the worker's end of the link, and records the session. Every
failure closes what was opened so far and reports -1.

## Main definitions

* `Waypipe.bufEnsureSize`: `buf_ensure_size`, modelled from its use.
* `Waypipe.NewConnOutcome`: the kernel's answers to the calls of one connection.
* `Waypipe.closeLinks`, `Waypipe.serverWorker`: what the forked worker does.
* `Waypipe.handleNewServerConnection`.

## Main results

* `Waypipe.serverWorker_eq`: the worker's table is the supervisor's with the display socket,
  the control pipe, the supervisor's end of its link and every recorded link closed.
* `Waypipe.handleNewServerConnection_eq_some`: every path either fails, closing what it opened,
  or forks the worker and records the session.

## References

* `src/src/server.c`, lines 224–305 (`handle_new_server_connection`).
-/

namespace Waypipe

/-- Modelled from the spec: `buf_ensure_size(count, size, &space, &data)` (in `util.c`, which is
not among the sources) makes room for at least `count` records, reallocating when `space` is too
small; `grows` is whether the reallocation succeeds. The new `space`, or `none` when it returns
-1. Only `count ≤ space` afterwards matters to the server. -/
def bufEnsureSize (grows : Bool) (count space : Nat) : Option Nat :=
  if count ≤ space then some space else if grows then some (max count (2 * space)) else none

theorem le_of_bufEnsureSize {grows : Bool} {count space space' : Nat}
    (h : bufEnsureSize grows count space = some space') : count ≤ space' ∧ space ≤ space' := by
  unfold bufEnsureSize at h
  split_ifs at h with h1 h2 <;> cases h <;> omega

/-- The kernel's answers to the calls of one `handle_new_server_connection`: the reallocation in
`buf_ensure_size`, `connect_to_socket`, the token `write`, `socketpair` and `fork`. -/
structure NewConnOutcome where
  grows : Bool
  connects : Bool
  written : Int
  paired : Bool
  forks : Bool

variable (K : Kernel) {P : Platform}

/-- The worker's loop closing the link of every recorded session:
`for (i < count) if (data[i].linkfd != -1) checked_close(data[i].linkfd)`. -/
def closeLinks : List ConnAddr → Proc → Proc
  | [], q => q
  | r :: rs, q => closeLinks rs (if r.linkfd ≠ -1 then q.checkedClose r.linkfd else q)

/-- The forked worker of `handle_new_server_connection`, from a copy of the supervisor: it
closes the display socket, and for a reconnectable session the control pipe and the
supervisor's end `linksocks[0]` of its link, closes the link of every recorded session, and
enters `main_interface_loop(chanfd, appfd, linksocks[1])`. Its table there, and its events. -/
def serverWorker (wdisplaySocket controlPipe : Int) (linksocks : Int × Int) (chanfd appfd : Int)
    (cm : ConnMap) (q : Proc) : Option (FdTable × List Event) :=
  let q := q.checkedClose wdisplaySocket
  let q := if controlPipe ≠ -1 then (q.checkedClose controlPipe).checkedClose linksocks.1 else q
  let q := closeLinks cm.data q
  some (q.fds, (q.mainLoop chanfd appfd linksocks.2).trace)

/-- `handle_new_server_connection(current_sockaddr, control_pipe, wdisplay_socket, appfd,
connmap, config, new_token)`: the supervisor, `*connmap` and the return code afterwards;
`none` if the record would be written past the allocation. -/
def handleNewServerConnection (o : NewConnOutcome) (cur : SockaddrUn P)
    (controlPipe wdisplaySocket appfd : Int) (cm : ConnMap) (newToken : ConnectionToken)
    (p : Proc) : Option (Proc × ConnMap × Int) :=
  let reconnectable := decide (controlPipe ≠ -1)
  match (if reconnectable then bufEnsureSize o.grows (cm.data.length + 1) cm.size
    else some cm.size) with
  | none => some (p.checkedClose appfd, cm, -1)
  | some size =>
    let cm := { cm with size }
    let (p, chanfd) := p.connectToSocket K o.connects false cur
    if chanfd = -1 then some (p.checkedClose appfd, cm, -1) else
    let (p, ret) := p.writeToken o.written chanfd newToken
    if ret ≠ tokenSize then some ((p.checkedClose chanfd).checkedClose appfd, cm, -1) else
    let (p, links) := if reconnectable then p.socketpair K o.paired else (p, some (-1, -1))
    match links with
    | none => some ((p.checkedClose chanfd).checkedClose appfd, cm, -1)
    | some ls =>
      match p.fork K o.forks .worker
          (serverWorker wdisplaySocket controlPipe ls chanfd appfd cm) with
      | none => none
      | some (p, npid) =>
        if npid = -1 then
          let p := if reconnectable then (p.checkedClose ls.1).checkedClose ls.2 else p
          some ((p.checkedClose chanfd).checkedClose appfd, cm, -1)
        else
          let p := (p.checkedClose chanfd).checkedClose appfd
          if reconnectable then
            if cm.data.length < cm.size then
              some (p.checkedClose ls.2,
                { cm with data := cm.data ++ [⟨newToken, npid.toNat, ls.1⟩] }, 0)
            else none
          else some (p, cm, 0)

/-- `handle_new_server_connection` always returns: the record is written within the allocation
that `buf_ensure_size` secured, and the worker's body returns. -/
theorem handleNewServerConnection_isSome (o : NewConnOutcome) (cur : SockaddrUn P)
    (cp wd appfd : Int) (cm : ConnMap) (tok : ConnectionToken) (p : Proc) :
    (handleNewServerConnection K o cur cp wd appfd cm tok p).isSome := by
  cases hb : (if decide (cp ≠ -1) = true then bufEnsureSize o.grows (cm.data.length + 1) cm.size
      else some cm.size) with
  | none => simp only [handleNewServerConnection, hb]; rfl
  | some size =>
    have hlen : cp ≠ -1 → cm.data.length < size := fun h => by
      rw [if_pos (decide_eq_true h)] at hb
      have := (le_of_bufEnsureSize hb).1
      omega
    simp only [handleNewServerConnection, hb]
    repeat' split
    all_goals first | rfl | (simp_all; done) | (split_ifs at * <;> simp_all; done) |
      exact absurd ‹_ = none› (Proc.fork_ne_none K _ fun _ => by simp [serverWorker])

/-! ### The worker -/

theorem closes_closeLinks : ∀ (rs : List ConnAddr) (q : Proc),
    q.Closes (closeLinks rs q) (rs.map ConnAddr.linkfd)
  | [], q => by simpa using Proc.Closes.refl q
  | r :: rs, q => by
    have ih := closes_closeLinks rs (if r.linkfd ≠ -1 then q.checkedClose r.linkfd else q)
    have h1 : q.Closes (if r.linkfd ≠ -1 then q.checkedClose r.linkfd else q) [r.linkfd] := by
      split_ifs with h
      · exact Proc.closes_checkedClose q _
      · refine ⟨rfl, rfl, rfl, fun x => ?_, [], rfl, by simp⟩
        split_ifs with hx
        · simp only [List.mem_singleton] at hx
          rw [hx, not_not.1 h, Proc.lookup_neg_one]
        · rfl
    simpa [closeLinks] using h1.trans ih

/-- The worker closes the display socket, for a reconnectable session the control pipe and the
supervisor's end of its link, and every recorded link, then enters `main_interface_loop`. -/
theorem serverWorker_eq (wd cp : Int) (ls : Int × Int) (chanfd appfd : Int) (cm : ConnMap)
    (q : Proc) : ∃ q', q.Closes q' (wd :: ((if cp ≠ -1 then [cp, ls.1] else []) ++
        cm.data.map ConnAddr.linkfd)) ∧
      serverWorker wd cp ls chanfd appfd cm q = some (q'.fds, (q'.mainLoop chanfd appfd ls.2).trace) := by
  have h1 := Proc.closes_checkedClose q wd
  have h2 : (q.checkedClose wd).Closes
      (if cp ≠ -1 then ((q.checkedClose wd).checkedClose cp).checkedClose ls.1 else q.checkedClose wd)
      (if cp ≠ -1 then [cp, ls.1] else []) := by
    split_ifs
    · exact (Proc.closes_checkedClose _ _).trans (Proc.closes_checkedClose _ _)
    · exact Proc.Closes.refl _
  exact ⟨_, (h1.trans h2).trans (closes_closeLinks _ _), rfl⟩

/-! ### What one connection can do -/

/-- The supervisor once `connect_to_socket` opened the session's channel and the token `write`
to it returned `ret`. -/
def Proc.tokenSent (p : Proc) (cur : SockaddrUn P) (tok : ConnectionToken) (ret : Int) : Proc :=
  { p with
    fds := p.fds.insert (K.newFd p.fds) (p.nextObj (.channel false))
    serial := p.serial + 1
    trace := .write (p.nextObj (.channel false)) tok ret ::
      .connect cur.sunFamily cur.sunPath (some (p.nextObj (.channel false))) :: p.trace }

section
variable (o : NewConnOutcome) (cur : SockaddrUn P) (cp wd appfd : Int) (cm : ConnMap)
  (tok : ConnectionToken) (p : Proc)

theorem connect_writeToken (ret : Int) :
    (p.connectToSocket K true false cur).1.writeToken ret (p.connectToSocket K true false cur).2
      tok = (p.tokenSent K cur tok ret, ret) := by
  rw [Proc.connectToSocket_true, Proc.writeToken_of_lookup _ (o := p.nextObj (.channel false))]
  · rfl
  · simp [AList.lookup_insert]

theorem lookup_tokenSent (ret x : Int) :
    (p.tokenSent K cur tok ret).lookup x =
      if x = (K.newFd p.fds : Int) then some (p.nextObj (.channel false)) else p.lookup x :=
  p.lookup_openObj K _ x

theorem Proc.Owned.tokenSent {p : Proc} (h : p.Owned) (ret : Int) : (p.tokenSent K cur tok ret).Owned := by
  have := ((h.connectToSocket K true false cur).writeToken ret
    (p.connectToSocket K true false cur).2 tok)
  rwa [connect_writeToken] at this

section Discipline
variable {c : TokenConsts} {rc : Bool} {S : Obj → ConnectionToken → Prop}

/-- The session's first channel is new, was connected to `cur`, and got `tok`, whose header is
the one for a first channel: the token `write` keeps the discipline. -/
theorem tokenTrace_write_connect {p : Proc} (h : p.Owned)
    (hh : tok.header = conntokenHeader c rc false) (ht : TokenTrace c rc S p.trace) (ret : Int) :
    TokenTrace c rc S (.write (p.nextObj (.channel false)) tok ret ::
      .connect cur.sunFamily cur.sunPath (some (p.nextObj (.channel false))) :: p.trace) := by
  refine ⟨⟨⟨_, _, List.mem_cons_self _ _⟩, fun tok' ret' hm => ?_,
    fun _ => hh ▸ headerFlags_conntokenHeader c rc false, fun hk => ?_⟩, trivial, ht⟩
  · rcases List.mem_cons.1 hm with hm | hm
    · cases hm
    · exact p.write_nextObj_not_mem h.freshAbove (by simp) tok' ret' hm
  · simp [Proc.nextObj] at hk

theorem allWritten_write_connect {p : Proc} (h : AllWritten p.trace) (ret : Int) :
    AllWritten (.write (p.nextObj (.channel false)) tok ret ::
      .connect cur.sunFamily cur.sunPath (some (p.nextObj (.channel false))) :: p.trace) := by
  rintro o ⟨f, path, hm⟩
  simp only [List.mem_cons, Event.connect.injEq, Option.some.injEq, reduceCtorEq, false_or] at hm
  rcases hm with ⟨-, -, rfl⟩ | hm
  · exact ⟨tok, ret, List.mem_cons_self _ _⟩
  · obtain ⟨tok', ret', hw⟩ := h o ⟨f, path, hm⟩
    exact ⟨tok', ret', List.mem_cons_of_mem _ (List.mem_cons_of_mem _ hw)⟩

@[simp] theorem connectTarget_tokenSent (p : Proc) (ret : Int) :
    (p.tokenSent K cur tok ret).trace.filterMap Event.connectTarget =
      (cur.sunFamily, cur.sunPath) :: p.trace.filterMap Event.connectTarget := rfl

@[simp] theorem handed_tokenSent (p : Proc) (ret : Int) :
    (p.tokenSent K cur tok ret).trace.flatMap Event.handed = p.trace.flatMap Event.handed := rfl

end Discipline

/-- `handle_new_server_connection` failed: the application connection and everything opened for
it are closed, and the process did at most a `connect` and the token `write` besides. -/
structure NewConnFailed (p q : Proc) : Prop where
  pid_eq : q.pid = p.pid
  children_eq : q.children = p.children
  serial_le : p.serial ≤ q.serial
  lookup_eq : ∀ x, q.lookup x = if x = appfd then none else p.lookup x
  trace_eq : ∃ evs₀ evs, q.trace = evs ++ evs₀ ++ p.trace ∧ (∀ e ∈ evs, e.IsClose) ∧
    (evs₀ = [] ∨ evs₀ = [.connect cur.sunFamily cur.sunPath none] ∨
      ∃ ret, evs₀ = [.write (p.nextObj (.channel false)) tok ret,
        .connect cur.sunFamily cur.sunPath (some (p.nextObj (.channel false)))])
  owned : p.Owned → q.Owned

variable {cur cp wd appfd cm tok p}

theorem NewConnFailed.of_closes {Pf q : Proc} (fds : List Int) (hq : Pf.Closes q (fds ++ [appfd]))
    (hpid : Pf.pid = p.pid) (hch : Pf.children = p.children) (hs : p.serial ≤ Pf.serial)
    (hl : ∀ x, x ∉ fds → Pf.lookup x = p.lookup x) (hfresh : ∀ x ∈ fds, p.lookup x = none)
    (htr : ∃ evs₀, Pf.trace = evs₀ ++ p.trace ∧ (evs₀ = [] ∨
      evs₀ = [.connect cur.sunFamily cur.sunPath none] ∨
      ∃ ret, evs₀ = [.write (p.nextObj (.channel false)) tok ret,
        .connect cur.sunFamily cur.sunPath (some (p.nextObj (.channel false)))]))
    (hown : p.Owned → Pf.Owned) : NewConnFailed cur appfd tok p q := by
  obtain ⟨evs₀, he₀, hshape⟩ := htr
  obtain ⟨evs, he, hevs⟩ := hq.trace_eq
  refine ⟨hq.pid_eq.trans hpid, hq.children_eq.trans hch, hq.serial_eq ▸ hs, fun x => ?_,
    ⟨evs₀, evs, by rw [he, he₀, List.append_assoc], fun e h => (hevs e h).1, hshape⟩,
    fun h => (hown h).closes hq⟩
  rw [hq.lookup_eq]
  by_cases ha : x = appfd
  · simp [ha]
  · by_cases hf : x ∈ fds
    · simp [ha, hf, hfresh x hf]
    · simp [ha, hf, hl x hf]

/-- A failed connection keeps the token discipline, connected to nothing but `cur`, and handed
nothing on. -/
theorem NewConnFailed.trace_ok {c : TokenConsts} {rc : Bool} {S : Obj → ConnectionToken → Prop}
    {q : Proc} (hf : NewConnFailed cur appfd tok p q) (h : p.Owned)
    (hh : tok.header = conntokenHeader c rc false) (ht : TokenTrace c rc S p.trace)
    (hw : AllWritten p.trace) :
    TokenTrace c rc S q.trace ∧ AllWritten q.trace ∧
      (∀ t ∈ q.trace.filterMap Event.connectTarget, t = (cur.sunFamily, cur.sunPath) ∨
        t ∈ p.trace.filterMap Event.connectTarget) ∧
      q.trace.flatMap Event.handed = p.trace.flatMap Event.handed := by
  obtain ⟨evs₀, evs, htr, hevs, hshape⟩ := hf.trace_eq
  have hq : ∀ e ∈ evs, e.IsQuiet := fun e he => (hevs e he).isQuiet
  rw [htr, List.append_assoc, tokenTrace_append_quiet hq, allWritten_append_quiet hq,
    connectTarget_append_quiet hq, handed_append_quiet hq]
  rcases hshape with rfl | rfl | ⟨ret, rfl⟩
  · exact ⟨ht, hw, fun t ht => .inr ht, rfl⟩
  · refine ⟨⟨trivial, ht⟩, ?_, fun t ht => by simpa [Event.connectTarget] using ht, rfl⟩
    rintro o ⟨f, path, hm⟩
    obtain ⟨tok', ret', hw'⟩ := hw o ⟨f, path, by simpa using hm⟩
    exact ⟨tok', ret', List.mem_cons_of_mem _ hw'⟩
  · exact ⟨tokenTrace_write_connect _ _ h hh ht ret, allWritten_write_connect _ _ hw ret,
      fun t ht => List.mem_cons.1 ht, rfl⟩

/-- What `handle_new_server_connection` can do: fail and close what it opened, or fork the
worker on a copy holding the new channel (and, for a reconnectable session, the link pair), then
close the channel, the application connection and the worker's end of the link, and record the
session. -/
theorem handleNewServerConnection_eq_some {q : Proc} {cm' : ConnMap} {ret : Int}
    (h : handleNewServerConnection K o cur cp wd appfd cm tok p = some (q, cm', ret)) :
    (ret = -1 ∧ cm'.data = cm.data ∧ cm.size ≤ cm'.size ∧ NewConnFailed cur appfd tok p q) ∨
    (ret = 0 ∧ o.connects = true ∧ o.written = tokenSize ∧ o.forks = true ∧
      if cp ≠ -1 then
        o.paired = true ∧ ∃ size W,
          bufEnsureSize o.grows (cm.data.length + 1) cm.size = some size ∧
          cm.data.length < size ∧
          (((p.tokenSent K cur tok tokenSize).socketpair K true).1.forkCopy K).Closes W
            (wd :: cp :: ((p.tokenSent K cur tok tokenSize).pairFds K).1 ::
              cm.data.map ConnAddr.linkfd) ∧
          cm' = ⟨cm.data ++ [⟨tok, ((p.tokenSent K cur tok tokenSize).socketpair K true).1.childPid K,
            ((p.tokenSent K cur tok tokenSize).pairFds K).1⟩], size⟩ ∧
          (((p.tokenSent K cur tok tokenSize).socketpair K true).1.forkParent K .worker
            (W.fds, (W.mainLoop (K.newFd p.fds) appfd
              ((p.tokenSent K cur tok tokenSize).pairFds K).2).trace)).Closes q
            [K.newFd p.fds, appfd, ((p.tokenSent K cur tok tokenSize).pairFds K).2]
      else ∃ W,
          ((p.tokenSent K cur tok tokenSize).forkCopy K).Closes W
            (wd :: cm.data.map ConnAddr.linkfd) ∧ cm' = cm ∧
          ((p.tokenSent K cur tok tokenSize).forkParent K .worker
            (W.fds, (W.mainLoop (K.newFd p.fds) appfd (-1)).trace)).Closes q
            [K.newFd p.fds, appfd]) := by
  have hn : ((K.newFd p.fds : Nat) : Int) ≠ -1 := by omega
  have hfresh : p.lookup (K.newFd p.fds) = none := by
    rw [Proc.lookup_natCast]
    exact AList.lookup_eq_none.2 (K.newFd_fresh p.fds)
  have hsent : ∀ r, ∀ x, x ∉ [((K.newFd p.fds : Nat) : Int)] →
      (p.tokenSent K cur tok r).lookup x = p.lookup x := fun r x hx => by
    rw [lookup_tokenSent, if_neg (by simpa using hx)]
  -- the two failures before the link pair, shared by both branches
  have hnoconn : (p.emit (.connect cur.sunFamily cur.sunPath none)).checkedClose appfd = q →
      NewConnFailed cur appfd tok p q := fun hq => hq ▸
    NewConnFailed.of_closes [] (Proc.closes_checkedClose _ appfd) rfl rfl le_rfl (fun _ _ => rfl)
      (by simp) ⟨[_], rfl, .inr (.inl rfl)⟩ fun h => h.connectToSocket K false false cur
  have hfail : ∀ r, ((p.tokenSent K cur tok r).checkedClose (K.newFd p.fds)).checkedClose appfd =
      q → NewConnFailed cur appfd tok p q := fun r hq => hq ▸
    NewConnFailed.of_closes [(K.newFd p.fds : Int)]
      ((Proc.closes_checkedClose _ _).trans (Proc.closes_checkedClose _ appfd))
      rfl rfl (Nat.le_succ _) (hsent _) (by simpa using hfresh) ⟨[_, _], rfl, .inr (.inr ⟨_, rfl⟩)⟩
      fun h => h.tokenSent K cur tok _
  by_cases hcp : cp ≠ -1
  · simp only [handleNewServerConnection, hcp, ne_eq, not_false_eq_true, decide_True, if_true] at h
    cases hb : bufEnsureSize o.grows (cm.data.length + 1) cm.size with
    | none =>
      simp only [hb, Option.some.injEq, Prod.mk.injEq] at h
      obtain ⟨rfl, rfl, rfl⟩ := h
      exact .inl ⟨rfl, rfl, le_rfl, NewConnFailed.of_closes [] (Proc.closes_checkedClose p appfd)
        rfl rfl le_rfl (fun _ _ => rfl) (by simp) ⟨[], rfl, .inl rfl⟩ id⟩
    | some size =>
      simp only [hb] at h
      have hsz := (le_of_bufEnsureSize hb).2
      cases hc : o.connects
      · simp only [hc, Proc.connectToSocket_false, if_true, Option.some.injEq, Prod.mk.injEq] at h
        obtain ⟨hq, rfl, rfl⟩ := h
        exact .inl ⟨rfl, rfl, hsz, hnoconn hq⟩
      · rw [hc, connect_writeToken] at h
        simp only [Proc.connectToSocket_true, hn, if_false] at h
        by_cases hw : o.written = tokenSize
        · simp only [hw, not_true_eq_false, if_false] at h
          cases hpair : o.paired
          · simp only [hpair, Proc.socketpair_false, Option.some.injEq, Prod.mk.injEq] at h
            obtain ⟨hq, rfl, rfl⟩ := h
            exact .inl ⟨rfl, rfl, hsz, hfail _ hq⟩
          · rw [hpair, show ((p.tokenSent K cur tok tokenSize).socketpair K true).2 =
              some ((((p.tokenSent K cur tok tokenSize).pairFds K).1 : Int),
                (((p.tokenSent K cur tok tokenSize).pairFds K).2 : Int)) from rfl] at h
            simp only at h
            have hls := (p.tokenSent K cur tok tokenSize).pairFds_fresh K
            cases hf : o.forks
            · simp only [hf, Proc.fork, Bool.false_eq_true, if_false, if_true,
                Option.some.injEq, Prod.mk.injEq] at h
              obtain ⟨rfl, rfl, rfl⟩ := h
              refine .inl ⟨rfl, rfl, hsz, NewConnFailed.of_closes
                [(((p.tokenSent K cur tok tokenSize).pairFds K).1 : Int),
                  (((p.tokenSent K cur tok tokenSize).pairFds K).2 : Int), (K.newFd p.fds : Int)]
                ((((Proc.closes_checkedClose _ _).trans (Proc.closes_checkedClose _ _)).trans
                  (Proc.closes_checkedClose _ _)).trans (Proc.closes_checkedClose _ appfd))
                rfl rfl (Nat.le_add_right _ 2) (fun x hx => ?_) ?_ ⟨[_, _], rfl, .inr (.inr ⟨_, rfl⟩)⟩
                fun h => (h.tokenSent K cur tok _).socketpair K true⟩
              · simp only [List.mem_cons, List.mem_singleton, not_or, List.not_mem_nil] at hx
                rw [Proc.lookup_socketpair_true, if_neg hx.2.1, if_neg hx.1, hsent _ _ (by simpa using hx.2.2)]
              · have hP1 : ∀ m : Nat, m ∉ (p.tokenSent K cur tok tokenSize).fds → p.lookup m = none :=
                  fun m hm => by
                    rw [Proc.lookup_natCast]
                    exact AList.lookup_eq_none.2 fun h => hm ((AList.mem_insert _).2 (.inr h))
                simp only [List.mem_cons, List.mem_singleton, List.not_mem_nil, or_false,
                  forall_eq_or_imp, forall_eq]
                exact ⟨hP1 _ hls.1, hP1 _ hls.2.1, hfresh⟩
            · obtain ⟨W, hW, hr⟩ := serverWorker_eq wd cp
                ((((p.tokenSent K cur tok tokenSize).pairFds K).1 : Int),
                  (((p.tokenSent K cur tok tokenSize).pairFds K).2 : Int)) (K.newFd p.fds) appfd
                ⟨cm.data, size⟩ (((p.tokenSent K cur tok tokenSize).socketpair K true).1.forkCopy K)
              simp only [hf, Proc.fork, if_true, hr, Option.map_some'] at h
              rw [if_neg (by omega)] at h
              by_cases hlen : cm.data.length < size
              · simp only [hlen, if_true, Option.some.injEq, Prod.mk.injEq] at h
                obtain ⟨rfl, rfl, rfl⟩ := h
                refine .inr ⟨rfl, rfl, hw, rfl, ?_⟩
                rw [if_pos hcp]
                refine ⟨rfl, size, W, rfl, hlen, by simpa [hcp] using hW, by simp, ?_⟩
                exact ((Proc.closes_checkedClose _ _).trans (Proc.closes_checkedClose _ _)).trans
                  (Proc.closes_checkedClose _ _)
              · simp [hlen] at h
        · simp only [hw, not_false_eq_true, if_true, Option.some.injEq, Prod.mk.injEq] at h
          obtain ⟨hq, rfl, rfl⟩ := h
          exact .inl ⟨rfl, rfl, hsz, hfail _ hq⟩
  · simp only [handleNewServerConnection, hcp, decide_False, Bool.false_eq_true, if_false] at h
    cases hc : o.connects
    · simp only [hc, Proc.connectToSocket_false, if_true, Option.some.injEq, Prod.mk.injEq] at h
      obtain ⟨hq, rfl, rfl⟩ := h
      exact .inl ⟨rfl, rfl, le_rfl, hnoconn hq⟩
    · rw [hc, connect_writeToken] at h
      simp only [Proc.connectToSocket_true, hn, if_false] at h
      by_cases hw : o.written = tokenSize
      · simp only [hw, ne_eq, not_true_eq_false, if_false] at h
        cases hf : o.forks
        · simp only [hf, Proc.fork, Bool.false_eq_true, if_false, if_true,
            Option.some.injEq, Prod.mk.injEq] at h
          obtain ⟨hq, rfl, rfl⟩ := h
          exact .inl ⟨rfl, rfl, le_rfl, hfail _ hq⟩
        · obtain ⟨W, hW, hr⟩ := serverWorker_eq wd cp (-1, -1) (K.newFd p.fds) appfd cm
            ((p.tokenSent K cur tok tokenSize).forkCopy K)
          simp only [hf, Proc.fork, if_true, hr, Option.map_some'] at h
          rw [if_neg (by omega)] at h
          simp only [Option.some.injEq, Prod.mk.injEq] at h
          obtain ⟨rfl, rfl, rfl⟩ := h
          refine .inr ⟨rfl, rfl, hw, rfl, ?_⟩
          rw [if_neg hcp]
          exact ⟨W, by simpa [hcp] using hW, rfl,
            (Proc.closes_checkedClose _ _).trans (Proc.closes_checkedClose _ _)⟩
      · simp only [hw, ne_eq, not_false_eq_true, if_true, Option.some.injEq, Prod.mk.injEq] at h
        obtain ⟨hq, rfl, rfl⟩ := h
        exact .inl ⟨rfl, rfl, le_rfl, hfail _ hq⟩

end

end Waypipe
