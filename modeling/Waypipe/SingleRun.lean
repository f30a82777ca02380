import Waypipe.MultiRun

/-!
# The oneshot server over a whole run

In oneshot mode `run_server` creates the application's socket pair, forks the application on one
end and calls `run_single_server` with the other end as `server_link` and the control pipe, if it
could open one. That call writes a freshly keyed token to one new channel and, when a control pipe
is open, forks the reconnection controller before entering `main_interface_loop`. This module
follows every path of it. The main process's history and the controller's keep the token
discipline: the controller's passes are passes of `update_connections`' loop on a copy that
created none of its objects yet (`Waypipe.Proc.FreshAbove`), with the session's token. Once the
controller is forked the descriptors are split between the two processes: the channel,
`server_link` and `linkfds[0]` only in the main process, the control pipe and `linkfds[1]` only in
the controller. On the paths that fail before that fork the main process closes the channel,
`server_link` and the link, but keeps the control pipe.

## Main definitions

* `Waypipe.TraceOK`: a history keeps the discipline and connects only to allowed addresses.
* `Waypipe.ReconInv`: what holds of the controller while its loop runs.
* `Waypipe.Proc.Keyed`: the main process once the token is written.
* `Waypipe.SingleStart`: what holds when `run_single_server` is called.
* `Waypipe.OneshotOwnership`: who holds which descriptor when it returns.

## Main results

* `Waypipe.runSingleServer_isSome`: `run_single_server` returns on every path.
* `Waypipe.ReconInv.loop`, `Waypipe.ReconInv.run`: the controller keeps the discipline over any
  number of passes.
* `Waypipe.runSingleServer_eq_some`: what `run_single_server` can do.
* `Waypipe.SingleStart.launch`: `run_server` calls it in a state that meets `SingleStart`.
* `Waypipe.SingleStart.traceOK`, `Waypipe.SingleStart.ownership`: every history keeps the
  discipline, and who holds which descriptor, the control pipe on every path, whatever the kernel
  answers.
* `Waypipe.SingleStart.holds_of_mainLoop`: on the path into `main_interface_loop` nothing the
  main process opened is left open but what it hands on.

## References

* `src/src/server.c`, lines 95–222 (`run_single_server_reconnector`, `run_single_server`) and
  476–634 (`run_server`).
-/

namespace Waypipe

variable (K : Kernel) (c : TokenConsts) {P : Platform}

/-! ### Every path returns -/

theorem reconnectorLoop_isSome (cp linkfd : Int) (flagged : ConnectionToken) :
    ∀ (its : List (ReconIter P)) (p : Proc), (reconnectorLoop K cp linkfd flagged its p).isSome
  | [], _ => rfl
  | it :: its, p => by
    unfold reconnectorLoop
    split
    · exact reconnectorLoop_isSome cp linkfd flagged its p
    · exact reconnectorLoop_isSome cp linkfd flagged its p
    · rfl
    · split_ifs
      · rfl
      · split
        · rename_i heq
          exact absurd heq (Option.ne_none_iff_isSome.2 (readSockaddr_isSome _ _))
        · split_ifs
          · rfl
          · exact reconnectorLoop_isSome cp linkfd flagged its _
      · exact reconnectorLoop_isSome cp linkfd flagged its p

/-- `run_single_server` returns whatever the kernel answers, and so does the controller it
forks. -/
theorem runSingleServer_isSome (o : SingleOutcome P) (cp : Int) (addr : SockaddrUn P) (u : Bool)
    (sl : Int) (p : Proc) : (runSingleServer K c o cp addr u sl p).isSome := by
  unfold runSingleServer
  dsimp only
  split_ifs <;> try rfl
  all_goals
    split
    · rfl
    split
    · rename_i heq
      refine absurd heq (Proc.fork_ne_none K _ fun q => Option.ne_none_iff_isSome.2 ?_)
      simp only [reconnectorChild, runSingleServerReconnector, Option.isSome_map',
        reconnectorLoop_isSome]
    · split_ifs <;> rfl

/-! ### Histories that keep the discipline -/

section TraceOK

variable (rc : Bool) (S : Obj → ConnectionToken → Prop) (A : UInt16 × List Byte → Prop)

/-- A history keeps the token discipline, wrote a token to every channel it opened, and passed
`connect_to_socket` only addresses `A` allows. -/
structure TraceOK (T : List Event) : Prop where
  token : TokenTrace c rc S T
  written : AllWritten T
  connects : ∀ t ∈ T.filterMap Event.connectTarget, A t

variable {c rc S A} {evs T : List Event}

theorem TraceOK.append_quiet (h : ∀ e ∈ evs, e.IsQuiet) :
    TraceOK c rc S A (evs ++ T) ↔ TraceOK c rc S A T := by
  have hc := connectTarget_append_quiet (T := T) h
  constructor
  · exact fun ⟨ht, hw, hct⟩ => ⟨(tokenTrace_append_quiet h).1 ht, (allWritten_append_quiet h).1 hw,
      hc ▸ hct⟩
  · exact fun ⟨ht, hw, hct⟩ => ⟨(tokenTrace_append_quiet h).2 ht, (allWritten_append_quiet h).2 hw,
      hc.symm ▸ hct⟩

theorem TraceOK.of_quiet (h : ∀ e ∈ T, e.IsQuiet) : TraceOK c rc S A T :=
  ⟨tokenTrace_of_quiet h, allWritten_of_quiet h, by simp [connectTarget_of_quiet h]⟩

theorem TraceOK.mono {S' : Obj → ConnectionToken → Prop} (h : TraceOK c rc S A T)
    (hS : ∀ l t, S l t → S' l t) : TraceOK c rc S' A T :=
  ⟨h.token.mono hS, h.written, h.connects⟩

theorem allWritten_connect_none {T : List Event} (h : AllWritten T) (f : UInt16) (path : List Byte) :
    AllWritten (.connect f path none :: T) := by
  intro o ⟨f', path', hm⟩
  simp only [List.mem_cons, Event.connect.injEq, reduceCtorEq, and_false, false_or] at hm
  obtain ⟨t, r, h'⟩ := h o ⟨f', path', hm⟩
  exact ⟨t, r, List.mem_cons_of_mem _ h'⟩

theorem TraceOK.cons {T : List Event} {e : Event} (h : TraceOK c rc S A T)
    (he : e.TokenOK c rc S T) (hc : e.connectTarget = none) : TraceOK c rc S A (e :: T) := by
  refine ⟨⟨he, h.token⟩, fun o ⟨f, path, hm⟩ => ?_, by simpa [List.filterMap_cons, hc] using h.connects⟩
  rcases List.mem_cons.1 hm with rfl | hm
  · cases hc
  · obtain ⟨t, r, hw⟩ := h.written o ⟨f, path, hm⟩
    exact ⟨t, r, List.mem_cons_of_mem _ hw⟩

end TraceOK

/-! ### The reconnection controller -/

/-- The controller's handling of a new address is a pass of `update_connections`' loop for a
record holding the session's token and the controller's end of the link. -/
theorem reconnectPass_eq (it : ReconIter P) (linkfd : Int) (tok : ConnectionToken)
    (addr : SockaddrUn P) (p : Proc) :
    reconnectPass K it linkfd (tok.flagged c) addr p =
      (replacePass K c ⟨it.connects, it.written, it.sent⟩ addr ⟨tok, 0, linkfd⟩ p).1 := by
  simp only [reconnectPass, replacePass]
  split_ifs <;> rfl

section Controller

variable (rc : Bool) (S : Obj → ConnectionToken → Prop) (A : UInt16 × List Byte → Prop)
  (linkfd : Int) (L : Obj)

/-- What holds of the reconnection controller `p` while its loop runs: it created none of the
objects it knows of yet, holds `L` on `linkfd`, and its history keeps the discipline. -/
structure ReconInv (p : Proc) : Prop where
  fresh : p.FreshAbove
  link : p.lookup linkfd = some L
  ok : TraceOK c rc S A p.trace

variable {c rc S A linkfd L} {tok : ConnectionToken}

/-- The handling of an address `A` allows keeps the invariant, when `L` is the far end of the
link of the session whose first channel got `tok`. -/
theorem ReconInv.pass {p : Proc} (h : ReconInv c rc S A linkfd L p) (hS : S L tok)
    (it : ReconIter P) {addr : SockaddrUn P} (hA : A (addr.sunFamily, addr.sunPath)) :
    ReconInv c rc S A linkfd L (reconnectPass K it linkfd (tok.flagged c) addr p) := by
  rw [reconnectPass_eq]
  cases it.connects
  · rw [replacePass_of_not_connects K c ⟨false, it.written, it.sent⟩ addr _ p rfl]
    refine ⟨h.fresh.emit rfl, h.link, ⟨⟨trivial, h.ok.token⟩,
      allWritten_connect_none h.ok.written _ _, fun t ht => ?_⟩⟩
    rcases List.mem_cons.1 ht with rfl | ht
    exacts [hA, h.ok.connects t ht]
  · rw [replacePass_of_connects K c ⟨true, it.written, it.sent⟩ addr ⟨tok, 0, linkfd⟩ p rfl h.link]
    refine ⟨freshAbove_passEvents _ addr h.fresh (Proc.mem_objs_of_lookup h.link) _ _, h.link,
      ⟨tokenTrace_passEvents c _ addr h.fresh hS h.ok.token _,
      allWritten_passEvents _ addr h.ok.written _ _ _ _, fun t ht => ?_⟩⟩
    rcases List.mem_append.1 (List.filterMap_append _ _ _ ▸ ht) with ht | ht
    · by_cases hsz : it.written = tokenSize <;>
        simp [passEvents, hsz, Event.connectTarget] at ht <;> exact ht ▸ hA
    · exact h.ok.connects t ht

/-- The controller's loop keeps the invariant over any number of passes. -/
theorem ReconInv.loop (hS : S L tok) {cp : Int} :
    ∀ {its : List (ReconIter P)} {p q : Proc} {r : Int}, ReconInv c rc S A linkfd L p →
      (∀ it ∈ its, it.control.Allowed A) →
      reconnectorLoop K cp linkfd (tok.flagged c) its p = some (q, r) →
      ReconInv c rc S A linkfd L q
  | [], p, q, r, h, _, he => by
    cases he
    exact h
  | it :: its, p, q, r, h, hA, he => by
    have hA' := fun it' h' => hA it' (List.mem_cons_of_mem _ h')
    unfold reconnectorLoop at he
    split at he
    · exact ReconInv.loop hS h hA' he
    · exact ReconInv.loop hS h hA' he
    · cases he
      exact h
    · split_ifs at he with hup hin
      · cases he
        exact h
      · split at he
        · cases he
        · rename_i ret addr hr
          split_ifs at he with hret
          · cases he
            exact h
          · obtain ⟨-, hf, hnul⟩ := (readSockaddr_eq_some hr).resolve_left fun h => hret h.1
            exact ReconInv.loop hS (h.pass K hS it (hA it (List.mem_cons_self _ _) _ hf hnul))
              hA' he
      · exact ReconInv.loop hS h hA' he

/-- `run_single_server_reconnector` ends with a history that keeps the discipline. -/
theorem ReconInv.run (hS : S L tok) {cp : Int} {its : List (ReconIter P)} {p q : Proc} {r : Int}
    (h : ReconInv c rc S A linkfd L p) (hA : ∀ it ∈ its, it.control.Allowed A)
    (he : runSingleServerReconnector K cp linkfd (tok.flagged c) its p = some (q, r)) :
    TraceOK c rc S A q.trace := by
  obtain ⟨⟨q', r'⟩, hl, he⟩ := Option.map_eq_some'.1 he
  cases he
  obtain ⟨evs, ht, hevs⟩ :=
    ((Proc.closes_checkedClose q' cp).trans (Proc.closes_checkedClose _ linkfd)).trace_eq
  rw [ht, TraceOK.append_quiet fun e he => (hevs e he).1.isQuiet]
  exact (ReconInv.loop K hS h hA hl).ok

end Controller

theorem reconnectorChild_eq_some {chanfd sl cp : Int} {linkfds : Int × Int} {tok : ConnectionToken}
    {its : List (ReconIter P)} {q : Proc} {rr : FdTable × List Event}
    (h : reconnectorChild K c chanfd sl cp linkfds tok its q = some rr) :
    ∃ q' q'' r, q.Closes q' [chanfd, linkfds.1, sl] ∧
      runSingleServerReconnector K cp linkfds.2 (tok.flagged c) its q' = some (q'', r) ∧
      rr = (q'.fds, q''.trace) := by
  obtain ⟨⟨q'', r⟩, hr, rfl⟩ := Option.map_eq_some'.1 h
  exact ⟨_, q'', r, ((Proc.closes_checkedClose _ _).trans (Proc.closes_checkedClose _ _)).trans
    (Proc.closes_checkedClose _ _), hr, rfl⟩

/-! ### What `run_single_server` can do -/

/-- The main process `q` once `run_single_server` wrote `tok` to its channel, the next object of
`p`, on the kernel's new descriptor: between the `connect` and the `write` it only unlinked the
old socket and opened and closed `/dev/urandom`. -/
structure Proc.Keyed (p q : Proc) (addr : SockaddrUn P) (tok : ConnectionToken) (ret : Int) :
    Prop where
  pid_eq : q.pid = p.pid
  children_eq : q.children = p.children
  serial_lt : p.serial < q.serial
  lookup_eq : ∀ x, q.lookup x =
    if x = (K.newFd p.fds : Int) then some (p.nextObj (.channel false)) else p.lookup x
  trace_eq : ∃ evs, (∀ e ∈ evs, e.IsQuiet) ∧
    q.trace = .write (p.nextObj (.channel false)) tok ret :: (evs ++
      .connect addr.sunFamily addr.sunPath (some (p.nextObj (.channel false))) :: p.trace)
  owned : p.Owned → q.Owned

/-- What `run_single_server` can do: fail to connect and close `server_link`; or write the
token to a new channel and then close what it opened, enter `main_interface_loop` without a
link, or fork the reconnection controller on one end of a new link and enter
`main_interface_loop` with the other. -/
theorem runSingleServer_eq_some {o : SingleOutcome P} {cp sl : Int} {addr : SockaddrUn P}
    {u : Bool} {p q : Proc} {r : Int} (h : runSingleServer K c o cp addr u sl p = some (q, r)) :
    q = (p.emit (.connect addr.sunFamily addr.sunPath none)).checkedClose sl ∨
    ∃ pk tok, p.Keyed K pk addr tok o.written ∧
      tok.header = conntokenHeader c (decide (cp ≠ -1)) false ∧
      ((∃ p' fds, (p' = pk ∨ p' = (pk.socketpair K true).1) ∧ p'.Closes q fds ∧
          ∀ x ∈ fds, x = K.newFd p.fds ∨ x = sl ∨ x = (pk.pairFds K).1 ∨ x = (pk.pairFds K).2) ∨
        (o.written = tokenSize ∧ cp = -1 ∧ q = pk.mainLoop (K.newFd p.fds) sl (-1)) ∨
        (o.written = tokenSize ∧ cp ≠ -1 ∧ ∃ rr,
          reconnectorChild K c (K.newFd p.fds) sl cp ((pk.pairFds K).1, (pk.pairFds K).2) tok
            o.recon ((pk.socketpair K true).1.forkCopy K) = some rr ∧
          q = ((((pk.socketpair K true).1.forkParent K .reconnector rr).checkedClose
            cp).checkedClose (pk.pairFds K).2).mainLoop (K.newFd p.fds) sl (pk.pairFds K).1)) := by
  unfold runSingleServer at h
  cases hc : o.connects
  · rw [hc, Proc.connectToSocket_false] at h
    simp only [if_true, Option.some.injEq, Prod.mk.injEq] at h
    exact .inl h.1.symm
  rw [hc] at h
  obtain ⟨p1, hp1⟩ : ∃ p1, p.connectToSocket K true false addr = (p1, (K.newFd p.fds : Int)) :=
    ⟨_, rfl⟩
  rw [hp1] at h
  simp only [show ((K.newFd p.fds : Nat) : Int) ≠ -1 by omega, if_false] at h
  generalize hp2 : (if u = true then p1.emit (.unlink (cstr addr.sunPath)) else p1) = p2 at h
  obtain ⟨evsK, hak, hevsK⟩ := p2.appends_fillRandomKey K o.seed ⟨0, ⟨0, 0, 0⟩⟩
  have hown3 := fun h2 : p2.Owned => h2.fillRandomKey K o.seed ⟨0, ⟨0, 0, 0⟩⟩
  generalize p2.fillRandomKey K o.seed ⟨0, ⟨0, 0, 0⟩⟩ = k at h hak hown3
  obtain ⟨p3, tk⟩ := k
  dsimp only at h hak hown3
  -- the connected process
  obtain rfl : p1 = (p.connectToSocket K true false addr).1 := by rw [hp1]
  obtain ⟨evsU, hau, hevsU, hown2⟩ : ∃ evs,
      (p.connectToSocket K true false addr).1.Appends p2 evs ∧ (∀ e ∈ evs, e.IsQuiet) ∧
      ((p.connectToSocket K true false addr).1.Owned → p2.Owned) := by
    subst hp2
    split
    · exact ⟨[_], ⟨rfl, rfl, rfl, le_rfl, rfl⟩, by simp [Event.IsQuiet], fun h => h.emit rfl⟩
    · exact ⟨[], ⟨rfl, rfl, rfl, le_rfl, rfl⟩, by simp, id⟩
  have hlk : ∀ x, p3.lookup x =
      if x = (K.newFd p.fds : Int) then some (p.nextObj (.channel false)) else p.lookup x := by
    intro x
    rw [Proc.lookup_congr (hak.fds_eq.trans hau.fds_eq)]
    exact p.lookup_openObj K _ x
  rw [Proc.writeToken_of_lookup _ ((hlk _).trans (if_pos rfl))] at h
  dsimp only at h
  set tok : ConnectionToken := ⟨conntokenHeader c (decide (cp ≠ -1)) false, tk.key⟩
  set pk := p3.emit (.write (p.nextObj (.channel false)) tok o.written)
  refine .inr ⟨pk, tok, ⟨hak.pid_eq.trans hau.pid_eq, hak.children_eq.trans hau.children_eq,
    Nat.lt_of_lt_of_le (Nat.lt_succ_self _) (hau.serial_le.trans hak.serial_le), hlk,
    ⟨evsK ++ evsU, fun e he => ?_, ?_⟩, fun h0 => ?_⟩, rfl, ?_⟩
  · rcases List.mem_append.1 he with he | he
    exacts [(hevsK e he).isQuiet, hevsU e he]
  · rw [Proc.emit_trace, hak.trace_eq, hau.trace_eq, List.append_assoc]
    rfl
  · have h3 := (hown3 (hown2 (h0.connectToSocket K true false addr))).writeToken o.written
      (K.newFd p.fds) tok
    rwa [Proc.writeToken_of_lookup _ ((hlk _).trans (if_pos rfl))] at h3
  have hcfd : ∀ x ∈ ([(K.newFd p.fds : Int)] ++ [sl]), x = K.newFd p.fds ∨ x = sl ∨
      x = (pk.pairFds K).1 ∨ x = (pk.pairFds K).2 := by simp
  split_ifs at h with hw hcp
  · cases h
    exact .inl ⟨pk, _, .inl rfl, (Proc.closes_checkedClose _ _).trans (Proc.closes_checkedClose _ _),
      hcfd⟩
  · cases hpair : o.paired
    · rw [hpair, Proc.socketpair_false] at h
      cases h
      exact .inl ⟨pk, _, .inl rfl, (Proc.closes_checkedClose _ _).trans
        (Proc.closes_checkedClose _ _), hcfd⟩
    obtain ⟨p5, hp5⟩ : ∃ p5, pk.socketpair K true =
        (p5, some (((pk.pairFds K).1 : Int), ((pk.pairFds K).2 : Int))) := ⟨_, rfl⟩
    rw [hpair, hp5] at h
    obtain rfl : p5 = (pk.socketpair K true).1 := by rw [hp5]
    dsimp only at h
    split at h
    · cases h
    rename_i p6 npid hf
    obtain ⟨-, rfl, rfl⟩ | ⟨-, rfl, rr, hrr, rfl⟩ := Proc.fork_eq_some K _ hf
    · rw [if_pos rfl] at h
      cases h
      exact .inl ⟨_, _, .inr rfl, (((Proc.closes_checkedClose _ _).trans
        (Proc.closes_checkedClose _ _)).trans (Proc.closes_checkedClose _ _)).trans
        (Proc.closes_checkedClose _ _), by simp⟩
    · rw [if_neg (by omega)] at h
      cases h
      exact .inr (.inr ⟨not_not.1 hw, hcp, rr, hrr, rfl⟩)
  · cases h
    exact .inr (.inl ⟨not_not.1 hw, not_not.1 hcp, rfl⟩)

section Keyed

variable {c} {rc : Bool} {S : Obj → ConnectionToken → Prop} {A : UInt16 × List Byte → Prop}

theorem Proc.Keyed.write_mem {p pk : Proc} {addr : SockaddrUn P} {tok : ConnectionToken}
    {ret : Int} (hk : p.Keyed K pk addr tok ret) :
    Event.write (p.nextObj (.channel false)) tok ret ∈ pk.trace := by
  obtain ⟨evs, -, ht⟩ := hk.trace_eq
  rw [ht]
  exact List.mem_cons_self _ _

theorem Proc.Keyed.lookup_chan {p pk : Proc} {addr : SockaddrUn P} {tok : ConnectionToken}
    {ret : Int} (hk : p.Keyed K pk addr tok ret) :
    pk.lookup (K.newFd p.fds) = some (p.nextObj (.channel false)) :=
  (hk.lookup_eq _).trans (if_pos rfl)

/-- What `p` held stays where it was. -/
theorem Proc.Keyed.lookup_of_lookup {p pk : Proc} {addr : SockaddrUn P} {tok : ConnectionToken}
    {ret : Int} (hk : p.Keyed K pk addr tok ret) {x : Int} {o : Obj} (hx : p.lookup x = some o) :
    pk.lookup x = some o :=
  (hk.lookup_eq x).trans ((if_neg (p.newFd_ne_of_lookup K hx)).trans hx)

theorem Event.IsQuiet.ne_mainLoop {e : Event} (h : e.IsQuiet) (C S0 : Obj) (L : Option Obj) :
    e ≠ .mainLoop C S0 L := by
  rintro rfl
  exact h

theorem Proc.Keyed.ne_mainLoop {p pk : Proc} {addr : SockaddrUn P} {tok : ConnectionToken}
    {ret : Int} (hk : p.Keyed K pk addr tok ret) (hq : ∀ e ∈ p.trace, e.IsQuiet) :
    ∀ e ∈ pk.trace, ∀ C S0 L, e ≠ .mainLoop C S0 L := by
  obtain ⟨evs, hevs, ht⟩ := hk.trace_eq
  intro e he C S0 L
  rw [ht] at he
  simp only [List.mem_cons, List.mem_append] at he
  rcases he with rfl | he | rfl | he
  · exact nofun
  · exact (hevs e he).ne_mainLoop C S0 L
  · exact nofun
  · exact (hq e he).ne_mainLoop C S0 L

/-- The history up to the token `write` keeps the discipline: the channel is new, was connected
to `addr`, and got a token with a first channel's header. -/
theorem Proc.Keyed.traceOK {p pk : Proc} {addr : SockaddrUn P} {tok : ConnectionToken} {ret : Int}
    (hk : p.Keyed K pk addr tok ret) (hq : ∀ e ∈ p.trace, e.IsQuiet)
    (hh : tok.header = conntokenHeader c rc false) (hA : A (addr.sunFamily, addr.sunPath)) :
    TraceOK c rc S A pk.trace := by
  obtain ⟨evs, hevs, ht⟩ := hk.trace_eq
  have hnw : ∀ e ∈ evs ++ .connect addr.sunFamily addr.sunPath
      (some (p.nextObj (.channel false))) :: p.trace, ¬e.IsQuiet →
      e = .connect addr.sunFamily addr.sunPath (some (p.nextObj (.channel false))) := by
    intro e he hne
    rcases List.mem_append.1 he with he | he
    · exact absurd (hevs e he) hne
    rcases List.mem_cons.1 he with rfl | he
    · rfl
    · exact absurd (hq e he) hne
  have hw : (Event.write (p.nextObj (.channel false)) tok ret).TokenOK c rc S (evs ++
      .connect addr.sunFamily addr.sunPath (some (p.nextObj (.channel false))) :: p.trace) := by
    refine ⟨⟨_, _, List.mem_append_right _ (List.mem_cons_self _ _)⟩, fun t r hm => ?_,
      fun _ => hh ▸ headerFlags_conntokenHeader c rc false, fun hk => ?_⟩
    · cases hnw _ hm fun h => h
    · cases hk
  rw [ht]
  refine ⟨⟨hw, (tokenTrace_append_quiet hevs).2 ⟨trivial, tokenTrace_of_quiet hq⟩⟩, ?_, ?_⟩
  · intro o ⟨f, path, hm⟩
    rcases List.mem_cons.1 hm with hm | hm
    · cases hm
    cases hnw _ hm id
    exact ⟨tok, ret, List.mem_cons_self _ _⟩
  · rw [List.filterMap_cons, connectTarget_append_quiet hevs]
    simp only [Event.connectTarget, List.filterMap_cons, connectTarget_of_quiet hq]
    intro t ht
    rw [List.mem_singleton.1 ht]
    exact hA

end Keyed

/-! ### The state `run_single_server` starts in -/

/-- What holds of the oneshot server process `p` when `run_server` calls `run_single_server`
with the control pipe `cp` and `server_link` `sl`: its history and its children's open, write
and hand on nothing; it holds its end of the application's socket pair on `sl`, the control
pipe on `cp` when that is open, and otherwise only inherited descriptors; and its only child,
the application, holds only inherited descriptors and the other end of the pair. -/
structure SingleStart (cp sl : Int) (p : Proc) : Prop where
  owned : p.Owned
  quiet : ∀ T ∈ p.traces, ∀ e ∈ T, e.IsQuiet
  server_open : ∃ S0, p.lookup sl = some S0 ∧ S0.kind = .pairEnd false
  control_open : cp ≠ -1 → ∃ Q, p.lookup cp = some Q ∧ Q.kind = .controlPipe
  table : ∀ x o, p.lookup x = some o → o.kind = .inherited ∨
    (o.kind = .pairEnd false ∧ x = sl) ∨ (o.kind = .controlPipe ∧ x = cp)
  children : ∀ w ∈ p.children, w.role = .app ∧
    ∀ o ∈ w.fds.objs, o.kind = .inherited ∨ o.kind = .pairEnd true

theorem SingleStart.server_ne_control {cp sl : Int} {p : Proc} (hs : SingleStart cp sl p) {S0 Q : Obj}
    (hS0 : p.lookup sl = some S0) (hS0k : S0.kind = .pairEnd false) (hQ : p.lookup cp = some Q)
    (hQk : Q.kind = .controlPipe) : sl ≠ cp := by
  rintro rfl
  obtain rfl := Option.some.inj (hS0.symm.trans hQ)
  exact nomatch hS0k.symm.trans hQk

/-- `run_single_server` starts in a state that meets `Waypipe.SingleStart`. -/
theorem SingleStart.launch {a : ServerArgs P} {e : ServerEnv P} {pid : Nat} {fds : List Nat}
    {l : Launch} (hos : a.oneshot = true) (h : launch K a e (Proc.start pid fds) = some (.ok l)) :
    SingleStart l.controlPipe l.serverLink l.proc := by
  obtain ⟨r, hr, hsl, hcp⟩ := launch_eq_ok_of_oneshot K hos h
  set q0 := Proc.start pid fds
  set q1 := (q0.socketpair K true).1
  set s0 := (q0.pairFds K).1
  set s1 := (q0.pairFds K).2
  have hlk1 := q0.lookup_socketpair_true K
  have h01 : (s0 : Int) ≠ s1 := by exact_mod_cast (q0.pairFds_fresh K).2.2.symm
  have hown1 : q1.Owned := (Proc.start_owned pid fds).socketpair K true
  -- the application holds only inherited descriptors and its end of the pair
  obtain ⟨happ0, hrsub, evsA, hqA, htrA⟩ := appChild_eq_some K hr
  have happ : ∀ o ∈ r.1.objs, o.kind = .inherited ∨ o.kind = .pairEnd true := by
    intro o ho
    obtain ⟨x, hx0, hx⟩ := happ0 o ho
    rw [hos, if_pos rfl] at hx0
    rw [hlk1] at hx
    split_ifs at hx with hx1
    · cases hx
      exact .inr rfl
    · exact .inl (Proc.start_objs pid fds o (Proc.mem_objs_of_lookup hx)).2
  set q2 := (q1.forkParent K .app r).checkedClose s1
  have hs02 : q2.lookup s0 = some (q0.nextObj (.pairEnd false)) := by
    rw [Proc.lookup_checkedClose, if_neg h01, Proc.lookup_forkParent, hlk1, if_neg h01, if_pos rfl]
  -- the control pipe
  obtain ⟨-, hch, ⟨evs, hevs, htr⟩, hlk, hfresh, hown⟩ := openControlPipe_spec K hcp
  have hown := hown ((hown1.forkParent K .app hrsub).checkedClose _)
  replace hch : l.proc.children = [⟨q1.childPid K, .app, r.1, r.2, false⟩] := by
    rw [hch, Proc.checkedClose_children]
    rfl
  have hcps0 : l.controlPipe ≠ -1 → (s0 : Int) ≠ l.controlPipe := fun h =>
    Proc.ne_of_lookup hs02 (hfresh h)
  -- every history so far opens, writes and hands on nothing
  have hq2 : ∀ ev ∈ q2.trace, ev.IsQuiet := by
    obtain ⟨evs', ht', hevs'⟩ := (Proc.closes_checkedClose (q1.forkParent K .app r) s1).trace_eq
    intro ev hev
    rw [ht'] at hev
    rcases List.mem_append.1 hev with hev | hev
    · exact (hevs' ev hev).1.isQuiet
    · rcases List.mem_singleton.1 hev with rfl
      trivial
  refine ⟨hown, ?_, ?_, fun h => ⟨q2.nextObj .controlPipe, by rw [hlk, if_pos ⟨h, rfl⟩], rfl⟩,
    fun x o hx => ?_, ?_⟩
  · rw [Proc.traces, hch]
    simp only [List.map_cons, List.map_nil, List.mem_cons, List.mem_singleton, List.not_mem_nil,
      or_false]
    rintro T (rfl | rfl) ev hev
    · rw [htr] at hev
      rcases List.mem_append.1 hev with hev | hev
      exacts [hevs ev hev, hq2 ev hev]
    · rw [htrA] at hev
      rcases List.mem_append.1 hev with hev | hev
      exacts [hqA ev hev, nomatch hev]
  · refine ⟨q0.nextObj (.pairEnd false), ?_, rfl⟩
    rw [hsl, hlk, if_neg fun h => hcps0 h.1 h.2, hs02]
  · rw [hlk] at hx
    split_ifs at hx with hc
    · cases hx
      exact .inr (.inr ⟨rfl, hc.2⟩)
    by_cases h1 : x = s1
    · rw [Proc.lookup_checkedClose, if_pos h1] at hx
      cases hx
    rw [Proc.lookup_checkedClose, if_neg h1, Proc.lookup_forkParent, hlk1, if_neg h1] at hx
    split_ifs at hx with h0
    · cases hx
      exact .inr (.inl ⟨rfl, hsl ▸ h0⟩)
    · exact .inl (Proc.start_objs pid fds o (Proc.mem_objs_of_lookup hx)).2
  · rw [hch]
    intro w hw
    rcases List.mem_singleton.1 hw with rfl
    exact ⟨rfl, happ⟩

/-! ### After the controller's fork -/

section Forked

variable {cp sl : Int} {p pk : Proc} {addr : SockaddrUn P} {tok : ConnectionToken} {ret : Int}

/-- The descriptors `socketpair` returns were not open. -/
theorem Proc.ne_pairFds_of_lookup {x : Int} {o : Obj} (hx : pk.lookup x = some o) :
    x ≠ (pk.pairFds K).1 ∧ x ≠ (pk.pairFds K).2 :=
  ⟨Proc.ne_of_lookup hx (AList.lookup_eq_none.2 (pk.pairFds_fresh K).1),
    Proc.ne_of_lookup hx (AList.lookup_eq_none.2 (pk.pairFds_fresh K).2.1)⟩

/-- The controller's table when its loop starts: the copy closed the channel, `linkfds[0]` and
`server_link`, and holds `linkfds[1]`, the control pipe and inherited descriptors. -/
theorem SingleStart.controller (hs : SingleStart cp sl p) (hk : p.Keyed K pk addr tok ret)
    {q' : Proc}
    (hcl : ((pk.socketpair K true).1.forkCopy K).Closes q'
      [(K.newFd p.fds : Int), (pk.pairFds K).1, sl]) :
    q'.lookup (pk.pairFds K).2 = some (pk.nextObj (.pairEnd true)) ∧
      (∀ Q, p.lookup cp = some Q → Q.kind = .controlPipe → q'.lookup cp = some Q) ∧
      ∀ x o, q'.lookup x = some o →
        o.kind = .inherited ∨ o.kind = .controlPipe ∨ o = pk.nextObj (.pairEnd true) := by
  obtain ⟨S0, hS0, hS0k⟩ := hs.server_open
  have hpn : p.lookup (K.newFd p.fds) = none := AList.lookup_eq_none.2 (K.newFd_fresh p.fds)
  have hC := hk.lookup_chan K
  have hslk := hk.lookup_of_lookup K hS0
  have hlk : ∀ x, q'.lookup x = if x ∈ [(K.newFd p.fds : Int), (pk.pairFds K).1, sl] then none
      else if x = (pk.pairFds K).2 then some (pk.nextObj (.pairEnd true))
      else if x = (pk.pairFds K).1 then some (pk.nextObj (.pairEnd false))
      else if x = (K.newFd p.fds : Int) then some (p.nextObj (.channel false)) else p.lookup x :=
    fun x => by rw [hcl.lookup_eq, Proc.lookup_forkCopy, Proc.lookup_socketpair_true, hk.lookup_eq]
  refine ⟨?_, fun Q hQ hQk => ?_, fun x o hx => ?_⟩
  · rw [hlk, if_neg, if_pos rfl]
    simp only [List.mem_cons, List.mem_singleton, List.not_mem_nil, or_false, not_or]
    exact ⟨((Proc.ne_pairFds_of_lookup K hC).2).symm, by exact_mod_cast (pk.pairFds_fresh K).2.2,
      ((Proc.ne_pairFds_of_lookup K hslk).2).symm⟩
  · have hcpk := hk.lookup_of_lookup K hQ
    rw [hlk, if_neg, if_neg (Proc.ne_pairFds_of_lookup K hcpk).2, if_neg (Proc.ne_pairFds_of_lookup K hcpk).1,
      if_neg (Proc.ne_of_lookup hQ hpn), hQ]
    simp only [List.mem_cons, List.mem_singleton, List.not_mem_nil, or_false, not_or]
    exact ⟨Proc.ne_of_lookup hQ hpn, (Proc.ne_pairFds_of_lookup K hcpk).1,
      (hs.server_ne_control hS0 hS0k hQ hQk).symm⟩
  · by_cases h1 : x ∈ [(K.newFd p.fds : Int), (pk.pairFds K).1, sl]
    · rw [hlk, if_pos h1] at hx
      cases hx
    by_cases h2 : x = (pk.pairFds K).2
    · rw [hlk, if_neg h1, if_pos h2] at hx
      exact .inr (.inr (Option.some.inj hx).symm)
    simp only [List.mem_cons, List.mem_singleton, List.not_mem_nil, or_false, not_or] at h1
    rw [hlk, if_neg (by simpa using h1), if_neg h2, if_neg h1.2.1, if_neg h1.1] at hx
    rcases hs.table x o hx with h | ⟨-, rfl⟩ | ⟨h, -⟩
    exacts [.inl h, absurd rfl h1.2.2, .inr (.inl h)]

/-- The main process after the fork, once it closed the control pipe and `linkfds[1]`: it holds
the channel, `server_link` and `linkfds[0]`, and otherwise only inherited descriptors. -/
theorem SingleStart.mainForked (hs : SingleStart cp sl p) (hk : p.Keyed K pk addr tok ret)
    (hcp : cp ≠ -1) (rr : FdTable × List Event) {S0 : Obj} (hS0 : p.lookup sl = some S0) :
    let q := (((pk.socketpair K true).1.forkParent K .reconnector rr).checkedClose cp).checkedClose
      (pk.pairFds K).2
    q.lookup (K.newFd p.fds) = some (p.nextObj (.channel false)) ∧ q.lookup sl = some S0 ∧
      q.lookup (pk.pairFds K).1 = some (pk.nextObj (.pairEnd false)) ∧
      (∀ x o, q.lookup x = some o → o.kind = .inherited ∨ o = p.nextObj (.channel false) ∨
        o = S0 ∨ o = pk.nextObj (.pairEnd false)) ∧
      q.children = ⟨(pk.socketpair K true).1.childPid K, .reconnector, rr.1, rr.2, false⟩ ::
        p.children ∧
      ∃ evs, (∀ e ∈ evs, e.IsQuiet) ∧
        q.trace = evs ++ .fork ((pk.socketpair K true).1.childPid K) :: pk.trace := by
  intro q
  obtain ⟨S0', hS0', hS0k⟩ := hs.server_open
  obtain rfl := Option.some.inj (hS0'.symm.trans hS0)
  obtain ⟨Q, hQ, hQk⟩ := hs.control_open hcp
  have hpn : p.lookup (K.newFd p.fds) = none := AList.lookup_eq_none.2 (K.newFd_fresh p.fds)
  have hC := hk.lookup_chan K
  have hslk := hk.lookup_of_lookup K hS0
  have hcpk := hk.lookup_of_lookup K hQ
  have hlk : ∀ x, q.lookup x =
      if x = (pk.pairFds K).2 then none else if x = cp then none
      else if x = (pk.pairFds K).2 then some (pk.nextObj (.pairEnd true))
      else if x = (pk.pairFds K).1 then some (pk.nextObj (.pairEnd false))
      else if x = (K.newFd p.fds : Int) then some (p.nextObj (.channel false)) else p.lookup x :=
    fun x => by
      rw [Proc.lookup_checkedClose, Proc.lookup_checkedClose, Proc.lookup_forkParent,
        Proc.lookup_socketpair_true, hk.lookup_eq]
  have hsl := Proc.ne_pairFds_of_lookup K hslk
  have hn := Proc.ne_pairFds_of_lookup K hC
  have h12 : ((pk.pairFds K).1 : Int) ≠ (pk.pairFds K).2 := by
    exact_mod_cast (pk.pairFds_fresh K).2.2.symm
  obtain ⟨evs, ht, hevs⟩ :=
    ((Proc.closes_checkedClose _ cp).trans (Proc.closes_checkedClose _ (pk.pairFds K).2)).trace_eq
  refine ⟨?_, ?_, ?_, fun x o hx => ?_, ?_, evs, fun e he => (hevs e he).1.isQuiet, ht⟩
  · rw [hlk, if_neg hn.2, if_neg (Proc.ne_of_lookup hQ hpn).symm, if_neg hn.2, if_neg hn.1,
      if_pos rfl]
  · rw [hlk, if_neg hsl.2, if_neg (hs.server_ne_control hS0 hS0k hQ hQk), if_neg hsl.2,
      if_neg hsl.1, if_neg (Proc.ne_of_lookup hS0 hpn), hS0]
  · rw [hlk, if_neg h12, if_neg (Proc.ne_pairFds_of_lookup K hcpk).1.symm, if_neg h12, if_pos rfl]
  · by_cases h1 : x = (pk.pairFds K).2
    · rw [hlk, if_pos h1] at hx
      cases hx
    by_cases h2 : x = cp
    · rw [hlk, if_neg h1, if_pos h2] at hx
      cases hx
    rw [hlk, if_neg h1, if_neg h2, if_neg h1] at hx
    split_ifs at hx with h3 h4
    · exact .inr (.inr (.inr (Option.some.inj hx).symm))
    · exact .inr (.inl (Option.some.inj hx).symm)
    · rcases hs.table x o hx with h | ⟨-, rfl⟩ | ⟨-, h⟩
      · exact .inl h
      · exact .inr (.inr (.inl (Option.some.inj (hx.symm.trans hS0))))
      · exact absurd h h2
  · simp only [q, Proc.checkedClose_children, Proc.forkParent]
    rw [← hk.children_eq]
    rfl

end Forked

/-! ### Every history keeps the discipline -/

section Discipline

variable {c} {A : UInt16 × List Byte → Prop}

/-- Every history of the oneshot server and its children when `run_single_server` returns
keeps the discipline and connects only to `A`, when the caller's address and every address the
controller may read are allowed. -/
theorem SingleStart.traceOK {o : SingleOutcome P} {cp sl : Int} {addr : SockaddrUn P} {u : Bool}
    {p q : Proc} {r : Int} (hs : SingleStart cp sl p) (hA0 : A (addr.sunFamily, addr.sunPath))
    (hA : ∀ it ∈ o.recon, it.control.Allowed A)
    (h : runSingleServer K c o cp addr u sl p = some (q, r)) :
    ∀ T ∈ q.traces, TraceOK c (decide (cp ≠ -1)) (SessionLink q.traces) A T := by
  have hq0 := hs.quiet _ (List.mem_cons_self _ _)
  have hdone : ∀ q' : Proc, q'.children = p.children →
      (∀ S, TraceOK c (decide (cp ≠ -1)) S A q'.trace) →
      ∀ T ∈ q'.traces, TraceOK c (decide (cp ≠ -1)) (SessionLink q'.traces) A T := by
    intro q' hc h0 T hT
    rw [Proc.traces, hc] at hT
    rcases List.mem_cons.1 hT with rfl | hT
    exacts [h0 _, TraceOK.of_quiet (hs.quiet T (List.mem_cons_of_mem _ hT))]
  obtain ⟨S0, hS0, hS0k⟩ := hs.server_open
  rcases runSingleServer_eq_some K c h with rfl | ⟨pk, tok, hk, hh, hcase⟩
  · -- the connection failed
    refine hdone _ (by simp) fun S => ?_
    obtain ⟨evs, ht, hevs⟩ := (Proc.closes_checkedClose
      (p.emit (.connect addr.sunFamily addr.sunPath none)) sl).trace_eq
    rw [ht, TraceOK.append_quiet fun e he => (hevs e he).1.isQuiet]
    exact ⟨⟨trivial, tokenTrace_of_quiet hq0⟩, allWritten_connect_none (allWritten_of_quiet hq0) _ _,
      by simp [Event.connectTarget, connectTarget_of_quiet hq0, hA0]⟩
  have hpk : ∀ S, TraceOK c (decide (cp ≠ -1)) S A pk.trace := fun _ => hk.traceOK K hq0 hh hA0
  have hC := hk.lookup_chan K
  have hslk := hk.lookup_of_lookup K hS0
  rcases hcase with ⟨p', fds, hp', hcl, -⟩ | ⟨hw, -, rfl⟩ | ⟨hw, hcp, rr, hrr, rfl⟩
  · -- the token write, `socketpair` or `fork` failed
    obtain ⟨evs, ht, hevs⟩ := hcl.trace_eq
    have hp't : p'.trace = pk.trace ∧ p'.children = pk.children := by
      rcases hp' with rfl | rfl <;> exact ⟨rfl, rfl⟩
    refine hdone q (hcl.children_eq.trans (hp't.2.trans hk.children_eq)) fun S => ?_
    rw [ht, TraceOK.append_quiet fun e he => (hevs e he).1.isQuiet, hp't.1]
    exact hpk S
  · -- `main_interface_loop` without a link
    rw [Proc.mainLoop_of_lookup _ hC hslk]
    exact hdone _ hk.children_eq fun S => (hpk S).cons ⟨tok, hw ▸ hk.write_mem K⟩ rfl
  · -- the controller was forked
    obtain ⟨q', q'', r', hcl, hrun, rfl⟩ := reconnectorChild_eq_some K c hrr
    obtain ⟨h1, h2, h3, -, hch7, evs7, hq7, ht7⟩ := hs.mainForked K hk hcp (q'.fds, q''.trace) hS0
    rw [Proc.mainLoop_of_lookup _ h1 h2, h3]
    set p7 := (((pk.socketpair K true).1.forkParent K .reconnector (q'.fds, q''.trace)).checkedClose
      cp).checkedClose (pk.pairFds K).2
    set q := p7.emit (.mainLoop (p.nextObj (.channel false)) S0 (some (pk.nextObj (.pairEnd false))))
    have hwr7 : Event.write (p.nextObj (.channel false)) tok tokenSize ∈ p7.trace :=
      ht7 ▸ List.mem_append_right _ (List.mem_cons_of_mem _ (hw ▸ hk.write_mem K))
    have hS : SessionLink q.traces (pk.nextObj (.pairEnd true)) tok :=
      ⟨q.trace, List.mem_cons_self _ _, _, _, _, List.mem_cons_self _ _, ⟨rfl, rfl, false, rfl, rfl⟩,
        List.mem_cons_of_mem _ hwr7⟩
    have hinv : ReconInv c (decide (cp ≠ -1)) (SessionLink q.traces) A (pk.pairFds K).2
        (pk.nextObj (.pairEnd true)) q' := by
      obtain ⟨evs, ht, hevs⟩ := hcl.trace_eq
      refine ⟨(((hk.owned hs.owned).socketpair K true).freshAbove_forkCopy K).closes hcl,
        (hs.controller K hk hcl).1, ?_⟩
      rw [ht, TraceOK.append_quiet fun e he => (hevs e he).1.isQuiet]
      exact hpk _
    have hmain : TraceOK c (decide (cp ≠ -1)) (SessionLink q.traces) A q.trace := by
      refine TraceOK.cons ?_ ⟨tok, hwr7⟩ rfl
      rw [ht7, TraceOK.append_quiet hq7]
      exact (hpk _).cons trivial rfl
    intro T hT
    rw [Proc.traces, Proc.emit_children, hch7] at hT
    simp only [List.map_cons, List.mem_cons] at hT
    rcases hT with rfl | rfl | hT
    · exact hmain
    · exact ReconInv.run K hS hinv hA hrun
    · exact TraceOK.of_quiet (hs.quiet T (List.mem_cons_of_mem _ hT))

end Discipline

/-! ### Who holds what -/

/-- Who holds what when `run_single_server`, started in `p` with the control pipe `cp`, returns
in the main process `q`: the channel, `server_link` and `linkfds[0]` it hands to
`main_interface_loop` are held by it and by no child; the reconnection controller holds the
control pipe and `linkfds[1]`, the peer of the main process's link end, which neither the main
process nor any other child holds; and on every path the control pipe is held by one process
alone: by the controller when it was forked, and otherwise by the main process. -/
structure OneshotOwnership (cp : Int) (p q : Proc) : Prop where
  main_only : ∀ C S0 L, Event.mainLoop C S0 L ∈ q.trace →
    C ∈ q.fds.objs ∧ S0 ∈ q.fds.objs ∧ (∀ L0 ∈ L, L0 ∈ q.fds.objs) ∧
    ∀ w ∈ q.children, C ∉ w.fds.objs ∧ S0 ∉ w.fds.objs ∧ ∀ L0 ∈ L, L0 ∉ w.fds.objs
  recon_only : ∀ w ∈ q.children, w.role = .reconnector → ∃ C S0 L0 Q L1,
    Event.mainLoop C S0 (some L0) ∈ q.trace ∧ p.lookup cp = some Q ∧ L0.IsPeer L1 ∧
    Q ∈ w.fds.objs ∧ L1 ∈ w.fds.objs ∧ Q ∉ q.fds.objs ∧ L1 ∉ q.fds.objs ∧
    ∀ w' ∈ q.children, w'.pid ≠ w.pid → Q ∉ w'.fds.objs ∧ L1 ∉ w'.fds.objs
  control_held : ∀ Q, p.lookup cp = some Q →
    (∃ w ∈ q.children, w.role = .reconnector ∧ Q ∈ w.fds.objs ∧ Q ∉ q.fds.objs ∧
        ∀ w' ∈ q.children, w'.pid ≠ w.pid → Q ∉ w'.fds.objs) ∨
      ((∀ w ∈ q.children, w.role ≠ .reconnector ∧ Q ∉ w.fds.objs) ∧ Q ∈ q.fds.objs)

/-- A main process that never entered `main_interface_loop`, forked no controller and still holds
the control pipe, which no child holds. -/
theorem OneshotOwnership.of_unforked {cp : Int} {p q : Proc}
    (hch : ∀ w ∈ q.children, w.role ≠ .reconnector)
    (hm : ∀ e ∈ q.trace, ∀ C S0 L, e ≠ .mainLoop C S0 L)
    (hQ : ∀ Q, p.lookup cp = some Q → Q ∈ q.fds.objs ∧ ∀ w ∈ q.children, Q ∉ w.fds.objs) :
    OneshotOwnership cp p q :=
  ⟨fun C S0 L h => absurd rfl (hm _ h C S0 L), fun w hw hr => absurd hr (hch w hw),
    fun Q hQp => .inr ⟨fun w hw => ⟨hch w hw, (hQ Q hQp).2 w hw⟩, (hQ Q hQp).1⟩⟩

theorem Proc.Closes.ne_mainLoop {q q' : Proc} {fds : List Int} (h : q.Closes q' fds)
    (hq : ∀ e ∈ q.trace, ∀ C S0 L, e ≠ .mainLoop C S0 L) :
    ∀ e ∈ q'.trace, ∀ C S0 L, e ≠ .mainLoop C S0 L := by
  obtain ⟨evs, ht, hevs⟩ := h.trace_eq
  intro e he
  rw [ht] at he
  rcases List.mem_append.1 he with he | he
  exacts [(hevs e he).1.isQuiet.ne_mainLoop, hq e he]

/-- The control pipe `run_single_server` is handed is not `server_link`, and the application does
not hold it. -/
theorem SingleStart.control_pipe {cp sl : Int} {p : Proc} (hs : SingleStart cp sl p) {Q : Obj}
    (hQ : p.lookup cp = some Q) :
    Q.kind = .controlPipe ∧ cp ≠ sl ∧ ∀ w ∈ p.children, Q ∉ w.fds.objs := by
  have hcp : cp ≠ -1 := fun h => by rw [h, Proc.lookup_neg_one] at hQ; cases hQ
  obtain ⟨Q', hQ', hk⟩ := hs.control_open hcp
  obtain rfl := Option.some.inj (hQ.symm.trans hQ')
  obtain ⟨S0, hS0, hS0k⟩ := hs.server_open
  refine ⟨hk, (hs.server_ne_control hS0 hS0k hQ' hk).symm, fun w hw hm => ?_⟩
  rcases (hs.children w hw).2 Q hm with h | h <;> exact nomatch hk.symm.trans h

/-- In oneshot mode each of the descriptors the main process hands to `main_interface_loop` is
held by no child, the control pipe and the controller's end of the link are held by the
controller alone, and when no controller was forked the control pipe stays in the main process. -/
theorem SingleStart.ownership {o : SingleOutcome P} {cp sl : Int} {addr : SockaddrUn P}
    {u : Bool} {p q : Proc} {r : Int} (hs : SingleStart cp sl p)
    (h : runSingleServer K c o cp addr u sl p = some (q, r)) : OneshotOwnership cp p q := by
  have hq0 := hs.quiet _ (List.mem_cons_self _ _)
  have happ : ∀ w ∈ p.children, w.role ≠ .reconnector := fun w hw h =>
    nomatch (hs.children w hw).1.symm.trans h
  obtain ⟨S0, hS0, hS0k⟩ := hs.server_open
  rcases runSingleServer_eq_some K c h with rfl | ⟨pk, tok, hk, hh, hcase⟩
  · -- the connection failed: only `server_link` is closed
    refine .of_unforked (by simpa using happ) ((Proc.closes_checkedClose _ sl).ne_mainLoop ?_)
      fun Q hQ => ?_
    · intro e he
      rcases List.mem_cons.1 he with rfl | he
      exacts [fun _ _ _ => nofun, (hq0 e he).ne_mainLoop]
    · obtain ⟨-, hne, happQ⟩ := hs.control_pipe hQ
      refine ⟨Proc.mem_objs_of_lookup (x := cp) ?_, by simpa using happQ⟩
      rw [Proc.lookup_checkedClose, if_neg hne, Proc.lookup_emit, hQ]
  have hC := hk.lookup_chan K
  have hslk := hk.lookup_of_lookup K hS0
  -- the application holds only inherited descriptors and its end of the socket pair
  have happk : ∀ w ∈ pk.children, ∀ o ∈ w.fds.objs,
      o.kind ≠ .channel false ∧ o.kind ≠ .pairEnd false ∧ o.kind ≠ .controlPipe :=
    hk.children_eq ▸ fun w hw o ho => by
      rcases (hs.children w hw).2 o ho with h | h <;> rw [h] <;> exact ⟨nofun, nofun, nofun⟩
  rcases hcase with ⟨p', fds, hp', hcl, hfds⟩ | ⟨hw, hcp, rfl⟩ | ⟨hw, hcp, rr, hrr, rfl⟩
  · -- the token write, `socketpair` or `fork` failed: the channel, the link and `server_link`
    -- are closed, the control pipe is not
    have hp't : p'.trace = pk.trace ∧ p'.children = pk.children := by
      rcases hp' with rfl | rfl <;> exact ⟨rfl, rfl⟩
    have hch : q.children = p.children := hcl.children_eq.trans (hp't.2.trans hk.children_eq)
    refine .of_unforked (hch ▸ happ) (hcl.ne_mainLoop (hp't.1 ▸ hk.ne_mainLoop K hq0))
      fun Q hQ => ?_
    obtain ⟨-, hne, happQ⟩ := hs.control_pipe hQ
    have hpk := hk.lookup_of_lookup K hQ
    have hpair := Proc.ne_pairFds_of_lookup K hpk
    have hp'Q : p'.lookup cp = some Q := by
      rcases hp' with rfl | rfl
      · exact hpk
      · rw [Proc.lookup_socketpair_true, if_neg hpair.2, if_neg hpair.1, hpk]
    have hnot : cp ∉ fds := fun hm => by
      rcases hfds cp hm with h | h | h | h
      exacts [p.newFd_ne_of_lookup K hQ h, hne h, hpair.1 h, hpair.2 h]
    exact ⟨Proc.mem_objs_of_lookup ((hcl.lookup_eq cp).trans ((if_neg hnot).trans hp'Q)),
      hch ▸ happQ⟩
  · -- `main_interface_loop` without a link: there is no control pipe
    rw [Proc.mainLoop_of_lookup _ hC hslk]
    refine ⟨fun C' S' L' he => ?_, fun w hw hr => absurd hr (happ w (hk.children_eq ▸ hw)),
      fun Q hQ => by rw [hcp, Proc.lookup_neg_one] at hQ; cases hQ⟩
    rcases List.mem_cons.1 he with he | he
    · obtain ⟨rfl, rfl, rfl⟩ := Event.mainLoop.inj he
      exact ⟨(Proc.mem_objs_of_lookup hC : _ ∈ pk.fds.objs),
        (Proc.mem_objs_of_lookup hslk : _ ∈ pk.fds.objs), nofun,
        fun w hw => ⟨fun hm => (happk w hw _ hm).1 rfl, fun hm => (happk w hw _ hm).2.1 hS0k, nofun⟩⟩
    · exact absurd rfl (hk.ne_mainLoop K hq0 _ he C' S' L')
  · -- the controller was forked
    obtain ⟨q', q'', r', hcl, -, rfl⟩ := reconnectorChild_eq_some K c hrr
    obtain ⟨h1, h2, h3, hmain, hch, evs7, hq7, ht7⟩ := hs.mainForked K hk hcp (q'.fds, q''.trace) hS0
    obtain ⟨hl2, hcpQ, hctl⟩ := hs.controller K hk hcl
    obtain ⟨Q, hQ, hQk⟩ := hs.control_open hcp
    rw [Proc.mainLoop_of_lookup _ h1 h2, h3]
    set p7 := (((pk.socketpair K true).1.forkParent K .reconnector (q'.fds, q''.trace)).checkedClose
      cp).checkedClose (pk.pairFds K).2
    set w0 : Child := ⟨(pk.socketpair K true).1.childPid K, .reconnector, q'.fds, q''.trace, false⟩
    have hnm : ∀ e ∈ p7.trace, ∀ C S0 L, e ≠ .mainLoop C S0 L := by
      rw [ht7]
      intro e he
      rcases List.mem_append.1 he with he | he
      · exact (hq7 e he).ne_mainLoop
      rcases List.mem_cons.1 he with rfl | he
      exacts [fun _ _ _ => nofun, hk.ne_mainLoop K hq0 e he]
    -- the kinds each process holds
    have hmobj : ∀ o ∈ p7.fds.objs, o.kind ≠ .controlPipe ∧ o.kind ≠ .pairEnd true := fun o ho => by
      obtain ⟨x, hx⟩ := Proc.mem_objs_iff.1 ho
      rcases hmain x o hx with h | rfl | rfl | rfl
      · rw [h]; exact ⟨nofun, nofun⟩
      · exact ⟨nofun, nofun⟩
      · rw [hS0k]; exact ⟨nofun, nofun⟩
      · exact ⟨nofun, nofun⟩
    have hw0k : ∀ o ∈ w0.fds.objs, o.kind ≠ .channel false ∧ o.kind ≠ .pairEnd false :=
      fun o ho => by
        obtain ⟨x, hx⟩ := (Proc.mem_objs_iff (q := q')).1 ho
        rcases hctl x o hx with h | h | rfl
        · rw [h]; exact ⟨nofun, nofun⟩
        · rw [h]; exact ⟨nofun, nofun⟩
        · exact ⟨nofun, nofun⟩
    have hL1 : ∀ w ∈ p.children, pk.nextObj (.pairEnd true) ∉ w.fds.objs := fun w hw hm =>
      hs.owned.not_mem (by simp [Proc.nextObj]) hk.serial_lt.le (Proc.mem_allObjs_of_child hw (.inl hm))
    -- where the control pipe is
    have hw0Q : Q ∈ w0.fds.objs := Proc.mem_objs_of_lookup (hcpQ Q hQ hQk)
    have hmQ : Q ∉ p7.fds.objs := fun hm => (hmobj Q hm).1 hQk
    have happQ : ∀ w ∈ pk.children, Q ∉ w.fds.objs := fun w hw hm => (happk w hw Q hm).2.2 hQk
    have hq7c : (p7.emit (.mainLoop (p.nextObj (.channel false)) S0
        (some (pk.nextObj (.pairEnd false))))).children = w0 :: pk.children := by
      rw [Proc.emit_children, hch, hk.children_eq]
    -- no child holds a channel or an end of the application's pair or of the main link
    have hkinds : ∀ w ∈ w0 :: pk.children, ∀ o ∈ w.fds.objs,
        o.kind ≠ .channel false ∧ o.kind ≠ .pairEnd false := fun w hw o ho => by
      rcases List.mem_cons.1 hw with rfl | hw
      exacts [hw0k o ho, ⟨(happk w hw o ho).1, (happk w hw o ho).2.1⟩]
    refine ⟨fun C' S' L' he => ?_, fun w hw hr => ?_, fun Q' hQ' => ?_⟩
    · rcases List.mem_cons.1 he with he | he
      · obtain ⟨rfl, rfl, rfl⟩ := Event.mainLoop.inj he
        refine ⟨(Proc.mem_objs_of_lookup h1 : _ ∈ p7.fds.objs),
          (Proc.mem_objs_of_lookup h2 : _ ∈ p7.fds.objs), fun L0 hL0 =>
          Option.mem_some_iff.1 hL0 ▸ (Proc.mem_objs_of_lookup h3 : _ ∈ p7.fds.objs),
          fun w hw => have hw := hq7c ▸ hw
            ⟨fun hm => (hkinds w hw _ hm).1 rfl, fun hm => (hkinds w hw _ hm).2 hS0k,
              fun L0 hL0 hm => (hkinds w hw _ (Option.mem_some_iff.1 hL0 ▸ hm)).2 rfl⟩⟩
      · exact absurd rfl (hnm _ he C' S' L')
    · rcases List.mem_cons.1 (hq7c ▸ hw) with rfl | hw
      · refine ⟨_, _, _, Q, pk.nextObj (.pairEnd true), List.mem_cons_self _ _, hQ,
          ⟨rfl, rfl, false, rfl, rfl⟩, hw0Q, Proc.mem_objs_of_lookup hl2, hmQ,
          fun hm => (hmobj _ hm).2 rfl, fun w' hw' hne => ?_⟩
        rcases List.mem_cons.1 (hq7c ▸ hw') with rfl | hw'
        · exact absurd rfl hne
        exact ⟨happQ w' hw', hL1 w' (hk.children_eq ▸ hw')⟩
      · exact absurd hr (happ w (hk.children_eq ▸ hw))
    · obtain rfl := Option.some.inj (hQ'.symm.trans hQ)
      refine .inl ⟨w0, hq7c ▸ List.mem_cons_self _ _, rfl, hw0Q, hmQ, fun w' hw' hne => ?_⟩
      rcases List.mem_cons.1 (hq7c ▸ hw') with rfl | hw'
      · exact absurd rfl hne
      exact happQ w' hw'

/-- Once the main process entered `main_interface_loop` it holds only what it inherited and what
it handed to `main_interface_loop`: the control pipe, `linkfds[1]` and the key's `/dev/urandom`
were closed. -/
theorem SingleStart.holds_of_mainLoop {o : SingleOutcome P} {cp sl : Int} {addr : SockaddrUn P}
    {u : Bool} {p q : Proc} {r : Int} (hs : SingleStart cp sl p)
    (h : runSingleServer K c o cp addr u sl p = some (q, r))
    (hm : ∃ C S0 L, Event.mainLoop C S0 L ∈ q.trace) :
    ∀ x ob, q.lookup x = some ob → ob.kind = .inherited ∨ ob ∈ q.trace.flatMap Event.handed := by
  have hq0 := hs.quiet _ (List.mem_cons_self _ _)
  obtain ⟨S0, hS0, -⟩ := hs.server_open
  obtain ⟨C', S', L', hm⟩ := hm
  rcases runSingleServer_eq_some K c h with rfl | ⟨pk, tok, hk, -, hcase⟩
  · refine absurd rfl ((Proc.closes_checkedClose _ sl).ne_mainLoop ?_ _ hm C' S' L')
    intro e he
    rcases List.mem_cons.1 he with rfl | he
    exacts [fun _ _ _ => nofun, (hq0 e he).ne_mainLoop]
  have hC := hk.lookup_chan K
  have hslk := hk.lookup_of_lookup K hS0
  rcases hcase with ⟨p', fds, hp', hcl, -⟩ | ⟨-, hcp, rfl⟩ | ⟨-, hcp, rr, -, rfl⟩
  · have hp't : p'.trace = pk.trace := by rcases hp' with rfl | rfl <;> rfl
    exact absurd rfl (hcl.ne_mainLoop (hp't ▸ hk.ne_mainLoop K hq0) _ hm C' S' L')
  · rw [Proc.mainLoop_of_lookup _ hC hslk]
    intro x ob hx
    rw [Proc.lookup_emit, hk.lookup_eq] at hx
    split_ifs at hx with hxn
    · cases hx
      exact .inr (by simp [Event.handed])
    rcases hs.table x ob hx with h | ⟨-, rfl⟩ | ⟨-, rfl⟩
    · exact .inl h
    · obtain rfl := Option.some.inj (hx.symm.trans hS0)
      exact .inr (by simp [Event.handed])
    · rw [hcp, Proc.lookup_neg_one] at hx
      cases hx
  · obtain ⟨h1, h2, h3, hmain, -⟩ := hs.mainForked K hk hcp rr hS0
    rw [Proc.mainLoop_of_lookup _ h1 h2, h3]
    intro x ob hx
    rw [Proc.lookup_emit] at hx
    rcases hmain x ob hx with h | rfl | rfl | rfl
    · exact .inl h
    all_goals exact .inr (by simp [Event.handed])

end Waypipe
