import Waypipe.MultiInvariant

/-!
# A new application connection keeps the display-mode invariant

When the display socket is readable, `run_multi_server` accepts the application's connection,
keys the token afresh and calls `handle_new_server_connection`. That call either fails and closes
what it opened, or forks a worker holding the new channel and the application connection (and,
for a reconnectable session, its end of a new link), after which the supervisor keeps only its
end of the link and records the session. Each outcome keeps `Waypipe.MultiInv`: the new objects
are fresh, so no other process holds them; the worker entered `main_interface_loop` with a
channel that got the whole token; and the new record stands for that worker.

## Main definitions

* `Waypipe.Proc.Accepted`: the supervisor after `accept` and `fill_random_key`.

## Main results

* `Waypipe.acceptStep_eq_some`: what the display-socket branch can do.
* `Waypipe.MultiInv.forkWorker`: what forking a session's worker gives, whether or not it can
  reconnect.
* `Waypipe.MultiInv.acceptFailed`, `Waypipe.MultiInv.acceptSession`,
  `Waypipe.MultiInv.acceptPlain`: the three outcomes keep the invariant.
* `Waypipe.MultiInv.accept`: the display-socket branch keeps the invariant.

## References

* `src/src/server.c`, lines 224–305 (`handle_new_server_connection`) and 399–418.
-/

namespace Waypipe

variable (K : Kernel) {c : TokenConsts} {P : Platform} {cp wd : Int} {A : UInt16 × List Byte → Prop}

/-- The supervisor `pk` after `accept` put the new object at descriptor `a` of `p`, and
`fill_random_key` opened and closed `/dev/urandom`. -/
structure Proc.Accepted (p pk : Proc) (a : Nat) : Prop where
  pid_eq : pk.pid = p.pid
  children_eq : pk.children = p.children
  serial_lt : p.serial < pk.serial
  fresh : p.lookup a = none
  lookup_eq : ∀ x, pk.lookup x = if x = a then some (p.nextObj .accepted) else p.lookup x
  trace_eq : ∃ evs, pk.trace = evs ++ p.trace ∧ ∀ e ∈ evs, e.IsQuiet
  owned : p.Owned → pk.Owned

theorem Proc.accepted_fillRandomKey (p : Proc) (s : KeySeed) (tok : ConnectionToken) :
    p.Accepted ((p.openObj K .accepted).1.fillRandomKey K s tok).1 (K.newFd p.fds) := by
  obtain ⟨evs, ha, hevs⟩ := (p.openObj K .accepted).1.appends_fillRandomKey K s tok
  refine ⟨ha.pid_eq, ha.children_eq, Nat.lt_of_lt_of_le (Nat.lt_succ_self _) ha.serial_le,
    by simpa using AList.lookup_eq_none.2 (K.newFd_fresh p.fds), fun x => ?_,
    ⟨evs, ha.trace_eq, fun e he => (hevs e he).isQuiet⟩,
    fun h => (h.openObj K .accepted).fillRandomKey K s tok⟩
  rw [Proc.lookup_congr ha.fds_eq, Proc.lookup_openObj]

/-- What the display-socket branch can do: nothing, or hand the accepted connection and a fresh
token to `handle_new_server_connection`. -/
theorem acceptStep_eq_some {it : MultiIter P} {s s' : MultiState P} {r : Option Int}
    (h : acceptStep K cp wd it s = some (s', r)) :
    s' = s ∨ ∃ q cm' ret, handleNewServerConnection K it.conn s.current cp wd
        (K.newFd s.proc.fds) s.connmap (fillRandomKey it.seed s.token)
        ((s.proc.openObj K .accepted).1.fillRandomKey K it.seed s.token).1 = some (q, cm', ret) ∧
      s' = { s with proc := q, connmap := cm', token := fillRandomKey it.seed s.token } := by
  unfold acceptStep at h
  split at h
  · exact .inl (Prod.mk.inj (Option.some.inj h)).1.symm
  · exact .inl (Prod.mk.inj (Option.some.inj h)).1.symm
  · obtain ⟨⟨q, cm', ret⟩, hh, he⟩ := Option.map_eq_some'.1 h
    exact .inr ⟨q, cm', ret, hh, (Prod.mk.inj he).1.symm⟩

/-- The supervisor's history once the new session's first channel got its token: it keeps the
discipline, hands nothing on, and connected only to allowed addresses. -/
theorem MultiInv.trace_tokenSent {s : MultiState P} (hs : MultiInv c cp wd A s) {pk : Proc}
    {a : Nat} (hacc : s.proc.Accepted pk a) {tok : ConnectionToken}
    (htok : tok.header = s.token.header) {Ts : List (List Event)}
    (hmono : ∀ T ∈ s.proc.traces, ∃ T' ∈ Ts, ∀ e ∈ T, e ∈ T') :
    TokenTrace c (decide (cp ≠ -1)) (SessionLink Ts) (pk.tokenSent K s.current tok tokenSize).trace ∧
      AllWritten (pk.tokenSent K s.current tok tokenSize).trace ∧
      (pk.tokenSent K s.current tok tokenSize).trace.flatMap Event.handed = [] ∧
      ∀ t ∈ (pk.tokenSent K s.current tok tokenSize).trace.filterMap Event.connectTarget,
        A t := by
  obtain ⟨evsK, hk, hquiet⟩ := hacc.trace_eq
  obtain ⟨ht0, hw0⟩ := hs.token_ok _ (List.mem_cons_self _ _)
  refine ⟨tokenTrace_write_connect _ _ (hacc.owned hs.owned) (htok.trans hs.token_header) ?_ _,
    allWritten_write_connect _ _ ?_ _, ?_, fun t ht => ?_⟩
  · rw [hk, tokenTrace_append_quiet hquiet]
    exact ht0.mono fun _ _ => SessionLink.mono hmono
  · rw [hk, allWritten_append_quiet hquiet]
    exact hw0
  · rw [handed_tokenSent, hk, handed_append_quiet hquiet]
    exact hs.sup_unhanded
  · rw [connectTarget_tokenSent, hk, connectTarget_append_quiet hquiet] at ht
    rcases List.mem_cons.1 ht with rfl | ht
    · exact hs.current_ok
    · exact hs.connects_ok _ (List.mem_cons_self _ _) t ht

/-- A failed `handle_new_server_connection` keeps the invariant. -/
theorem MultiInv.acceptFailed {s : MultiState P} (hs : MultiInv c cp wd A s) {pk q : Proc}
    {a : Nat} (hacc : s.proc.Accepted pk a) {tok : ConnectionToken}
    (htok : tok.header = s.token.header) {cm' : ConnMap} (hd : cm'.data = s.connmap.data)
    (hsz : s.connmap.size ≤ cm'.size) (hf : NewConnFailed s.current a tok pk q) :
    MultiInv c cp wd A { s with proc := q, connmap := cm', token := tok } := by
  have hlk : q.lookup = s.proc.lookup := funext fun x => by
    rw [hf.lookup_eq, hacc.lookup_eq]
    split_ifs with h
    · rw [h, hacc.fresh]
    · rfl
  have hch : q.children = s.proc.children := hf.children_eq.trans hacc.children_eq
  obtain ⟨evsK, hk, hquiet⟩ := hacc.trace_eq
  obtain ⟨evs₀, evs, hq, -⟩ := hf.trace_eq
  have hmono : ∀ T ∈ s.proc.traces, ∃ T' ∈ q.traces, ∀ e ∈ T, e ∈ T' :=
    Proc.traces_sub (show q.trace = evs ++ evs₀ ++ evsK ++ s.proc.trace by simp [hq, hk])
      fun w hw => ⟨w, hch ▸ hw, rfl⟩
  have hpk := hacc.owned hs.owned
  obtain ⟨ht0, hw0⟩ := hs.token_ok _ (List.mem_cons_self _ _)
  obtain ⟨htt, hwt, hct, hht⟩ := hf.trace_ok hpk (htok.trans hs.token_header)
    (hk ▸ (tokenTrace_append_quiet hquiet).2 (ht0.mono fun _ _ => SessionLink.mono hmono))
    (hk ▸ (allWritten_append_quiet hquiet).2 hw0)
  have hts : q.traces = q.trace :: s.proc.children.map Child.trace := by rw [Proc.traces, hch]
  refine ⟨hf.owned hpk, ?_, hlk ▸ hs.display_open, hlk ▸ hs.control_open, ?_, ?_, hd ▸ hs.links_nodup,
    hd ▸ hs.count_le.trans hsz, ?_, hch ▸ hs.roles, hch ▸ hs.app_fds, hch ▸ hs.worker_fds,
    hch ▸ hs.handed_kind, ?_, ?_, htok.trans hs.token_header, ?_, hs.current_ok, ?_⟩
  · rw [hf.pid_eq, hacc.pid_eq, hch]; exact hs.pids_nodup
  · rw [hlk, hd]; exact hs.table
  · rw [hd]; exact fun r hr => ⟨(hs.records r hr).1.congr hlk hch, (hs.records r hr).2⟩
  · rw [hd]; simp only [Proc.liveWorkers, hch]; exact hs.live
  · simp only [Proc.mem_objs_iff, hlk, hch]; simpa only [Proc.mem_objs_iff] using hs.handed_excl
  · rw [hht, hk, handed_append_quiet hquiet]; exact hs.sup_unhanded
  · intro T hT
    rw [hts] at hT
    rcases List.mem_cons.1 hT with rfl | hT
    · exact ⟨htt, hwt⟩
    · obtain ⟨h1, h2⟩ := hs.token_ok T (List.mem_cons_of_mem _ hT)
      exact ⟨h1.mono fun _ _ => SessionLink.mono hmono, h2⟩
  · intro T hT
    rw [hts] at hT
    rcases List.mem_cons.1 hT with rfl | hT
    · intro t ht
      rcases hct t ht with rfl | ht
      · exact hs.current_ok
      · rw [hk, connectTarget_append_quiet hquiet] at ht
        exact hs.connects_ok _ (List.mem_cons_self _ _) t ht
    · exact hs.connects_ok T (List.mem_cons_of_mem _ hT)

/-- What holds once the supervisor forked the worker of a new session from `Q`, a state that
differs from the keyed supervisor only in its table and serial, and the worker entered
`main_interface_loop` with the channel, the application connection and `L'`: the worker is the new
child, the pids stay distinct, `Owned` holds, the worker was handed exactly those objects and the
supervisor none, and every history keeps the discipline and connects only to allowed addresses. -/
theorem MultiInv.forkWorker {s : MultiState P} (hs : MultiInv c cp wd A s) {pk : Proc} {a : Nat}
    (hacc : s.proc.Accepted pk a) {tok : ConnectionToken} (htok : tok.header = s.token.header)
    {Q W q : Proc} {fw fq : List Int} {n : Nat} {L : Int} {L' : Option Obj}
    (hpid : Q.pid = pk.pid) (hchQ : Q.children = pk.children)
    (htr : Q.trace = (pk.tokenSent K s.current tok tokenSize).trace) (hown : Q.Owned)
    (hW : (Q.forkCopy K).Closes W fw)
    (hml : (W.mainLoop n a L).trace = .mainLoop (pk.nextObj (.channel false))
      (s.proc.nextObj .accepted) L' :: W.trace)
    (hq : (Q.forkParent K .worker (W.fds, (W.mainLoop n a L).trace)).Closes q fq) :
    q.children = ⟨Q.childPid K, .worker, W.fds, (W.mainLoop n a L).trace, false⟩ ::
        s.proc.children ∧
      (q.pid :: q.children.map Child.pid).Nodup ∧ q.Owned ∧
      (W.mainLoop n a L).trace.flatMap Event.handed =
        pk.nextObj (.channel false) :: s.proc.nextObj .accepted :: L'.toList ∧
      q.trace.flatMap Event.handed = [] ∧
      (∀ T ∈ q.traces, TokenTrace c (decide (cp ≠ -1)) (SessionLink q.traces) T ∧ AllWritten T) ∧
      ∀ T ∈ q.traces, ∀ t ∈ T.filterMap Event.connectTarget, A t := by
  set P1 := pk.tokenSent K s.current tok tokenSize
  set npid := Q.childPid K
  have hch : q.children = ⟨npid, .worker, W.fds, (W.mainLoop n a L).trace, false⟩ ::
      s.proc.children := by
    rw [hq.children_eq, ← hacc.children_eq, ← hchQ]
    rfl
  have hpids : (q.pid :: q.children.map Child.pid).Nodup := by
    have hnp : npid ∉ s.proc.pid :: s.proc.children.map Child.pid := by
      rw [← hacc.pid_eq, ← hpid, ← hacc.children_eq, ← hchQ]
      exact K.newPid_fresh _
    rw [show q.pid = s.proc.pid from hq.pid_eq.trans (hpid.trans hacc.pid_eq), hch]
    exact (List.Perm.swap _ _ _).nodup_iff.1 (List.nodup_cons.2 ⟨hnp, hs.pids_nodup⟩)
  -- the histories
  obtain ⟨evsK, hk, -⟩ := hacc.trace_eq
  obtain ⟨evsW, hWt, hevsW⟩ := hW.trace_eq
  obtain ⟨evsQ, hQt, hevsQ⟩ := hq.trace_eq
  have hqW : ∀ e ∈ evsW, e.IsQuiet := fun e he => (hevsW e he).1.isQuiet
  have hqQ : ∀ e ∈ evsQ ++ [.fork npid], e.IsQuiet := by
    simp only [List.mem_append, List.mem_singleton]
    rintro e (he | rfl)
    exacts [(hevsQ e he).1.isQuiet, trivial]
  have hWt' : W.trace = evsW ++ P1.trace := hWt.trans (congrArg (evsW ++ ·) htr)
  have hQt' : q.trace = (evsQ ++ [.fork npid]) ++ P1.trace := by
    rw [hQt, List.append_assoc, ← htr]
    rfl
  have hmono : ∀ T ∈ s.proc.traces, ∃ T' ∈ q.traces, ∀ e ∈ T, e ∈ T' :=
    Proc.traces_sub (show q.trace = evsQ ++ [.fork npid] ++ [.write (pk.nextObj (.channel false))
        tok tokenSize, .connect s.current.sunFamily s.current.sunPath
        (some (pk.nextObj (.channel false)))] ++ evsK ++ s.proc.trace by
      rw [hQt', show P1.trace = _ :: _ :: pk.trace from rfl, hk]; simp)
      fun w hw => ⟨w, hch ▸ List.mem_cons_of_mem _ hw, rfl⟩
  obtain ⟨hPtok, hPw, hhP, hPc⟩ := hs.trace_tokenSent K hacc htok hmono
  -- ownership: the worker knows of nothing its parent did not
  have hqown : q.Owned := by
    have hWsub : ∀ o ∈ W.allObjs, o ∈ Q.allObjs := fun o ho =>
      Q.mem_allObjs_forkCopy K (hW.mem_allObjs ho)
    refine (hown.forkParent K .worker fun o ho => ?_).closes hq
    rcases List.mem_append.1 ho with ho | ho
    · exact hWsub o (W.mem_allObjs.2 (.inl ho))
    · obtain ⟨e, he, ho⟩ := List.mem_flatMap.1 ho
      exact hWsub o (W.mem_allObjs_mainLoop ((W.mainLoop n a L).mem_allObjs.2 (.inr (.inl ⟨e, he, ho⟩))))
  have hwh : (W.mainLoop n a L).trace.flatMap Event.handed =
      pk.nextObj (.channel false) :: s.proc.nextObj .accepted :: L'.toList := by
    rw [hml, List.flatMap_cons, hWt', handed_append_quiet hqW, hhP, List.append_nil]
    rfl
  have hts : q.traces = q.trace :: (W.mainLoop n a L).trace :: s.proc.children.map Child.trace := by
    simp [Proc.traces, hch]
  refine ⟨hch, hpids, hqown, hwh, by rw [hQt', handed_append_quiet hqQ]; exact hhP, ?token,
    ?connects⟩
  case token =>
    intro T hT
    rw [hts] at hT
    rcases List.mem_cons.1 hT with rfl | hT
    · rw [hQt', tokenTrace_append_quiet hqQ, allWritten_append_quiet hqQ]
      exact ⟨hPtok, hPw⟩
    rcases List.mem_cons.1 hT with rfl | hT
    · rw [hml, hWt']
      refine ⟨⟨⟨tok, List.mem_append_right _ (List.mem_cons_self _ _)⟩,
        (tokenTrace_append_quiet hqW).2 hPtok⟩, ?_⟩
      rintro o ⟨f, path, hm⟩
      obtain ⟨t, r, hw⟩ := (allWritten_append_quiet hqW).2 hPw o
        ⟨f, path, (List.mem_cons.1 hm).resolve_left (by simp)⟩
      exact ⟨t, r, List.mem_cons_of_mem _ hw⟩
    · obtain ⟨h1, h2⟩ := hs.token_ok T (List.mem_cons_of_mem _ hT)
      exact ⟨h1.mono fun _ _ => SessionLink.mono hmono, h2⟩
  case connects =>
    intro T hT
    rw [hts] at hT
    rcases List.mem_cons.1 hT with rfl | hT
    · rw [hQt', connectTarget_append_quiet hqQ]
      exact hPc
    rcases List.mem_cons.1 hT with rfl | hT
    · rw [hml, hWt']
      intro t ht
      exact hPc t (by rwa [List.filterMap_cons_none rfl, connectTarget_append_quiet hqW] at ht)
    · exact hs.connects_ok T (List.mem_cons_of_mem _ hT)

/-- A forked worker for a reconnectable session keeps the invariant, with the new record. -/
theorem MultiInv.acceptSession {s : MultiState P} (hs : MultiInv c cp wd A s) (hcp : cp ≠ -1)
    {pk q W : Proc} {a : Nat} (hacc : s.proc.Accepted pk a) {tok : ConnectionToken}
    (htok : tok.header = s.token.header) {size : Nat} (hlen : s.connmap.data.length < size)
    (hW : (((pk.tokenSent K s.current tok tokenSize).socketpair K true).1.forkCopy K).Closes W
      (wd :: cp :: ((pk.tokenSent K s.current tok tokenSize).pairFds K).1 ::
        s.connmap.data.map ConnAddr.linkfd))
    (hq : (((pk.tokenSent K s.current tok tokenSize).socketpair K true).1.forkParent K .worker
      (W.fds, (W.mainLoop (K.newFd pk.fds) a
        ((pk.tokenSent K s.current tok tokenSize).pairFds K).2).trace)).Closes q
      [K.newFd pk.fds, a, ((pk.tokenSent K s.current tok tokenSize).pairFds K).2]) :
    MultiInv c cp wd A { s with
      proc := q
      connmap := ⟨s.connmap.data ++ [⟨tok, ((pk.tokenSent K s.current tok tokenSize).socketpair K
        true).1.childPid K, ((pk.tokenSent K s.current tok tokenSize).pairFds K).1⟩], size⟩
      token := tok } := by
  set P1 := pk.tokenSent K s.current tok tokenSize with hP1
  set P2 := (P1.socketpair K true).1 with hP2
  set n := K.newFd pk.fds
  set l1 := (P1.pairFds K).1
  set l2 := (P1.pairFds K).2
  set npid := P2.childPid K
  -- where the new objects are
  have hpk := hacc.owned hs.owned
  have hlkP1 : ∀ x, P1.lookup x = if x = n then some (pk.nextObj (.channel false)) else pk.lookup x :=
    lookup_tokenSent K s.current tok pk tokenSize
  have hlkP2 : ∀ x, P2.lookup x = if x = l2 then some (P1.nextObj (.pairEnd true))
      else if x = l1 then some (P1.nextObj (.pairEnd false)) else P1.lookup x :=
    P1.lookup_socketpair_true K
  have hn : pk.lookup n = none := by
    rw [Proc.lookup_natCast]; exact AList.lookup_eq_none.2 (K.newFd_fresh pk.fds)
  obtain ⟨hl1, hl2, hl12⟩ := P1.pairFds_fresh K
  have hl1' : P1.lookup l1 = none := by rw [Proc.lookup_natCast]; exact AList.lookup_eq_none.2 hl1
  have hl2' : P1.lookup l2 = none := by rw [Proc.lookup_natCast]; exact AList.lookup_eq_none.2 hl2
  have hold : ∀ x o, s.proc.lookup x = some o →
      P2.lookup x = some o ∧ x ≠ n ∧ x ≠ a ∧ x ≠ l1 ∧ x ≠ l2 := by
    intro x o hx
    have hxa := Proc.ne_of_lookup hx hacc.fresh
    have hpkx : pk.lookup x = some o := by rw [hacc.lookup_eq, if_neg hxa]; exact hx
    have hxn := Proc.ne_of_lookup hpkx hn
    have hP1x : P1.lookup x = some o := by rw [hlkP1, if_neg hxn]; exact hpkx
    have hx1 := Proc.ne_of_lookup hP1x hl1'
    have hx2 := Proc.ne_of_lookup hP1x hl2'
    exact ⟨by rw [hlkP2, if_neg hx2, if_neg hx1]; exact hP1x, hxn, hxa, hx1, hx2⟩
  have hnone : ∀ z : Int, z = n ∨ z = a ∨ z = l2 → s.proc.lookup z = none := by
    intro z hz
    cases h : s.proc.lookup z with
    | none => rfl
    | some o =>
      obtain ⟨-, h1, h2, -, h4⟩ := hold z o h
      exact (hz.elim h1 fun hz => hz.elim h2 h4).elim
  have hP1n : P1.lookup n = some (pk.nextObj (.channel false)) := by rw [hlkP1, if_pos rfl]
  have hpka : pk.lookup a = some (s.proc.nextObj .accepted) := by rw [hacc.lookup_eq, if_pos rfl]
  have hna : (a : Int) ≠ n := Proc.ne_of_lookup hpka hn
  have hP1a : P1.lookup a = some (s.proc.nextObj .accepted) := by rw [hlkP1, if_neg hna, hpka]
  have hn1 := Proc.ne_of_lookup hP1n hl1'
  have hn2 := Proc.ne_of_lookup hP1n hl2'
  have ha1 := Proc.ne_of_lookup hP1a hl1'
  have ha2 := Proc.ne_of_lookup hP1a hl2'
  have h12 : (l1 : Int) ≠ l2 := by omega
  have hP2n : P2.lookup n = some (pk.nextObj (.channel false)) := by
    rw [hlkP2, if_neg hn2, if_neg hn1, hP1n]
  have hP2a : P2.lookup a = some (s.proc.nextObj .accepted) := by
    rw [hlkP2, if_neg ha2, if_neg ha1, hP1a]
  have hP2l1 : P2.lookup l1 = some (P1.nextObj (.pairEnd false)) := by
    rw [hlkP2, if_neg h12, if_pos rfl]
  have hP2l2 : P2.lookup l2 = some (P1.nextObj (.pairEnd true)) := by rw [hlkP2, if_pos rfl]
  -- the supervisor keeps its end of the link and nothing else new
  have hlkq : ∀ x, q.lookup x = if x = l1 then some (P1.nextObj (.pairEnd false))
      else s.proc.lookup x := by
    intro x
    rw [hq.lookup_eq, Proc.lookup_forkParent]
    by_cases hx1 : x = l1
    · subst hx1
      rw [if_neg (by simp [hn1.symm, ha1.symm, h12]), if_pos rfl, hP2l1]
    · rw [if_neg hx1]
      split_ifs with hm
      · exact (hnone x (by simpa using hm)).symm
      · simp only [List.mem_cons, List.mem_singleton, List.not_mem_nil, or_false, not_or] at hm
        rw [hlkP2, if_neg hm.2.2, if_neg hx1, hlkP1, if_neg hm.1, hacc.lookup_eq, if_neg hm.2.1]
  -- the worker closed none of its channel, the application connection and its end of the link
  have hcl : ∀ y ∈ wd :: cp :: (l1 : Int) :: s.connmap.data.map ConnAddr.linkfd,
      y = l1 ∨ ∃ o, s.proc.lookup y = some o := by
    simp only [List.mem_cons, List.mem_map]
    rintro y (rfl | rfl | rfl | ⟨r, hr, rfl⟩)
    · exact .inr (hs.display_open.imp fun _ h => h.1)
    · exact .inr ((hs.control_open hcp).imp fun _ h => h.1)
    · exact .inl rfl
    · exact .inr ((hs.records r hr).1.imp fun _ h => h.1)
  have hWlk : ∀ z : Int, (z = n ∨ z = a ∨ z = l2) → W.lookup z = P2.lookup z := by
    intro z hz
    rw [hW.lookup_eq, if_neg, Proc.lookup_forkCopy]
    intro hm
    rcases hcl z hm with rfl | ⟨o, ho⟩
    · rcases hz with h | h | h
      exacts [hn1 h.symm, ha1 h.symm, h12 h]
    · rw [hnone z hz] at ho
      cases ho
  have hml : (W.mainLoop n a l2).trace = .mainLoop (pk.nextObj (.channel false))
      (s.proc.nextObj .accepted) (some (P1.nextObj (.pairEnd true))) :: W.trace := by
    rw [W.mainLoop_of_lookup ((hWlk n (.inl rfl)).trans hP2n) ((hWlk a (.inr (.inl rfl))).trans hP2a),
      hWlk l2 (.inr (.inr rfl)), hP2l2]
    rfl
  obtain ⟨hch, hpids, hqown, hwh, hunh, htoken, hconn⟩ := hs.forkWorker K hacc htok (Q := P2) rfl rfl
    rfl ((hpk.tokenSent K s.current tok tokenSize).socketpair K true) hW hml hq
  -- what the worker holds
  have hWobjs : ∀ o ∈ W.fds.objs, o.kind = .inherited ∨ o = pk.nextObj (.channel false) ∨
      o = s.proc.nextObj .accepted ∨ o = P1.nextObj (.pairEnd true) := by
    intro o ho
    obtain ⟨x, hx⟩ := Proc.mem_objs_iff.1 ho
    rw [hW.lookup_eq] at hx
    split_ifs at hx with hxc
    rw [Proc.lookup_forkCopy, hlkP2, hlkP1, hacc.lookup_eq] at hx
    split_ifs at hx with h2 h1 hxn hxa
    · exact .inr (.inr (.inr (Option.some.inj hx).symm))
    · exact (hxc (h1 ▸ .tail _ (.tail _ (.head _)))).elim
    · exact .inr (.inl (Option.some.inj hx).symm)
    · exact .inr (.inr (.inl (Option.some.inj hx).symm))
    · rcases hs.table x o hx with h | ⟨-, rfl⟩ | ⟨-, rfl⟩ | ⟨-, hm⟩
      · exact .inl h
      · exact (hxc (.head _)).elim
      · exact (hxc (.tail _ (.head _))).elim
      · exact (hxc (.tail _ (.tail _ (.tail _ hm)))).elim
  -- the new objects are new
  have hsl := hacc.serial_lt
  have hnew : ∀ o ∈ s.proc.allObjs, o ≠ s.proc.nextObj .accepted ∧
      o ≠ pk.nextObj (.channel false) ∧ o ≠ P1.nextObj (.pairEnd false) ∧
      o ≠ P1.nextObj (.pairEnd true) := by
    intro o ho
    have := (hs.owned o ho).2
    refine ⟨?_, ?_, ?_, ?_⟩ <;> rintro rfl <;> simp [Proc.nextObj, hP1, Proc.tokenSent] at this <;>
      omega
  have hqobjs : ∀ o ∈ q.fds.objs, o = P1.nextObj (.pairEnd false) ∨ o ∈ s.proc.fds.objs := by
    intro o ho
    obtain ⟨x, hx⟩ := Proc.mem_objs_iff.1 ho
    rw [hlkq] at hx
    split_ifs at hx
    · exact .inl (Option.some.inj hx).symm
    · exact .inr (Proc.mem_objs_of_lookup hx)
  refine ⟨hqown, hpids, ?disp, ?ctl, ?table, ?records, ?nodup, ?count, ?live, ?roles, ?app, ?wfds,
    ?hkind, ?hexcl, hunh, htok.trans hs.token_header, htoken, hs.current_ok, hconn⟩
  case disp =>
    obtain ⟨D, hD, hk⟩ := hs.display_open
    exact ⟨D, by rw [hlkq, if_neg (hold _ _ hD).2.2.2.1]; exact hD, hk⟩
  case ctl =>
    intro hcp
    obtain ⟨Q, hQ, hk⟩ := hs.control_open hcp
    exact ⟨Q, by rw [hlkq, if_neg (hold _ _ hQ).2.2.2.1]; exact hQ, hk⟩
  case table =>
    intro x o hx
    dsimp only at hx ⊢
    rw [hlkq] at hx
    split_ifs at hx with h1
    · cases hx
      exact .inr (.inr (.inr ⟨rfl, by simp [h1]⟩))
    · rcases hs.table x o hx with h | h | h | ⟨hk, hm⟩
      · exact .inl h
      · exact .inr (.inl h)
      · exact .inr (.inr (.inl h))
      · exact .inr (.inr (.inr ⟨hk, by simp [hm]⟩))
  case records =>
    intro r hr
    rcases List.mem_append.1 hr with hr | hr
    · obtain ⟨⟨L, hL, hLk, w', hw', hwp, rest⟩, hh⟩ := hs.records r hr
      exact ⟨⟨L, by rw [hlkq, if_neg (hold _ _ hL).2.2.2.1]; exact hL, hLk, w',
        hch ▸ List.mem_cons_of_mem _ hw', hwp, rest⟩, hh⟩
    · obtain rfl := List.mem_singleton.1 hr
      refine ⟨⟨P1.nextObj (.pairEnd false), by rw [hlkq, if_pos rfl], rfl,
        ⟨npid, .worker, W.fds, (W.mainLoop n a l2).trace, false⟩, by rw [hch]; exact List.mem_cons_self _ _,
        rfl, pk.nextObj (.channel false), s.proc.nextObj .accepted, P1.nextObj (.pairEnd true),
        by rw [hml]; exact List.mem_cons_self _ _, ⟨rfl, rfl, true, rfl, rfl⟩, ?_⟩,
        by simpa [hcp] using htok.trans hs.token_header⟩
      obtain ⟨evsW, hWt, -⟩ := hW.trace_eq
      rw [hml, hWt]
      exact List.mem_cons_of_mem _ (List.mem_append_right _ (List.mem_cons_self _ _))
  case nodup =>
    show ((s.connmap.data ++ [_]).map ConnAddr.linkfd).Nodup
    rw [List.map_append]
    refine List.nodup_append.2 ⟨hs.links_nodup, List.nodup_singleton _, ?_⟩
    intro x hx hy
    obtain rfl := List.mem_singleton.1 hy
    obtain ⟨r, hr, hx⟩ := List.mem_map.1 hx
    obtain ⟨L, hL, -⟩ := (hs.records r hr).1
    exact (hold _ _ hL).2.2.2.1 hx
  case count =>
    show (s.connmap.data ++ [_]).length ≤ size
    simp only [List.length_append, List.length_singleton]
    omega
  case live =>
    show (s.connmap.data ++ [_]).map ConnAddr.pid = if cp ≠ -1 then q.liveWorkers.reverse else []
    rw [List.map_append, hs.live, if_pos hcp, if_pos hcp]
    simp [Proc.liveWorkers, hch]
  case roles =>
    rw [hch, List.forall_mem_cons]
    exact ⟨.inr rfl, hs.roles⟩
  case app =>
    rw [hch, List.forall_mem_cons]
    exact ⟨(fun h => nomatch h), hs.app_fds⟩
  case wfds =>
    rw [hch, List.forall_mem_cons]
    refine ⟨fun _ o ho => ?_, hs.worker_fds⟩
    rw [hwh]
    rcases hWobjs o ho with h | rfl | rfl | rfl
    · exact .inl h
    all_goals simp
  case hkind =>
    rw [hch, List.forall_mem_cons]
    refine ⟨?_, hs.handed_kind⟩
    dsimp only
    rw [hwh]
    simp only [Option.toList_some, List.mem_cons, List.mem_singleton, List.not_mem_nil, or_false]
    rintro o (rfl | rfl | rfl)
    exacts [.inl rfl, .inr (.inl rfl), .inr (.inr rfl)]
  case hexcl =>
    have hL0 : ∀ o ∈ [pk.nextObj (.channel false), s.proc.nextObj .accepted,
        P1.nextObj (.pairEnd true)], o ≠ P1.nextObj (.pairEnd false) := by
      simp only [List.mem_cons, List.mem_singleton, List.not_mem_nil, or_false]
      rintro o (rfl | rfl | rfl) h <;> have h' := congrArg Obj.serial h
      · exact absurd h' (by show pk.serial ≠ pk.serial + 1; omega)
      · exact absurd h' (by show s.proc.serial ≠ pk.serial + 1; omega)
      · exact absurd (congrArg Obj.kind h) (by show ObjKind.pairEnd true ≠ .pairEnd false; decide)
    rw [hch, List.forall_mem_cons]
    refine ⟨fun o ho => ?_, fun w hw o ho => ?_⟩
    · -- the worker's objects are new to the supervisor and to every other child
      dsimp only at ho
      rw [hwh] at ho
      have hfresh : o ∉ s.proc.allObjs := fun hm => by
        have := hnew o hm
        simp only [Option.toList_some, List.mem_cons, List.mem_singleton, List.not_mem_nil,
          or_false] at ho
        rcases ho with rfl | rfl | rfl
        exacts [this.2.1 rfl, this.1 rfl, this.2.2.2 rfl]
      refine ⟨fun hm => ?_, fun w' hw' hne o' => ?_⟩
      · rcases hqobjs o hm with h | h
        exacts [hL0 o ho h, hfresh (s.proc.mem_allObjs.2 (.inl h))]
      · rcases List.mem_cons.1 hw' with rfl | hw'
        · exact hne rfl
        · exact hfresh (Proc.mem_allObjs_of_child hw' (.inl o'))
    · -- an old worker's objects are none of the new ones
      have hm := Proc.mem_allObjs_of_child hw (.inr ho)
      obtain ⟨h1, h2⟩ := hs.handed_excl w hw o ho
      refine ⟨fun h => (hqobjs o h).elim (hnew o hm).2.2.1 h1, fun w' hw' hne o' => ?_⟩
      rcases List.mem_cons.1 hw' with rfl | hw'
      · rcases hWobjs o o' with h | h | h | h
        · rcases hs.handed_kind w hw o ho with h' | h' | h' <;> rw [h'] at h <;> cases h
        exacts [(hnew o hm).2.1 h, (hnew o hm).1 h, (hnew o hm).2.2.2 h]
      · exact h2 w' hw' hne o'

/-- A forked worker for a session that cannot reconnect keeps the invariant. -/
theorem MultiInv.acceptPlain {s : MultiState P} (hs : MultiInv c cp wd A s) (hcp : ¬cp ≠ -1)
    {pk q W : Proc} {a : Nat} (hacc : s.proc.Accepted pk a) {tok : ConnectionToken}
    (htok : tok.header = s.token.header)
    (hW : ((pk.tokenSent K s.current tok tokenSize).forkCopy K).Closes W
      (wd :: s.connmap.data.map ConnAddr.linkfd))
    (hq : ((pk.tokenSent K s.current tok tokenSize).forkParent K .worker
      (W.fds, (W.mainLoop (K.newFd pk.fds) a (-1)).trace)).Closes q [K.newFd pk.fds, a]) :
    MultiInv c cp wd A { s with proc := q, token := tok } := by
  set P1 := pk.tokenSent K s.current tok tokenSize with hP1
  set n := K.newFd pk.fds
  have hpk := hacc.owned hs.owned
  have hlkP1 : ∀ x, P1.lookup x = if x = n then some (pk.nextObj (.channel false)) else pk.lookup x :=
    lookup_tokenSent K s.current tok pk tokenSize
  have hn : pk.lookup n = none := by
    rw [Proc.lookup_natCast]; exact AList.lookup_eq_none.2 (K.newFd_fresh pk.fds)
  have hP1n : P1.lookup n = some (pk.nextObj (.channel false)) := by rw [hlkP1, if_pos rfl]
  have hpka : pk.lookup a = some (s.proc.nextObj .accepted) := by rw [hacc.lookup_eq, if_pos rfl]
  have hna : (a : Int) ≠ n := Proc.ne_of_lookup hpka hn
  have hP1a : P1.lookup a = some (s.proc.nextObj .accepted) := by rw [hlkP1, if_neg hna, hpka]
  have hnone : ∀ z : Int, z = n ∨ z = a → s.proc.lookup z = none := by
    intro z hz
    cases h : s.proc.lookup z with
    | none => rfl
    | some o =>
      have hza := Proc.ne_of_lookup h hacc.fresh
      have hpkz : pk.lookup z = some o := by rw [hacc.lookup_eq, if_neg hza]; exact h
      exact (hz.elim (Proc.ne_of_lookup hpkz hn) hza).elim
  have hlkq : q.lookup = s.proc.lookup := funext fun x => by
    rw [hq.lookup_eq, Proc.lookup_forkParent]
    split_ifs with hm
    · exact (hnone x (by simpa using hm)).symm
    · simp only [List.mem_cons, List.mem_singleton, List.not_mem_nil, or_false, not_or] at hm
      rw [hlkP1, if_neg hm.1, hacc.lookup_eq, if_neg hm.2]
  -- without a control pipe there are no records
  have hnil : s.connmap.data = [] := by
    have := hs.live
    rw [if_neg hcp] at this
    exact List.map_eq_nil_iff.1 this
  have hWlk : ∀ z : Int, z = n ∨ z = a → W.lookup z = P1.lookup z := by
    intro z hz
    rw [hW.lookup_eq, if_neg, Proc.lookup_forkCopy]
    rw [hnil, List.map_nil, List.mem_singleton]
    rintro rfl
    obtain ⟨D, hD, -⟩ := hs.display_open
    rw [hnone _ hz] at hD
    cases hD
  have hml : (W.mainLoop n a (-1)).trace = .mainLoop (pk.nextObj (.channel false))
      (s.proc.nextObj .accepted) none :: W.trace := by
    rw [W.mainLoop_of_lookup ((hWlk n (.inl rfl)).trans hP1n) ((hWlk a (.inr rfl)).trans hP1a),
      Proc.lookup_neg_one]
    rfl
  obtain ⟨hch, hpids, hqown, hwh, hunh, htoken, hconn⟩ := hs.forkWorker K hacc htok (Q := P1) rfl rfl
    rfl (hpk.tokenSent K s.current tok tokenSize) hW hml hq
  -- what the worker holds
  have hWobjs : ∀ o ∈ W.fds.objs, o.kind = .inherited ∨ o = pk.nextObj (.channel false) ∨
      o = s.proc.nextObj .accepted := by
    intro o ho
    obtain ⟨x, hx⟩ := Proc.mem_objs_iff.1 ho
    rw [hW.lookup_eq] at hx
    split_ifs at hx with hxc
    rw [Proc.lookup_forkCopy, hlkP1, hacc.lookup_eq] at hx
    split_ifs at hx with hxn hxa
    · exact .inr (.inl (Option.some.inj hx).symm)
    · exact .inr (.inr (Option.some.inj hx).symm)
    · rcases hs.table x o hx with h | ⟨-, rfl⟩ | ⟨-, rfl⟩ | ⟨-, hm⟩
      · exact .inl h
      · exact (hxc (.head _)).elim
      · rw [not_not.1 hcp, Proc.lookup_neg_one] at hx
        cases hx
      · exact (hxc (.tail _ hm)).elim
  -- the new objects are new
  have hsl := hacc.serial_lt
  have hnew : ∀ o ∈ s.proc.allObjs, o ≠ s.proc.nextObj .accepted ∧
      o ≠ pk.nextObj (.channel false) := by
    intro o ho
    have := (hs.owned o ho).2
    refine ⟨?_, ?_⟩ <;> rintro rfl
    · simp [Proc.nextObj] at this
    · simp [Proc.nextObj] at this
      omega
  refine ⟨hqown, hpids, hlkq ▸ hs.display_open, hlkq ▸ hs.control_open, hlkq ▸ hs.table,
    (fun r hr => by rw [hnil] at hr; cases hr), hs.links_nodup, hs.count_le, ?live, ?roles, ?app,
    ?wfds, ?hkind, ?hexcl, hunh, htok.trans hs.token_header, htoken, hs.current_ok, hconn⟩
  case live =>
    show s.connmap.data.map ConnAddr.pid = if cp ≠ -1 then q.liveWorkers.reverse else []
    rw [if_neg hcp, hnil, List.map_nil]
  case roles =>
    rw [hch, List.forall_mem_cons]
    exact ⟨.inr rfl, hs.roles⟩
  case app =>
    rw [hch, List.forall_mem_cons]
    exact ⟨(fun h => nomatch h), hs.app_fds⟩
  case wfds =>
    rw [hch, List.forall_mem_cons]
    refine ⟨fun _ o ho => ?_, hs.worker_fds⟩
    rw [hwh]
    rcases hWobjs o ho with h | rfl | rfl
    · exact .inl h
    all_goals simp
  case hkind =>
    rw [hch, List.forall_mem_cons]
    refine ⟨?_, hs.handed_kind⟩
    dsimp only
    rw [hwh]
    simp only [Option.toList_none, List.mem_cons, List.mem_singleton, List.not_mem_nil, or_false]
    rintro o (rfl | rfl)
    exacts [.inl rfl, .inr (.inl rfl)]
  case hexcl =>
    rw [hch, List.forall_mem_cons]
    refine ⟨fun o ho => ?_, fun w hw o ho => ?_⟩
    · -- the worker's objects are new to the supervisor and to every other child
      dsimp only at ho
      rw [hwh] at ho
      have hfresh : o ∉ s.proc.allObjs := fun hm => by
        have := hnew o hm
        simp only [Option.toList_none, List.mem_cons, List.mem_singleton, List.not_mem_nil,
          or_false] at ho
        rcases ho with rfl | rfl
        exacts [this.2 rfl, this.1 rfl]
      refine ⟨fun hm => ?_, fun w' hw' hne o' => ?_⟩
      · obtain ⟨x, hx⟩ := Proc.mem_objs_iff.1 hm
        rw [hlkq] at hx
        exact hfresh (s.proc.mem_allObjs_of_lookup hx)
      · rcases List.mem_cons.1 hw' with rfl | hw'
        · exact hne rfl
        · exact hfresh (Proc.mem_allObjs_of_child hw' (.inl o'))
    · -- an old worker's objects are none of the new ones
      have hm := Proc.mem_allObjs_of_child hw (.inr ho)
      obtain ⟨h1, h2⟩ := hs.handed_excl w hw o ho
      refine ⟨fun h => ?_, fun w' hw' hne o' => ?_⟩
      · obtain ⟨x, hx⟩ := Proc.mem_objs_iff.1 h
        rw [hlkq] at hx
        exact h1 (Proc.mem_objs_of_lookup hx)
      rcases List.mem_cons.1 hw' with rfl | hw'
      · rcases hWobjs o o' with h | h | h
        · rcases hs.handed_kind w hw o ho with h' | h' | h' <;> rw [h'] at h <;> cases h
        exacts [(hnew o hm).2 h, (hnew o hm).1 h]
      · exact h2 w' hw' hne o'

/-- The display-socket branch keeps the invariant. -/
theorem MultiInv.accept {s s' : MultiState P} (hs : MultiInv c cp wd A s) {it : MultiIter P}
    {r : Option Int} (h : acceptStep K cp wd it s = some (s', r)) : MultiInv c cp wd A s' := by
  rcases acceptStep_eq_some K h with rfl | ⟨q, cm', ret, hh, rfl⟩
  · exact hs
  have hacc := s.proc.accepted_fillRandomKey K it.seed s.token
  have htok : (fillRandomKey it.seed s.token).header = s.token.header := header_fillRandomKey _ _
  rcases handleNewServerConnection_eq_some K _ hh with ⟨-, hd, hsz, hf⟩ | ⟨-, -, -, -, hcase⟩
  · exact hs.acceptFailed hacc htok hd hsz hf
  split_ifs at hcase with hcp
  · obtain ⟨-, size, W, -, hlen, hW, rfl, hq⟩ := hcase
    exact hs.acceptSession K hcp hacc htok hlen hW hq
  · obtain ⟨W, hW, rfl, hq⟩ := hcase
    exact hs.acceptPlain K hcp hacc htok hW hq

end Waypipe
