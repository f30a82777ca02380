import Waypipe.MultiServer

/-!
# What holds along `run_multi_server`'s loop

The display-mode supervisor's loop keeps one invariant, `Waypipe.MultiInv`: which objects the
supervisor holds and at which descriptors, that each connection record stands for a live
worker whose link is the peer of the record's link, what each worker holds, the token
discipline of every history, and that every address connected to is one the caller allows.
The reaper's sweep and a migration to a new endpoint keep it here; the handling of a new
application connection is in `Waypipe.MultiAccept`.

## Main definitions

* `Waypipe.Proc.traces`, `Waypipe.RecordOK`, `Waypipe.Proc.liveWorkers`.
* `Waypipe.MultiInv`: the loop invariant.

## Main results

* `Waypipe.liveWorkers_reap`: the sweep removes exactly the reaped workers.
* `Waypipe.MultiInv.reap`: the sweep keeps the invariant.
* `Waypipe.MultiInv.migrate`: a migration keeps the invariant.

## References

* `src/src/server.c`, lines 307–438 (`update_connections`, `run_multi_server`).
-/

namespace Waypipe

theorem closes_closeRecordLinks : ∀ (rs : List ConnAddr) (p : Proc),
    p.Closes (closeRecordLinks rs p) (rs.map ConnAddr.linkfd)
  | [], p => Proc.Closes.refl p
  | r :: rs, p => (Proc.closes_checkedClose p r.linkfd).trans (closes_closeRecordLinks rs _)

@[simp] theorem reapMark_pid (exited : Nat → Bool) (w : Child) : (reapMark exited w).pid = w.pid := by
  unfold reapMark; split <;> rfl
@[simp] theorem reapMark_role (exited : Nat → Bool) (w : Child) : (reapMark exited w).role = w.role := by
  unfold reapMark; split <;> rfl
@[simp] theorem reapMark_fds (exited : Nat → Bool) (w : Child) : (reapMark exited w).fds = w.fds := by
  unfold reapMark; split <;> rfl
@[simp] theorem reapMark_trace (exited : Nat → Bool) (w : Child) :
    (reapMark exited w).trace = w.trace := by
  unfold reapMark; split <;> rfl
@[simp] theorem reapMark_reaped (exited : Nat → Bool) (w : Child) :
    (reapMark exited w).reaped = (w.reaped || exited w.pid) := by
  unfold reapMark; split <;> rename_i h <;> cases hr : w.reaped <;> simp_all

/-- The histories of a process and of its children. -/
def Proc.traces (p : Proc) : List (List Event) := p.trace :: p.children.map Child.trace

/-- The histories only grow when the process's own does and no child's is lost. -/
theorem Proc.traces_sub {p q : Proc} {evs : List Event} (ht : q.trace = evs ++ p.trace)
    (hc : ∀ w ∈ p.children, ∃ w' ∈ q.children, w'.trace = w.trace) :
    ∀ T ∈ p.traces, ∃ T' ∈ q.traces, ∀ e ∈ T, e ∈ T' := by
  intro T hT
  rcases List.mem_cons.1 hT with rfl | hT
  · exact ⟨q.trace, List.mem_cons_self _ _, fun e he => ht ▸ List.mem_append_right _ he⟩
  · obtain ⟨w, hw, rfl⟩ := List.mem_map.1 hT
    obtain ⟨w', hw', he⟩ := hc w hw
    exact ⟨w'.trace, List.mem_cons_of_mem _ (List.mem_map_of_mem _ hw'), fun e h => he ▸ h⟩

theorem Proc.mem_allObjs_of_child {p : Proc} {w : Child} (hw : w ∈ p.children) {o : Obj}
    (ho : o ∈ w.fds.objs ∨ o ∈ w.trace.flatMap Event.handed) : o ∈ p.allObjs := by
  refine p.mem_allObjs.2 (.inr (.inr ⟨w, hw, ?_⟩))
  rcases ho with ho | ho
  · exact List.mem_append_left _ ho
  · obtain ⟨e, he, ho⟩ := List.mem_flatMap.1 ho
    exact List.mem_append_right _ (List.mem_flatMap.2 ⟨e, he, Event.mem_objs_of_mem_handed ho⟩)

/-- The session the record `r` stands for: the supervisor holds `L` at `r.linkfd`, and the
worker `r.pid` entered `main_interface_loop` with a channel that got `r.token` whole and with
the peer of `L`. -/
def RecordOK (p : Proc) (r : ConnAddr) : Prop :=
  ∃ L, p.lookup r.linkfd = some L ∧ L.kind = .pairEnd false ∧
    ∃ w ∈ p.children, w.pid = r.pid ∧ ∃ chan app L', Event.mainLoop chan app (some L') ∈ w.trace ∧
      L'.IsPeer L ∧ Event.write chan r.token tokenSize ∈ w.trace

/-- The pids of the workers not yet reaped, newest first. -/
def Proc.liveWorkers (p : Proc) : List Nat :=
  (p.children.filter fun w => w.role = .worker ∧ w.reaped = false).map Child.pid

/-- After the sweep the live workers are those that were live and not reaped by it. -/
theorem liveWorkers_reap (exited : Nat → Bool) (p : Proc) (h : (p.children.map Child.pid).Nodup) :
    ({ p with children := p.children.map (reapMark exited) } : Proc).liveWorkers =
      p.liveWorkers.filter (· ∉ reapedPids exited p) := by
  simp only [Proc.liveWorkers, List.filter_map, List.map_map, List.filter_filter]
  have hpid : Child.pid ∘ reapMark exited = Child.pid := funext (reapMark_pid exited)
  rw [hpid]
  congr 1
  apply List.filter_congr
  intro w hw
  simp only [Function.comp, reapMark_role, reapMark_reaped, Bool.or_eq_false_iff, decide_eq_decide]
  have key : w.reaped = false → (w.pid ∈ reapedPids exited p ↔ exited w.pid = true) := by
    intro hr
    simp only [reapedPids, List.mem_map, List.mem_filter]
    constructor
    · rintro ⟨w', ⟨hw', hd⟩, he⟩
      obtain rfl := List.inj_on_of_nodup_map h hw' hw he
      simpa [hr] using hd
    · exact fun hx => ⟨w, ⟨hw, by simp [hr, hx]⟩, rfl⟩
  by_cases hr : w.reaped = false
  · cases hx : exited w.pid <;> simp_all
  · simp [hr]

variable (c : TokenConsts) {P : Platform} (cp wd : Int) (A : UInt16 × List Byte → Prop)

/-- What holds of `run_multi_server`'s loop state `s`, with control pipe `cp`, display socket
`wd`, and `A` the addresses (family and `sun_path`) a channel may be connected to. -/
structure MultiInv (s : MultiState P) : Prop where
  owned : s.proc.Owned
  pids_nodup : (s.proc.pid :: s.proc.children.map Child.pid).Nodup
  display_open : ∃ D, s.proc.lookup wd = some D ∧ D.kind = .displaySocket
  control_open : cp ≠ -1 → ∃ Q, s.proc.lookup cp = some Q ∧ Q.kind = .controlPipe
  table : ∀ x o, s.proc.lookup x = some o → o.kind = .inherited ∨
    (o.kind = .displaySocket ∧ x = wd) ∨ (o.kind = .controlPipe ∧ x = cp) ∨
    (o.kind = .pairEnd false ∧ x ∈ s.connmap.data.map ConnAddr.linkfd)
  records : ∀ r ∈ s.connmap.data, RecordOK s.proc r ∧ r.token.header = conntokenHeader c true false
  links_nodup : (s.connmap.data.map ConnAddr.linkfd).Nodup
  count_le : s.connmap.data.length ≤ s.connmap.size
  live : s.connmap.data.map ConnAddr.pid = if cp ≠ -1 then s.proc.liveWorkers.reverse else []
  roles : ∀ w ∈ s.proc.children, w.role = .app ∨ w.role = .worker
  app_fds : ∀ w ∈ s.proc.children, w.role = .app → ∀ o ∈ w.fds.objs, o.kind = .inherited
  worker_fds : ∀ w ∈ s.proc.children, w.role = .worker →
    ∀ o ∈ w.fds.objs, o.kind = .inherited ∨ o ∈ w.trace.flatMap Event.handed
  handed_kind : ∀ w ∈ s.proc.children, ∀ o ∈ w.trace.flatMap Event.handed,
    o.kind = .channel false ∨ o.kind = .accepted ∨ o.kind = .pairEnd true
  handed_excl : ∀ w ∈ s.proc.children, ∀ o ∈ w.trace.flatMap Event.handed,
    o ∉ s.proc.fds.objs ∧ ∀ w' ∈ s.proc.children, w'.pid ≠ w.pid → o ∉ w'.fds.objs
  sup_unhanded : s.proc.trace.flatMap Event.handed = []
  token_header : s.token.header = conntokenHeader c (decide (cp ≠ -1)) false
  token_ok : ∀ T ∈ s.proc.traces,
    TokenTrace c (decide (cp ≠ -1)) (SessionLink s.proc.traces) T ∧ AllWritten T
  current_ok : A (s.current.sunFamily, s.current.sunPath)
  connects_ok : ∀ T ∈ s.proc.traces, ∀ t ∈ T.filterMap Event.connectTarget,
    A t

/-! ### The reaper's sweep -/

section Steps

variable (K : Kernel) {c : TokenConsts} {P : Platform} {cp wd : Int} {A : UInt16 × List Byte → Prop}

/-- The supervisor with its children marked by the sweep. -/
theorem allObjs_reapMark (exited : Nat → Bool) (p : Proc) :
    ({ p with children := p.children.map (reapMark exited) } : Proc).allObjs = p.allObjs := by
  simp [Proc.allObjs, Child.objs, List.flatMap_map]
  rfl

theorem traces_reapMark (exited : Nat → Bool) (p : Proc) :
    ({ p with children := p.children.map (reapMark exited) } : Proc).traces = p.traces := by
  simp [Proc.traces, Function.comp_def]

theorem MultiInv.reap {s : MultiState P} (hs : MultiInv c cp wd A s) (exited : Nat → Bool)
    (target : Nat) :
    MultiInv c cp wd A { s with
      proc := (waitForPidAndClean exited target s.connmap s.proc).1
      connmap := (waitForPidAndClean exited target s.connmap s.proc).2.1 } := by
  simp only [waitForPidAndClean]
  generalize hdead : reapedPids exited s.proc = dead
  have hdrop_eq := hdead
  have hq := closes_closeRecordLinks (s.connmap.data.filter fun r => r.pid ∈ dead)
    { s.proc with children := s.proc.children.map (reapMark exited) }
  generalize closeRecordLinks (s.connmap.data.filter fun r => r.pid ∈ dead)
    { s.proc with children := s.proc.children.map (reapMark exited) } = q at hq
  obtain ⟨evs, htr, hevs⟩ := hq.trace_eq
  have hquiet : ∀ e ∈ evs, e.IsQuiet := fun e he => (hevs e he).1.isQuiet
  -- a record's link is dropped exactly when the record is
  have hdrop : ∀ r ∈ s.connmap.data, r.linkfd ∈ (s.connmap.data.filter fun r => r.pid ∈ dead).map
      ConnAddr.linkfd → r.pid ∈ dead := by
    intro r hr hm
    obtain ⟨r', hr', he⟩ := List.mem_map.1 hm
    obtain ⟨hr'm, hd⟩ := List.mem_filter.1 hr'
    obtain rfl := List.inj_on_of_nodup_map hs.links_nodup hr'm hr he
    simpa using hd
  have hlookup : ∀ x, q.lookup x = if x ∈ (s.connmap.data.filter fun r => r.pid ∈ dead).map
      ConnAddr.linkfd then none else s.proc.lookup x := hq.lookup_eq
  -- an open object not at a record's link is not at a dropped link
  have hkeep : ∀ x o, s.proc.lookup x = some o → o.kind ≠ .pairEnd false →
      x ∉ (s.connmap.data.filter fun r => r.pid ∈ dead).map ConnAddr.linkfd := by
    intro x o hx hk hm
    obtain ⟨r, hr, rfl⟩ := List.mem_map.1 hm
    obtain ⟨L, hL, hLk, -⟩ := (hs.records r (List.mem_filter.1 hr).1).1
    exact hk (by rw [hx] at hL; cases hL; exact hLk)
  have hobjs : ∀ o ∈ q.fds.objs, o ∈ s.proc.fds.objs := fun o ho => hq.objs_sub ho
  have hch : q.children = s.proc.children.map (reapMark exited) := hq.children_eq
  refine ⟨?owned, ?pids, ?disp, ?ctl, ?table, ?records, ?nodup, ?count, ?live, ?roles, ?app, ?wfds,
    ?hkind, ?hexcl, ?unhanded, hs.token_header, ?token, hs.current_ok, ?connects⟩
  case owned =>
    refine Proc.Owned.closes (fun o ho => ?_) hq
    exact hs.owned o (by rwa [allObjs_reapMark] at ho)
  case pids => simpa [hq.pid_eq, hch, List.map_map, Function.comp_def] using hs.pids_nodup
  case disp =>
    obtain ⟨D, hD, hk⟩ := hs.display_open
    exact ⟨D, by rw [hlookup, if_neg (hkeep _ _ hD (by rw [hk]; decide))]; exact hD, hk⟩
  case ctl =>
    intro hcp
    obtain ⟨Q, hQ, hk⟩ := hs.control_open hcp
    exact ⟨Q, by rw [hlookup, if_neg (hkeep _ _ hQ (by rw [hk]; decide))]; exact hQ, hk⟩
  case table =>
    intro x o hx
    rw [hlookup] at hx
    split_ifs at hx with hm
    rcases hs.table x o hx with h | h | h | ⟨hk, hx'⟩
    · exact .inl h
    · exact .inr (.inl h)
    · exact .inr (.inr (.inl h))
    · refine .inr (.inr (.inr ⟨hk, ?_⟩))
      obtain ⟨r, hr, rfl⟩ := List.mem_map.1 hx'
      refine List.mem_map_of_mem _ (List.mem_filter.2 ⟨hr, ?_⟩)
      simpa using fun hd => hm (List.mem_map_of_mem _ (List.mem_filter.2 ⟨hr, by simpa using hd⟩))
  case records =>
    intro r hr
    obtain ⟨hr0, hnd⟩ := List.mem_filter.1 hr
    obtain ⟨⟨L, hL, hLk, w, hw, hwp, rest⟩, hh⟩ := hs.records r hr0
    refine ⟨⟨L, ?_, hLk, reapMark exited w, hch ▸ List.mem_map_of_mem _ hw, by simp [hwp],
      by simpa using rest⟩, hh⟩
    rw [hlookup, if_neg fun hm => by simp [hdrop r hr0 hm] at hnd]
    exact hL
  case nodup => exact ((List.filter_sublist _).map _).nodup hs.links_nodup
  case count => exact (List.length_filter_le _ _).trans hs.count_le
  case live =>
    have hlw : q.liveWorkers = s.proc.liveWorkers.filter (· ∉ dead) := by
      rw [← hdrop_eq, ← liveWorkers_reap exited s.proc hs.pids_nodup.of_cons]
      simp only [Proc.liveWorkers, hch]
    have hmap : (s.connmap.data.filter fun r => decide (r.pid ∉ dead)).map ConnAddr.pid =
        (s.connmap.data.map ConnAddr.pid).filter (· ∉ dead) := by
      rw [List.filter_map]
      rfl
    simp only [hmap, hs.live, hlw]
    split_ifs <;> simp
  case roles =>
    intro w hw
    obtain ⟨w0, hw0, rfl⟩ := List.mem_map.1 (hch ▸ hw)
    simpa using hs.roles w0 hw0
  case app =>
    intro w hw
    obtain ⟨w0, hw0, rfl⟩ := List.mem_map.1 (hch ▸ hw)
    simpa using hs.app_fds w0 hw0
  case wfds =>
    intro w hw
    obtain ⟨w0, hw0, rfl⟩ := List.mem_map.1 (hch ▸ hw)
    simpa using hs.worker_fds w0 hw0
  case hkind =>
    intro w hw
    obtain ⟨w0, hw0, rfl⟩ := List.mem_map.1 (hch ▸ hw)
    simpa using hs.handed_kind w0 hw0
  case hexcl =>
    intro w hw o ho
    obtain ⟨w0, hw0, rfl⟩ := List.mem_map.1 (hch ▸ hw)
    obtain ⟨h1, h2⟩ := hs.handed_excl w0 hw0 o (by simpa using ho)
    refine ⟨fun h => h1 (hobjs o h), fun w' hw' hne => ?_⟩
    obtain ⟨w1, hw1, rfl⟩ := List.mem_map.1 (hch ▸ hw')
    simpa using h2 w1 hw1 (by simpa using hne)
  case unhanded =>
    rw [htr, handed_append_quiet hquiet]
    exact hs.sup_unhanded
  all_goals
    have hts : q.traces = (evs ++ s.proc.trace) :: s.proc.children.map Child.trace := by
      simp [Proc.traces, htr, hch, Function.comp_def]
  case token =>
    have hmono : ∀ T ∈ s.proc.traces, ∃ T' ∈ q.traces, ∀ e ∈ T, e ∈ T' := by
      rw [hts]
      intro T hT
      rcases List.mem_cons.1 hT with rfl | hT
      · exact ⟨_, List.mem_cons_self _ _, fun e he => List.mem_append_right _ he⟩
      · exact ⟨T, List.mem_cons_of_mem _ hT, fun e he => he⟩
    intro T hT
    rw [hts] at hT
    rcases List.mem_cons.1 hT with rfl | hT
    · obtain ⟨h1, h2⟩ := hs.token_ok _ (List.mem_cons_self _ _)
      exact ⟨(tokenTrace_append_quiet hquiet).2 (h1.mono fun _ _ => SessionLink.mono hmono),
        (allWritten_append_quiet hquiet).2 h2⟩
    · obtain ⟨h1, h2⟩ := hs.token_ok T (List.mem_cons_of_mem _ hT)
      exact ⟨h1.mono fun _ _ => SessionLink.mono hmono, h2⟩
  case connects =>
    intro T hT
    rw [hts] at hT
    rcases List.mem_cons.1 hT with rfl | hT
    · rw [connectTarget_append_quiet hquiet]
      exact hs.connects_ok _ (List.mem_cons_self _ _)
    · exact hs.connects_ok T (List.mem_cons_of_mem _ hT)

/-! ### A migration -/

theorem RecordOK.congr {p q : Proc} {r : ConnAddr} (h : RecordOK p r) (hl : q.lookup = p.lookup)
    (hc : q.children = p.children) : RecordOK q r := by
  rw [RecordOK, hl, hc]
  exact h

theorem RecordOK.sessionLink {p : Proc} {r : ConnAddr} (h : RecordOK p r) :
    ∃ L, p.lookup r.linkfd = some L ∧ SessionLink p.traces L r.token :=
  let ⟨L, hL, _, w, hw, _, chan, app, L', hm, hp, hwr⟩ := h
  ⟨L, hL, w.trace, List.mem_cons_of_mem _ (List.mem_map_of_mem _ hw), chan, app, L', hm, hp, hwr⟩

theorem MultiInv.migrate {s s' : MultiState P} (hs : MultiInv c cp wd A s) (unlinkAtEnd : Bool)
    {it : MultiIter P} (hA : ∀ a : SockaddrUn P, a.sunFamily = it.control.stale.sunFamily →
      (0 : Byte) ∈ a.sunPath → A (a.sunFamily, a.sunPath))
    (h : Waypipe.migrate K c unlinkAtEnd it s = some s') : MultiInv c cp wd A s' := by
  unfold Waypipe.migrate at h
  obtain ⟨⟨ret, a'⟩, hr, rfl⟩ := Option.map_eq_some'.1 h
  dsimp only
  split_ifs with hret
  · exact hs
  obtain ⟨-, hf, hnul⟩ := (readSockaddr_eq_some hr).resolve_left fun h => hret h.1
  obtain ⟨hpass, hcur, hcm⟩ := updateConnections_passesOK K c it.replace s.current a' s.connmap
    unlinkAtEnd hs.owned (fun r hr => (hs.records r hr).1.sessionLink)
    (hs.token_ok _ (List.mem_cons_self _ _)).1 (hs.token_ok _ (List.mem_cons_self _ _)).2
  generalize updateConnections K c it.replace s.current a' s.connmap unlinkAtEnd s.proc = u
    at hpass hcur hcm
  obtain ⟨q, cur', cm', ret'⟩ := u
  dsimp only at hpass hcur hcm ⊢
  subst hcm
  obtain ⟨evs, ha, hct, hh⟩ := hpass.appends
  have hlk : q.lookup = s.proc.lookup := Proc.lookup_congr ha.fds_eq
  have hts : q.traces = (evs ++ s.proc.trace) :: s.proc.children.map Child.trace := by
    simp [Proc.traces, ha.trace_eq, ha.children_eq]
  have hmono : ∀ T ∈ s.proc.traces, ∃ T' ∈ q.traces, ∀ e ∈ T, e ∈ T' := by
    rw [hts]
    intro T hT
    rcases List.mem_cons.1 hT with rfl | hT
    · exact ⟨_, List.mem_cons_self _ _, fun e he => List.mem_append_right _ he⟩
    · exact ⟨T, List.mem_cons_of_mem _ hT, fun e he => he⟩
  refine ⟨hpass.owned, ?_, ?_, ?_, ?_, ?_, hs.links_nodup, hs.count_le, ?_, ?_, ?_, ?_, ?_, ?_, ?_,
    hs.token_header, ?_, ?_, ?_⟩
  · rw [ha.pid_eq, ha.children_eq]; exact hs.pids_nodup
  · rw [hlk]; exact hs.display_open
  · rw [hlk]; exact hs.control_open
  · rw [hlk]; exact hs.table
  · exact fun r hr => ⟨(hs.records r hr).1.congr hlk ha.children_eq, (hs.records r hr).2⟩
  · simp only [Proc.liveWorkers, ha.children_eq]; exact hs.live
  · rw [ha.children_eq]; exact hs.roles
  · rw [ha.children_eq]; exact hs.app_fds
  · rw [ha.children_eq]; exact hs.worker_fds
  · rw [ha.children_eq]; exact hs.handed_kind
  · rw [ha.children_eq, ha.fds_eq]; exact hs.handed_excl
  · rw [ha.trace_eq, List.flatMap_append, hh, hs.sup_unhanded]; rfl
  · intro T hT
    rw [hts] at hT
    rcases List.mem_cons.1 hT with rfl | hT
    · exact ⟨ha.trace_eq ▸ hpass.token.mono fun _ _ => SessionLink.mono hmono,
        ha.trace_eq ▸ hpass.written⟩
    · obtain ⟨h1, h2⟩ := hs.token_ok T (List.mem_cons_of_mem _ hT)
      exact ⟨h1.mono fun _ _ => SessionLink.mono hmono, h2⟩
  · rcases hcur with rfl | rfl
    · exact hs.current_ok
    · exact hA _ hf hnul
  · intro T hT
    rw [hts] at hT
    rcases List.mem_cons.1 hT with rfl | hT
    · intro t ht
      rcases List.mem_append.1 (List.filterMap_append _ _ _ ▸ ht) with ht | ht
      · rw [hct t ht]; exact hA a' hf hnul
      · exact hs.connects_ok _ (List.mem_cons_self _ _) t ht
    · exact hs.connects_ok T (List.mem_cons_of_mem _ hT)

end Steps

end Waypipe
