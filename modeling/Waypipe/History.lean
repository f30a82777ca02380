import Waypipe.Syscall

/-!
# What the processes know of, and the token discipline of a history

Two facts about histories carry the results on whole runs. First, every object anywhere in a
process, its history and its children was created by that process, and those it created have
serials below its next one (`Waypipe.Proc.Owned`), so the object the next call creates is new
to every table and every history. Each call of `Waypipe.Syscall` keeps this, because the
objects it leaves behind are old ones or the object it creates.

Second, the token discipline of a history (`Waypipe.TokenTrace`): a token is written only to
a channel `connect_to_socket` opened and only once, the token on a session's first channel has
`CONN_FIXED_BIT` set, `CONN_UPDATE_BIT` clear and `CONN_RECONNECTABLE_BIT` as the control pipe is
open, a replacement channel's token has a session's key and that session's header with
`CONN_UPDATE_BIT` set, and a channel is handed on only after its whole token was written.

## Main definitions

* `Waypipe.Event.objs`, `Waypipe.Proc.allObjs`, `Waypipe.Proc.Owned`, `Waypipe.Proc.FreshAbove`.
* `Waypipe.Connected`, `Waypipe.WroteWhole`, `Waypipe.Event.TokenOK`, `Waypipe.TokenTrace`,
  `Waypipe.AllWritten`, `Waypipe.SessionLink`.

## Main results

* `Waypipe.Proc.Owned.of_subset`: a call that keeps old objects and creates new ones keeps
  `Owned`; one lemma per call follows from it.
* `Waypipe.Proc.FreshAbove.nextObj_not_mem`: the next object is new.
-/

namespace Waypipe

/-- The open file descriptions an event names. -/
def Event.objs : Event → List Obj
  | .connect _ _ chan => chan.toList
  | .write o _ _ => [o]
  | .sendFd l o _ => [l, o]
  | .close _ o => [o]
  | .mainLoop chan second link => chan :: second :: link.toList
  | _ => []

/-- The objects a child holds or named. -/
def Child.objs (w : Child) : List Obj := w.fds.objs ++ w.trace.flatMap Event.objs

/-- The objects a process holds or named, and those its children hold or named. -/
def Proc.allObjs (p : Proc) : List Obj :=
  p.fds.objs ++ p.trace.flatMap Event.objs ++ p.children.flatMap Child.objs

/-- Every object `p` knows of was created by `p`, and those that are not inherited have serials
below the next one. -/
def Proc.Owned (p : Proc) : Prop :=
  ∀ o ∈ p.allObjs, o.creator = p.pid ∧ (o.kind = .inherited ∨ o.serial < p.serial)

/-- The objects `p` created itself and knows of have serials below its next one. A child's copy
meets this without being `Owned`: it keeps its parent's objects, created under another pid. -/
def Proc.FreshAbove (p : Proc) : Prop :=
  ∀ o ∈ p.allObjs, o.creator = p.pid → o.kind = .inherited ∨ o.serial < p.serial

/-- `checked_close` leaves one of these. -/
def Event.IsClose : Event → Prop
  | .close _ _ => True
  | .badFd _ => True
  | _ => False

/-- An event that opens, writes and hands on nothing. -/
def Event.IsQuiet : Event → Prop
  | .close _ _ | .badFd _ | .unlink _ | .fork _ | .mkfifo _ | .bind _ | .setenv _ _
  | .unsetenv _ | .execvp _ _ => True
  | _ => False

theorem Event.IsClose.isQuiet {e : Event} (h : e.IsClose) : e.IsQuiet := by
  cases e <;> trivial

theorem Event.mem_objs_of_mem_handed {e : Event} {o : Obj} (h : o ∈ e.handed) : o ∈ e.objs := by
  cases e <;> first | exact h | cases h

namespace FdTable

theorem mem_objs_of_mem_erase {t : FdTable} {o : Obj} {fd : Nat} (h : o ∈ objs (t.erase fd)) :
    o ∈ t.objs :=
  let ⟨fd', _, h'⟩ := mem_objs_erase.1 h
  mem_objs.2 ⟨fd', h'⟩

end FdTable

namespace Proc

variable (K : Kernel) {P : Platform} (p : Proc)

theorem mem_allObjs {o : Obj} :
    o ∈ p.allObjs ↔ o ∈ p.fds.objs ∨ (∃ e ∈ p.trace, o ∈ e.objs) ∨ ∃ w ∈ p.children, o ∈ w.objs := by
  simp [allObjs, or_assoc]

theorem mem_allObjs_emit {o : Obj} (e : Event) :
    o ∈ (p.emit e).allObjs ↔ o ∈ e.objs ∨ o ∈ p.allObjs := by
  simp only [allObjs, emit_fds, emit_trace, emit_children, List.flatMap_cons, List.mem_append]
  tauto

theorem mem_allObjs_of_lookup {fd : Int} {o : Obj} (h : p.lookup fd = some o) :
    o ∈ p.allObjs :=
  (p.mem_allObjs).2 (.inl (FdTable.mem_objs.2 ⟨_, (p.eq_natCast_of_lookup h).2⟩))

/-- A state with the same pid and a later serial, all of whose objects are old ones or were
created by the process below the new serial, stays `Owned`. -/
theorem Owned.of_subset {p q : Proc} (h : p.Owned) (hpid : q.pid = p.pid)
    (hs : p.serial ≤ q.serial)
    (hsub : ∀ o ∈ q.allObjs, o ∈ p.allObjs ∨ (o.creator = p.pid ∧ o.serial < q.serial)) :
    q.Owned := by
  intro o ho
  rcases hsub o ho with ho | ⟨hc, hlt⟩
  · obtain ⟨hc, hk⟩ := h o ho
    exact ⟨hpid ▸ hc, hk.imp_right (Nat.lt_of_lt_of_le · hs)⟩
  · exact ⟨hpid ▸ hc, .inr hlt⟩

/-- An object created at or after the next serial is new to everything an `Owned` process
knows of. -/
theorem Owned.not_mem {p : Proc} {o : Obj} (h : p.Owned) (hk : o.kind ≠ .inherited) (hs : p.serial ≤ o.serial) :
    o ∉ p.allObjs := fun hm =>
  ((h _ hm).2.elim hk (Nat.not_lt.2 hs))

theorem Owned.freshAbove {p : Proc} (h : p.Owned) : p.FreshAbove := fun o ho _ => (h o ho).2

/-- A state with the same pid and a later serial, all of whose objects are old ones or were
created by the process below the new serial, stays `FreshAbove`. -/
theorem FreshAbove.of_subset {p q : Proc} (h : p.FreshAbove) (hpid : q.pid = p.pid)
    (hs : p.serial ≤ q.serial)
    (hsub : ∀ o ∈ q.allObjs, o ∈ p.allObjs ∨ (o.creator = p.pid ∧ o.serial < q.serial)) :
    q.FreshAbove := by
  intro o ho hc
  rcases hsub o ho with ho | ⟨-, hlt⟩
  · exact (h o ho (hpid ▸ hc)).imp_right (Nat.lt_of_lt_of_le · hs)
  · exact .inr hlt

theorem FreshAbove.nextObj_not_mem {p : Proc} {k : ObjKind} (h : p.FreshAbove) (hk : k ≠ .inherited) :
    p.nextObj k ∉ p.allObjs := fun hm =>
  (h _ hm rfl).elim hk (Nat.lt_irrefl _)

/-- In particular nothing was written to it yet. -/
theorem write_nextObj_not_mem {k : ObjKind} (h : p.FreshAbove) (hk : k ≠ .inherited)
    (tok : ConnectionToken) (ret : Int) : Event.write (p.nextObj k) tok ret ∉ p.trace :=
  fun hm => h.nextObj_not_mem hk (p.mem_allObjs.2 (.inr (.inl ⟨_, hm, by simp [Event.objs]⟩)))

/-- `checked_close` only forgets objects. -/
theorem mem_allObjs_checkedClose {fd : Int} {o : Obj} (h : o ∈ (p.checkedClose fd).allObjs) :
    o ∈ p.allObjs := by
  unfold checkedClose at h
  split at h
  · rename_i o' ho'
    simp only [allObjs, List.flatMap_cons, List.mem_append, Event.objs, List.mem_singleton] at h
    rcases h with (h | h | h) | h
    · exact p.mem_allObjs.2 (.inl (FdTable.mem_objs_of_mem_erase h))
    · exact h ▸ p.mem_allObjs_of_lookup ho'
    · exact p.mem_allObjs.2 (.inr (.inl (by simpa using h)))
    · exact p.mem_allObjs.2 (.inr (.inr (by simpa using h)))
  · exact ((p.mem_allObjs_emit _).1 h).resolve_left (by simp [Event.objs])

/-- `open` and the like add one object, the next one. -/
theorem mem_allObjs_openObj {k : ObjKind} {o : Obj} (h : o ∈ (p.openObj K k).1.allObjs) :
    o = p.nextObj k ∨ o ∈ p.allObjs := by
  simp only [openObj, allObjs, List.mem_append, FdTable.mem_objs_insert (K.newFd_fresh p.fds)] at h
  simp only [allObjs, List.mem_append]
  tauto

theorem mem_allObjs_connectToSocket {ok r : Bool} {a : SockaddrUn P} {o : Obj}
    (h : o ∈ (p.connectToSocket K ok r a).1.allObjs) :
    o = p.nextObj (.channel r) ∨ o ∈ p.allObjs := by
  cases ok
  · exact .inr (((p.mem_allObjs_emit _).1 h).resolve_left (by simp [Event.objs]))
  · rcases ((Proc.mem_allObjs_emit _ _).1 h) with h | h
    · exact .inl (by simpa [Event.objs] using h)
    · exact p.mem_allObjs_openObj K h

theorem mem_allObjs_writeToken {ret fd : Int} {tok : ConnectionToken} {o : Obj}
    (h : o ∈ (p.writeToken ret fd tok).1.allObjs) : o ∈ p.allObjs := by
  cases ho : p.lookup fd with
  | none => simpa [writeToken, ho, mem_allObjs_emit, Event.objs] using h
  | some o' =>
    simp only [writeToken, ho, mem_allObjs_emit, Event.objs, List.mem_singleton] at h
    exact h.elim (· ▸ p.mem_allObjs_of_lookup ho) id

theorem mem_allObjs_sendOneFd {ok : Bool} {link fd : Int} {o : Obj}
    (h : o ∈ (p.sendOneFd ok link fd).1.allObjs) : o ∈ p.allObjs := by
  cases hl : p.lookup link with
  | none => simpa [sendOneFd, hl, mem_allObjs_emit, Event.objs] using h
  | some l =>
    cases ho : p.lookup fd with
    | none => simpa [sendOneFd, hl, ho, mem_allObjs_emit, Event.objs] using h
    | some o' =>
      simp only [sendOneFd, hl, ho, mem_allObjs_emit, Event.objs, List.mem_cons,
        List.mem_singleton, List.not_mem_nil, or_false] at h
      rcases h with (rfl | rfl) | h
      · exact p.mem_allObjs_of_lookup hl
      · exact p.mem_allObjs_of_lookup ho
      · exact h

theorem mem_allObjs_mainLoop {chan second link : Int} {o : Obj}
    (h : o ∈ (p.mainLoop chan second link).allObjs) : o ∈ p.allObjs := by
  cases hc : p.lookup chan with
  | none => simpa [mainLoop, hc, mem_allObjs_emit, Event.objs] using h
  | some c =>
    cases hs : p.lookup second with
    | none => simpa [mainLoop, hc, hs, mem_allObjs_emit, Event.objs] using h
    | some s =>
      simp only [mainLoop, hc, hs, mem_allObjs_emit, Event.objs, List.mem_cons] at h
      rcases h with (rfl | rfl | h) | h
      · exact p.mem_allObjs_of_lookup hc
      · exact p.mem_allObjs_of_lookup hs
      · obtain ⟨l, hl, rfl⟩ : ∃ l, p.lookup link = some l ∧ o = l := by
          cases hl : p.lookup link <;> simp_all
        exact p.mem_allObjs_of_lookup hl
      · exact h

theorem mem_allObjs_socketpair {o : Obj} (h : o ∈ (p.socketpair K true).1.allObjs) :
    o = p.nextObj (.pairEnd false) ∨ o = p.nextObj (.pairEnd true) ∨ o ∈ p.allObjs := by
  have ⟨h1, h2, hne⟩ := p.pairFds_fresh K
  have h2' : (p.pairFds K).2 ∉ p.fds.insert (p.pairFds K).1 (p.nextObj (.pairEnd false)) := by
    rw [AList.mem_insert]
    exact not_or.2 ⟨hne, h2⟩
  simp only [socketpair_true, allObjs, List.mem_append, FdTable.mem_objs_insert h2',
    FdTable.mem_objs_insert h1] at h
  simp only [allObjs, List.mem_append]
  tauto

theorem mem_allObjs_fillRandomKey {s : KeySeed} {tok : ConnectionToken} {o : Obj}
    (h : o ∈ (p.fillRandomKey K s tok).1.allObjs) : o = p.nextObj .urandom ∨ o ∈ p.allObjs := by
  unfold fillRandomKey at h
  split at h
  · exact p.mem_allObjs_openObj K (Proc.mem_allObjs_checkedClose _ h)
  · exact .inr h

/-- A child's copy knows of no more than its parent. -/
theorem mem_allObjs_forkCopy {o : Obj} (h : o ∈ (p.forkCopy K).allObjs) : o ∈ p.allObjs := by
  simp only [forkCopy, allObjs, List.mem_append, List.flatMap_nil, List.not_mem_nil,
    or_false] at h
  exact p.mem_allObjs.2 (h.imp_right fun h => .inl (by simpa using h))

/-- The parent after `fork` adds the objects its child ends with. -/
theorem mem_allObjs_forkParent {role : Role} {r : FdTable × List Event} {o : Obj}
    (ho : o ∈ (p.forkParent K role r).allObjs) :
    o ∈ p.allObjs ∨ o ∈ r.1.objs ++ r.2.flatMap Event.objs := by
  simp only [forkParent, allObjs, List.flatMap_cons, List.mem_append, Event.objs, List.not_mem_nil,
    false_or] at ho
  rcases ho with (h1 | h2) | (h3 | h4)
  · exact .inl (p.mem_allObjs.2 (.inl h1))
  · exact .inl (by simp only [allObjs, List.mem_append]; tauto)
  · exact .inr (by simpa [Child.objs] using h3)
  · exact .inl (by simp only [allObjs, List.mem_append]; tauto)

/-! ### Every call keeps `Owned` -/

variable {p}

theorem Owned.emit (h : p.Owned) {e : Event} (he : e.objs = []) : (p.emit e).Owned :=
  h.of_subset rfl le_rfl fun _ ho => .inl (((p.mem_allObjs_emit _).1 ho).resolve_left (by simp [he]))

theorem Owned.checkedClose (h : p.Owned) (fd : Int) : (p.checkedClose fd).Owned :=
  h.of_subset (p.checkedClose_pid fd) (p.checkedClose_serial fd).ge
    fun _ ho => .inl (p.mem_allObjs_checkedClose ho)

theorem Owned.openObj (h : p.Owned) (k : ObjKind) : (p.openObj K k).1.Owned :=
  h.of_subset rfl (Nat.le_succ _) fun _ ho => by
    rcases p.mem_allObjs_openObj K ho with rfl | ho
    exacts [.inr ⟨rfl, Nat.lt_succ_self _⟩, .inl ho]

theorem Owned.connectToSocket (h : p.Owned) (ok r : Bool) (a : SockaddrUn P) :
    (p.connectToSocket K ok r a).1.Owned := by
  cases ok
  · rw [connectToSocket_false]
    exact h.of_subset rfl le_rfl fun _ ho =>
      .inl (((p.mem_allObjs_emit _).1 ho).resolve_left (by simp [Event.objs]))
  · exact h.of_subset rfl (Nat.le_succ _) fun _ ho => by
      rcases p.mem_allObjs_connectToSocket K ho with rfl | ho
      exacts [.inr ⟨rfl, Nat.lt_succ_self _⟩, .inl ho]

theorem Owned.writeToken (h : p.Owned) (ret fd : Int) (tok : ConnectionToken) :
    (p.writeToken ret fd tok).1.Owned := by
  refine h.of_subset ?_ ?_ fun _ ho => .inl (p.mem_allObjs_writeToken ho) <;>
    unfold Proc.writeToken <;> split <;> simp

theorem Owned.sendOneFd (h : p.Owned) (ok : Bool) (link fd : Int) :
    (p.sendOneFd ok link fd).1.Owned := by
  refine h.of_subset ?_ ?_ fun _ ho => .inl (p.mem_allObjs_sendOneFd ho) <;>
    unfold Proc.sendOneFd <;> split <;> simp

theorem Owned.mainLoop (h : p.Owned) (chan second link : Int) :
    (p.mainLoop chan second link).Owned := by
  refine h.of_subset ?_ ?_ fun _ ho => .inl (p.mem_allObjs_mainLoop ho) <;>
    unfold Proc.mainLoop <;> split <;> simp

theorem Owned.socketpair (h : p.Owned) (ok : Bool) : (p.socketpair K ok).1.Owned := by
  cases ok
  · exact h
  · refine h.of_subset rfl (Nat.le_succ _) fun _ ho => ?_
    rcases p.mem_allObjs_socketpair K ho with rfl | rfl | ho
    · exact .inr ⟨rfl, Nat.lt_succ_self _⟩
    · exact .inr ⟨rfl, Nat.lt_succ_self _⟩
    · exact .inl ho

theorem Owned.fillRandomKey (h : p.Owned) (s : KeySeed) (tok : ConnectionToken) :
    (p.fillRandomKey K s tok).1.Owned := by
  unfold Proc.fillRandomKey
  split
  · exact (h.openObj K .urandom).checkedClose _
  · exact h

/-- `fill_random_key` adds at most the close of `/dev/urandom` to the history. -/
theorem appends_fillRandomKey (s : KeySeed) (tok : ConnectionToken) :
    ∃ evs, p.Appends (p.fillRandomKey K s tok).1 evs ∧ ∀ e ∈ evs, e.IsClose := by
  unfold Proc.fillRandomKey
  split
  · rw [checkedClose_openObj]
    exact ⟨[_], ⟨rfl, rfl, rfl, Nat.le_succ _, rfl⟩, by simp [Event.IsClose]⟩
  · exact ⟨[], ⟨rfl, rfl, rfl, le_rfl, rfl⟩, by simp⟩

theorem Owned.forkParent (h : p.Owned) (role : Role) {r : FdTable × List Event}
    (hr : ∀ o ∈ r.1.objs ++ r.2.flatMap Event.objs, o ∈ p.allObjs) :
    (p.forkParent K role r).Owned :=
  h.of_subset rfl le_rfl fun _ ho => .inl ((p.mem_allObjs_forkParent K ho).elim id (hr _))

/-! ### A child's copy -/

theorem childPid_ne_pid : p.childPid K ≠ p.pid := fun e =>
  K.newPid_fresh (p.pid :: p.children.map Child.pid) (List.mem_cons.2 (.inl e))

/-- A child's copy of an `Owned` process created none of the objects it knows of. -/
theorem Owned.freshAbove_forkCopy (h : p.Owned) : (p.forkCopy K).FreshAbove := fun o ho hc =>
  absurd (hc.symm.trans (h o (p.mem_allObjs_forkCopy K ho)).1) (p.childPid_ne_pid K)

theorem FreshAbove.emit (h : p.FreshAbove) {e : Event} (he : e.objs = []) : (p.emit e).FreshAbove :=
  h.of_subset rfl le_rfl fun _ ho => .inl (((p.mem_allObjs_emit _).1 ho).resolve_left (by simp [he]))

theorem FreshAbove.checkedClose (h : p.FreshAbove) (fd : Int) : (p.checkedClose fd).FreshAbove :=
  h.of_subset (p.checkedClose_pid fd) (p.checkedClose_serial fd).ge
    fun _ ho => .inl (p.mem_allObjs_checkedClose ho)

/-! ### Sequences of `checked_close` -/

/-- `q'` is `q` after `checked_close` of the descriptors `fds`: nothing else changed, and the
events are the closes, of objects `q` held. -/
structure Closes (q q' : Proc) (fds : List Int) : Prop where
  pid_eq : q'.pid = q.pid
  serial_eq : q'.serial = q.serial
  children_eq : q'.children = q.children
  lookup_eq : ∀ x, q'.lookup x = if x ∈ fds then none else q.lookup x
  trace_eq : ∃ evs, q'.trace = evs ++ q.trace ∧ ∀ e ∈ evs, e.IsClose ∧ ∀ o ∈ e.objs, o ∈ q.fds.objs

variable {q q' q'' : Proc} {fds fds' : List Int}

theorem Closes.refl (q : Proc) : q.Closes q [] :=
  ⟨rfl, rfl, rfl, fun _ => rfl, ⟨[], rfl, by simp⟩⟩

theorem closes_checkedClose (q : Proc) (fd : Int) : q.Closes (q.checkedClose fd) [fd] := by
  refine ⟨by simp, by simp, by simp, fun x => by simp [lookup_checkedClose], ?_⟩
  cases h : q.lookup fd with
  | none => exact ⟨[.badFd fd], by simp [checkedClose_of_lookup_none q h], by simp [Event.IsClose, Event.objs]⟩
  | some o =>
    refine ⟨[.close fd.toNat o], by simp [checkedClose_of_lookup q h], ?_⟩
    simp only [List.mem_singleton, forall_eq, Event.IsClose, Event.objs, true_and]
    exact FdTable.mem_objs.2 ⟨_, (q.eq_natCast_of_lookup h).2⟩

theorem mem_objs_of_lookup {x : Int} {o : Obj} (h : q.lookup x = some o) : o ∈ q.fds.objs :=
  FdTable.mem_objs.2 ⟨_, (q.eq_natCast_of_lookup h).2⟩

theorem mem_objs_iff {o : Obj} : o ∈ q.fds.objs ↔ ∃ x, q.lookup x = some o :=
  ⟨fun h => let ⟨n, hn⟩ := FdTable.mem_objs.1 h; ⟨n, hn⟩, fun ⟨_, hx⟩ => mem_objs_of_lookup hx⟩

theorem Closes.objs_sub (h : q.Closes q' fds) {o : Obj} (ho : o ∈ q'.fds.objs) : o ∈ q.fds.objs := by
  obtain ⟨n, hn⟩ := FdTable.mem_objs.1 ho
  have := h.lookup_eq n
  rw [lookup_natCast, hn] at this
  split_ifs at this
  exact mem_objs_of_lookup this.symm

theorem Closes.trans (h : q.Closes q' fds) (h' : q'.Closes q'' fds') : q.Closes q'' (fds ++ fds') := by
  obtain ⟨evs, he, hevs⟩ := h.trace_eq
  obtain ⟨evs', he', hevs'⟩ := h'.trace_eq
  refine ⟨h'.pid_eq.trans h.pid_eq, h'.serial_eq.trans h.serial_eq,
    h'.children_eq.trans h.children_eq, fun x => ?_, evs' ++ evs, by rw [he', he, List.append_assoc], ?_⟩
  · rw [h'.lookup_eq, h.lookup_eq]
    by_cases h1 : x ∈ fds <;> by_cases h2 : x ∈ fds' <;> simp [h1, h2]
  · intro e he
    rcases List.mem_append.1 he with he | he
    · exact ⟨(hevs' e he).1, fun o ho => h.objs_sub ((hevs' e he).2 o ho)⟩
    · exact hevs e he

theorem Closes.mem_allObjs (h : q.Closes q' fds) {o : Obj} (ho : o ∈ q'.allObjs) :
    o ∈ q.allObjs := by
  obtain ⟨evs, he, hevs⟩ := h.trace_eq
  rcases q'.mem_allObjs.1 ho with ho | ⟨e, hm, ho⟩ | ⟨w, hw, ho⟩
  · exact q.mem_allObjs.2 (.inl (h.objs_sub ho))
  · rw [he] at hm
    rcases List.mem_append.1 hm with hm | hm
    · exact q.mem_allObjs.2 (.inl ((hevs e hm).2 o ho))
    · exact q.mem_allObjs.2 (.inr (.inl ⟨e, hm, ho⟩))
  · exact q.mem_allObjs.2 (.inr (.inr ⟨w, h.children_eq ▸ hw, ho⟩))

theorem Owned.closes (hq : q.Owned) (h : q.Closes q' fds) : q'.Owned :=
  hq.of_subset h.pid_eq h.serial_eq.ge fun _ ho => .inl (h.mem_allObjs ho)

theorem FreshAbove.closes (hq : q.FreshAbove) (h : q.Closes q' fds) : q'.FreshAbove :=
  hq.of_subset h.pid_eq h.serial_eq.ge fun _ ho => .inl (h.mem_allObjs ho)

end Proc

/-! ### The token discipline -/

/-- `o` was opened by `connect_to_socket` in the history `h`. -/
def Connected (h : List Event) (o : Obj) : Prop := ∃ f path, Event.connect f path (some o) ∈ h

/-- A whole token was written to `o` in the history `h`. -/
def WroteWhole (h : List Event) (o : Obj) : Prop := ∃ tok, Event.write o tok tokenSize ∈ h

section Discipline

variable (c : TokenConsts) (rc : Bool) (S : Obj → ConnectionToken → Prop)

/-- The condition on an event given the history `h` before it, where `S l tok` says that `l` is
the supervisor's end of the link of a session whose first channel got `tok`. -/
def Event.TokenOK (h : List Event) : Event → Prop
  | .write o tok _ => Connected h o ∧ (∀ tok' ret, Event.write o tok' ret ∉ h) ∧
      (o.kind = .channel false → HeaderFlags c rc false tok.header) ∧
      (o.kind = .channel true → ∃ l tok₀, S l tok₀ ∧ tok.Replaces c tok₀)
  | .sendFd l o _ => WroteWhole h o ∧
      (o.kind = .channel true →
        ∃ tok₀ tok, S l tok₀ ∧ tok.Replaces c tok₀ ∧ Event.write o tok tokenSize ∈ h)
  | .mainLoop chan _ _ => WroteWhole h chan
  | _ => True

/-- Every event of a history meets `Event.TokenOK` given the events before it. -/
def TokenTrace : List Event → Prop
  | [] => True
  | e :: h => e.TokenOK c rc S h ∧ TokenTrace h

end Discipline

/-- Every channel opened in the history `T` got a token `write`. -/
def AllWritten (T : List Event) : Prop :=
  ∀ o, Connected T o → ∃ tok ret, Event.write o tok ret ∈ T

/-- In the histories `Ts`, `l` is the far end of the link of a session whose first channel got
the whole token `tok`: some process entered `main_interface_loop` with that channel and the
peer of `l`. -/
def SessionLink (Ts : List (List Event)) (l : Obj) (tok : ConnectionToken) : Prop :=
  ∃ T ∈ Ts, ∃ chan second l', Event.mainLoop chan second (some l') ∈ T ∧ l'.IsPeer l ∧
    Event.write chan tok tokenSize ∈ T

section Discipline

variable {c : TokenConsts} {rc : Bool} {S S' : Obj → ConnectionToken → Prop}

theorem Event.TokenOK.mono {h : List Event} {e : Event} (he : e.TokenOK c rc S h)
    (hS : ∀ l t, S l t → S' l t) : e.TokenOK c rc S' h := by
  cases e with
  | write o tok ret =>
    exact ⟨he.1, he.2.1, he.2.2.1, fun hk => let ⟨l, t, hl, ht⟩ := he.2.2.2 hk; ⟨l, t, hS l t hl, ht⟩⟩
  | sendFd l o ok =>
    exact ⟨he.1, fun hk => let ⟨t, t', hl, ht⟩ := he.2 hk; ⟨t, t', hS l t hl, ht⟩⟩
  | _ => exact he

/-- A wider session relation keeps the discipline. -/
theorem TokenTrace.mono {T : List Event} (h : TokenTrace c rc S T) (hS : ∀ l t, S l t → S' l t) :
    TokenTrace c rc S' T := by
  induction T with
  | nil => trivial
  | cons e T ih => exact ⟨h.1.mono hS, ih h.2⟩

end Discipline

/-! ### Events that open, write and hand on nothing -/

section Quiet

variable {c : TokenConsts} {rc : Bool} {S : Obj → ConnectionToken → Prop} {evs T : List Event}

theorem tokenTrace_append_quiet (h : ∀ e ∈ evs, e.IsQuiet) :
    TokenTrace c rc S (evs ++ T) ↔ TokenTrace c rc S T := by
  induction evs with
  | nil => rfl
  | cons e evs ih =>
    have he : e.TokenOK c rc S (evs ++ T) := by
      have := h e (List.mem_cons_self _ _)
      cases e <;> trivial
    rw [List.cons_append]
    exact (and_iff_right he).trans (ih fun e' h' => h e' (List.mem_cons_of_mem _ h'))

theorem mem_append_quiet (h : ∀ e ∈ evs, e.IsQuiet) {e : Event} (he : ¬e.IsQuiet) :
    e ∈ evs ++ T ↔ e ∈ T := by
  rw [List.mem_append, or_iff_right fun hm => he (h e hm)]

theorem allWritten_append_quiet (h : ∀ e ∈ evs, e.IsQuiet) :
    AllWritten (evs ++ T) ↔ AllWritten T := by
  have hc : ∀ f path o, Event.connect f path o ∈ evs ++ T ↔ Event.connect f path o ∈ T :=
    fun _ _ _ => mem_append_quiet h id
  have hw : ∀ o tok ret, Event.write o tok ret ∈ evs ++ T ↔ Event.write o tok ret ∈ T :=
    fun _ _ _ => mem_append_quiet h id
  simp only [AllWritten, Connected, hc, hw]

theorem connectTarget_append_quiet (h : ∀ e ∈ evs, e.IsQuiet) :
    (evs ++ T).filterMap Event.connectTarget = T.filterMap Event.connectTarget := by
  rw [List.filterMap_append, List.filterMap_eq_nil_iff.2 fun e he => ?_, List.nil_append]
  have := h e he
  cases e <;> first | rfl | exact this.elim

theorem handed_append_quiet (h : ∀ e ∈ evs, e.IsQuiet) :
    (evs ++ T).flatMap Event.handed = T.flatMap Event.handed := by
  rw [List.flatMap_append, List.flatMap_eq_nil_iff.2 fun e he => ?_, List.nil_append]
  have := h e he
  cases e <;> first | rfl | exact this.elim

theorem tokenTrace_of_quiet (h : ∀ e ∈ T, e.IsQuiet) : TokenTrace c rc S T := by
  simpa using (tokenTrace_append_quiet h (T := [])).2 trivial

theorem allWritten_of_quiet (h : ∀ e ∈ T, e.IsQuiet) : AllWritten T := by
  simpa using (allWritten_append_quiet h (T := [])).2 fun _ ⟨_, _, hm⟩ => nomatch hm

theorem connectTarget_of_quiet (h : ∀ e ∈ T, e.IsQuiet) : T.filterMap Event.connectTarget = [] := by
  simpa using connectTarget_append_quiet h (T := [])

theorem handed_of_quiet (h : ∀ e ∈ T, e.IsQuiet) : T.flatMap Event.handed = [] := by
  simpa using handed_append_quiet h (T := [])

end Quiet

/-- The session relation only grows when the histories only grow. -/
theorem SessionLink.mono {Ts Ts' : List (List Event)} (h : ∀ T ∈ Ts, ∃ T' ∈ Ts', ∀ e ∈ T, e ∈ T')
    {l : Obj} {tok : ConnectionToken} (hl : SessionLink Ts l tok) : SessionLink Ts' l tok :=
  let ⟨T, hT, chan, second, l', hm, hp, hw⟩ := hl
  let ⟨T', hT', hsub⟩ := h T hT
  ⟨T', hT', chan, second, l', hsub _ hm, hp, hsub _ hw⟩

end Waypipe
