import Mathlib.Data.List.Perm.Basic

/-!
# The thread pool's queue, and the main thread's wait

The transfer engine hands its compression and diff work to a thread pool: `collect_update`
queues one task per block, the pool's worker threads take tasks from the head of the queue,
and the main thread, in `wait_for_thread_pool`, takes tasks too until the queue is drained and
no task is running. Only then may `finish_update` clear the shadow's damage.

The queue is shared state under `work_mutex`. Each critical section is one atomic step, and
`run_task`, which runs outside the mutex, is a step of its own; an interleaving is any list of
steps, so what is proved over every list holds under every schedule. The main thread's steps
are `wait_for_thread_pool`'s (`test/fd_mirror.c`, lines 200–236). The workers' steps and the
pushes follow the pool's description (spec §4.D), as the pool's own code is not under `src/`:
a worker takes the head unless it is `TASK_STOP`, and leaves when it sees `TASK_STOP`. A task
is never removed from the queue, so an index names one queued task for the whole run.

## Main definitions

* `Waypipe.Pool`: `queue`, `queue_start` and `queue_in_progress` of a `struct thread_pool`.
* `Waypipe.waitForThreadPoolPass`: the locked part of one pass of `wait_for_thread_pool`.
* `Waypipe.PoolSys`, `Waypipe.PoolSys.step`: the pool, where each thread is, and the tasks run
  so far; one step of one thread.
* `Waypipe.PoolSys.Inv`: the invariant of every reachable state.

## Main results

* `Waypipe.PoolSys.inv_of_run`: every interleaving keeps the invariant: `queue_in_progress`
  counts the threads holding a task, and every task before `queue_start` was taken exactly
  once, and is work.
* `Waypipe.waitForThreadPool_barrier`: when `wait_for_thread_pool` returns, every task queued so
  far has run exactly once and no thread is still running one.
* `Waypipe.waitForThreadPool_can_return`: with no `TASK_STOP` queued, from every reachable state
  the threads can be scheduled so that the wait returns.
* `Waypipe.waitForThreadPool_stuck_at_stop`: once `TASK_STOP` is at the head of the queue, the
  wait never returns.
* `Waypipe.runs_in_queue_order`: with no worker, tasks run in the order they were queued.
-/

namespace Waypipe

/-! ### The queue -/

/-- The type of a queued task (`task_data.type`) as the pool looks at it: `TASK_STOP`, which
tells the workers to leave, or work (a compression or diff task). -/
inductive TaskType where
  | stop
  | work
  deriving DecidableEq, Repr

/-- The queue of a `struct thread_pool`: the tasks queued so far (`queue[0 .. queue_end)`),
`queue_start`, the index of the next task to take, and `queue_in_progress`. -/
structure Pool where
  queue : List TaskType
  queueStart : Nat
  queueInProgress : Nat
  start_le : queueStart ≤ queue.length

namespace Pool

/-- `queue_end`. -/
def queueEnd (p : Pool) : Nat := p.queue.length

/-- `queue[queue_start]`, when the queue is not empty. -/
def head (p : Pool) : Option TaskType := p.queue[p.queueStart]?

/-- Taking the task at `queue_start`: `queue_start++; queue_in_progress++`. -/
def take (p : Pool) (h : p.queueStart < p.queueEnd) : Pool :=
  { p with queueStart := p.queueStart + 1, queueInProgress := p.queueInProgress + 1, start_le := h }

/-- Taking the head of the queue unless it is `TASK_STOP` (lines 214–221; a worker takes a task
the same way): its index, and the pool after the take. -/
def pop (p : Pool) : Option (Nat × Pool) :=
  if h : p.queueStart < p.queueEnd then
    if p.queue.get ⟨p.queueStart, h⟩ != .stop then some (p.queueStart, p.take h) else none
  else none

/-- Queueing a task at `queue_end`, as `collect_update` does. -/
def push (p : Pool) (t : TaskType) : Pool :=
  { p with
    queue := p.queue ++ [t]
    start_le := by have := p.start_le; simp only [List.length_append]; omega }

/-- `queue_in_progress--` once a task has run (lines 227–229). -/
def release (p : Pool) : Pool := { p with queueInProgress := p.queueInProgress - 1 }

/-- `pop` takes the head exactly when it is work. -/
theorem pop_eq_none {p : Pool} : p.pop = none ↔ p.head ≠ some .work := by
  unfold pop head
  by_cases h : p.queueStart < p.queueEnd
  · rw [dif_pos h, List.getElem?_eq_getElem h, List.get_eq_getElem]
    cases hq : p.queue[p.queueStart] <;> simp
  · rw [dif_neg h, List.getElem?_eq_none (Nat.le_of_not_lt h)]
    simp

theorem pop_eq_some {p p' : Pool} {i : Nat} (h : p.pop = some (i, p')) :
    p.head = some .work ∧ i = p.queueStart ∧ p'.queue = p.queue ∧
      p'.queueStart = p.queueStart + 1 ∧ p'.queueInProgress = p.queueInProgress + 1 := by
  have hw : p.head = some .work := by
    by_contra hn
    simp [pop_eq_none.2 hn] at h
  unfold pop at h
  split at h
  · split at h
    · cases h
      exact ⟨hw, rfl, rfl, rfl, rfl⟩
    · cases h
  · cases h

theorem pop_isSome {p : Pool} (hw : p.head = some .work) : ∃ i q, p.pop = some (i, q) := by
  cases h : p.pop with
  | none => exact absurd hw (pop_eq_none.1 h)
  | some r => exact ⟨r.1, r.2, rfl⟩

end Pool

/-- The locked part of one pass of `wait_for_thread_pool`'s loop (lines 211–222): whether the
pool was drained when the pass began (`done`), and the task taken to run on the main thread. -/
def waitForThreadPoolPass (p : Pool) : Bool × Option (Nat × Pool) :=
  (p.queueEnd == p.queueStart && p.queueInProgress == 0, p.pop)

/-! ### The threads -/

/-- Where a thread of the pool is. Thread 0 is the main thread (the `&pool->threads[0]` that
`wait_for_thread_pool` runs tasks as); the others are workers. -/
inductive ThreadPc where
  /-- a worker waiting for a task; the main thread outside `wait_for_thread_pool` -/
  | free
  /-- the main thread at the top of `wait_for_thread_pool`'s loop -/
  | polling
  /-- took `queue[i]` and has not run it yet -/
  | holding (i : Nat)
  /-- `run_task` on `queue[i]` returned; `queue_in_progress` is not decremented yet -/
  | ran (i : Nat)
  /-- a worker that saw `TASK_STOP` and left -/
  | exited
  deriving DecidableEq, Repr

namespace ThreadPc

/-- Counted in `queue_in_progress`: between the take and the decrement. -/
def busy : ThreadPc → Bool
  | holding _ | ran _ => true
  | _ => false

/-- The task taken and not yet run. -/
def held : ThreadPc → Option Nat
  | holding i => some i
  | _ => none

/-- Inside `wait_for_thread_pool`, for the main thread. -/
def inWait : ThreadPc → Bool
  | polling | holding _ | ran _ => true
  | _ => false

/-- Took a task and has not run it yet. -/
def holds : ThreadPc → Bool
  | holding _ => true
  | _ => false

theorem held_eq_none {t : ThreadPc} (h : t.busy = false) : t.held = none := by
  cases t <;> first | rfl | cases h

end ThreadPc

/-- The pool, where each thread is, and every `run_task` so far, newest first: the thread and the
index of the task it ran. -/
structure PoolSys where
  pool : Pool
  threads : List ThreadPc
  runs : List (Nat × Nat)

/-- One step of one thread. -/
inductive PoolAction where
  /-- the main thread, outside the wait, queues a task -/
  | push (t : TaskType)
  /-- the main thread calls `wait_for_thread_pool` -/
  | enter
  /-- the main thread's locked pass of the loop -/
  | pass
  /-- worker `k` takes the head of the queue -/
  | take (k : Nat)
  /-- worker `k` sees `TASK_STOP` at the head and leaves -/
  | stop (k : Nat)
  /-- thread `k` runs the task it took -/
  | run (k : Nat)
  /-- thread `k` decrements `queue_in_progress` -/
  | release (k : Nat)
  deriving DecidableEq, Repr

/-- Where a release sends a thread: the main thread back to the top of its loop, a worker back
to waiting for work. -/
def releasedPc (k : Nat) : ThreadPc := if k = 0 then .polling else .free

namespace PoolSys

/-- The pool as `setup_thread_pool` leaves it: an empty queue, and every thread free. -/
def init (workers : Nat) : PoolSys :=
  ⟨⟨[], 0, 0, le_rfl⟩, List.replicate (workers + 1) .free, []⟩

/-- One step; `none` when thread and action do not match (a worker blocks on an empty queue).
The main thread's `.enter`, `.pass`, `.run 0` and `.release 0` are `wait_for_thread_pool`'s
(lines 200–236): on a pass that neither finds the pool drained nor takes a task, the main thread
sleeps and goes round again (`usleep(100)`), which changes nothing. Modelled from the spec
(§4.D), as the pool's code is not under `src/`: the workers' `.take` and `.stop`, their `.run`
and `.release`, and `.push`. -/
def step (s : PoolSys) : PoolAction → Option PoolSys
  | .push t => if s.threads[0]? = some .free then some { s with pool := s.pool.push t } else none
  | .enter =>
    if s.threads[0]? = some .free then some { s with threads := s.threads.set 0 .polling }
    else none
  | .pass =>
    if s.threads[0]? = some .polling then
      match waitForThreadPoolPass s.pool with
      | (_, some (i, p)) => some { s with pool := p, threads := s.threads.set 0 (.holding i) }
      | (true, none) => some { s with threads := s.threads.set 0 .free }
      | (false, none) => some s
    else none
  | .take k =>
    if k ≠ 0 ∧ s.threads[k]? = some .free then
      match s.pool.pop with
      | some (i, p) => some { s with pool := p, threads := s.threads.set k (.holding i) }
      | none => none
    else none
  | .stop k =>
    if k ≠ 0 ∧ s.threads[k]? = some .free ∧ s.pool.head = some .stop then
      some { s with threads := s.threads.set k .exited }
    else none
  | .run k =>
    match s.threads[k]? with
    | some (.holding i) => some { s with threads := s.threads.set k (.ran i), runs := (k, i) :: s.runs }
    | _ => none
  | .release k =>
    match s.threads[k]? with
    | some (.ran _) => some { s with pool := s.pool.release, threads := s.threads.set k (releasedPc k) }
    | _ => none

/-- A schedule: the steps in order, `none` as soon as one cannot be taken. -/
def run (s : PoolSys) : List PoolAction → Option PoolSys
  | [] => some s
  | a :: acts => (s.step a).bind (·.run acts)

/-- What every step keeps, every schedule keeps. -/
theorem run_induction {Q : PoolSys → Prop} (hstep : ∀ s a s', Q s → s.step a = some s' → Q s') :
    ∀ (acts : List PoolAction) (s s' : PoolSys), Q s → s.run acts = some s' → Q s'
  | [], _, _, hs, h => by cases h; exact hs
  | a :: acts, s, s', hs, h => by
    obtain ⟨t, ht, h⟩ := Option.bind_eq_some.1 h
    exact run_induction hstep acts t s' (hstep s a t hs ht) h

end PoolSys

/-! ### Setting one thread -/

section SetLemmas

variable {α β : Type*}

theorem countP_set_add (p : α → Bool) :
    ∀ {l : List α} {k : Nat} {y : α} (x : α), l[k]? = some y →
      (l.set k x).countP p + (if p y then 1 else 0) = l.countP p + (if p x then 1 else 0)
  | [], _, _, _, h => by cases h
  | a :: l, 0, y, x, h => by
    rw [List.getElem?_cons_zero, Option.some.injEq] at h
    subst h
    simp only [List.set_cons_zero, List.countP_cons]
    omega
  | a :: l, k + 1, y, x, h => by
    have := countP_set_add p x (l := l) ((List.getElem?_cons_succ ..).symm.trans h)
    simp only [List.set_cons_succ, List.countP_cons]
    omega

theorem filterMap_cons_toList (f : α → Option β) (a : α) (l : List α) :
    (a :: l).filterMap f = (f a).toList ++ l.filterMap f := by
  cases h : f a <;> simp [List.filterMap_cons, h]

theorem filterMap_set_perm [DecidableEq β] (f : α → Option β) :
    ∀ {l : List α} {k : Nat} {y : α} (x : α), l[k]? = some y →
      ((l.set k x).filterMap f ++ (f y).toList).Perm (l.filterMap f ++ (f x).toList)
  | [], _, _, _, h => by cases h
  | a :: l, 0, y, x, h => by
    rw [List.getElem?_cons_zero, Option.some.injEq] at h
    subst h
    refine List.perm_iff_count.2 fun v => ?_
    simp only [List.set_cons_zero, filterMap_cons_toList, List.count_append]
    omega
  | a :: l, k + 1, y, x, h => by
    simpa only [List.set_cons_succ, filterMap_cons_toList, List.append_assoc] using
      (filterMap_set_perm f x ((List.getElem?_cons_succ ..).symm.trans h)).append_left (f a).toList

end SetLemmas

/-! ### The invariant -/

namespace PoolSys

/-- The tasks taken so far: those held and not yet run, then those run. -/
def taken (s : PoolSys) : List Nat := s.threads.filterMap ThreadPc.held ++ s.runs.map Prod.snd

/-- The invariant of every reachable state. -/
structure Inv (s : PoolSys) : Prop where
  /-- `queue_in_progress` counts the threads between a take and its decrement. -/
  inProgress : s.pool.queueInProgress = s.threads.countP ThreadPc.busy
  /-- Every task before `queue_start` was taken exactly once, and no other task was. -/
  taken : s.taken.Perm (List.range s.pool.queueStart)
  /-- Every task taken is work. -/
  work : ∀ i ∈ s.taken, s.pool.queue[i]? = some .work

theorem inv_init (workers : Nat) : (init workers).Inv where
  inProgress := by simp [init, List.countP_replicate, ThreadPc.busy]
  taken := by simp [taken, init, List.filterMap_replicate, ThreadPc.held]
  work := by simp [taken, init, List.filterMap_replicate, ThreadPc.held]

theorem Inv.lt_of_mem_taken {s : PoolSys} (hs : s.Inv) {i : Nat} (hi : i ∈ s.taken) :
    i < s.pool.queueStart :=
  List.mem_range.1 (hs.taken.subset hi)

theorem Inv.lt_queueEnd_of_mem_taken {s : PoolSys} (hs : s.Inv) {i : Nat} (hi : i ∈ s.taken) :
    i < s.pool.queue.length :=
  (hs.lt_of_mem_taken hi).trans_le s.pool.start_le

/-- Moving thread `k` from `y` to `x`, where `x` is busy exactly when `y` is: `queue_in_progress`
still counts the busy threads. -/
theorem countP_busy_set {l : List ThreadPc} {k : Nat} {y x : ThreadPc} (hk : l[k]? = some y)
    (hb : x.busy = y.busy) : (l.set k x).countP ThreadPc.busy = l.countP ThreadPc.busy := by
  have := countP_set_add ThreadPc.busy x hk
  rw [hb] at this
  omega

/-- Setting thread `k` from `y` to `x` changes the held tasks by `y`'s and `x`'s. -/
theorem held_set_perm {l : List ThreadPc} {k : Nat} {y : ThreadPc} (x : ThreadPc)
    (hk : l[k]? = some y) :
    ((l.set k x).filterMap ThreadPc.held ++ y.held.toList).Perm
      (l.filterMap ThreadPc.held ++ x.held.toList) :=
  filterMap_set_perm _ x hk

/-- A step that moves thread `k` between two states that hold no task, with the same
`queue_in_progress` count, and leaves the queue's indices and the runs alone. -/
theorem Inv.set_idle {s : PoolSys} (hs : s.Inv) {k : Nat} {y x : ThreadPc}
    (hk : s.threads[k]? = some y) (hb : x.busy = y.busy) (hyh : y.held = none)
    (hxh : x.held = none) : Inv ⟨s.pool, s.threads.set k x, s.runs⟩ := by
  have hF := held_set_perm x hk
  rw [hyh, hxh] at hF
  have ht : (PoolSys.taken ⟨s.pool, s.threads.set k x, s.runs⟩).Perm s.taken := by
    simpa using hF.append_right (s.runs.map Prod.snd)
  exact ⟨hs.inProgress.trans (countP_busy_set hk hb).symm, ht.trans hs.taken,
    fun i hi => hs.work i (ht.subset hi)⟩

/-- A take by thread `k`, from a state that holds no task, keeps the invariant. -/
theorem Inv.set_take {s : PoolSys} (hs : s.Inv) {k : Nat} {y : ThreadPc}
    (hk : s.threads[k]? = some y) (hy : y.busy = false) (hyh : y.held = none) {i : Nat}
    {p' : Pool} (hp : s.pool.pop = some (i, p')) :
    Inv ⟨p', s.threads.set k (.holding i), s.runs⟩ := by
  obtain ⟨hw, rfl, hq, hst, hin⟩ := Pool.pop_eq_some hp
  have hF := held_set_perm (.holding s.pool.queueStart) hk
  rw [hyh] at hF
  have ht : (PoolSys.taken ⟨p', s.threads.set k (.holding s.pool.queueStart), s.runs⟩).Perm
      (s.pool.queueStart :: s.taken) := by
    have hF' : ((s.threads.set k (.holding s.pool.queueStart)).filterMap ThreadPc.held).Perm
        (s.threads.filterMap ThreadPc.held ++ [s.pool.queueStart]) := by
      simpa [ThreadPc.held] using hF
    refine (hF'.append_right (s.runs.map Prod.snd)).trans ?_
    simpa only [taken, List.append_assoc, List.singleton_append] using List.perm_middle
  have hc := countP_set_add ThreadPc.busy (.holding s.pool.queueStart) hk
  rw [hy] at hc
  simp only [ThreadPc.busy, Bool.false_eq_true, if_false, if_true] at hc
  refine ⟨?_, ?_, fun j hj => ?_⟩
  · show p'.queueInProgress = (s.threads.set k _).countP ThreadPc.busy
    rw [hin, hs.inProgress]
    omega
  · rw [hst, List.range_succ]
    exact ht.trans ((hs.taken.cons _).trans (List.perm_append_singleton _ _).symm)
  · rw [hq]
    rcases List.mem_cons.1 (ht.subset hj) with rfl | hj
    exacts [hw, hs.work j hj]

/-- A run by thread `k` moves its task from held to run. -/
theorem Inv.set_run {s : PoolSys} (hs : s.Inv) {k i : Nat}
    (hk : s.threads[k]? = some (.holding i)) :
    Inv ⟨s.pool, s.threads.set k (.ran i), (k, i) :: s.runs⟩ := by
  have ht : (PoolSys.taken ⟨s.pool, s.threads.set k (.ran i), (k, i) :: s.runs⟩).Perm s.taken := by
    simpa only [taken, List.map_cons, List.append_assoc, List.singleton_append, ThreadPc.held,
      Option.toList, List.append_nil] using (held_set_perm (.ran i) hk).append_right
        (s.runs.map Prod.snd)
  exact ⟨hs.inProgress.trans (countP_busy_set (x := .ran i) hk rfl).symm, ht.trans hs.taken,
    fun j hj => hs.work j (ht.subset hj)⟩

theorem releasedPc_busy (k : Nat) : (releasedPc k).busy = false := by
  unfold releasedPc; split <;> rfl

theorem releasedPc_held (k : Nat) : (releasedPc k).held = none := by
  unfold releasedPc; split <;> rfl

/-- A release by thread `k` decrements `queue_in_progress` as the thread stops being busy. -/
theorem Inv.set_release {s : PoolSys} (hs : s.Inv) {k i : Nat}
    (hk : s.threads[k]? = some (.ran i)) :
    Inv ⟨s.pool.release, s.threads.set k (releasedPc k), s.runs⟩ := by
  have hF := held_set_perm (releasedPc k) hk
  rw [releasedPc_held] at hF
  have ht : (PoolSys.taken ⟨s.pool.release, s.threads.set k (releasedPc k), s.runs⟩).Perm
      s.taken := by
    simpa [ThreadPc.held] using hF.append_right (s.runs.map Prod.snd)
  have hc := countP_set_add ThreadPc.busy (releasedPc k) hk
  rw [releasedPc_busy] at hc
  simp only [ThreadPc.busy, Bool.false_eq_true, if_false, if_true] at hc
  refine ⟨?_, ht.trans hs.taken, fun j hj => hs.work j (ht.subset hj)⟩
  show s.pool.queueInProgress - 1 = (s.threads.set k _).countP ThreadPc.busy
  rw [hs.inProgress]
  omega

/-! ### What each step does -/

theorem step_push_eq {s s' : PoolSys} {t : TaskType} (h : s.step (.push t) = some s') :
    s.threads[0]? = some .free ∧ s' = ⟨s.pool.push t, s.threads, s.runs⟩ := by
  simp only [PoolSys.step, Option.ite_none_right_eq_some, Option.some.injEq] at h
  exact ⟨h.1, h.2.symm⟩

theorem step_enter_eq {s s' : PoolSys} (h : s.step .enter = some s') :
    s.threads[0]? = some .free ∧ s' = ⟨s.pool, s.threads.set 0 .polling, s.runs⟩ := by
  simp only [PoolSys.step, Option.ite_none_right_eq_some, Option.some.injEq] at h
  exact ⟨h.1, h.2.symm⟩

/-- A pass takes the head, or finds the pool drained and leaves the loop, or sleeps. -/
theorem step_pass_eq {s s' : PoolSys} (h : s.step .pass = some s') :
    s.threads[0]? = some .polling ∧
      ((∃ i p, s.pool.pop = some (i, p) ∧ s' = ⟨p, s.threads.set 0 (.holding i), s.runs⟩) ∨
        (s.pool.pop = none ∧ s.pool.queueEnd = s.pool.queueStart ∧ s.pool.queueInProgress = 0 ∧
          s' = ⟨s.pool, s.threads.set 0 .free, s.runs⟩) ∨
        (s.pool.pop = none ∧ ¬(s.pool.queueEnd = s.pool.queueStart ∧ s.pool.queueInProgress = 0) ∧
          s' = s)) := by
  simp only [PoolSys.step, Option.ite_none_right_eq_some] at h
  obtain ⟨h0, h⟩ := h
  refine ⟨h0, ?_⟩
  split at h <;> cases h <;> rename_i hp <;>
    simp only [waitForThreadPoolPass, Prod.mk.injEq, Bool.and_eq_true, beq_iff_eq,
      Bool.and_eq_false_iff, beq_eq_false_iff_ne, ne_eq] at hp
  · exact .inl ⟨_, _, hp.2, rfl⟩
  · exact .inr (.inl ⟨hp.2, hp.1.1, hp.1.2, rfl⟩)
  · exact .inr (.inr ⟨hp.2, by tauto, rfl⟩)

theorem step_take_eq {s s' : PoolSys} {k : Nat} (h : s.step (.take k) = some s') :
    k ≠ 0 ∧ s.threads[k]? = some .free ∧
      ∃ i p, s.pool.pop = some (i, p) ∧ s' = ⟨p, s.threads.set k (.holding i), s.runs⟩ := by
  simp only [PoolSys.step, Option.ite_none_right_eq_some] at h
  obtain ⟨⟨hk0, hk⟩, h⟩ := h
  split at h <;> cases h
  exact ⟨hk0, hk, _, _, ‹_›, rfl⟩

theorem step_stop_eq {s s' : PoolSys} {k : Nat} (h : s.step (.stop k) = some s') :
    k ≠ 0 ∧ s.threads[k]? = some .free ∧ s.pool.head = some .stop ∧
      s' = ⟨s.pool, s.threads.set k .exited, s.runs⟩ := by
  simp only [PoolSys.step, Option.ite_none_right_eq_some, Option.some.injEq] at h
  exact ⟨h.1.1, h.1.2.1, h.1.2.2, h.2.symm⟩

theorem step_run_eq {s s' : PoolSys} {k : Nat} (h : s.step (.run k) = some s') :
    ∃ i, s.threads[k]? = some (.holding i) ∧
      s' = ⟨s.pool, s.threads.set k (.ran i), (k, i) :: s.runs⟩ := by
  rw [PoolSys.step] at h
  split at h <;> cases h
  exact ⟨_, ‹_›, rfl⟩

theorem step_release_eq {s s' : PoolSys} {k : Nat} (h : s.step (.release k) = some s') :
    ∃ i, s.threads[k]? = some (.ran i) ∧
      s' = ⟨s.pool.release, s.threads.set k (releasedPc k), s.runs⟩ := by
  rw [PoolSys.step] at h
  split at h <;> cases h
  exact ⟨_, ‹_›, rfl⟩

/-! ### Every step keeps the invariant -/

theorem Inv.step {s s' : PoolSys} (hs : s.Inv) {a : PoolAction} (h : s.step a = some s') :
    s'.Inv := by
  cases a with
  | push t =>
    obtain ⟨-, rfl⟩ := step_push_eq h
    refine ⟨hs.inProgress, hs.taken, fun i hi => ?_⟩
    rw [Pool.push, List.getElem?_append_left (hs.lt_queueEnd_of_mem_taken hi)]
    exact hs.work i hi
  | enter =>
    obtain ⟨h0, rfl⟩ := step_enter_eq h
    exact hs.set_idle h0 rfl rfl rfl
  | pass =>
    obtain ⟨h0, ⟨i, p, hp, rfl⟩ | ⟨-, -, -, rfl⟩ | ⟨-, -, rfl⟩⟩ := step_pass_eq h
    · exact hs.set_take h0 rfl rfl hp
    · exact hs.set_idle h0 rfl rfl rfl
    · exact hs
  | take k =>
    obtain ⟨-, hk, i, p, hp, rfl⟩ := step_take_eq h
    exact hs.set_take hk rfl rfl hp
  | stop k =>
    obtain ⟨-, hk, -, rfl⟩ := step_stop_eq h
    exact hs.set_idle hk rfl rfl rfl
  | run k =>
    obtain ⟨i, hk, rfl⟩ := step_run_eq h
    exact hs.set_run hk
  | release k =>
    obtain ⟨i, hk, rfl⟩ := step_release_eq h
    exact hs.set_release hk

/-- Two work tasks and one worker: the worker takes the first task, the main thread enters the
wait and takes the second, both run and release. -/
def twoTaskRun : List PoolAction :=
  [.push .work, .push .work, .enter, .take 1, .pass, .run 0, .run 1, .release 1, .release 0]

theorem getElem?_set_of_getElem? {α : Type*} {l : List α} {k : Nat} {y : α} (x : α)
    (h : l[k]? = some y) : (l.set k x)[k]? = some x :=
  List.getElem?_set_self (List.getElem?_eq_some_iff.1 h).1

theorem step_run_of {s : PoolSys} {k i : Nat} (hk : s.threads[k]? = some (.holding i)) :
    s.step (.run k) = some ⟨s.pool, s.threads.set k (.ran i), (k, i) :: s.runs⟩ := by
  rw [PoolSys.step, hk]

theorem step_release_of {s : PoolSys} {k i : Nat} (hk : s.threads[k]? = some (.ran i)) :
    s.step (.release k) = some ⟨s.pool.release, s.threads.set k (releasedPc k), s.runs⟩ := by
  rw [PoolSys.step, hk]

theorem step_pass_of_pop {s : PoolSys} {i : Nat} {p : Pool} (h0 : s.threads[0]? = some .polling)
    (hp : s.pool.pop = some (i, p)) :
    s.step .pass = some ⟨p, s.threads.set 0 (.holding i), s.runs⟩ := by
  simp [PoolSys.step, h0, waitForThreadPoolPass, hp]

theorem step_pass_of_drained {s : PoolSys} (h0 : s.threads[0]? = some .polling)
    (he : s.pool.queueEnd = s.pool.queueStart) (hi : s.pool.queueInProgress = 0) :
    s.step .pass = some ⟨s.pool, s.threads.set 0 .free, s.runs⟩ := by
  have hp : s.pool.pop = none := by simp [Pool.pop, he]
  simp [PoolSys.step, h0, waitForThreadPoolPass, hp, he, hi]

/-! ### When the wait returns -/

/-- The pass after which the main thread is out of `wait_for_thread_pool` found the pool
drained. -/
theorem step_pass_returned {s s' : PoolSys} (h : s.step .pass = some s')
    (hr : s'.threads[0]? = some .free) :
    s.pool.queueEnd = s.pool.queueStart ∧ s.pool.queueInProgress = 0 ∧
      s' = ⟨s.pool, s.threads.set 0 .free, s.runs⟩ := by
  obtain ⟨h0, ⟨i, p, -, rfl⟩ | ⟨-, he, hi, rfl⟩ | ⟨-, -, rfl⟩⟩ := step_pass_eq h
  · rw [getElem?_set_of_getElem? _ h0] at hr
    cases hr
  · exact ⟨he, hi, rfl⟩
  · rw [h0] at hr
    cases hr

/-- No thread is busy once `queue_in_progress` is zero. -/
theorem Inv.not_busy {s : PoolSys} (hs : s.Inv) (hi : s.pool.queueInProgress = 0) :
    ∀ t ∈ s.threads, t.busy = false := fun t ht => by
  simpa using List.countP_eq_zero.1 (hs.inProgress.symm.trans hi) t ht

end PoolSys

/-- When `wait_for_thread_pool` returns, every task queued so far has run exactly once, each of
them work, and no thread is still running one, whatever the workers did meanwhile: the damage
that `finish_update` clears next is read by no task any more. -/
theorem waitForThreadPool_barrier (workers : Nat) (acts : List PoolAction) {s s' : PoolSys}
    (h : (PoolSys.init workers).run acts = some s) (hp : s.step .pass = some s')
    (hr : s'.threads[0]? = some .free) :
    (s'.runs.map Prod.snd).Perm (List.range s'.pool.queueEnd) ∧
      (∀ t ∈ s'.threads, t.busy = false) ∧ ∀ r ∈ s'.runs, s'.pool.queue[r.2]? = some .work := by
  have hs := (PoolSys.run_induction (fun _ _ _ hs h => hs.step h) acts _ _
    (PoolSys.inv_init workers) h).step hp
  obtain ⟨he, hi, rfl⟩ := PoolSys.step_pass_returned hp hr
  have hidle := hs.not_busy hi
  have hheld : (s.threads.set 0 .free).filterMap ThreadPc.held = [] :=
    List.filterMap_eq_nil_iff.2 fun t ht => ThreadPc.held_eq_none (hidle t ht)
  have ht : (s.runs.map Prod.snd).Perm (List.range s.pool.queueStart) := by
    simpa only [PoolSys.taken, hheld, List.nil_append] using hs.taken
  refine ⟨he ▸ ht, hidle, fun r hr => hs.work _ ?_⟩
  simp only [PoolSys.taken, hheld, List.nil_append, List.mem_map]
  exact ⟨r, hr, rfl⟩

/-- After `PoolSys.twoTaskRun` the next pass returns, with both tasks run once. -/
theorem barrier_twoTaskRun :
    ∃ s s', (PoolSys.init 1).run PoolSys.twoTaskRun = some s ∧ s.step .pass = some s' ∧
      s'.threads[0]? = some .free ∧ (s'.runs.map Prod.snd).Perm (List.range s'.pool.queueEnd) ∧
      (∀ t ∈ s'.threads, t.busy = false) ∧ ∀ r ∈ s'.runs, s'.pool.queue[r.2]? = some .work :=
  ⟨_, _, rfl, rfl, rfl, waitForThreadPool_barrier 1 PoolSys.twoTaskRun rfl rfl rfl⟩

namespace PoolSys

/-! ### The wait can always return -/

/-- Steps left before the main thread can return: three for each task not yet taken (take, run,
release), two for each task held (run, release), and one for each task run and not released. -/
def left (s : PoolSys) : Nat :=
  3 * (s.pool.queueEnd - s.pool.queueStart) + s.threads.countP ThreadPc.busy +
    s.threads.countP ThreadPc.holds

/-- The main thread is inside `wait_for_thread_pool`. -/
def MainInWait (s : PoolSys) : Prop := ∃ t, s.threads[0]? = some t ∧ t.inWait = true

/-- No `TASK_STOP` is queued at or after `queue_start`. -/
def NoStop (p : Pool) : Prop := ∀ j, p.queueStart ≤ j → p.queue[j]? ≠ some .stop

theorem MainInWait.ne_free {s : PoolSys} (hin : s.MainInWait) : s.threads[0]? ≠ some .free := by
  obtain ⟨t, h0, ht⟩ := hin
  rw [h0]
  rintro ⟨⟩
  cases ht

/-- Setting a thread keeps the main thread inside the wait if it is not the main thread, or if
it is set to a state inside the wait. -/
theorem MainInWait.set {s : PoolSys} (hin : s.MainInWait) {k : Nat} {x : ThreadPc}
    (hx : k = 0 → x.inWait = true) (p : Pool) (r : List (Nat × Nat)) :
    MainInWait ⟨p, s.threads.set k x, r⟩ := by
  obtain ⟨t, h0, ht⟩ := hin
  by_cases hk : k = 0
  · subst hk
    exact ⟨x, getElem?_set_of_getElem? x h0, hx rfl⟩
  · exact ⟨t, (List.getElem?_set_ne hk).trans h0, ht⟩

/-- From every reachable state with the main thread in the wait and no `TASK_STOP` queued, some
thread can take a step that either returns from the wait or brings the return nearer: finish a
held task, or, when no thread holds one, let the main thread take the next task or find the pool
drained. -/
theorem Inv.progress {s : PoolSys} (hs : s.Inv) (hin : s.MainInWait) (hns : NoStop s.pool) :
    ∃ a s', s.step a = some s' ∧
      (s'.threads[0]? = some .free ∨ (s'.MainInWait ∧ NoStop s'.pool ∧ s'.left < s.left)) := by
  by_cases hh : ∃ k i : Nat, s.threads[k]? = some (ThreadPc.holding i)
  · obtain ⟨k, i, hk⟩ := hh
    have h1 := countP_set_add ThreadPc.busy (.ran i) hk
    have h2 := countP_set_add ThreadPc.holds (.ran i) hk
    refine ⟨.run k, _, step_run_of hk,
      .inr ⟨hin.set (x := .ran i) (fun _ => rfl) _ _, hns, ?_⟩⟩
    simp only [left, ThreadPc.busy, ThreadPc.holds, if_true, if_false, Bool.false_eq_true]
      at h1 h2 ⊢
    omega
  by_cases hr : ∃ k i : Nat, s.threads[k]? = some (ThreadPc.ran i)
  · obtain ⟨k, i, hk⟩ := hr
    have h1 := countP_set_add ThreadPc.busy (releasedPc k) hk
    have h2 := countP_set_add ThreadPc.holds (releasedPc k) hk
    have hx : (releasedPc k).holds = false := by unfold releasedPc; split <;> rfl
    rw [releasedPc_busy] at h1
    rw [hx] at h2
    refine ⟨.release k, _, step_release_of hk,
      .inr ⟨hin.set (fun hk => hk ▸ rfl) _ _, hns, ?_⟩⟩
    simp only [left, ThreadPc.busy, ThreadPc.holds, Pool.release, Pool.queueEnd, if_true,
      if_false, Bool.false_eq_true] at h1 h2 ⊢
    omega
  push_neg at hh hr
  obtain ⟨t, h0, ht⟩ := hin
  have hpoll : t = .polling := by
    cases t with
    | holding i => exact absurd h0 (hh 0 i)
    | ran i => exact absurd h0 (hr 0 i)
    | polling => rfl
    | _ => cases ht
  subst hpoll
  have hidle : ∀ u ∈ s.threads, u.busy = false := fun u hu => by
    obtain ⟨n, hn⟩ := List.mem_iff_getElem?.1 hu
    cases u with
    | holding i => exact absurd hn (hh n i)
    | ran i => exact absurd hn (hr n i)
    | _ => rfl
  have hi : s.pool.queueInProgress = 0 := by
    rw [hs.inProgress, List.countP_eq_zero]
    simpa using hidle
  by_cases hse : s.pool.queueStart < s.pool.queueEnd
  · have hw : s.pool.head = some .work := by
      obtain ⟨u, hu⟩ : ∃ u, s.pool.head = some u :=
        ⟨_, List.getElem?_eq_getElem hse⟩
      cases u
      · exact absurd hu (hns _ le_rfl)
      · exact hu
    obtain ⟨i, p, hp⟩ := Pool.pop_isSome hw
    obtain ⟨-, rfl, hq, hst, -⟩ := Pool.pop_eq_some hp
    have h1 := countP_set_add ThreadPc.busy (.holding s.pool.queueStart) h0
    have h2 := countP_set_add ThreadPc.holds (.holding s.pool.queueStart) h0
    have hin' := MainInWait.set ⟨_, h0, rfl⟩ (k := 0) (x := .holding s.pool.queueStart)
      (fun _ => rfl) p s.runs
    refine ⟨.pass, _, step_pass_of_pop h0 hp, .inr ⟨hin', fun j hj => ?_, ?_⟩⟩
    · rw [hq]
      exact hns j (by rw [hst] at hj; omega)
    · simp only [left, Pool.queueEnd, ThreadPc.busy, ThreadPc.holds, hq, hst, if_true, if_false,
        Bool.false_eq_true] at h1 h2 hse ⊢
      omega
  · have he : s.pool.queueEnd = s.pool.queueStart := by
      have := s.pool.start_le
      simp only [Pool.queueEnd] at hse ⊢
      omega
    exact ⟨.pass, _, step_pass_of_drained h0 he hi, .inl (getElem?_set_of_getElem? _ h0)⟩

theorem Inv.can_return : ∀ (n : Nat) (s : PoolSys), s.left = n → s.Inv → s.MainInWait →
    NoStop s.pool → ∃ acts s', s.run acts = some s' ∧ s'.threads[0]? = some .free := by
  intro n
  induction n using Nat.strong_induction_on with
  | _ n ih =>
    intro s hn hs hin hns
    obtain ⟨a, s', h, hr | ⟨hin', hns', hlt⟩⟩ := hs.progress hin hns
    · exact ⟨[a], s', by simp [run, h], hr⟩
    · obtain ⟨acts, s'', h', hr⟩ := ih _ (hn ▸ hlt) s' rfl (hs.step h) hin' hns'
      exact ⟨a :: acts, s'', by simp [run, h, h'], hr⟩

/-! ### Stuck behind `TASK_STOP` -/

/-- With `TASK_STOP` at the head of the queue and the main thread in the wait, every step keeps
both: no thread takes past `TASK_STOP`, and a pass finds the queue not empty. -/
theorem step_stuck {s s' : PoolSys} {a : PoolAction} (hin : s.MainInWait)
    (hstop : s.pool.head = some .stop) (h : s.step a = some s') :
    s'.MainInWait ∧ s'.pool.head = some .stop := by
  have hnone : s.pool.pop = none := Pool.pop_eq_none.2 (by rw [hstop]; rintro ⟨⟩)
  cases a with
  | push t => exact absurd (step_push_eq h).1 hin.ne_free
  | enter => exact absurd (step_enter_eq h).1 hin.ne_free
  | pass =>
    obtain ⟨-, ⟨i, p, hp, -⟩ | ⟨-, he, -, -⟩ | ⟨-, -, rfl⟩⟩ := step_pass_eq h
    · rw [hnone] at hp
      cases hp
    · rw [Pool.head, List.getElem?_eq_none (by rw [← he]; rfl)] at hstop
      cases hstop
    · exact ⟨hin, hstop⟩
  | take k =>
    obtain ⟨-, -, i, p, hp, -⟩ := step_take_eq h
    rw [hnone] at hp
    cases hp
  | stop k =>
    obtain ⟨hk0, -, -, rfl⟩ := step_stop_eq h
    exact ⟨hin.set (fun hk => absurd hk hk0) _ _, hstop⟩
  | run k =>
    obtain ⟨i, -, rfl⟩ := step_run_eq h
    exact ⟨hin.set (x := .ran i) (fun _ => rfl) _ _, hstop⟩
  | release k =>
    obtain ⟨i, -, rfl⟩ := step_release_eq h
    exact ⟨hin.set (fun hk => hk ▸ rfl) _ _, hstop⟩

/-! ### Run order without workers -/

/-- With the main thread alone, the tasks run so far, oldest first, and the task it holds are the
tasks before `queue_start`, in queue order. -/
def Sequential (s : PoolSys) : Prop :=
  ∃ t, s.threads = [t] ∧ (s.runs.map Prod.snd).reverse ++ t.held.toList = List.range s.pool.queueStart

theorem getElem?_singleton_eq {α : Type*} {t y : α} {k : Nat} (h : [t][k]? = some y) :
    k = 0 ∧ t = y := by
  cases k with
  | zero => exact ⟨rfl, Option.some.inj h⟩
  | succ k => cases h

theorem Sequential.step {s s' : PoolSys} {a : PoolAction} (hs : s.Sequential)
    (h : s.step a = some s') : s'.Sequential := by
  obtain ⟨t, ht, hr⟩ := hs
  cases a with
  | push u =>
    obtain ⟨-, rfl⟩ := step_push_eq h
    exact ⟨t, ht, hr⟩
  | enter =>
    obtain ⟨h0, rfl⟩ := step_enter_eq h
    rw [ht] at h0
    obtain ⟨-, rfl⟩ := getElem?_singleton_eq h0
    exact ⟨.polling, by rw [ht]; rfl, hr⟩
  | pass =>
    obtain ⟨h0, ⟨i, p, hp, rfl⟩ | ⟨-, -, -, rfl⟩ | ⟨-, -, rfl⟩⟩ := step_pass_eq h <;>
      rw [ht] at h0 <;> obtain ⟨-, rfl⟩ := getElem?_singleton_eq h0
    · obtain ⟨-, rfl, -, hst, -⟩ := Pool.pop_eq_some hp
      refine ⟨.holding s.pool.queueStart, by rw [ht]; rfl, ?_⟩
      simpa only [hst, List.range_succ, ThreadPc.held, Option.toList, List.append_nil] using
        congrArg (· ++ [s.pool.queueStart]) hr
    · exact ⟨.free, by rw [ht]; rfl, hr⟩
    · exact ⟨.polling, ht, hr⟩
  | take k =>
    obtain ⟨hk0, hk, -⟩ := step_take_eq h
    rw [ht] at hk
    exact absurd (getElem?_singleton_eq hk).1 hk0
  | stop k =>
    obtain ⟨hk0, hk, -⟩ := step_stop_eq h
    rw [ht] at hk
    exact absurd (getElem?_singleton_eq hk).1 hk0
  | run k =>
    obtain ⟨i, hk, rfl⟩ := step_run_eq h
    rw [ht] at hk
    obtain ⟨rfl, rfl⟩ := getElem?_singleton_eq hk
    refine ⟨.ran i, by rw [ht]; rfl, ?_⟩
    simpa [ThreadPc.held] using hr
  | release k =>
    obtain ⟨i, hk, rfl⟩ := step_release_eq h
    rw [ht] at hk
    obtain ⟨rfl, rfl⟩ := getElem?_singleton_eq hk
    exact ⟨.polling, by rw [ht]; rfl, by simpa [ThreadPc.held] using hr⟩

end PoolSys

/-- With no `TASK_STOP` queued, from every reachable state in which the main thread is in
`wait_for_thread_pool`, the threads can be scheduled so that the wait returns: no interleaving
deadlocks it. -/
theorem waitForThreadPool_can_return (workers : Nat) (acts : List PoolAction) {s : PoolSys}
    (h : (PoolSys.init workers).run acts = some s) (hin : s.MainInWait)
    (hns : PoolSys.NoStop s.pool) :
    ∃ acts' s', s.run acts' = some s' ∧ s'.threads[0]? = some .free :=
  (PoolSys.run_induction (fun _ _ _ hs h => hs.step h) acts _ _ (PoolSys.inv_init workers) h
    |>.can_return _ s rfl hin hns)

/-- While the worker holds the first of two tasks, the wait can still return. -/
theorem can_return_workerHolding :
    ∃ s, (PoolSys.init 1).run [.push .work, .push .work, .enter, .take 1] = some s ∧
      s.MainInWait ∧ PoolSys.NoStop s.pool ∧
      ∃ acts' s', s.run acts' = some s' ∧ s'.threads[0]? = some .free :=
  have hns : ∀ p : Pool, p.queue = [.work, .work] → PoolSys.NoStop p := fun p hp j _ h => by
    have := List.getElem?_mem h
    rw [hp] at this
    simp at this
  ⟨_, rfl, by exact ⟨_, rfl, rfl⟩, hns _ rfl,
    waitForThreadPool_can_return 1 [.push .work, .push .work, .enter, .take 1] rfl
      (by exact ⟨_, rfl, rfl⟩) (hns _ rfl)⟩

/-- `TASK_STOP` queued, the main thread at the top of the wait, and one free worker. -/
def stopQueued : PoolSys := ⟨⟨[.stop], 0, 0, by decide⟩, [.polling, .free], []⟩

/-- With no worker (`n_threads` of one), tasks run in the order they were queued. -/
theorem runs_in_queue_order (acts : List PoolAction) {s : PoolSys}
    (h : (PoolSys.init 0).run acts = some s) :
    (s.runs.map Prod.snd).reverse <+: List.range s.pool.queueEnd := by
  obtain ⟨t, -, hr⟩ := PoolSys.run_induction (Q := PoolSys.Sequential)
    (fun _ _ _ hs h => hs.step h) acts (PoolSys.init 0) s ⟨.free, rfl, rfl⟩ h
  have hpre : List.range s.pool.queueStart <+: List.range s.pool.queueEnd := by
    rw [← Nat.min_eq_left s.pool.start_le, ← List.take_range]
    exact List.take_prefix _ _
  exact (hr ▸ List.prefix_append _ _).trans hpre

/-- The main thread alone runs two tasks in queue order. -/
theorem queue_order_alone :
    ∃ s, (PoolSys.init 0).run
        [.push .work, .push .work, .enter, .pass, .run 0, .release 0, .pass, .run 0] = some s ∧
      (s.runs.map Prod.snd).reverse <+: List.range s.pool.queueEnd :=
  ⟨_, rfl, runs_in_queue_order
    [.push .work, .push .work, .enter, .pass, .run 0, .release 0, .pass, .run 0] rfl⟩

/-- With a worker the order is lost: the worker takes the first of two tasks, and the main
thread takes the second and runs it first. -/
example : Option.map PoolSys.runs ((PoolSys.init 1).run
    [.push .work, .push .work, .enter, .take 1, .pass, .run 0, .run 1]) = some [(1, 0), (0, 1)] :=
  rfl

end Waypipe
