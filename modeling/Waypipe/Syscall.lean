import Waypipe.Process

/-!
# The system calls the server makes

Each system call and helper the server calls is a function on the calling process's state,
given the kernel's answer where the server cannot know it in advance (whether `connect`,
`socketpair` or `fork` succeed, what `write` returns). The helpers of `util.c`, which is not
among the sources, are modelled from the spec's description of them: `connect_to_socket`
opens a connected channel or reports -1 with no descriptor left open, `send_one_fd` passes a
descriptor over a link socket, and `checked_close` closes a descriptor, reporting a close of
a descriptor that is not open.

## Main definitions

* `Waypipe.Proc.checkedClose`, `Waypipe.Proc.connectToSocket`, `Waypipe.Proc.writeToken`,
  `Waypipe.Proc.sendOneFd`, `Waypipe.Proc.socketpair`, `Waypipe.Proc.fork`,
  `Waypipe.Proc.mainLoop`, `Waypipe.Proc.fillRandomKey`.

## References

* `src/src/server.c`, lines 52–70 (`fill_random_key`) and the calls throughout.
-/

namespace Waypipe

/-- `EXIT_SUCCESS`. -/
def exitSuccess : Int := 0

/-- `EXIT_FAILURE`. -/
def exitFailure : Int := 1

/-- `sizeof(struct connection_token)`. -/
def tokenSize : Int := 16

namespace Proc

variable (K : Kernel) {P : Platform}

/-- Record that the process did `e`. -/
def emit (p : Proc) (e : Event) : Proc := { p with trace := e :: p.trace }

/-- The open file description a C descriptor value refers to; negative values refer to none. -/
def lookup (p : Proc) : Int → Option Obj
  | .ofNat fd => p.fds.lookup fd
  | .negSucc _ => none

/-- The object the next open file description of kind `k` the process creates will be. -/
def nextObj (p : Proc) (k : ObjKind) : Obj := ⟨p.pid, p.serial, k⟩

/-- A new open file description of kind `k` on the kernel's new descriptor number. -/
def openObj (p : Proc) (k : ObjKind) : Proc × Int :=
  ({ p with fds := p.fds.insert (K.newFd p.fds) (p.nextObj k), serial := p.serial + 1 },
    K.newFd p.fds)

/-- Modelled from the spec: `checked_close(fd)` (in `util.c`) closes `fd`, and reports a
descriptor that is not open. -/
def checkedClose (p : Proc) (fd : Int) : Proc :=
  match p.lookup fd with
  | some o => { p with fds := p.fds.erase fd.toNat, trace := .close fd.toNat o :: p.trace }
  | none => p.emit (.badFd fd)

/-- Modelled from the spec: `connect_to_socket(addr)` (in `util.c`) gives a new channel, a
replacement one or not, when the kernel's answer `ok` says the connection is made; -1 and no new
descriptor otherwise. -/
def connectToSocket (p : Proc) (ok replacement : Bool) (a : SockaddrUn P) : Proc × Int :=
  if ok then
    ((p.openObj K (.channel replacement)).1.emit
        (.connect a.sunFamily a.sunPath (some (p.nextObj (.channel replacement)))),
      (p.openObj K (.channel replacement)).2)
  else (p.emit (.connect a.sunFamily a.sunPath none), -1)

/-- `write(fd, &tok, sizeof(tok))`, returning the kernel's `ret`, or -1 when `fd` is not open. -/
def writeToken (p : Proc) (ret fd : Int) (tok : ConnectionToken) : Proc × Int :=
  match p.lookup fd with
  | some o => (p.emit (.write o tok ret), ret)
  | none => (p.emit (.badFd fd), -1)

/-- Modelled from the spec: `send_one_fd(link, fd)` (in `util.c`) returns 0 when the kernel's
answer `ok` says the descriptor was passed. -/
def sendOneFd (p : Proc) (ok : Bool) (link fd : Int) : Proc × Int :=
  match p.lookup link, p.lookup fd with
  | some l, some o => (p.emit (.sendFd l o ok), if ok then 0 else -1)
  | none, _ => (p.emit (.badFd link), -1)
  | some _, none => (p.emit (.badFd fd), -1)

/-- `socketpair(AF_UNIX, SOCK_STREAM, 0, sv)`: the two new descriptors when `ok`. -/
def socketpair (p : Proc) (ok : Bool) : Proc × Option (Int × Int) :=
  if ok then
    let t := p.fds.insert (K.newFd p.fds) (p.nextObj (.pairEnd false))
    ({ p with fds := t.insert (K.newFd t) (p.nextObj (.pairEnd true)), serial := p.serial + 1 },
      some (K.newFd p.fds, K.newFd t))
  else (p, none)

/-- The two descriptors a successful `socketpair` returns. -/
def pairFds (p : Proc) : Nat × Nat :=
  (K.newFd p.fds, K.newFd (p.fds.insert (K.newFd p.fds) (p.nextObj (.pairEnd false))))

/-- The pid the kernel gives a child of `p`: one that is neither `p`'s nor a child's. -/
def childPid (p : Proc) : Nat := K.newPid (p.pid :: p.children.map Child.pid)

/-- The child's copy of `p` after `fork`: the same table and history, the new pid, no children. -/
def forkCopy (p : Proc) : Proc := { p with pid := p.childPid K, children := [] }

/-- The parent after `fork`, once the child ran to its table `r.1` and history `r.2`. -/
def forkParent (p : Proc) (role : Role) (r : FdTable × List Event) : Proc :=
  { p with
    trace := .fork (p.childPid K) :: p.trace
    children := ⟨p.childPid K, role, r.1, r.2, false⟩ :: p.children }

/-- `fork()`: when `ok`, the child runs `body` on its copy (its table when it enters its
long-running part, and what it did, or `none` if it reaches undefined behaviour), and the parent
gets the pid; -1 otherwise. -/
def fork (p : Proc) (ok : Bool) (role : Role)
    (body : Proc → Option (FdTable × List Event)) : Option (Proc × Int) :=
  if ok then (body (p.forkCopy K)).map fun r => (p.forkParent K role r, p.childPid K)
  else some (p, -1)

/-- Modelled from the spec: `main_interface_loop(chan, second, link, config, false)` (in
`mainloop.c`) is entered with the three descriptors. -/
def mainLoop (p : Proc) (chan second link : Int) : Proc :=
  match p.lookup chan, p.lookup second with
  | some c, some s => p.emit (.mainLoop c s (p.lookup link))
  | none, _ => p.emit (.badFd chan)
  | some _, none => p.emit (.badFd second)

/-- `fill_random_key(&tok)`: `/dev/urandom` is opened and closed again when it can be opened. -/
def fillRandomKey (p : Proc) (s : KeySeed) (tok : ConnectionToken) : Proc × ConnectionToken :=
  (if s.urandom.isSome then (p.openObj K .urandom).1.checkedClose (p.openObj K .urandom).2 else p,
    Waypipe.fillRandomKey s tok)

end Proc

end Waypipe

namespace Waypipe

namespace Proc

variable (K : Kernel) {P : Platform} (p : Proc)

@[simp] theorem emit_fds (e : Event) : (p.emit e).fds = p.fds := rfl
@[simp] theorem emit_trace (e : Event) : (p.emit e).trace = e :: p.trace := rfl
@[simp] theorem emit_pid (e : Event) : (p.emit e).pid = p.pid := rfl
@[simp] theorem emit_serial (e : Event) : (p.emit e).serial = p.serial := rfl
@[simp] theorem emit_children (e : Event) : (p.emit e).children = p.children := rfl

@[simp] theorem lookup_emit (e : Event) (fd : Int) : (p.emit e).lookup fd = p.lookup fd := rfl

@[simp] theorem lookup_natCast (fd : Nat) : p.lookup fd = p.fds.lookup fd := rfl

@[simp] theorem lookup_neg_one : p.lookup (-1) = none := rfl

theorem ne_of_lookup {p : Proc} {x y : Int} {o : Obj} (hx : p.lookup x = some o)
    (hy : p.lookup y = none) : x ≠ y := by
  rintro rfl
  rw [hx] at hy
  cases hy

/-- A descriptor value that refers to something is the value of an open descriptor. -/
theorem eq_natCast_of_lookup {fd : Int} {o : Obj} (h : p.lookup fd = some o) :
    fd = (fd.toNat : Int) ∧ p.fds.lookup fd.toNat = some o := by
  cases fd with
  | ofNat n => exact ⟨rfl, h⟩
  | negSucc n => cases h

/-- The kernel never hands out a descriptor number that is open. -/
theorem newFd_ne_of_lookup {fd : Int} {o : Obj} (h : p.lookup fd = some o) :
    fd ≠ (K.newFd p.fds : Int) := by
  rintro rfl
  exact K.newFd_fresh p.fds (AList.lookup_isSome.1 (by simp [lookup_natCast] at h; simp [h]))

theorem openObj_eq (k : ObjKind) :
    p.openObj K k =
      ({ p with
          fds := p.fds.insert (K.newFd p.fds) (p.nextObj k)
          serial := p.serial + 1 }, (K.newFd p.fds : Int)) := rfl

theorem lookup_openObj (k : ObjKind) (fd : Int) :
    (p.openObj K k).1.lookup fd =
      if fd = (K.newFd p.fds : Int) then some (p.nextObj k) else p.lookup fd := by
  cases fd with
  | ofNat n =>
    by_cases h : n = K.newFd p.fds
    · subst h
      simp [openObj, lookup, AList.lookup_insert]
    · simp only [openObj, lookup, Int.ofNat_eq_coe, Nat.cast_inj, h, if_false]
      exact AList.lookup_insert_ne h
  | negSucc n => simp [lookup]

/-- Closing a descriptor that was just opened gives the table back. -/
theorem erase_insert_newFd (o : Obj) :
    (p.fds.insert (K.newFd p.fds) o).erase (K.newFd p.fds) = p.fds :=
  AList.ext <| (congrArg (List.kerase _) (AList.insert_entries_of_neg (K.newFd_fresh p.fds))).trans
    (List.kerase_cons_eq rfl)

/-- `checked_close` of a descriptor just opened. -/
theorem checkedClose_openObj (k : ObjKind) :
    (p.openObj K k).1.checkedClose (p.openObj K k).2 =
      { p with
        serial := p.serial + 1
        trace := .close (K.newFd p.fds) (p.nextObj k) :: p.trace } := by
  simp only [checkedClose, lookup_openObj, if_true]
  simp [openObj, erase_insert_newFd]

theorem checkedClose_of_lookup {fd : Int} {o : Obj} (h : p.lookup fd = some o) :
    p.checkedClose fd =
      { p with fds := p.fds.erase fd.toNat, trace := .close fd.toNat o :: p.trace } := by
  simp [checkedClose, h]

theorem checkedClose_of_lookup_none {fd : Int} (h : p.lookup fd = none) :
    p.checkedClose fd = p.emit (.badFd fd) := by
  simp [checkedClose, h]

/-- After `checked_close(fd)` nothing is open at `fd`; a descriptor that was not open stays so. -/
theorem lookup_checkedClose (fd x : Int) :
    (p.checkedClose fd).lookup x = if x = fd then none else p.lookup x := by
  cases h : p.lookup fd with
  | none =>
    rw [checkedClose_of_lookup_none p h, lookup_emit]
    split_ifs with e
    · rw [e, h]
    · rfl
  | some o =>
    obtain ⟨hfd, -⟩ := p.eq_natCast_of_lookup h
    rw [checkedClose_of_lookup p h]
    generalize fd.toNat = n at hfd
    subst hfd
    cases x with
    | ofNat m =>
      by_cases e : m = n
      · subst e; simp [lookup, AList.lookup_erase]
      · simp only [lookup, Int.ofNat_eq_coe, Nat.cast_inj, e, if_false]
        exact AList.lookup_erase_ne e
    | negSucc m => simp [lookup]

@[simp] theorem checkedClose_pid (fd : Int) : (p.checkedClose fd).pid = p.pid := by
  unfold checkedClose; split <;> rfl

@[simp] theorem checkedClose_serial (fd : Int) : (p.checkedClose fd).serial = p.serial := by
  unfold checkedClose; split <;> rfl

@[simp] theorem checkedClose_children (fd : Int) :
    (p.checkedClose fd).children = p.children := by
  unfold checkedClose; split <;> rfl

theorem connectToSocket_false (replacement : Bool) (a : SockaddrUn P) :
    p.connectToSocket K false replacement a =
      (p.emit (.connect a.sunFamily a.sunPath none), -1) := rfl

theorem connectToSocket_true (replacement : Bool) (a : SockaddrUn P) :
    p.connectToSocket K true replacement a =
      ({ p with
          fds := p.fds.insert (K.newFd p.fds) (p.nextObj (.channel replacement))
          serial := p.serial + 1
          trace := .connect a.sunFamily a.sunPath (some (p.nextObj (.channel replacement))) ::
            p.trace }, (K.newFd p.fds : Int)) := rfl

theorem writeToken_of_lookup {fd : Int} {o : Obj} (h : p.lookup fd = some o) (ret : Int)
    (tok : ConnectionToken) : p.writeToken ret fd tok = (p.emit (.write o tok ret), ret) := by
  simp [writeToken, h]

theorem sendOneFd_of_lookup {link fd : Int} {l o : Obj} (hl : p.lookup link = some l)
    (ho : p.lookup fd = some o) (ok : Bool) :
    p.sendOneFd ok link fd = (p.emit (.sendFd l o ok), if ok then 0 else -1) := by
  simp [sendOneFd, hl, ho]

theorem socketpair_true :
    p.socketpair K true =
      ({ p with
          fds := (p.fds.insert (p.pairFds K).1 (p.nextObj (.pairEnd false))).insert
            (p.pairFds K).2 (p.nextObj (.pairEnd true))
          serial := p.serial + 1 },
        some (((p.pairFds K).1 : Int), ((p.pairFds K).2 : Int))) := rfl

theorem socketpair_false : p.socketpair K false = (p, none) := rfl

theorem pairFds_fresh : (p.pairFds K).1 ∉ p.fds ∧ (p.pairFds K).2 ∉ p.fds ∧
    (p.pairFds K).2 ≠ (p.pairFds K).1 := by
  have h2 := K.newFd_fresh (p.fds.insert (K.newFd p.fds) (p.nextObj (.pairEnd false)))
  simp only [AList.mem_insert, not_or] at h2
  exact ⟨K.newFd_fresh p.fds, h2.2, h2.1⟩

/-- What the table maps after a successful `socketpair`. -/
theorem lookup_socketpair_true (x : Int) :
    (p.socketpair K true).1.lookup x =
      if x = (p.pairFds K).2 then some (p.nextObj (.pairEnd true))
      else if x = (p.pairFds K).1 then some (p.nextObj (.pairEnd false))
      else p.lookup x := by
  rw [socketpair_true]
  cases x with
  | ofNat m =>
    simp only [lookup, Int.ofNat_eq_coe, Nat.cast_inj]
    split_ifs with h1 h2
    · subst h1; exact AList.lookup_insert _
    · subst h2; rw [AList.lookup_insert_ne h1]; exact AList.lookup_insert _
    · rw [AList.lookup_insert_ne h1, AList.lookup_insert_ne h2]
  | negSucc m => simp [lookup]

@[simp] theorem lookup_writeToken (ret fd : Int) (tok : ConnectionToken) :
    (p.writeToken ret fd tok).1.lookup = p.lookup := by
  unfold writeToken; split <;> rfl

@[simp] theorem lookup_sendOneFd (ok : Bool) (link fd : Int) :
    (p.sendOneFd ok link fd).1.lookup = p.lookup := by
  unfold sendOneFd; split <;> rfl

@[simp] theorem lookup_mainLoop (chan second link : Int) :
    (p.mainLoop chan second link).lookup = p.lookup := by
  unfold mainLoop; split <;> rfl

theorem mainLoop_of_lookup {chan second link : Int} {c s : Obj} (hc : p.lookup chan = some c)
    (hs : p.lookup second = some s) :
    p.mainLoop chan second link = p.emit (.mainLoop c s (p.lookup link)) := by
  simp [mainLoop, hc, hs]

/-- What `fork` can do: fail and leave the process as it was, or run the child's body on its
copy and record the child. -/
theorem fork_eq_some {ok : Bool} {role : Role} {body : Proc → Option (FdTable × List Event)}
    {q : Proc} {npid : Int} (h : p.fork K ok role body = some (q, npid)) :
    (ok = false ∧ q = p ∧ npid = -1) ∨
      (ok = true ∧ npid = p.childPid K ∧ ∃ r, body (p.forkCopy K) = some r ∧
        q = p.forkParent K role r) := by
  cases ok
  · simp only [fork, Bool.false_eq_true, if_false, Option.some.injEq, Prod.mk.injEq] at h
    exact .inl ⟨rfl, h.1.symm, h.2.symm⟩
  · simp only [fork, if_true, Option.map_eq_some', Prod.mk.injEq] at h
    obtain ⟨r, hr, hq, hn⟩ := h
    exact .inr ⟨rfl, hn.symm, r, hr, hq.symm⟩

/-- `fork` returns when the child's body does. -/
theorem fork_ne_none {ok : Bool} {role : Role} {body : Proc → Option (FdTable × List Event)}
    (h : ∀ q, body q ≠ none) : p.fork K ok role body ≠ none := by
  unfold fork
  split_ifs
  · simpa using h _
  · simp

@[simp] theorem lookup_forkParent (role : Role) (r : FdTable × List Event) :
    (p.forkParent K role r).lookup = p.lookup := rfl

@[simp] theorem lookup_forkCopy : (p.forkCopy K).lookup = p.lookup := rfl

/-- The lookup of a descriptor depends on the table only. -/
theorem lookup_congr {p q : Proc} (h : q.fds = p.fds) : q.lookup = p.lookup := by
  funext fd
  cases fd <;> simp [lookup, h]

/-- `q` is `p` after the events `evs`, with the same pid, descriptor table and children. -/
structure Appends (p q : Proc) (evs : List Event) : Prop where
  pid_eq : q.pid = p.pid
  fds_eq : q.fds = p.fds
  children_eq : q.children = p.children
  serial_le : p.serial ≤ q.serial
  trace_eq : q.trace = evs ++ p.trace

end Proc

/-- The family and `sun_path` of the address a `connect_to_socket` call was given. -/
def Event.connectTarget : Event → Option (UInt16 × List Byte)
  | .connect family path _ => some (family, path)
  | _ => none

/-- The object a `checked_close` closed. -/
def Event.closed : Event → Option Obj
  | .close _ o => some o
  | _ => none

/-- The objects handed to `main_interface_loop`. -/
def Event.handed : Event → List Obj
  | .mainLoop chan second link => chan :: second :: link.toList
  | _ => []

end Waypipe
