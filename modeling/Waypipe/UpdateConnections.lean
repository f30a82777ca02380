import Waypipe.History

/-!
# `update_connections`: moving every session to a new channel endpoint

On a new endpoint path from the control FIFO, the display-mode supervisor walks its table
of reconnectable sessions; for each it connects to the new endpoint, writes the session's
token with `CONN_UPDATE_BIT` set, and passes the new channel to the session's worker over
the link socket. The first pass that fails ends the walk with -1, leaving the sessions before
it on the new endpoint and the others on the old one; only when every pass succeeds is the
new address adopted and the old socket unlinked, if it is a different path.

## Main definitions

* `Waypipe.ConnAddr`, `Waypipe.ConnMap`: `struct conn_addr`, `struct conn_map`.
* `Waypipe.ReplaceOutcome`: the kernel's answers to one pass of the loop.
* `Waypipe.replaceChannels`, `Waypipe.updateConnections`.
* `Waypipe.leadingSuccesses`: the number of passes before the first that fails.

## Main results

* `Waypipe.replaceChannels_spec`: what the loop does, pass by pass.
* `Waypipe.updateConnections_spec`: which links get a new channel, the return code, the
  adopted address, the table and the unlink.

## References

* `src/src/server.c`, lines 307–344 (`update_connections`).
-/

namespace Waypipe

/-- `struct conn_addr`: a reconnectable session's token, its worker's pid, and the supervisor's
end of its link socket. -/
structure ConnAddr where
  token : ConnectionToken
  pid : Nat
  linkfd : Int
deriving DecidableEq, Repr

/-- `struct conn_map`: the `count` records in use, of the `size` allocated. -/
structure ConnMap where
  data : List ConnAddr
  size : Nat
deriving DecidableEq, Repr

/-- The kernel's answers to one pass of `update_connections`' loop: whether `connect_to_socket`
connects, what the token `write` returns, and whether `send_one_fd` passes the descriptor. -/
structure ReplaceOutcome where
  connects : Bool
  written : Int
  sent : Bool

/-- A pass succeeds: the connection is made, the whole token written, the descriptor passed. -/
def ReplaceOutcome.Succeeds (o : ReplaceOutcome) : Prop :=
  o.connects = true ∧ o.written = tokenSize ∧ o.sent = true

instance (o : ReplaceOutcome) : Decidable o.Succeeds := inferInstanceAs (Decidable (_ ∧ _ ∧ _))

variable (K : Kernel) (c : TokenConsts) {P : Platform}

/-- One pass of `update_connections`' loop, for the record `r`: connect to `new`, write the
record's token with `CONN_UPDATE_BIT` set, and pass the channel over the record's link; the
channel is closed again on every path that opened it. The flag says whether the pass
succeeded. -/
def replacePass (o : ReplaceOutcome) (new : SockaddrUn P) (r : ConnAddr) (p : Proc) :
    Proc × Bool :=
  let (p, chanfd) := p.connectToSocket K o.connects true new
  if chanfd = -1 then (p, false) else
  let (p, ret) := p.writeToken o.written chanfd (r.token.flagged c)
  if ret ≠ tokenSize then (p.checkedClose chanfd, false) else
  let (p, sret) := p.sendOneFd o.sent r.linkfd chanfd
  if sret = -1 then (p.checkedClose chanfd, false) else
  (p.checkedClose chanfd, true)

/-- The loop of `update_connections` over the records `rs`, the first being record `i`: -1 at
the first pass that fails, 0 when all succeed. -/
def replaceChannels (outs : Nat → ReplaceOutcome) (new : SockaddrUn P) :
    Nat → List ConnAddr → Proc → Proc × Int
  | _, [], p => (p, 0)
  | i, r :: rs, p =>
    let (p, ok) := replacePass K c (outs i) new r p
    if ok then replaceChannels outs new (i + 1) rs p else (p, -1)

/-- `update_connections(current_sockaddr, new_sockaddr, connmap, unlink_at_end)`: the process,
`*current_sockaddr` and `*connmap` afterwards, and the return code. -/
def updateConnections (outs : Nat → ReplaceOutcome) (cur new : SockaddrUn P) (cm : ConnMap)
    (unlinkAtEnd : Bool) (p : Proc) : Proc × SockaddrUn P × ConnMap × Int :=
  let (p, ret) := replaceChannels K c outs new 0 cm.data p
  if ret = -1 then (p, cur, cm, -1) else
  ((if unlinkAtEnd && strcmpNe cur.sunPath new.sunPath then p.emit (.unlink (cstr cur.sunPath))
    else p), new, cm, 0)

/-- The number of passes of `update_connections`' loop over `rs`, from record `i` on, that
succeed before the first one that fails. -/
def leadingSuccesses (outs : Nat → ReplaceOutcome) : Nat → List ConnAddr → Nat
  | _, [] => 0
  | i, _ :: rs => if (outs i).Succeeds then leadingSuccesses outs (i + 1) rs + 1 else 0

theorem leadingSuccesses_le (outs : Nat → ReplaceOutcome) :
    ∀ i rs, leadingSuccesses outs i rs ≤ rs.length
  | _, [] => le_rfl
  | i, _ :: rs => by
    have := leadingSuccesses_le outs (i + 1) rs
    simp only [leadingSuccesses, List.length_cons]
    split <;> omega

/-- The link socket a successful `send_one_fd` passed a descriptor over, and that descriptor. -/
def Event.sentOver : Event → Option (Obj × Obj)
  | .sendFd l o true => some (l, o)
  | _ => none

/-- The pair `x` that a `send_one_fd` in `evs` passed is a replacement channel for the record
`r`: it went over `r`'s link as `p` holds it, and the descriptor is a replacement channel that
`connect_to_socket` opened to `new` in `evs`. -/
def SentFor (p : Proc) (new : SockaddrUn P) (evs : List Event) (r : ConnAddr) (x : Obj × Obj) :
    Prop :=
  p.lookup r.linkfd = some x.1 ∧ x.2.kind = .channel true ∧
    Event.connect new.sunFamily new.sunPath (some x.2) ∈ evs

/-- The path an `unlink` removed. -/
def Event.unlinked : Event → Option (List Byte)
  | .unlink path => some path
  | _ => none

/-! ### One pass of the loop -/

section Pass

variable (o : ReplaceOutcome) (new : SockaddrUn P) (r : ConnAddr) (p : Proc)

/-- The events of a pass of `update_connections`' loop that connects, newest first. -/
def passEvents (tok : ConnectionToken) (fd : Nat) (chan L : Obj) : List Event :=
  .close fd chan :: ((if o.written = tokenSize then [.sendFd L chan o.sent] else []) ++
    [.write chan tok o.written, .connect new.sunFamily new.sunPath (some chan)])

theorem replacePass_of_not_connects (h : o.connects = false) :
    replacePass K c o new r p = (p.emit (.connect new.sunFamily new.sunPath none), false) := by
  simp [replacePass, h, Proc.connectToSocket_false]

/-- A pass that connects opens a replacement channel on the kernel's new descriptor, writes
the flagged token to it, passes it over the link when the write was whole, and closes it. -/
theorem replacePass_of_connects {L : Obj} (h : o.connects = true)
    (hL : p.lookup r.linkfd = some L) :
    replacePass K c o new r p =
      ({ p with
          serial := p.serial + 1
          trace := passEvents o new (r.token.flagged c) (K.newFd p.fds)
            (p.nextObj (.channel true)) L ++ p.trace }, decide o.Succeeds) := by
  obtain ⟨hfd, hn⟩ := p.eq_natCast_of_lookup hL
  have hne : r.linkfd.toNat ≠ K.newFd p.fds := fun e =>
    p.newFd_ne_of_lookup K hL (by rw [hfd, e])
  generalize r.linkfd.toNat = n at hfd hn hne
  simp only [replacePass, h, Proc.connectToSocket_true, Proc.writeToken, Proc.lookup_natCast,
    AList.lookup_insert, Proc.sendOneFd, Proc.emit, AList.lookup_insert_ne hne, hn, hfd,
    Proc.checkedClose, Int.toNat_ofNat, Proc.erase_insert_newFd]
  have h1 : ((K.newFd p.fds : Nat) : Int) ≠ -1 := by omega
  by_cases hw : o.written = tokenSize <;> cases hs : o.sent <;>
    simp [h1, hw, hs, h, passEvents, ReplaceOutcome.Succeeds]

/-- A pass keeps the token discipline: the new channel is fresh, gets the session's token with
`CONN_UPDATE_BIT` set, and goes over the link only after the whole write. -/
theorem tokenTrace_passEvents {rc : Bool} {S : Obj → ConnectionToken → Prop} {p : Proc}
    (hfr : p.FreshAbove) {L : Obj} {tok₀ : ConnectionToken} (hS : S L tok₀)
    (h : TokenTrace c rc S p.trace) (fd : Nat) :
    TokenTrace c rc S (passEvents o new (tok₀.flagged c) fd (p.nextObj (.channel true)) L ++
      p.trace) := by
  have hfresh := p.write_nextObj_not_mem hfr (k := .channel true) (by decide)
  have hw : (Event.write (p.nextObj (.channel true)) (tok₀.flagged c) o.written).TokenOK c rc S
      (.connect new.sunFamily new.sunPath (some (p.nextObj (.channel true))) :: p.trace) :=
    ⟨⟨_, _, List.mem_cons_self _ _⟩, by simpa using hfresh, by simp [Proc.nextObj],
      fun _ => ⟨L, tok₀, hS, tok₀.replaces_flagged c⟩⟩
  by_cases hsz : o.written = tokenSize
  · simp only [passEvents, hsz, if_true, List.singleton_append, List.cons_append, List.nil_append]
    refine ⟨trivial, ⟨⟨tok₀.flagged c, by simp [hsz]⟩,
      fun _ => ⟨tok₀, _, hS, tok₀.replaces_flagged c, by simp [hsz]⟩⟩, hsz ▸ hw, trivial, h⟩
  · simp only [passEvents, hsz, if_false, List.nil_append, List.cons_append]
    exact ⟨trivial, hw, trivial, h⟩

theorem allWritten_passEvents {p : Proc} (h : AllWritten p.trace) (tok : ConnectionToken)
    (fd : Nat) (chan L : Obj) :
    AllWritten (passEvents o new tok fd chan L ++ p.trace) := by
  intro o' ⟨f, path, hc⟩
  have hw : Event.write chan tok o.written ∈ passEvents o new tok fd chan L := by
    simp [passEvents]
  rcases List.mem_append.1 hc with hc | hc
  · have : o' = chan := by
      by_cases hsz : o.written = tokenSize <;> simp [passEvents, hsz] at hc <;> exact hc.2.2
    subst this
    exact ⟨tok, o.written, List.mem_append_left _ hw⟩
  · obtain ⟨t, r, hm⟩ := h o' ⟨f, path, hc⟩
    exact ⟨t, r, List.mem_append_right _ hm⟩

/-- A pass names only the new channel and the link besides what the process knew of. -/
theorem mem_allObjs_passEvents {p : Proc} {L : Obj} (hL : L ∈ p.fds.objs) (tok : ConnectionToken)
    (fd : Nat) {x : Obj} (hx : x ∈ ({ p with
        serial := p.serial + 1
        trace := passEvents o new tok fd (p.nextObj (.channel true)) L ++ p.trace } : Proc).allObjs) :
    x ∈ p.allObjs ∨ (x.creator = p.pid ∧ x.serial < p.serial + 1) := by
  simp only [Proc.mem_allObjs, List.mem_append] at hx
  rcases hx with hx | ⟨e, he | he, hx⟩ | hx
  · exact .inl (p.mem_allObjs.2 (.inl hx))
  · have : x = p.nextObj (.channel true) ∨ x = L := by
      by_cases hsz : o.written = tokenSize <;>
        simp [passEvents, hsz] at he <;> rcases he with rfl | rfl | rfl | rfl <;>
        simp_all [Event.objs, or_comm]
    rcases this with rfl | rfl
    · exact .inr ⟨rfl, Nat.lt_succ_self _⟩
    · exact .inl (p.mem_allObjs.2 (.inl hL))
  · exact .inl (p.mem_allObjs.2 (.inr (.inl ⟨e, he, hx⟩)))
  · exact .inl (p.mem_allObjs.2 (.inr (.inr hx)))

theorem owned_passEvents {p : Proc} (hown : p.Owned) {L : Obj} (hL : L ∈ p.fds.objs)
    (tok : ConnectionToken) (fd : Nat) :
    ({ p with
        serial := p.serial + 1
        trace := passEvents o new tok fd (p.nextObj (.channel true)) L ++ p.trace } : Proc).Owned :=
  hown.of_subset rfl (Nat.le_succ _) fun _ hx => mem_allObjs_passEvents o new hL tok fd hx

theorem freshAbove_passEvents {p : Proc} (hfr : p.FreshAbove) {L : Obj} (hL : L ∈ p.fds.objs)
    (tok : ConnectionToken) (fd : Nat) :
    ({ p with
        serial := p.serial + 1
        trace := passEvents o new tok fd (p.nextObj (.channel true)) L ++ p.trace } : Proc).FreshAbove :=
  hfr.of_subset rfl (Nat.le_succ _) fun _ hx => mem_allObjs_passEvents o new hL tok fd hx

end Pass

/-! ### The passes keep the supervisor's discipline -/

section Discipline

variable {rc : Bool} {S : Obj → ConnectionToken → Prop}

/-- The supervisor after the passes of `update_connections` from `p`: it keeps the token
discipline and `Owned`, and only appended events, whose connections all go to `new` and which
hand nothing to `main_interface_loop`. -/
structure PassesOK (rc : Bool) (S : Obj → ConnectionToken → Prop) (new : SockaddrUn P)
    (p q : Proc) : Prop where
  owned : q.Owned
  appends : ∃ evs, p.Appends q evs ∧
    (∀ t ∈ evs.filterMap Event.connectTarget, t = (new.sunFamily, new.sunPath)) ∧
    evs.flatMap Event.handed = []
  token : TokenTrace c rc S q.trace
  written : AllWritten q.trace

theorem replaceChannels_passesOK (outs : Nat → ReplaceOutcome) (new : SockaddrUn P) :
    ∀ (i : Nat) (rs : List ConnAddr) (p : Proc), p.Owned →
      (∀ r ∈ rs, ∃ L, p.lookup r.linkfd = some L ∧ S L r.token) →
      TokenTrace c rc S p.trace → AllWritten p.trace →
      PassesOK c rc S new p (replaceChannels K c outs new i rs p).1
  | _, [], p, hown, _, ht, hw => ⟨hown, ⟨[], ⟨rfl, rfl, rfl, le_rfl, rfl⟩, by simp, rfl⟩, ht, hw⟩
  | i, r :: rs, p, hown, hl, ht, hw => by
    obtain ⟨L, hL, hS⟩ := hl r (List.mem_cons_self _ _)
    cases hc : (outs i).connects
    · have e : (replaceChannels K c outs new i (r :: rs) p).1 =
          p.emit (.connect new.sunFamily new.sunPath none) := by
        simp [replaceChannels, replacePass_of_not_connects K c _ new r p hc]
      rw [e]
      refine ⟨hown.of_subset rfl le_rfl fun x hx => .inl ?_, ⟨[_], ⟨rfl, rfl, rfl, le_rfl, rfl⟩,
        by simp [Event.connectTarget], rfl⟩, ⟨trivial, ht⟩, ?_⟩
      · simpa [Proc.mem_allObjs_emit, Event.objs] using hx
      · intro o' ⟨f, path, hm⟩
        simp only [Proc.emit_trace, List.mem_cons, Event.connect.injEq, reduceCtorEq, and_false,
          false_or] at hm
        obtain ⟨t, r', h'⟩ := hw o' ⟨f, path, hm⟩
        exact ⟨t, r', List.mem_cons_of_mem _ h'⟩
    · have e := replacePass_of_connects K c _ new r p hc hL
      have hown' := owned_passEvents (outs i) new hown (Proc.mem_objs_of_lookup hL)
        (r.token.flagged c) (K.newFd p.fds)
      have ht' := tokenTrace_passEvents c (outs i) new hown.freshAbove hS ht (K.newFd p.fds)
      have hw' := allWritten_passEvents (outs i) new hw (r.token.flagged c) (K.newFd p.fds)
        (p.nextObj (.channel true)) L
      have hevs : (∀ t ∈ (passEvents (outs i) new (r.token.flagged c) (K.newFd p.fds)
            (p.nextObj (.channel true)) L).filterMap Event.connectTarget,
            t = (new.sunFamily, new.sunPath)) ∧
          (passEvents (outs i) new (r.token.flagged c) (K.newFd p.fds)
            (p.nextObj (.channel true)) L).flatMap Event.handed = [] := by
        by_cases hsz : (outs i).written = tokenSize <;>
          simp [passEvents, hsz, Event.connectTarget, Event.handed]
      by_cases hs : (outs i).Succeeds
      · have ih := replaceChannels_passesOK outs new (i + 1) rs _ hown'
          (fun r' hr' => hl r' (List.mem_cons_of_mem _ hr')) ht' hw'
        simp only [replaceChannels, e, decide_eq_true hs, if_true]
        obtain ⟨evs, ha, hct, hh⟩ := ih.appends
        refine ⟨ih.owned, ⟨evs ++ passEvents (outs i) new (r.token.flagged c) (K.newFd p.fds)
          (p.nextObj (.channel true)) L, ⟨ha.pid_eq, ha.fds_eq, ha.children_eq,
          (Nat.le_succ _).trans ha.serial_le, by rw [ha.trace_eq, List.append_assoc]⟩, ?_, ?_⟩,
          ih.token, ih.written⟩
        · intro t ht
          rcases List.mem_append.1 (List.filterMap_append _ _ _ ▸ ht) with ht | ht
          exacts [hct t ht, hevs.1 t ht]
        · rw [List.flatMap_append, hh, hevs.2]
          rfl
      · simp only [replaceChannels, e, decide_eq_false hs]
        exact ⟨hown', ⟨_, ⟨rfl, rfl, rfl, Nat.le_succ _, rfl⟩, hevs⟩, ht', hw'⟩

/-- `update_connections` keeps the supervisor's discipline, leaves the table alone, and adopts
either address. -/
theorem updateConnections_passesOK (outs : Nat → ReplaceOutcome) (cur new : SockaddrUn P)
    (cm : ConnMap) (unlinkAtEnd : Bool) {p : Proc} (hown : p.Owned)
    (hl : ∀ r ∈ cm.data, ∃ L, p.lookup r.linkfd = some L ∧ S L r.token)
    (ht : TokenTrace c rc S p.trace) (hw : AllWritten p.trace) :
    PassesOK c rc S new p (updateConnections K c outs cur new cm unlinkAtEnd p).1 ∧
      ((updateConnections K c outs cur new cm unlinkAtEnd p).2.1 = cur ∨
        (updateConnections K c outs cur new cm unlinkAtEnd p).2.1 = new) ∧
      (updateConnections K c outs cur new cm unlinkAtEnd p).2.2.1 = cm := by
  have h := replaceChannels_passesOK K c outs new 0 cm.data p hown hl ht hw
  simp only [updateConnections]
  generalize replaceChannels K c outs new 0 cm.data p = x at h
  obtain ⟨q, ret⟩ := x
  dsimp only at h ⊢
  split_ifs with hr hu
  · exact ⟨h, .inl rfl, rfl⟩
  · obtain ⟨evs, ha, hct, hh⟩ := h.appends
    refine ⟨⟨h.owned.of_subset rfl le_rfl fun x hx => .inl ?_, ⟨.unlink (cstr cur.sunPath) :: evs,
      ⟨ha.pid_eq, ha.fds_eq, ha.children_eq, ha.serial_le, by rw [Proc.emit_trace, ha.trace_eq]; rfl⟩,
      ?_, ?_⟩, ⟨trivial, h.token⟩, ?_⟩, .inr rfl, rfl⟩
    · simpa [Proc.mem_allObjs_emit, Event.objs] using hx
    · simpa [Event.connectTarget] using hct
    · simpa [Event.handed] using hh
    · exact (allWritten_append_quiet (show ∀ e ∈ [Event.unlink (cstr cur.sunPath)], e.IsQuiet by
        simp [Event.IsQuiet])).2 h.written
  · exact ⟨h, .inr rfl, rfl⟩

end Discipline

/-! ### The loop and `update_connections` -/

/-- The loop passes over the records in order until one fails: it passes one replacement
channel, connected to `new`, over the link of each record before that one and nothing over any
other link, leaves the descriptor table as it was, unlinks nothing, and returns 0 exactly when
no pass fails. -/
theorem replaceChannels_spec (outs : Nat → ReplaceOutcome) (new : SockaddrUn P) :
    ∀ (i : Nat) (rs : List ConnAddr) (p : Proc), (∀ r ∈ rs, (p.lookup r.linkfd).isSome) →
      ∃ evs, p.Appends (replaceChannels K c outs new i rs p).1 evs ∧
        List.Forall₂ (SentFor p new evs) (rs.take (leadingSuccesses outs i rs))
          (evs.reverse.filterMap Event.sentOver) ∧
        evs.filterMap Event.unlinked = [] ∧
        (replaceChannels K c outs new i rs p).2 =
          if leadingSuccesses outs i rs = rs.length then 0 else -1
  | i, [], p, _ => ⟨[], ⟨rfl, rfl, rfl, le_rfl, rfl⟩, by simp [replaceChannels, leadingSuccesses]⟩
  | i, r :: rs, p, hl => by
    obtain ⟨L, hL⟩ := Option.isSome_iff_exists.1 (hl r (List.mem_cons_self _ _))
    cases hc : (outs i).connects
    · have hs : ¬(outs i).Succeeds := by simp [ReplaceOutcome.Succeeds, hc]
      have e : replaceChannels K c outs new i (r :: rs) p =
          (p.emit (.connect new.sunFamily new.sunPath none), -1) := by
        simp [replaceChannels, replacePass_of_not_connects K c _ new r p hc]
      rw [e]
      refine ⟨[_], ⟨rfl, rfl, rfl, le_rfl, rfl⟩, ?_⟩
      simp [leadingSuccesses, hs, Event.sentOver, Event.unlinked]
    · have e := replacePass_of_connects K c _ new r p hc hL
      by_cases hs : (outs i).Succeeds
      · have hq : ∀ fd, ({ p with
            serial := p.serial + 1
            trace := passEvents (outs i) new (r.token.flagged c) (K.newFd p.fds)
              (p.nextObj (.channel true)) L ++ p.trace } : Proc).lookup fd = p.lookup fd :=
          fun _ => rfl
        obtain ⟨evs, ha, hsent, hunl, hret⟩ := replaceChannels_spec outs new (i + 1) rs _
          fun r' hr => (hq _).symm ▸ hl r' (List.mem_cons_of_mem _ hr)
        set pe := passEvents (outs i) new (r.token.flagged c) (K.newFd p.fds)
          (p.nextObj (.channel true)) L
        have hpe : pe.reverse.filterMap Event.sentOver = [(L, p.nextObj (.channel true))] := by
          simp [pe, passEvents, hs.2.1, hs.2.2, Event.sentOver]
        refine ⟨evs ++ pe, ?_, ?_, ?_, ?_⟩
        · simp only [replaceChannels, e, decide_eq_true hs, if_true]
          exact ⟨ha.pid_eq, ha.fds_eq, ha.children_eq, Nat.le_of_succ_le ha.serial_le,
            by rw [ha.trace_eq, List.append_assoc]⟩
        · rw [List.reverse_append, List.filterMap_append, hpe, leadingSuccesses, if_pos hs,
            List.take_succ_cons]
          refine .cons ⟨hL, rfl, List.mem_append_right _ (by simp [pe, passEvents])⟩ ?_
          exact hsent.imp fun r' x ⟨h1, h2, h3⟩ => ⟨(hq _).symm.trans h1, h2, List.mem_append_left _ h3⟩
        · simp [hunl, pe, passEvents, Event.unlinked]
        · simp [replaceChannels, e, hs, hret, leadingSuccesses]
      · refine ⟨passEvents (outs i) new (r.token.flagged c) (K.newFd p.fds)
          (p.nextObj (.channel true)) L, ?_, ?_, ?_, ?_⟩
        · simp only [replaceChannels, e, decide_eq_false hs]
          exact ⟨rfl, rfl, rfl, Nat.le_succ _, rfl⟩
        · have : (outs i).written = tokenSize → (outs i).sent = false := fun hw => by
            simpa [ReplaceOutcome.Succeeds, hc, hw] using hs
          by_cases hw : (outs i).written = tokenSize <;>
            simp [leadingSuccesses, hs, passEvents, hw, this, Event.sentOver]
        · simp [passEvents, Event.unlinked]
        · simp [replaceChannels, e, hs, leadingSuccesses]

/-- `update_connections` on a table whose link descriptors are open, with `i` the first record
whose pass fails (`i = n` when none does): in order, it passes one replacement channel, connected
to the new address, over the link of each of records `0 .. i-1` and nothing over any other link,
returns 0 exactly when `i = n`, adopts the new address exactly when it returns 0, leaves the table
and the descriptor table as they were, and unlinks the old socket path only when it returns 0,
`unlink_at_end` holds and the paths differ. -/
theorem updateConnections_spec (outs : Nat → ReplaceOutcome) (cur new : SockaddrUn P)
    (cm : ConnMap) (unlinkAtEnd : Bool) (p : Proc)
    (hl : ∀ r ∈ cm.data, (p.lookup r.linkfd).isSome) :
    ∀ q cur' cm' ret, updateConnections K c outs cur new cm unlinkAtEnd p = (q, cur', cm', ret) →
      ∃ evs, p.Appends q evs ∧
        List.Forall₂ (SentFor p new evs) (cm.data.take (leadingSuccesses outs 0 cm.data))
          (evs.reverse.filterMap Event.sentOver) ∧
        (ret = 0 ↔ leadingSuccesses outs 0 cm.data = cm.data.length) ∧ (ret = 0 ∨ ret = -1) ∧
        cur' = (if ret = 0 then new else cur) ∧ cm' = cm ∧
        evs.filterMap Event.unlinked =
          if ret = 0 ∧ unlinkAtEnd ∧ cstr cur.sunPath ≠ cstr new.sunPath then [cstr cur.sunPath]
          else [] := by
  intro q cur' cm' ret h
  obtain ⟨evs, ha, hsent, hunl, hret⟩ := replaceChannels_spec K c outs new 0 cm.data p hl
  simp only [updateConnections, hret] at h
  by_cases hall : leadingSuccesses outs 0 cm.data = cm.data.length
  · simp only [hall, if_true] at h
    simp only [show (0 : Int) ≠ -1 by decide, if_false, Prod.mk.injEq] at h
    obtain ⟨rfl, rfl, rfl, rfl⟩ := h
    by_cases hu : unlinkAtEnd && strcmpNe cur.sunPath new.sunPath
    · refine ⟨.unlink (cstr cur.sunPath) :: evs, ?_, ?_, ?_⟩
      · simp only [hu, if_true]
        exact ⟨ha.pid_eq, ha.fds_eq, ha.children_eq, ha.serial_le, by simp [ha.trace_eq]⟩
      · simpa [Event.sentOver] using
          hsent.imp fun r x ⟨h1, h2, h3⟩ => ⟨h1, h2, List.mem_cons_of_mem _ h3⟩
      · simp only [Bool.and_eq_true, strcmpNe, bne_iff_ne, ne_eq] at hu
        simp [hall, hu, hunl, Event.unlinked]
    · refine ⟨evs, ?_, hsent, ?_⟩
      · simpa only [hu, if_false] using ha
      · simp only [Bool.and_eq_true, strcmpNe, bne_iff_ne, ne_eq, not_and, not_not] at hu
        simp only [hall, true_iff, Int.reduceNeg, and_true, true_or, if_true, hunl, true_and]
        split_ifs with h'
        · exact absurd (hu h'.1) h'.2
        · rfl
  · simp only [hall, if_false, if_true, Prod.mk.injEq] at h
    obtain ⟨rfl, rfl, rfl, rfl⟩ := h
    refine ⟨evs, ha, hsent, ?_⟩
    simp [hall, hunl]

/-- A supervisor holding the links of three sessions on descriptors 3, 4 and 5. -/
def threeLinks : Proc :=
  ⟨1, (((∅ : FdTable).insert 5 ⟨1, 2, .pairEnd false⟩).insert 4 ⟨1, 1, .pairEnd false⟩).insert 3
    ⟨1, 0, .pairEnd false⟩, 3, [], []⟩

/-- Three sessions, of workers 7, 8 and 9, linked on descriptors 3, 4 and 5. -/
def threeSessions : ConnMap :=
  ⟨[⟨⟨0, ⟨0, 0, 0⟩⟩, 7, 3⟩, ⟨⟨0, ⟨1, 0, 0⟩⟩, 8, 4⟩, ⟨⟨0, ⟨2, 0, 0⟩⟩, 9, 5⟩], 4⟩

/-- The new endpoint `/n`. -/
def pathN : SockaddrUn Platform.linux := ⟨1, [0x2f, 0x6e] ++ List.replicate 106 0, by decide⟩

/-- Every pass succeeds but the second, whose `connect_to_socket` fails. -/
def middleFails (i : Nat) : ReplaceOutcome :=
  if i = 1 then ⟨false, 0, false⟩ else ⟨true, tokenSize, true⟩

/-- With the second of three passes failing, `update_connections` returns -1, keeps the old
address, and sends a replacement channel connected to `/n` over the first session's link only. -/
theorem updateConnections_middleFails :
    (∀ r ∈ threeSessions.data, (threeLinks.lookup r.linkfd).isSome) ∧
      leadingSuccesses middleFails 0 threeSessions.data = 1 ∧
      ∃ q cm', updateConnections Kernel.above TokenConsts.lowBits middleFails
          (SockaddrUn.zero Platform.linux) pathN threeSessions true threeLinks =
          (q, SockaddrUn.zero _, cm', -1) ∧
        ∃ evs, threeLinks.Appends q evs ∧
          List.Forall₂ (SentFor threeLinks pathN evs) (threeSessions.data.take 1)
            (evs.reverse.filterMap Event.sentOver) := by
  have hl : ∀ r ∈ threeSessions.data, (threeLinks.lookup r.linkfd).isSome := by decide
  refine ⟨hl, rfl, _, _, rfl, ?_⟩
  obtain ⟨evs, ha, hs, -⟩ := updateConnections_spec Kernel.above TokenConsts.lowBits middleFails
    (SockaddrUn.zero Platform.linux) pathN threeSessions true threeLinks hl _ _ _ _ rfl
  exact ⟨evs, ha, hs⟩

end Waypipe
