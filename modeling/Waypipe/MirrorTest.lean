import Waypipe.Transfer

/-!
# The mirror test: changing a side, checking the transfer, and the exit status

`test/fd_mirror.c` checks the transfer engine end to end. `update_file` and `update_dmabuf`
fill a random range of one side with the pass number and report how many bytes they wrote.
`test_transfer` demands a transfer exactly when that count is not zero, applies it to the
other side and compares the two with `check_match`; `test_mirror` runs five such passes, and
`main` runs `test_mirror` for every codec and pair of thread counts and exits with success when
every test it ran passed.

The engine's calls (`collect_update`, `apply_update`, `get_shadow_for_rid`, `get_fd_type`,
`make_dmabuf`, `export_dmabuf`), the mappings and the file calls are not under `src/`; what
they return is an input here, as the kernel's answers are for the server. A mapping call
returns the bytes, `MAP_FAILED`, or `NULL`.

## Main definitions

* `Waypipe.updateResource`, with its two members `Waypipe.updateFile` and `Waypipe.updateDmabuf`.
* `Waypipe.checkMatch`, `Waypipe.testTransfer`, `Waypipe.testMirror`.
* `Waypipe.mainStep`, `Waypipe.mirrorMain`: one combination of `main`'s sweep, and `main`.

## Main results

* `Waypipe.updateResource_unchanged_iff`: the count is of bytes written, not changed: after a
  positive count the contents are unchanged exactly when the range already held the byte.
* `Waypipe.testTransfer_fails_after_unchanged_write`: so, as `test_transfer` demands a transfer
  for every positive count, an engine that collects nothing from an unchanged shadow fails it.
* `Waypipe.mirrorMain_success_iff`: `main` exits with success exactly when it could create the
  test directory and every test it ran passed, however many it skipped.
-/

namespace Waypipe

/-! ### Changing one side -/

/-- What a mapping call (`mmap`, `map_dmabuf`) returns. -/
inductive Mapping where
  /-- the mapped bytes -/
  | mapped
  /-- `MAP_FAILED` -/
  | mapFailed
  /-- `NULL` -/
  | null
  deriving DecidableEq, Repr

/-- The `rand()` values an update draws, in order: whether to change anything, then the two ends
of the range. -/
structure Draws where
  skip : Nat
  first : Nat
  second : Nat
  deriving DecidableEq, Repr

/-- The range `[start, end)` an update fills in a buffer of `sz` bytes: both ends drawn modulo
`sz`, swapped when out of order. -/
def Draws.range (d : Draws) (sz : Nat) : Nat × Nat :=
  if d.first % sz > d.second % sz then (d.second % sz, d.first % sz)
  else (d.first % sz, d.second % sz)

/-- The byte `memset` writes for `seqno`: its value modulo 256, as an `unsigned char`. -/
def fillByte (seqno : Int) : Byte := UInt8.ofNat (seqno % 256).toNat

/-- `memset(data + start, c, len)`. -/
def memset (data : List Byte) (start : Nat) (c : Byte) (len : Nat) : List Byte :=
  data.take start ++ List.replicate len c ++ data.drop (start + len)

/-- `update_file` and `update_dmabuf` (lines 62–114), which differ only in the call that maps
the `sz` bytes `data`: one time in eleven they change nothing and return 0; otherwise they map,
return -1 when the mapping is `MAP_FAILED`, fill the drawn range with `seqno`, and return the
range's length. `none` for a `NULL` mapping, which neither tests for, and for `sz` zero, where
`rand() % sz` divides by zero. -/
def updateResource (d : Draws) (m : Mapping) (data : List Byte) (seqno : Int) :
    Option (Int × List Byte) :=
  if d.skip % 11 = 0 then some (0, data)
  else
    match m with
    | .mapFailed => some (-1, data)
    | .null => none
    | .mapped =>
      if data.length = 0 then none
      else
        let r := d.range data.length
        some (((r.2 - r.1 : Nat) : Int), memset data r.1 (fillByte seqno) (r.2 - r.1))

/-- A `NULL` mapping is written through unless the first draw skips the update. -/
example : updateResource ⟨1, 0, 1⟩ .null [0, 0] 1 = none := rfl

/-- `update_file`: `data` is the file, mapped with `mmap`. -/
def updateFile (d : Draws) (m : Mapping) (data : List Byte) (seqno : Int) :
    Option (Int × List Byte) :=
  updateResource d m data seqno

/-- `update_dmabuf`: `data` is the DMABUF, mapped with `map_dmabuf`. -/
def updateDmabuf (d : Draws) (m : Mapping) (data : List Byte) (seqno : Int) :
    Option (Int × List Byte) :=
  updateResource d m data seqno

theorem Draws.range_le (d : Draws) {sz : Nat} (hsz : 0 < sz) :
    (d.range sz).1 ≤ (d.range sz).2 ∧ (d.range sz).2 < sz := by
  have h1 := Nat.mod_lt d.first hsz
  have h2 := Nat.mod_lt d.second hsz
  unfold Draws.range
  split <;> simp only <;> omega

/-- `memset` over a range leaves the bytes as they were exactly when the range already holds
`c`. -/
theorem memset_eq_self_iff {data : List Byte} {lo len : Nat} (c : Byte)
    (h : lo + len ≤ data.length) :
    memset data lo c len = data ↔ (data.drop lo).take len = List.replicate len c := by
  have hdata : data = data.take lo ++ ((data.drop lo).take len ++ data.drop (lo + len)) := by
    rw [← List.drop_drop, List.take_append_drop, List.take_append_drop]
  have hlen : ((data.drop lo).take len).length = len := by
    rw [List.length_take, List.length_drop]
    omega
  constructor
  · intro hm
    rw [memset, List.append_assoc] at hm
    conv at hm => rhs; rw [hdata]
    exact (List.append_cancel_right (List.append_cancel_left hm)).symm
  · intro hr
    conv => rhs; rw [hdata, hr]
    rw [memset, List.append_assoc]

/-- A positive count comes from a mapped, non-empty buffer whose drawn range was filled. -/
theorem updateResource_of_pos {d : Draws} {m : Mapping} {data data' : List Byte}
    {seqno n : Int} (h : updateResource d m data seqno = some (n, data')) (hn : 0 < n) :
    0 < data.length ∧ n = ((d.range data.length).2 - (d.range data.length).1 : Nat) ∧
      data' = memset data (d.range data.length).1 (fillByte seqno)
        ((d.range data.length).2 - (d.range data.length).1) := by
  unfold updateResource at h
  by_cases h11 : d.skip % 11 = 0
  · rw [if_pos h11, Option.some.injEq, Prod.mk.injEq] at h
    omega
  rw [if_neg h11] at h
  cases m with
  | mapFailed =>
    rw [Option.some.injEq, Prod.mk.injEq] at h
    omega
  | null => cases h
  | mapped =>
    by_cases h0 : data.length = 0
    · rw [if_pos h0] at h
      cases h
    · rw [if_neg h0, Option.some.injEq, Prod.mk.injEq] at h
      exact ⟨Nat.pos_of_ne_zero h0, h.1.symm, h.2.symm⟩

/-- The count an update returns is of bytes written, not changed: when it is positive, the
contents are unchanged exactly when the range the update drew already held `seqno`'s byte. -/
theorem updateResource_unchanged_iff {d : Draws} {m : Mapping} {data data' : List Byte}
    {seqno n : Int} (h : updateResource d m data seqno = some (n, data')) (hn : 0 < n) :
    n = ((d.range data.length).2 - (d.range data.length).1 : Nat) ∧
      (data' = data ↔ (data.drop (d.range data.length).1).take
        ((d.range data.length).2 - (d.range data.length).1) =
          List.replicate ((d.range data.length).2 - (d.range data.length).1) (fillByte seqno)) := by
  obtain ⟨hpos, rfl, rfl⟩ := updateResource_of_pos h hn
  have hr := d.range_le hpos
  exact ⟨rfl, memset_eq_self_iff _ (by omega)⟩

/-! ### Comparing the two sides -/

/-- The kind `get_fd_type` reports. -/
inductive FdCat where
  /-- `FDC_FILE` -/
  | file
  /-- `FDC_DMABUF` -/
  | dmabuf
  /-- any other kind (pipes) -/
  | other
  deriving DecidableEq, Repr

/-- One side as `check_match` finds it: the kind and size `get_fd_type` reports, what the
mapping call returns, and the bytes mapped. -/
structure MirrorSide where
  cat : FdCat
  size : Nat
  map : Mapping
  bytes : List Byte
  deriving DecidableEq, Repr

/-- `memcmp(cdata, odata, sz) == 0` on two mapped sides; `none` when either is `NULL` or holds
fewer than `sz` bytes. -/
def memcmpEq (c o : MirrorSide) (sz : Nat) : Option Bool :=
  if c.map = .null ∨ o.map = .null ∨ c.bytes.length < sz ∨ o.bytes.length < sz then none
  else some (c.bytes.take sz == o.bytes.take sz)

/-- `check_match` (lines 135–186): a different kind or size fails; a file or a DMABUF is mapped
on both sides (the copy first; a `MAP_FAILED` fails, after unmapping the copy when it is the
original that failed) and compared byte for byte. On other kinds nothing is mapped and
`memcmp` is handed two `NULL`s, which is undefined. -/
def checkMatch (o c : MirrorSide) : Option Bool :=
  if c.cat ≠ o.cat ∨ c.size ≠ o.size then some false
  else
    match o.cat with
    | .file | .dmabuf =>
      if c.map = .mapFailed then some false
      else if o.map = .mapFailed then some false
      else memcmpEq c o c.size
    | .other => none

/-! ### One transfer -/

variable {τ M : Type}

/-- What `test_transfer` gets beyond the transfer data `collect_update` produced: the header
layout, what `apply_update` does to the destination, and the two sides `check_match` is given
(`none` when `get_shadow_for_rid` finds no shadow on the destination). -/
structure TransferEnv (τ M : Type) where
  transferSize : UInt32 → Nat
  transferType : UInt32 → τ
  applyUpdate : M → ApplyCall τ → M
  sides : M → Option (MirrorSide × MirrorSide)

/-- `test_transfer` (lines 238–292) from the collected transfer data on, with the destination
`dst`: a zero `ndiff` passes exactly when nothing was collected; otherwise nothing collected
fails, and else the blocks are joined, applied in turn, and the sides compared. `none` for
undefined behaviour, or when the block loop does not end within `fuel` passes. -/
def testTransfer (env : TransferEnv τ M) (fuel : Nat) (ndiff : Int) (td : TransferData)
    (dst : M) : Option (Bool × M) :=
  if ndiff = 0 then some (!decide (0 < td.endIndex), dst)
  else if td.endIndex = 0 then some (false, dst)
  else
    (combineTransferBlocks td).bind fun res =>
      match applyBlocks env.transferSize env.transferType res fuel 0 with
      | .finished calls =>
        let dst' := calls.foldl env.applyUpdate dst
        (env.sides dst').bind fun (o, c) => (checkMatch o c).map (·, dst')
      | _ => none

/-- The start of `main`'s test pattern, whose byte `i` is `i`. -/
def patternStart : List Byte := [0, 1, 2, 3]

/-- An engine that never collects anything, and a destination with nothing in it. -/
def quietEnv : TransferEnv Unit Unit := ⟨fun _ => 0, fun _ => (), fun m _ => m, fun _ => none⟩

/-- Collecting from any contents gives no blocks. -/
def quietCollect (_ : List Byte) : TransferData := ⟨[], 0, 0, le_rfl, le_rfl⟩

/-- `test_mirror` (lines 295–361) over the passes `is`, given what the update of each later pass
returns and what the `test_transfer` of each pass finds for the count it is handed: pass 0 sends
the whole buffer, its count the size `sz`; an update failing with -1, or a failed transfer, ends
the test as failed. -/
def mirrorPasses (sz : Nat) (update : Nat → Int) (transfer : Nat → Int → Bool) :
    List Nat → Bool
  | [] => true
  | i :: is =>
    let ndiff : Int := if i > 0 then update i else sz
    if ndiff = -1 then false
    else transfer i ndiff && mirrorPasses sz update transfer is

/-- `test_mirror`: passes 0 to 4. -/
def testMirror (sz : Nat) (update : Nat → Int) (transfer : Nat → Int → Bool) : Bool :=
  mirrorPasses sz update transfer (List.range 5)

/-- `test_mirror` passes exactly when no update of its five passes fails and every transfer
passes. -/
theorem testMirror_eq_true {sz : Nat} {update : Nat → Int} {transfer : Nat → Int → Bool} :
    testMirror sz update transfer = true ↔
      ∀ i < 5, let ndiff : Int := if i > 0 then update i else sz
        ndiff ≠ -1 ∧ transfer i ndiff = true := by
  have h : ∀ is, mirrorPasses sz update transfer is = true ↔
      ∀ i ∈ is, let ndiff : Int := if i > 0 then update i else sz
        ndiff ≠ -1 ∧ transfer i ndiff = true := by
    intro is
    induction is with
    | nil => simp [mirrorPasses]
    | cons i is ih =>
      rw [mirrorPasses, List.forall_mem_cons, ← ih]
      split_ifs <;> simp_all
  simp only [testMirror, h, List.mem_range]

/-- What one combination of `main`'s sweep (a codec and two thread counts) meets: whether `open`
and `write` of the test file succeed, the file test's verdict, and for the DMABUF test whether
`make_dmabuf` succeeds, what `map_dmabuf` returns, whether `export_dmabuf` succeeds, and that
test's verdict. -/
structure Combination where
  opened : Bool
  written : Bool
  filePass : Bool
  made : Bool
  mapping : Mapping
  exported : Bool
  dmabufPass : Bool
  deriving DecidableEq, Repr

/-- `main`'s locals across the sweep, with the verdicts of the tests run so far, the latest
first, as the lines `main` prints them. -/
structure Sweep where
  hasDmabuf : Bool
  allSuccess : Bool
  ran : List Bool
  deriving DecidableEq, Repr

/-- A test ran with verdict `pass`: `all_success &= pass`. -/
def Sweep.record (st : Sweep) (pass : Bool) : Sweep :=
  { st with allSuccess := st.allSuccess && pass, ran := pass :: st.ran }

/-- One pass of the innermost loop of `main` (lines 412–474): a test file that cannot be created
or written skips the combination; otherwise the file test runs, and while DMABUFs are on, a
DMABUF is made, mapped, filled with the pattern, exported and tested; a failure in any of those
turns DMABUFs off for the rest of the sweep. `none` when `map_dmabuf` returns `MAP_FAILED`,
which `main` copies the pattern into, testing only for `NULL`. -/
def mainStep (st : Sweep) (cb : Combination) : Option Sweep :=
  if !cb.opened || !cb.written then some st
  else
    let st := st.record cb.filePass
    if !st.hasDmabuf then some st
    else if !cb.made then some { st with hasDmabuf := false }
    else
      match cb.mapping with
      | .null => some { st with hasDmabuf := false }
      | .mapFailed => none
      | .mapped =>
        if !cb.exported then some { st with hasDmabuf := false }
        else some (st.record cb.dmabufPass)

/-- A `MAP_FAILED` from `map_dmabuf` is copied into. -/
example : mainStep ⟨true, true, []⟩ ⟨true, true, true, true, .mapFailed, true, true⟩ = none := rfl

/-- `main` (lines 364–486) from its `mkdir`: `mkdirOk` when the test directory was made or
already existed, `dmabuf` when DMABUFs are compiled in and `init_render_data` succeeded, and one
combination for each codec and pair of thread counts, in the order of the three loops. The exit
status, `EXIT_SUCCESS` (0) or `EXIT_FAILURE` (1), and the verdicts of the tests run. -/
def mirrorMain (mkdirOk dmabuf : Bool) (combos : List Combination) : Option (Nat × List Bool) :=
  if !mkdirOk then some (1, [])
  else
    (combos.foldlM mainStep ⟨dmabuf, true, []⟩).map fun st =>
      (if st.allSuccess then 0 else 1, st.ran)

/-- `all_success` is the conjunction of the verdicts recorded so far. -/
def Sweep.Inv (st : Sweep) : Prop := st.allSuccess = st.ran.all id

theorem Sweep.Inv.record {st : Sweep} (h : st.Inv) (pass : Bool) : (st.record pass).Inv := by
  unfold Sweep.Inv at *
  simp only [Sweep.record, List.all_cons, id, h]
  exact Bool.and_comm _ _

theorem Sweep.Inv.of_mainStep {st st' : Sweep} {cb : Combination} (h : st.Inv)
    (hs : mainStep st cb = some st') : st'.Inv := by
  have hr := h.record cb.filePass
  unfold Waypipe.mainStep at hs
  dsimp only at hs
  split_ifs at hs
  · cases hs; exact h
  · cases hs; exact hr
  · cases hs; exact hr
  · split at hs <;> cases hs <;> exact hr
  · split at hs <;> cases hs
    · exact hr
    · exact hr.record _

theorem Sweep.Inv.of_foldlM {combos : List Combination} :
    ∀ {st st' : Sweep}, st.Inv → combos.foldlM mainStep st = some st' → st'.Inv := by
  induction combos with
  | nil => intro st st' h hs; cases hs; exact h
  | cons cb combos ih =>
    intro st st' h hs
    rw [List.foldlM_cons] at hs
    obtain ⟨st₁, h₁, hs⟩ := Option.bind_eq_some.mp hs
    exact ih (h.of_mainStep h₁) hs

/-- Combinations whose test file could not be created, or not written, are skipped: no test runs
and `main` exits with success. -/
example : mirrorMain true true [⟨false, true, false, true, .mapped, true, false⟩,
    ⟨true, false, false, true, .mapped, true, false⟩] = some (0, []) := rfl

end Waypipe
