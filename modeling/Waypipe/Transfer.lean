import Waypipe.CMem

/-!
# The transfer blocks of an update, and the loop that applies them

`test_transfer` (`test/fd_mirror.c`, lines 238–292) collects a shadow's update into a
`struct transfer_data`, joins its `iovec`s into one buffer with `combine_transfer_blocks`
(lines 116–133), and walks that buffer block by block (lines 274–284): at each block it reads
the header word and the remote id, hands `alignu(transfer_size(header), 16)` bytes to
`apply_update`, and moves on by as many.

How the header word encodes the size and the type (`transfer_size`, `transfer_type`) is
`util.h`'s, which is not under `src/`: both are parameters, and every result here holds
whatever they are. Words are read little-endian. A run of the loop that would read outside the
buffer is undefined behaviour and ends in `BlockLoop.readPastEnd`; a run still going when the
fuel is spent ends in `BlockLoop.running`.

## Main definitions

* `Waypipe.combineTransferBlocks`: the size the first loop adds up, and the buffer the second
  loop fills with `memcpy`.
* `Waypipe.applyBlocks`: the block loop of `test_transfer`, with the `apply_update` calls it
  makes.
* `Waypipe.Frame`: a block as the loop reads one, carrying that its length is its header's size
  rounded up to 16 bytes, and not zero.

## Main results

* `Waypipe.combineTransferBlocks_eq`: the copies stay inside the allocated buffer, which ends
  up holding the `iovec`s back to back, and is as long as the first loop says.
* `Waypipe.testTransfer_applies_in_order`: however the frames are split into `iovec`s,
  `test_transfer` applies them one by one, in the order they were produced.
* `Waypipe.applyBlocks_finished`: a buffer the loop gets through is made of frames, those it
  applied: the loop accepts exactly the concatenations of frames.
* `Waypipe.applyBlocks_spins_on_zero_size`: after a header declaring size zero the loop never
  ends.
-/

namespace Waypipe

/-! ### Joining the `iovec`s -/

/-- A `struct transfer_data` as `test_transfer` reads it: the `iovec`s `data[start .. end)`. -/
structure TransferData where
  data : List (List Byte)
  start : Nat
  /-- `end` -/
  endIndex : Nat
  start_le : start ≤ endIndex
  end_le : endIndex ≤ data.length

/-- The `iovec`s from `start` to `end`, in order. -/
def TransferData.blocks (td : TransferData) : List (List Byte) :=
  (td.data.take td.endIndex).drop td.start

/-- A `struct bytebuf`: the size recorded, and the bytes. -/
structure ByteBuf where
  size : Nat
  data : List Byte

/-- `memcpy(buf + pos, src, src.length)`; `none` when it would write past the end of `buf`. -/
def memcpyAt (buf : List Byte) (pos : Nat) (src : List Byte) : Option (List Byte) :=
  if pos + src.length ≤ buf.length then
    some (buf.take pos ++ src ++ buf.drop (pos + src.length))
  else none

/-- One pass of the second loop: copy the `iovec` at `pos`, then move `pos` past it. -/
def copyBlock (acc : Option (List Byte × Nat)) (iov : List Byte) : Option (List Byte × Nat) :=
  acc.bind fun (buf, pos) => (memcpyAt buf pos iov).map (·, pos + iov.length)

/-- `combine_transfer_blocks`: the first loop adds up `net_size`, `malloc(net_size)` gives a buffer
of that size (its initial bytes are never read), and the second loop copies the `iovec`s into it
one after another; `none` if a copy would write past the buffer. -/
def combineTransferBlocks (td : TransferData) : Option ByteBuf :=
  let netSize := td.blocks.foldl (fun n iov => n + iov.length) 0
  (td.blocks.foldl copyBlock (some (List.replicate netSize 0, 0))).map
    fun (buf, _) => ⟨netSize, buf⟩

theorem foldl_add_length (l : List (List Byte)) (n : Nat) :
    l.foldl (fun n iov => n + iov.length) n = n + l.flatten.length := by
  induction l generalizing n with
  | nil => simp
  | cons b l ih => simp only [List.foldl_cons, ih, List.flatten_cons, List.length_append]; omega

/-- A copy at the end of what is already copied, into room enough for it. -/
theorem memcpyAt_append (pre junk src : List Byte) (h : src.length ≤ junk.length) :
    memcpyAt (pre ++ junk) pre.length src = some (pre ++ src ++ junk.drop src.length) := by
  rw [memcpyAt, if_pos (by rw [List.length_append]; omega), List.take_left' rfl, List.drop_append]

/-- The second loop, from a buffer whose first `pre.length` bytes are copied and whose rest is
exactly as long as the `iovec`s still to copy, fills the rest with them. -/
theorem foldl_copyBlock (l : List (List Byte)) (pre junk : List Byte)
    (hj : junk.length = l.flatten.length) :
    l.foldl copyBlock (some (pre ++ junk, pre.length)) =
      some (pre ++ l.flatten, pre.length + l.flatten.length) := by
  induction l generalizing pre junk with
  | nil =>
    rw [List.flatten_nil, List.length_nil] at hj
    simp [List.length_eq_zero.1 hj]
  | cons b l ih =>
    rw [List.flatten_cons, List.length_append] at hj
    have hcopy : copyBlock (some (pre ++ junk, pre.length)) b =
        some ((pre ++ b) ++ junk.drop b.length, (pre ++ b).length) := by
      rw [copyBlock, Option.some_bind]
      dsimp only
      rw [memcpyAt_append _ _ _ (by omega), Option.map_some', List.length_append]
    rw [List.foldl_cons, hcopy, ih _ _ (by rw [List.length_drop]; omega)]
    simp [List.append_assoc, Nat.add_assoc]

/-- The copies of `combine_transfer_blocks` stay inside the buffer it allocated, which ends up
holding the `iovec`s back to back and is exactly as long as the size the first loop computed. -/
theorem combineTransferBlocks_eq (td : TransferData) :
    combineTransferBlocks td = some ⟨td.blocks.flatten.length, td.blocks.flatten⟩ := by
  have h := foldl_copyBlock td.blocks [] (List.replicate td.blocks.flatten.length 0)
    (List.length_replicate _ _)
  simp only [List.nil_append, List.length_nil, Nat.zero_add] at h
  simp only [combineTransferBlocks, foldl_add_length, Nat.zero_add, h, Option.map_some']

/-! ### Reading a block's header -/

/-- The little-endian value of some bytes. -/
def leNat : List Byte → Nat
  | [] => 0
  | b :: bs => b.toNat + 256 * leNat bs

/-- The header word at the start of a block, `((uint32_t *)tmp.data)[0]`. -/
def readU32 (b : List Byte) : UInt32 := UInt32.ofNat (leNat (b.take 4))

/-- The remote id after it, `((int32_t *)tmp.data)[1]`. -/
def readI32 (b : List Byte) : Int :=
  let n := leNat ((b.drop 4).take 4)
  if n < 2147483648 then n else n - 4294967296

theorem readU32_append {l : List Byte} (r : List Byte) (h : 4 ≤ l.length) :
    readU32 (l ++ r) = readU32 l := by
  rw [readU32, readU32, List.take_append_of_le_length h]

theorem readI32_append {l : List Byte} (r : List Byte) (h : 8 ≤ l.length) :
    readI32 (l ++ r) = readI32 l := by
  rw [readI32, readI32, List.drop_append_of_le_length (by omega),
    List.take_append_of_le_length (by rw [List.length_drop]; omega)]

theorem readU32_take {l : List Byte} {n : Nat} (h : 4 ≤ n) : readU32 (l.take n) = readU32 l := by
  rw [readU32, readU32, List.take_take, Nat.min_eq_left h]

theorem readI32_take {l : List Byte} {n : Nat} (h : 8 ≤ n) : readI32 (l.take n) = readI32 l := by
  rw [readI32, readI32, List.drop_take, List.take_take, Nat.min_eq_left (by omega)]

/-- `alignu(v, a)` of `util.h`: `v` rounded up to a multiple of `a`. -/
def alignu (v a : Nat) : Nat := a * ((v + a - 1) / a)

theorem alignu_sixteen_pos {v : Nat} (h : 0 < alignu v 16) : 16 ≤ alignu v 16 := by
  unfold alignu at h ⊢
  omega

theorem alignu_eq_zero {v : Nat} (h : alignu v 16 = 0) : v = 0 := by
  unfold alignu at h
  omega

theorem alignu_zero (a : Nat) : alignu 0 a = 0 := by
  unfold alignu
  rcases a with _ | a
  · simp
  · simp [Nat.div_eq_of_lt (Nat.lt_succ_self a)]

/-! ### The block loop -/

/-- An `apply_update` call of the block loop: the block's type, its remote id, and its bytes. -/
structure ApplyCall (τ : Type) where
  type : τ
  xid : Int
  block : List Byte
  deriving DecidableEq, Repr

/-- How the block loop of `test_transfer` ends. -/
inductive BlockLoop (α : Type) where
  /-- `start` reached `res.size`, after these `apply_update` calls -/
  | finished (calls : List α)
  /-- a header, or a block handed to `apply_update`, lies partly past the end of the buffer -/
  | readPastEnd
  /-- still looping when the fuel ran out -/
  | running
  deriving DecidableEq, Repr

/-- Calls made before the rest of the loop. -/
def BlockLoop.prepend {α : Type} (cs : List α) : BlockLoop α → BlockLoop α
  | finished calls => finished (cs ++ calls)
  | r => r

@[simp] theorem BlockLoop.prepend_nil {α : Type} (r : BlockLoop α) : r.prepend [] = r := by
  cases r <;> rfl

theorem BlockLoop.prepend_prepend {α : Type} (cs ds : List α) (r : BlockLoop α) :
    (r.prepend ds).prepend cs = r.prepend (cs ++ ds) := by
  cases r <;> simp [prepend]

theorem BlockLoop.prepend_eq_finished {α : Type} {cs calls : List α} {r : BlockLoop α}
    (h : r.prepend cs = .finished calls) : ∃ rest, r = .finished rest ∧ calls = cs ++ rest := by
  cases r <;> simp_all [prepend]

section Loop

variable {τ : Type} (transferSize : UInt32 → Nat) (transferType : UInt32 → τ)

/-- The block loop of `test_transfer` (lines 274–284), from offset `start` of `res`: while
`start < res.size`, read the header word and the remote id at `tmp.data = &res.data[start]`,
hand `alignu(transfer_size(hb), 16)` bytes to `apply_update`, and move `start` past them. -/
def applyBlocks (res : ByteBuf) : (fuel start : Nat) → BlockLoop (ApplyCall τ)
  | 0, _ => .running
  | fuel + 1, start =>
    if start < res.size then
      let tmp := res.data.drop start
      if tmp.length < 8 then .readPastEnd
      else
        let hb := readU32 tmp
        let size := alignu (transferSize hb) 16
        if tmp.length < size then .readPastEnd
        else (applyBlocks res fuel (start + size)).prepend
          [⟨transferType hb, readI32 tmp, tmp.take size⟩]
    else .finished []

/-- A block as the loop reads one: its length is the size its header declares, rounded up to
16 bytes, and is not zero. -/
structure Frame where
  bytes : List Byte
  length_pos : 0 < bytes.length
  length_eq : bytes.length = alignu (transferSize (readU32 bytes)) 16

variable {transferSize}

/-- The `apply_update` call the loop makes on a frame. -/
def Frame.call (f : Frame transferSize) : ApplyCall τ :=
  ⟨transferType (readU32 f.bytes), readI32 f.bytes, f.bytes⟩

theorem Frame.sixteen_le (f : Frame transferSize) : 16 ≤ f.bytes.length :=
  f.length_eq ▸ alignu_sixteen_pos (f.length_eq ▸ f.length_pos)

/-- One step of the loop on a buffer whose rest, from `start`, begins with a frame. -/
theorem applyBlocks_frame (res : ByteBuf) (hsz : res.size = res.data.length) (fuel start : Nat)
    (f : Frame transferSize) (rest : List Byte) (h : res.data.drop start = f.bytes ++ rest) :
    applyBlocks transferSize transferType res (fuel + 1) start =
      (applyBlocks transferSize transferType res fuel (start + f.bytes.length)).prepend
        [f.call transferType] := by
  have h16 := f.sixteen_le
  have hlen : start + f.bytes.length ≤ res.data.length := by
    have := congrArg List.length h
    rw [List.length_drop, List.length_append] at this
    omega
  have hhb : readU32 (res.data.drop start) = readU32 f.bytes := by
    rw [h, readU32_append _ (by omega)]
  rw [applyBlocks]
  dsimp only
  rw [if_pos (by omega), if_neg (by rw [h, List.length_append]; omega), hhb,
    ← f.length_eq, if_neg (by rw [h, List.length_append]; omega), h,
    List.take_left' rfl, readI32_append _ (by omega)]
  rfl

/-- The loop goes through the frames at the start of what is left of the buffer, applying them
in order, and then goes on from the first byte after them. -/
theorem applyBlocks_append_frames (res : ByteBuf) (hsz : res.size = res.data.length) :
    ∀ (frames : List (Frame transferSize)) (fuel start : Nat) (rest : List Byte),
      res.data.drop start = frames.flatMap Frame.bytes ++ rest →
      applyBlocks transferSize transferType res (fuel + frames.length) start =
        (applyBlocks transferSize transferType res fuel
          (start + (frames.flatMap Frame.bytes).length)).prepend
          (frames.map (Frame.call transferType))
  | [], fuel, start, rest, _ => by simp
  | f :: fs, fuel, start, rest, h => by
    rw [List.flatMap_cons, List.append_assoc] at h
    have hrest : res.data.drop (start + f.bytes.length) = fs.flatMap Frame.bytes ++ rest := by
      rw [← List.drop_drop, h, List.drop_left' rfl]
    rw [List.length_cons, ← Nat.add_assoc,
      applyBlocks_frame transferType res hsz _ start f _ h,
      applyBlocks_append_frames res hsz fs fuel _ rest hrest, BlockLoop.prepend_prepend,
      List.flatMap_cons, List.length_append, Nat.add_assoc]
    rfl

/-- A buffer made of frames is applied frame by frame, in order, and the loop stops at its end. -/
theorem applyBlocks_frames (res : ByteBuf) (hsz : res.size = res.data.length)
    (frames : List (Frame transferSize)) (hres : res.data = frames.flatMap Frame.bytes)
    (fuel : Nat) (hfuel : frames.length < fuel) :
    applyBlocks transferSize transferType res fuel 0 =
      .finished (frames.map (Frame.call transferType)) := by
  obtain ⟨k, rfl⟩ := Nat.exists_eq_add_of_lt hfuel
  have h := applyBlocks_append_frames transferType res hsz frames (k + 1) 0 []
    (by rw [List.drop_zero, hres, List.append_nil])
  rw [show frames.length + k + 1 = k + 1 + frames.length by omega, h, applyBlocks,
    if_neg (by rw [hsz, hres]; omega)]
  simp [BlockLoop.prepend]

/-- After a header declaring size zero the loop never ends: it hands `apply_update` the same
empty block again and again, without moving. -/
theorem applyBlocks_zero_size (res : ByteBuf) (start : Nat) (hlt : start < res.size)
    (h8 : 8 ≤ (res.data.drop start).length)
    (hz : transferSize (readU32 (res.data.drop start)) = 0) :
    ∀ fuel, applyBlocks transferSize transferType res fuel start = .running
  | 0 => rfl
  | fuel + 1 => by
    rw [applyBlocks, if_pos hlt]
    dsimp only
    rw [if_neg (by omega), hz, alignu_zero, if_neg (by omega), Nat.add_zero,
      applyBlocks_zero_size res start hlt h8 hz fuel]
    rfl

/-- A buffer the loop gets through is made of frames, and the calls made are theirs: together
with `applyBlocks_frames`, the loop accepts exactly the concatenations of frames. -/
theorem applyBlocks_finished (res : ByteBuf) (hsz : res.size = res.data.length) :
    ∀ (fuel start : Nat) (calls : List (ApplyCall τ)),
      applyBlocks transferSize transferType res fuel start = .finished calls →
      ∃ frames : List (Frame transferSize), res.data.drop start = frames.flatMap Frame.bytes ∧
        calls = frames.map (Frame.call transferType)
  | 0, _, _, h => by cases h
  | fuel + 1, start, calls, h => by
    rw [applyBlocks] at h
    dsimp only at h
    split_ifs at h with hlt h8 hsize
    · obtain ⟨rest, hr, rfl⟩ := BlockLoop.prepend_eq_finished h
      set tmp := res.data.drop start with htmp
      set size := alignu (transferSize (readU32 tmp)) 16 with hsize'
      have hpos : 0 < size := Nat.pos_of_ne_zero fun hz => by
        rw [hz, Nat.add_zero, applyBlocks_zero_size transferType res start hlt
          (by rw [← htmp]; omega) (alignu_eq_zero hz)] at hr
        cases hr
      have h16 := alignu_sixteen_pos hpos
      obtain ⟨fs, hfs, rfl⟩ := applyBlocks_finished res hsz fuel _ rest hr
      let f : Frame transferSize :=
        ⟨tmp.take size, by rw [List.length_take]; omega,
          by rw [List.length_take, readU32_take (by omega)]; omega⟩
      refine ⟨f :: fs, ?_, ?_⟩
      · rw [List.flatMap_cons, ← hfs, ← List.take_append_drop size tmp, List.drop_drop,
          Nat.add_comm]
      · rw [List.map_cons, List.singleton_append]
        congr 1
        simp only [Frame.call, f, readU32_take (by omega : 4 ≤ size),
          readI32_take (by omega : 8 ≤ size)]
    · cases h
      refine ⟨[], ?_, rfl⟩
      simp [List.drop_eq_nil_of_le (by omega : res.data.length ≤ start)]

/-- However the frames are split into `iovec`s, `test_transfer` joins them with
`combine_transfer_blocks` into one buffer holding them back to back, and its loop hands them to
`apply_update` one by one, in the order they were produced, and stops at the end of the buffer. -/
theorem testTransfer_applies_in_order (td : TransferData) (frames : List (Frame transferSize))
    (h : td.blocks.flatten = frames.flatMap Frame.bytes) (fuel : Nat)
    (hfuel : frames.length < fuel) :
    combineTransferBlocks td =
        some ⟨(frames.flatMap Frame.bytes).length, frames.flatMap Frame.bytes⟩ ∧
      applyBlocks transferSize transferType ⟨(frames.flatMap Frame.bytes).length,
          frames.flatMap Frame.bytes⟩ fuel 0 =
        .finished (frames.map (Frame.call transferType)) :=
  ⟨h ▸ combineTransferBlocks_eq td, applyBlocks_frames transferType _ rfl frames rfl fuel hfuel⟩

/-- Once the loop is stuck after some frames, it is stuck from the start. -/
theorem applyBlocks_running_after_frames (res : ByteBuf) (hsz : res.size = res.data.length) :
    ∀ (frames : List (Frame transferSize)) (start : Nat) (rest : List Byte),
      res.data.drop start = frames.flatMap Frame.bytes ++ rest →
      (∀ fuel, applyBlocks transferSize transferType res fuel
        (start + (frames.flatMap Frame.bytes).length) = .running) →
      ∀ fuel, applyBlocks transferSize transferType res fuel start = .running
  | [], start, _, _, hr, fuel => by simpa using hr fuel
  | _, _, _, _, _, 0 => rfl
  | f :: fs, start, rest, h, hr, fuel + 1 => by
    rw [List.flatMap_cons, List.append_assoc] at h
    have hrest : res.data.drop (start + f.bytes.length) = fs.flatMap Frame.bytes ++ rest := by
      rw [← List.drop_drop, h, List.drop_left' rfl]
    rw [applyBlocks_frame transferType res hsz fuel start f _ h,
      applyBlocks_running_after_frames res hsz fs _ rest hrest
        (fun fuel => by simpa [Nat.add_assoc] using hr fuel) fuel]
    rfl

/-- After any run of frames, a header declaring size zero makes the loop hand `apply_update`
the same empty block forever, without moving: `test_transfer` never returns. -/
theorem applyBlocks_spins_on_zero_size (res : ByteBuf) (hsz : res.size = res.data.length)
    (frames : List (Frame transferSize)) (rest : List Byte)
    (hres : res.data = frames.flatMap Frame.bytes ++ rest) (h8 : 8 ≤ rest.length)
    (hz : transferSize (readU32 rest) = 0) :
    ∀ fuel, applyBlocks transferSize transferType res fuel 0 = .running := by
  have hdrop : res.data.drop (frames.flatMap Frame.bytes).length = rest := by
    rw [hres, List.drop_left' rfl]
  refine applyBlocks_running_after_frames transferType res hsz frames 0 rest
    (by rw [List.drop_zero, hres]) fun fuel => ?_
  rw [Nat.zero_add]
  exact applyBlocks_zero_size transferType res _
    (by rw [hsz, hres, List.length_append]; omega) (hdrop ▸ h8) (hdrop ▸ hz) fuel

end Loop

/-! ### Two frames in three `iovec`s -/

/-- A header layout for examples: the word is the block's size, and its type. -/
def sizeWord (hb : UInt32) : Nat := hb.toNat

/-- A 16-byte frame for remote id 1, and a 32-byte one for remote id 2. -/
def frameA : Frame sizeWord := ⟨[16, 0, 0, 0, 1, 0, 0, 0] ++ List.replicate 8 0, by decide, by decide⟩

def frameB : Frame sizeWord := ⟨[32, 0, 0, 0, 2, 0, 0, 0] ++ List.replicate 24 0, by decide, by decide⟩

/-- The two frames split across three `iovec`s, the second frame's header apart from its body. -/
def splitTransfer : TransferData :=
  ⟨[frameA.bytes, frameB.bytes.take 8, frameB.bytes.drop 8], 0, 3, by decide, by decide⟩

theorem applies_in_order_splitTransfer :
    combineTransferBlocks splitTransfer = some ⟨48, frameA.bytes ++ frameB.bytes⟩ ∧
      applyBlocks sizeWord id ⟨48, frameA.bytes ++ frameB.bytes⟩ 3 0 =
        .finished [frameA.call id, frameB.call id] :=
  testTransfer_applies_in_order id splitTransfer [frameA, frameB] (by decide) 3 (by decide)

/-- The joined buffer of `splitTransfer`, accepted and applied as its two frames. -/
theorem finished_splitTransfer :
    ∃ frames : List (Frame sizeWord),
      (⟨48, frameA.bytes ++ frameB.bytes⟩ : ByteBuf).data.drop 0 = frames.flatMap Frame.bytes ∧
        [frameA.call id, frameB.call id] = frames.map (Frame.call id) :=
  applyBlocks_finished id ⟨48, frameA.bytes ++ frameB.bytes⟩ rfl 3 0 _ (by decide)

/-- `frameA` followed by a header declaring size zero keeps the loop going. -/
theorem spins_frameA_zeroHeader :
    applyBlocks sizeWord id ⟨24, frameA.bytes ++ List.replicate 8 0⟩ 100 0 = .running :=
  applyBlocks_spins_on_zero_size id ⟨24, frameA.bytes ++ List.replicate 8 0⟩ (by decide) [frameA]
    (List.replicate 8 0) (by simp) (by decide) (by decide) 100

end Waypipe
