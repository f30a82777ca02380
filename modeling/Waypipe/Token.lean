import Mathlib.Data.BitVec

/-!
# Connection tokens

Every channel the server opens starts with a `struct connection_token`: a 32-bit header
`(WAYPIPE_PROTOCOL_VERSION << 16) | flags | CONN_FIXED_BIT` and a 96-bit key in three words.
The constants come from `main.h`, which is not among the sources, so they are the fields of
`TokenConsts`, which also records what the header layout needs of them: each flag is one
bit below the version's field, and the three flags are distinct.

## Main definitions

* `Waypipe.TokenConsts`: the version and the three flag bits.
* `Waypipe.conntokenHeader`: `conntoken_header(reconnectable, update)`.
* `Waypipe.ConnectionToken`, `Waypipe.Key`: the token and its key words.
* `Waypipe.HeaderFlags`, `Waypipe.ConnectionToken.Replaces`: what a first channel's and a
  replacement channel's token say, bit by bit.
* `Waypipe.fillRandomKey`: the key words `fill_random_key` leaves.

## Main results

* `Waypipe.getLsbD_conntokenHeader_update`, `Waypipe.getLsbD_conntokenHeader_reconnectable`,
  `Waypipe.getLsbD_conntokenHeader_fixed`: the header's flag bits.
* `Waypipe.conntokenHeader_or_update`: setting `CONN_UPDATE_BIT` in a fresh header gives the
  header of a replacement channel.
* `Waypipe.headerFlags_conntokenHeader`, `Waypipe.ConnectionToken.replaces_flagged`: the headers
  the code computes have those bits.

## References

* `src/src/server.c`, lines 42–70 (`conntoken_header`, `fill_random_key`).
-/

namespace Waypipe

/-- The constants of the token header in `main.h`: the protocol version and the positions of
`CONN_FIXED_BIT`, `CONN_RECONNECTABLE_BIT` and `CONN_UPDATE_BIT`, single distinct bits below the
version's field. -/
structure TokenConsts where
  version : BitVec 32
  fixedBit : Fin 16
  reconnectableBit : Fin 16
  updateBit : Fin 16
  fixedBit_ne_reconnectableBit : fixedBit ≠ reconnectableBit
  fixedBit_ne_updateBit : fixedBit ≠ updateBit
  reconnectableBit_ne_updateBit : reconnectableBit ≠ updateBit

namespace TokenConsts

variable (c : TokenConsts)

/-- `CONN_FIXED_BIT`. -/
def connFixedBit : BitVec 32 := BitVec.twoPow 32 c.fixedBit

/-- `CONN_RECONNECTABLE_BIT`. -/
def connReconnectableBit : BitVec 32 := BitVec.twoPow 32 c.reconnectableBit

/-- `CONN_UPDATE_BIT`. -/
def connUpdateBit : BitVec 32 := BitVec.twoPow 32 c.updateBit

end TokenConsts

/-- `conntoken_header(reconnectable, update)`. -/
def conntokenHeader (c : TokenConsts) (reconnectable update : Bool) : BitVec 32 :=
  c.version <<< 16 ||| (if update then c.connUpdateBit else 0) |||
    (if reconnectable then c.connReconnectableBit else 0) ||| c.connFixedBit

section Header

variable (c : TokenConsts) (reconnectable update : Bool)

private theorem getLsbD_twoPow_fin (i j : Fin 16) :
    (BitVec.twoPow 32 i).getLsbD j = decide (i = j) := by
  simp only [BitVec.getLsbD_twoPow, Fin.ext_iff]
  have : (i : Nat) < 32 := by omega
  simp [this]

private theorem getLsbD_version_fin (i : Fin 16) : (c.version <<< 16).getLsbD i = false := by
  simp [BitVec.getLsbD_shiftLeft, i.2]

private theorem getLsbD_ite (b : Bool) (x : BitVec 32) (i : Nat) :
    (if b then x else (0 : BitVec 32)).getLsbD i = (b && x.getLsbD i) := by
  cases b <;> simp

private theorem getLsbD_conntokenHeader (j : Fin 16) :
    (conntokenHeader c reconnectable update).getLsbD j =
      (update && decide (c.updateBit = j) || reconnectable && decide (c.reconnectableBit = j) ||
        decide (c.fixedBit = j)) := by
  simp only [conntokenHeader, BitVec.getLsbD_or, getLsbD_version_fin, getLsbD_ite,
    TokenConsts.connFixedBit, TokenConsts.connUpdateBit, TokenConsts.connReconnectableBit,
    getLsbD_twoPow_fin, Bool.false_or]

/-- The header's `CONN_UPDATE_BIT` is the `update` argument. -/
@[simp] theorem getLsbD_conntokenHeader_update :
    (conntokenHeader c reconnectable update).getLsbD c.updateBit = update := by
  simp [getLsbD_conntokenHeader, c.fixedBit_ne_updateBit, c.reconnectableBit_ne_updateBit]

/-- The header's `CONN_RECONNECTABLE_BIT` is the `reconnectable` argument. -/
@[simp] theorem getLsbD_conntokenHeader_reconnectable :
    (conntokenHeader c reconnectable update).getLsbD c.reconnectableBit = reconnectable := by
  simp [getLsbD_conntokenHeader, c.fixedBit_ne_reconnectableBit,
    c.reconnectableBit_ne_updateBit.symm]

/-- The header always has `CONN_FIXED_BIT` set. -/
@[simp] theorem getLsbD_conntokenHeader_fixed :
    (conntokenHeader c reconnectable update).getLsbD c.fixedBit = true := by
  simp [getLsbD_conntokenHeader]

/-- Setting `CONN_UPDATE_BIT` in a fresh header gives the replacement header. -/
theorem conntokenHeader_or_update :
    conntokenHeader c reconnectable false ||| c.connUpdateBit =
      conntokenHeader c reconnectable true := by
  simp only [conntokenHeader, if_true, Bool.false_eq_true, if_false, BitVec.or_zero]
  generalize c.version <<< 16 = v
  generalize (if reconnectable then c.connReconnectableBit else (0 : BitVec 32)) = r
  ac_rfl

end Header

/-- The key words `uint32_t key[3]` of a token. -/
structure Key where
  k0 : BitVec 32
  k1 : BitVec 32
  k2 : BitVec 32
deriving DecidableEq, Repr

/-- `struct connection_token`. -/
structure ConnectionToken where
  header : BitVec 32
  key : Key
deriving DecidableEq, Repr

/-- The token with `CONN_UPDATE_BIT` set in its header (`token.header |= CONN_UPDATE_BIT`). -/
def ConnectionToken.flagged (c : TokenConsts) (t : ConnectionToken) : ConnectionToken :=
  { t with header := t.header ||| c.connUpdateBit }

@[simp] theorem ConnectionToken.key_flagged (c : TokenConsts) (t : ConnectionToken) :
    (t.flagged c).key = t.key := rfl

@[simp] theorem ConnectionToken.header_flagged (c : TokenConsts) (t : ConnectionToken) :
    (t.flagged c).header = t.header ||| c.connUpdateBit := rfl

/-! ### What a header says -/

/-- The flag bits of a token header: `CONN_FIXED_BIT` set, `CONN_RECONNECTABLE_BIT` as `rc` and
`CONN_UPDATE_BIT` as `upd`. -/
structure HeaderFlags (c : TokenConsts) (rc upd : Bool) (h : BitVec 32) : Prop where
  fixed : h.getLsbD c.fixedBit = true
  reconnectable : h.getLsbD c.reconnectableBit = rc
  update : h.getLsbD c.updateBit = upd

/-- `conntoken_header(reconnectable, update)` has the flag bits its arguments ask for. -/
theorem headerFlags_conntokenHeader (c : TokenConsts) (rc upd : Bool) :
    HeaderFlags c rc upd (conntokenHeader c rc upd) :=
  ⟨getLsbD_conntokenHeader_fixed c rc upd, getLsbD_conntokenHeader_reconnectable c rc upd,
    getLsbD_conntokenHeader_update c rc upd⟩

/-- `tok` is the token for a replacement channel of the session whose first channel got `tok₀`:
the same key words, and the header of `tok₀` with `CONN_UPDATE_BIT` set, bit by bit. -/
def ConnectionToken.Replaces (c : TokenConsts) (tok tok₀ : ConnectionToken) : Prop :=
  tok.key = tok₀.key ∧
    ∀ j : Nat, tok.header.getLsbD j = (tok₀.header.getLsbD j || decide (j = c.updateBit))

/-- `token.header |= CONN_UPDATE_BIT` makes a replacement token. -/
theorem ConnectionToken.replaces_flagged (c : TokenConsts) (t : ConnectionToken) :
    (t.flagged c).Replaces c t := by
  refine ⟨rfl, fun j => ?_⟩
  have : (c.updateBit : Nat) < 32 := by omega
  simp only [header_flagged, BitVec.getLsbD_or, TokenConsts.connUpdateBit, BitVec.getLsbD_twoPow]
  by_cases hj : j = c.updateBit
  · simp [hj, this]
  · simp [hj, Ne.symm hj]

/-- What `fill_random_key` reads from the system: `getpid()`, the two fields of
`clock_gettime(CLOCK_REALTIME)`, and the key words left by the read from `/dev/urandom`
(`none` when the device cannot be opened). -/
structure KeySeed where
  pid : BitVec 32
  sec : BitVec 32
  nsec : BitVec 32
  urandom : Option Key

/-- The key `fill_random_key` leaves: the old words are scaled by 13, 17 and 29 and mixed
with the pid and the time, and then overwritten by the read from `/dev/urandom`. -/
def fillRandomKey (s : KeySeed) (t : ConnectionToken) : ConnectionToken :=
  { t with
    key := s.urandom.getD
      (Key.mk (t.key.k0 * 13 + s.pid) (t.key.k1 * 17 + (1 + s.sec)) (t.key.k2 * 29 + (1 + s.nsec))) }

/-- `fill_random_key` touches only the key. -/
@[simp] theorem header_fillRandomKey (s : KeySeed) (t : ConnectionToken) :
    (fillRandomKey s t).header = t.header := rfl

/-- One choice of the constants: protocol version 1 and the flags in bits 0, 1 and 2. -/
def TokenConsts.lowBits : TokenConsts := ⟨1, 0, 1, 2, by decide, by decide, by decide⟩

end Waypipe
