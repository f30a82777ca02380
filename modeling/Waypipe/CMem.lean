import Mathlib.Data.List.Basic

/-!
# Bytes, C strings and fixed-size arrays

The server keeps socket paths and shell names as C strings in fixed-size arrays
(`char path[4096]` and `sun_path` in `read_sockaddr`, `char shell[256]` in
`setup_login_shell_command`). An array is the list of its bytes, a C string is the bytes
before the first NUL, and the string functions the server calls are modelled with the
bound check that decides whether a write stays inside the destination array: a write past
the end is undefined behaviour, and the model returns `none` there.

## Main definitions

* `Waypipe.cstr`, `Waypipe.strlen`: the C string stored at the start of an array.
* `Waypipe.strcpy`: `strcpy(dst + off, src)`, `none` when it would write past `dst`.
* `Waypipe.strcmpNe`: whether `strcmp(a, b)` is nonzero.

## Main results

* `Waypipe.strcpy_isSome_iff`: the copy stays inside `dst` exactly when the string and its
  NUL fit.
* `Waypipe.cstr_of_strcpy`: after `strcpy(dst, src)` the array holds the C string of `src`.
-/

namespace Waypipe

/-- A byte of C memory (`char`). -/
abbrev Byte := UInt8

/-- The C string at the start of the bytes `b`: the bytes before the first NUL, or all of `b`
when it holds none. -/
def cstr (b : List Byte) : List Byte := b.takeWhile (· != 0)

/-- `strlen`. -/
def strlen (b : List Byte) : Nat := (cstr b).length

/-- `strcpy(dst + off, src)`: the C string of `src` and its NUL are written to `dst` from index
`off`; `none` when the copy would write past the end of `dst`. -/
def strcpy (dst : List Byte) (off : Nat) (src : List Byte) : Option (List Byte) :=
  if off + strlen src + 1 ≤ dst.length then
    some (dst.take off ++ (cstr src ++ [0]) ++ dst.drop (off + strlen src + 1))
  else none

/-- `strcmp(a, b) != 0`: the two C strings differ. -/
def strcmpNe (a b : List Byte) : Bool := cstr a != cstr b

theorem zero_not_mem_cstr (b : List Byte) : (0 : Byte) ∉ cstr b := fun h => by
  simpa using List.mem_takeWhile_imp h

theorem cstr_eq_self {b : List Byte} (h : (0 : Byte) ∉ b) : cstr b = b :=
  List.takeWhile_eq_self_iff.2 fun x hx => by
    simpa using (ne_of_mem_of_not_mem hx h)

theorem cstr_append_zero {a : List Byte} (h : (0 : Byte) ∉ a) (c : List Byte) :
    cstr (a ++ 0 :: c) = a := by
  rw [cstr, List.takeWhile_append_of_pos fun x hx => by simpa using ne_of_mem_of_not_mem hx h]
  simp

@[simp] theorem cstr_cstr_append_zero (b c : List Byte) : cstr (cstr b ++ 0 :: c) = cstr b :=
  cstr_append_zero (zero_not_mem_cstr b) c

@[simp] theorem strlen_cstr_append_zero (b c : List Byte) :
    strlen (cstr b ++ 0 :: c) = strlen b := by
  simp [strlen]

theorem cstr_append_singleton_zero (b : List Byte) : cstr (b ++ [0]) = cstr b := by
  unfold cstr
  rw [List.takeWhile_append]
  split
  · rename_i h
    simp [(List.takeWhile_prefix _).eq_of_length h]
  · rfl

@[simp] theorem strlen_append_singleton_zero (b : List Byte) : strlen (b ++ [0]) = strlen b := by
  simp [strlen, cstr_append_singleton_zero]

theorem strlen_le_length (b : List Byte) : strlen b ≤ b.length :=
  (List.takeWhile_prefix _).length_le

theorem strlen_cstr (b : List Byte) : strlen (cstr b) = strlen b := by
  rw [strlen, cstr_eq_self (zero_not_mem_cstr b)]
  rfl

/-- A C string read from anywhere in a NUL-terminated buffer ends before the NUL. -/
theorem strlen_drop_append_zero_le (l : List Byte) (n : Nat) :
    strlen ((l ++ [0]).drop n) ≤ l.length := by
  rw [List.drop_append_eq_append_drop]
  rcases Nat.lt_or_ge l.length n with h | h
  · rw [List.drop_eq_nil_of_le h.le,
      List.drop_eq_nil_of_le (by simp only [List.length_singleton]; omega)]
    exact Nat.zero_le _
  · rw [Nat.sub_eq_zero_of_le h, List.drop_zero, strlen_append_singleton_zero]
    exact (strlen_le_length _).trans (List.length_drop _ _ ▸ Nat.sub_le _ _)

theorem strcpy_isSome_iff (dst : List Byte) (off : Nat) (src : List Byte) :
    (strcpy dst off src).isSome ↔ off + strlen src + 1 ≤ dst.length := by
  unfold strcpy
  split <;> simp_all

/-- `strcpy` writes inside `dst` only, so the array keeps its length. -/
theorem length_of_strcpy {dst src d : List Byte} {off : Nat} (h : strcpy dst off src = some d) :
    d.length = dst.length := by
  unfold strcpy at h
  split at h
  · cases h
    simp only [List.length_append, List.length_take, List.length_drop, List.length_singleton]
    have : (cstr src).length = strlen src := rfl
    omega
  · cases h

/-- The bytes `strcpy(dst, src)` leaves in `dst`. -/
theorem strcpy_zero_eq {dst src d : List Byte} (h : strcpy dst 0 src = some d) :
    d = cstr src ++ 0 :: dst.drop (strlen src + 1) := by
  unfold strcpy at h
  split at h
  · cases h
    simp
  · cases h

/-- After `strcpy(dst, src)` the array holds the C string of `src`. -/
theorem cstr_of_strcpy {dst src d : List Byte} (h : strcpy dst 0 src = some d) :
    cstr d = cstr src := by
  rw [strcpy_zero_eq h, cstr_cstr_append_zero]

end Waypipe
