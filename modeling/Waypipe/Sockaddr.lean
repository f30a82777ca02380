import Waypipe.CMem

/-!
# Socket addresses and `read_sockaddr`

A `struct sockaddr_un` is its family and its `sun_path` array, whatever bytes the array holds;
its size comes from the platform's headers, so it is a field of `Platform`. `read_sockaddr`
reads at most 4095 bytes from the control pipe into `char path[4096]`, terminates them with a
NUL, and copies the C string into `sun_path` when it fits. It writes nothing else, in
particular not `sun_family`.

## Main definitions

* `Waypipe.Platform`: `AF_UNIX` and `sizeof(sun_path)`.
* `Waypipe.SockaddrUn`, `Waypipe.SockaddrUn.WellFormed`.
* `Waypipe.ReadBytes`: what one `read` returns.
* `Waypipe.readSockaddr`: `read_sockaddr`, with its return code and the new address.

## Main results

* `Waypipe.readSockaddr_isSome`: `read_sockaddr` never writes past `path` or `sun_path`.
* `Waypipe.readSockaddr_bytes`: it succeeds exactly when the bytes before the first NUL are
  shorter than `sun_path`, and then `sun_path` starts with them and a NUL.
* `Waypipe.readSockaddr_keeps_newline`: a newline is kept in the path.

## References

* `src/src/server.c`, lines 72–93 (`read_sockaddr`).
-/

namespace Waypipe

/-- The constants of `<sys/socket.h>` and `<sys/un.h>` the server depends on: `AF_UNIX` and
`sizeof(((struct sockaddr_un *)0)->sun_path)`. -/
structure Platform where
  afUnix : UInt16
  sunPathSize : Nat

/-- Linux: `AF_UNIX` is 1 and `sun_path` has 108 bytes. -/
def Platform.linux : Platform := ⟨1, 108⟩

/-- `struct sockaddr_un`: the family and the `sun_path` array, whatever bytes it holds. -/
structure SockaddrUn (P : Platform) where
  sunFamily : UInt16
  sunPath : List Byte
  length_sunPath : sunPath.length = P.sunPathSize

variable {P : Platform}

/-- The address `memset` to zero. -/
def SockaddrUn.zero (P : Platform) : SockaddrUn P := ⟨0, List.replicate P.sunPathSize 0, by simp⟩

/-- A well-formed `AF_UNIX` address: the family is `AF_UNIX` and `sun_path` holds a NUL. -/
def SockaddrUn.WellFormed (a : SockaddrUn P) : Prop :=
  a.sunFamily = P.afUnix ∧ (0 : Byte) ∈ a.sunPath

instance (a : SockaddrUn P) : Decidable a.WellFormed := inferInstanceAs (Decidable (_ ∧ _))

/-- The bytes one `read(fd, buf, n)` returns: at most `n`. -/
structure ReadBytes (n : Nat) where
  bytes : List Byte
  length_le : bytes.length ≤ n

/-- `sizeof(path)` for the buffer `read_sockaddr` reads into. -/
def controlPathSize : Nat := 4096

/-- `strcpy(sockaddr->sun_path, src)`, `none` when it would write past `sun_path`. -/
def SockaddrUn.strcpyPath (a : SockaddrUn P) (src : List Byte) : Option (SockaddrUn P) :=
  match h : strcpy a.sunPath 0 src with
  | some d => some ⟨a.sunFamily, d, (length_of_strcpy h).trans a.length_sunPath⟩
  | none => none

theorem SockaddrUn.strcpyPath_eq {a a' : SockaddrUn P} {src : List Byte}
    (h : a.strcpyPath src = some a') :
    a'.sunFamily = a.sunFamily ∧ a'.sunPath = cstr src ++ 0 :: a.sunPath.drop (strlen src + 1) := by
  unfold strcpyPath at h
  split at h
  · cases h
    exact ⟨rfl, strcpy_zero_eq ‹_›⟩
  · cases h

theorem SockaddrUn.strcpyPath_isSome (a : SockaddrUn P) {src : List Byte}
    (h : strlen src < P.sunPathSize) : (a.strcpyPath src).isSome := by
  unfold strcpyPath
  split
  · rfl
  · rename_i hs
    have := (strcpy_isSome_iff a.sunPath 0 src).2 (by rw [a.length_sunPath]; omega)
    simp [hs] at this

/-- `read_sockaddr(control_pipe, sockaddr)`, given what `read` returns (`none` for -1): the
return code and the address afterwards; `none` when it would write past `path` or `sun_path`. -/
def readSockaddr (r : Option (ReadBytes (controlPathSize - 1))) (a : SockaddrUn P) :
    Option (Int × SockaddrUn P) :=
  match r with
  | none => some (-1, a)
  | some b =>
    if b.bytes.length < controlPathSize then
      if strlen (b.bytes ++ [0]) ≥ P.sunPathSize then some (-1, a)
      else (a.strcpyPath (b.bytes ++ [0])).map ((0, ·))
    else none

/-- `read_sockaddr` never writes past the end of `path` or of `sun_path`. -/
theorem readSockaddr_isSome (r : Option (ReadBytes (controlPathSize - 1))) (a : SockaddrUn P) :
    (readSockaddr r a).isSome := by
  cases r with
  | none => rfl
  | some b =>
    have hb : b.bytes.length < controlPathSize := by
      have := b.length_le
      simp only [controlPathSize] at *
      omega
    simp only [readSockaddr, hb, if_true]
    split
    · rfl
    · simpa using a.strcpyPath_isSome (by omega)

/-- What `read_sockaddr` can return: -1 with the address as it was, or 0 with the same family
and a NUL in `sun_path`. -/
theorem readSockaddr_eq_some {r : Option (ReadBytes (controlPathSize - 1))} {a a' : SockaddrUn P}
    {ret : Int} (h : readSockaddr r a = some (ret, a')) :
    (ret = -1 ∧ a' = a) ∨ (ret = 0 ∧ a'.sunFamily = a.sunFamily ∧ (0 : Byte) ∈ a'.sunPath) := by
  unfold readSockaddr at h
  split at h
  · cases h
    exact .inl ⟨rfl, rfl⟩
  · split_ifs at h
    · cases h
      exact .inl ⟨rfl, rfl⟩
    · obtain ⟨a'', hs, he⟩ := Option.map_eq_some'.1 h
      cases he
      obtain ⟨hf, hp⟩ := SockaddrUn.strcpyPath_eq hs
      exact .inr ⟨rfl, hf, by simp [hp]⟩

/-- On the bytes `b` of one read, `read_sockaddr` succeeds exactly when the bytes before the
first NUL are fewer than `sizeof(sun_path)`; it then leaves that C string and a NUL at the start
of `sun_path` and the rest of the address as it was, and otherwise the address unchanged. -/
theorem readSockaddr_bytes (b : ReadBytes (controlPathSize - 1)) (a : SockaddrUn P) :
    ∃ ret a', readSockaddr (some b) a = some (ret, a') ∧
      (ret = 0 ↔ strlen b.bytes < P.sunPathSize) ∧
      (ret = 0 → a'.sunFamily = a.sunFamily ∧
        a'.sunPath = cstr b.bytes ++ 0 :: a.sunPath.drop (strlen b.bytes + 1)) ∧
      (ret ≠ 0 → ret = -1 ∧ a' = a) := by
  obtain ⟨⟨ret, a'⟩, h⟩ := Option.isSome_iff_exists.1 (readSockaddr_isSome (some b) a)
  refine ⟨ret, a', h, ?_⟩
  have hb : b.bytes.length < controlPathSize := by
    have := b.length_le
    simp only [controlPathSize] at *
    omega
  simp only [readSockaddr, hb, if_true, strlen_append_singleton_zero] at h
  split at h
  · cases h
    rename_i hge
    exact ⟨iff_of_false (by decide) (Nat.not_lt.2 hge), fun h => absurd h (by decide),
      fun _ => ⟨rfl, rfl⟩⟩
  · rename_i hlt
    obtain ⟨a'', hs, he⟩ := Option.map_eq_some'.1 h
    cases he
    have := SockaddrUn.strcpyPath_eq hs
    simp only [cstr_append_singleton_zero, strlen_append_singleton_zero] at this
    exact ⟨iff_of_true rfl (Nat.lt_of_not_le hlt), fun _ => this, fun h => absurd rfl h⟩

/-- The bytes `/s` and a newline, as `echo /s` writes them. -/
def slashSNewline : ReadBytes (controlPathSize - 1) := ⟨[0x2f, 0x73, 0x0a], by decide⟩

/-- A path written with a trailing newline keeps the newline in `sun_path`. -/
theorem readSockaddr_keeps_newline :
    ∃ a', readSockaddr (P := Platform.linux) (some slashSNewline)
        ⟨Platform.linux.afUnix, List.replicate 108 0, rfl⟩ = some (0, a') ∧
      cstr a'.sunPath = [0x2f, 0x73, 0x0a] :=
  ⟨_, rfl, by decide⟩

end Waypipe
