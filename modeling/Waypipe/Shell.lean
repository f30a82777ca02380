import Waypipe.CMem

/-!
# `setup_login_shell_command`: the shell the application falls back to

When no application is given, the forked child runs `$SHELL`, or `/bin/sh` when `$SHELL` is
unset or at least 254 bytes long. In login-shell mode `argv[0]` is `-` followed by the shell's
name after its last `/`; otherwise it is the whole path. The name is found by scanning `shell`
backwards from its end with `for (; start-- > 0;)`; when the path has no `/` that loop leaves
`start` at -1, and the copy then starts one byte below the array `shell`, so the model carries
that byte of the stack.

## Main definitions

* `Waypipe.cInt`: the `(int)` conversion of a length.
* `Waypipe.scanBack`: the backward scan for `/`.
* `Waypipe.setupLoginShellCommand`.

## Main results

* `Waypipe.setupLoginShellCommand_of_slash`: a path with a `/` gives `-` and its last component.
* `Waypipe.setupLoginShellCommand_of_no_slash`: a path without `/` reads the byte below
  `shell`.
* `Waypipe.setupLoginShellCommand_isSome`: no copy overflows its array, unless the length of
  `$SHELL` is negative as an `int`.

## References

* `src/src/server.c`, lines 440–474 (`setup_login_shell_command`).
-/

namespace Waypipe

/-- `"/bin/sh"`. -/
def binSh : List Byte := [0x2f, 0x62, 0x69, 0x6e, 0x2f, 0x73, 0x68]

/-- `"-sh"`. -/
def dashSh : List Byte := [0x2d, 0x73, 0x68]

/-- The size of the `shell` and `shellname` arrays. -/
def shellBufSize : Nat := 256

/-- `(int)n` for a `size_t` `n`: its low 32 bits (modulo 2³² = 4294967296), read in two's
complement (values from 2³¹ = 2147483648 on are negative). -/
def cInt (n : Nat) : Int :=
  if n % 4294967296 < 2147483648 then (n % 4294967296 : Nat)
  else (n % 4294967296 : Nat) - 4294967296

theorem cInt_of_lt {n : Nat} (h : n < 2147483648) : cInt n = n := by
  rw [cInt, Nat.mod_eq_of_lt (by omega : n < 4294967296), if_pos h]

/-- `for (; start-- > 0;) if (shell[start] == '/') { start++; break; }` from `start = k`: the
value of `start` after the loop, which reads `shell[k-1]` down to `shell[0]`. -/
def scanBack (shell : List Byte) : Nat → Int
  | 0 => -1
  | k + 1 => if shell.getD k 0 = 0x2f then k + 1 else scanBack shell k

/-- The C string `strcpy(dst, shell + start)` copies, `shell[-1]` being the byte `below` just
under the array. -/
def fromShell (below : Byte) (shell : List Byte) (start : Int) : List Byte :=
  cstr ((below :: (shell ++ [0])).drop (start + 1).toNat)

/-- `setup_login_shell_command(shell, shellname, login_shell)` given `getenv("SHELL")` and the
stack byte `below` just under `shell`: the strings left in `shell` and `shellname`, or `none`
if a copy would write past a 256-byte array. -/
def setupLoginShellCommand (shellEnv : Option (List Byte)) (below : Byte) (loginShell : Bool) :
    Option (List Byte × List Byte) :=
  match shellEnv with
  | none => some (binSh, dashSh)
  | some env =>
    if cInt (strlen env) ≥ 254 then some (binSh, dashSh) else
    if strlen env + 1 > shellBufSize then none else
    if loginShell then
      let name := fromShell below (cstr env) (scanBack (cstr env) (strlen env))
      if 1 + strlen name + 1 > shellBufSize then none else some (cstr env, 0x2d :: name)
    else some (cstr env, cstr env)

/-! ### The strings it leaves -/

/-- The bytes of `s` after its last `/`, all of `s` when it has none. -/
def lastComponent (s : List Byte) : List Byte := (s.reverse.takeWhile (· != 0x2f)).reverse

/-- The backward scan stops just after the last `/` of `shell[0 .. k-1]`, and leaves -1 when
there is none. -/
theorem scanBack_eq (s : List Byte) :
    ∀ k, k ≤ s.length →
      scanBack s k = if 0x2f ∈ s.take k then
        ((k - ((s.take k).reverse.takeWhile (· != 0x2f)).length : Nat) : Int) else -1
  | 0, _ => by simp [scanBack]
  | k + 1, hk => by
    have hk' : k < s.length := hk
    rw [List.take_succ, List.getElem?_eq_getElem hk']
    simp only [scanBack, List.getD_eq_getElem?_getD, List.getElem?_eq_getElem hk', Option.getD_some,
      Option.toList_some, List.reverse_append, List.reverse_singleton, List.singleton_append,
      List.mem_append, List.mem_singleton, List.takeWhile_cons]
    by_cases h : s[k] = 0x2f
    · simp [h]
    · rw [scanBack_eq s k (by omega)]
      have hne : (s[k] != 0x2f) = true := by simpa using h
      simp only [h, hne, if_true, List.length_cons, eq_comm (a := (0x2f : Byte)), or_false]
      simp [Nat.add_sub_add_right]

theorem drop_length_sub_takeWhile_reverse (l : List Byte) (q : Byte → Bool) :
    l.drop (l.length - (l.reverse.takeWhile q).length) = (l.reverse.takeWhile q).reverse := by
  conv_lhs => rw [← List.reverse_reverse l, ← List.takeWhile_append_dropWhile q l.reverse]
  simp only [List.reverse_append, List.length_append, List.length_reverse, Nat.add_sub_cancel]
  exact List.drop_left' (by simp)

private theorem shell_fits {env : List Byte} (h0 : (0 : Byte) ∉ env) (hlen : env.length < 254) :
    strlen env = env.length ∧ ¬cInt env.length ≥ 254 ∧ ¬env.length + 1 > shellBufSize := by
  refine ⟨by rw [strlen, cstr_eq_self h0], ?_, ?_⟩
  · rw [cInt_of_lt (by omega)]
    omega
  · simp only [shellBufSize]
    omega

/-- The name copied after the `-` is no longer than the path and the byte below it. -/
theorem strlen_fromShell_le (below : Byte) (shell : List Byte) (start : Int) :
    strlen (fromShell below shell start) ≤ shell.length + 1 := by
  rw [fromShell, strlen_cstr]
  exact strlen_drop_append_zero_le (below :: shell) _

/-- Both copies stay inside their 256-byte arrays whenever `(int)strlen(shell_env)` is the
length, that is below 2³¹ = 2147483648 bytes. -/
theorem setupLoginShellCommand_isSome (shellEnv : Option (List Byte)) (below : Byte)
    (loginShell : Bool) (h : ∀ env ∈ shellEnv, strlen env < 2147483648) :
    (setupLoginShellCommand shellEnv below loginShell).isSome := by
  cases shellEnv with
  | none => rfl
  | some env =>
    unfold setupLoginShellCommand
    dsimp only
    rw [cInt_of_lt (h env rfl)]
    by_cases hlong : ((strlen env : Nat) : Int) ≥ 254
    · rw [if_pos hlong]
      rfl
    rw [if_neg hlong, if_neg (by simp only [shellBufSize]; omega)]
    cases loginShell
    · rfl
    · have := strlen_fromShell_le below (cstr env) (scanBack (cstr env) (strlen env))
      have : (cstr env).length = strlen env := rfl
      rw [if_pos rfl, if_neg (by simp only [shellBufSize]; omega)]
      rfl

/-- With a `/` in `$SHELL`, login mode runs the path with `argv[0]` the last component after
`-`. -/
theorem setupLoginShellCommand_of_slash {env : List Byte} (h0 : (0 : Byte) ∉ env)
    (hlen : env.length < 254) (hs : (0x2f : Byte) ∈ env) (below : Byte) :
    setupLoginShellCommand (some env) below true = some (env, 0x2d :: lastComponent env) := by
  obtain ⟨hl, h1, h2⟩ := shell_fits h0 hlen
  have hscan := scanBack_eq env env.length le_rfl
  simp only [List.take_length, hs, if_true] at hscan
  have hname : fromShell below env (scanBack env env.length) = lastComponent env := by
    rw [hscan, fromShell, lastComponent]
    have := (List.takeWhile_prefix (· != (0x2f : Byte)) (l := env.reverse)).length_le
    simp only [List.length_reverse] at this
    rw [show ((((env.length - (env.reverse.takeWhile (· != 0x2f)).length : Nat) : Int) + 1).toNat)
        = (env.length - (env.reverse.takeWhile (· != 0x2f)).length) + 1 by omega,
      List.drop_succ_cons, List.drop_append_of_le_length (by omega),
      drop_length_sub_takeWhile_reverse]
    exact cstr_append_zero (fun h => h0 (List.mem_reverse.1
      ((List.takeWhile_prefix _).subset (List.mem_reverse.1 h)))) []
  have hfit : ¬1 + strlen (lastComponent env) + 1 > shellBufSize := by
    have : (lastComponent env).length ≤ env.length := by
      simpa [lastComponent] using (List.takeWhile_prefix (· != (0x2f : Byte)) (l := env.reverse)).length_le
    have := strlen_le_length (lastComponent env)
    simp only [shellBufSize]
    omega
  simp only [setupLoginShellCommand, h1, h2, if_false, if_true, cstr_eq_self h0, hl, hname, hfit]

/-- `"/usr/bin/fish"`. -/
def usrBinFish : List Byte :=
  [0x2f, 0x75, 0x73, 0x72, 0x2f, 0x62, 0x69, 0x6e, 0x2f, 0x66, 0x69, 0x73, 0x68]

/-- With `SHELL=/usr/bin/fish` in login mode, `argv[0]` is `-fish`. -/
theorem setupLoginShellCommand_usrBinFish :
    (0 : Byte) ∉ usrBinFish ∧ usrBinFish.length < 254 ∧ (0x2f : Byte) ∈ usrBinFish ∧
      setupLoginShellCommand (some usrBinFish) 0 true =
        some (usrBinFish, 0x2d :: lastComponent usrBinFish) ∧
      0x2d :: lastComponent usrBinFish = [0x2d, 0x66, 0x69, 0x73, 0x68] :=
  ⟨by decide, by decide, by decide,
    setupLoginShellCommand_of_slash (by decide) (by decide) (by decide) 0, by decide⟩

/-- Without a `/` in `$SHELL`, the scan leaves `start` at -1 and login mode copies from one
byte below `shell`: `argv[0]` is `-` followed by that stack byte and the path, or `-` alone
when the byte is NUL. -/
theorem setupLoginShellCommand_of_no_slash {env : List Byte} (h0 : (0 : Byte) ∉ env)
    (hlen : env.length < 254) (hs : (0x2f : Byte) ∉ env) (below : Byte) :
    setupLoginShellCommand (some env) below true = some (env, 0x2d :: cstr (below :: env)) := by
  obtain ⟨hl, h1, h2⟩ := shell_fits h0 hlen
  have hscan : scanBack env env.length = -1 := by
    simpa [hs] using scanBack_eq env env.length le_rfl
  have hname : fromShell below env (-1) = cstr (below :: env) := by
    simpa [fromShell] using cstr_append_singleton_zero (below :: env)
  have hfit : ¬1 + strlen (cstr (below :: env)) + 1 > shellBufSize := by
    have := strlen_le_length (cstr (below :: env))
    have := strlen_le_length (below :: env)
    simp only [strlen, shellBufSize, List.length_cons] at *
    rw [show cstr (cstr (below :: env)) = cstr (below :: env) from
      cstr_eq_self (zero_not_mem_cstr _)] at *
    omega
  simp only [setupLoginShellCommand, h1, h2, if_false, if_true, cstr_eq_self h0, hl, hscan,
    hname, hfit]

/-- Outside login mode `argv[0]` is the whole path. -/
theorem setupLoginShellCommand_not_login {env : List Byte} (h0 : (0 : Byte) ∉ env)
    (hlen : env.length < 254) (below : Byte) :
    setupLoginShellCommand (some env) below false = some (env, env) := by
  obtain ⟨hl, h1, h2⟩ := shell_fits h0 hlen
  simp only [setupLoginShellCommand, h1, h2, hl, if_false, cstr_eq_self h0, Bool.false_eq_true]

/-- `$SHELL` of at least 254 bytes falls back to `/bin/sh`. -/
theorem setupLoginShellCommand_of_long {env : List Byte} (h : 254 ≤ strlen env)
    (h' : strlen env < 2147483648) (below : Byte) (loginShell : Bool) :
    setupLoginShellCommand (some env) below loginShell = some (binSh, dashSh) := by
  have : cInt (strlen env) ≥ 254 := by rw [cInt_of_lt h']; omega
  simp only [setupLoginShellCommand, this, if_true]

/-- `"fish"`. -/
def fish : List Byte := [0x66, 0x69, 0x73, 0x68]

/-- With `SHELL=fish` in login mode, `argv[0]` carries the stack byte below `shell`. -/
theorem setupLoginShellCommand_fish :
    scanBack fish 4 = -1 ∧
      setupLoginShellCommand (some fish) 0x41 true = some (fish, [0x2d, 0x41, 0x66, 0x69, 0x73, 0x68]) :=
  ⟨rfl, by decide⟩

end Waypipe
