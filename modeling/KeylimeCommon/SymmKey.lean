import KeylimeCommon.Basic

/-! # Symmetric keys

`SymmKey` holds a byte vector whose length the API keeps at one of the two AES key
lengths. The Rust type does not carry the length: `try_from` checks it once and `xor`
preserves it, so the invariant is a property of the keys the API can reach, proved by
induction over how they are built. The agent combines key shares with `xor`: neither the order
nor the grouping of the shares matters, and the key combined with one share gives back the
other.
-/
namespace KeylimeCommon

/-- A key of len AES_128_KEY_LEN or AES_256_KEY_LEN; the field is private to common.rs. -/
structure SymmKey where
  bytes : List UInt8
  deriving DecidableEq, Repr

namespace SymmKey

/-- The zip loop of `xor`: each position of `outbuf` that the zip of the operands reaches is
overwritten with `x ^ y`, the rest keeps its value. -/
def xorInto : List UInt8 → List UInt8 → List UInt8 → List UInt8
  | _ :: outs, x :: xs, y :: ys => (x ^^^ y) :: xorInto outs xs ys
  | outs, _, _ => outs

def xor (self other : SymmKey) : Except Error SymmKey :=
  if self.bytes.length ≠ other.bytes.length then
    .error (.other "cannot xor differing length slices")
  else
    .ok ⟨xorInto (List.replicate self.bytes.length 0) self.bytes other.bytes⟩

/-- `TryFrom<&[u8]>`: the two AES lengths are accepted, any other is reported. -/
def tryFrom (v : List UInt8) : Except String SymmKey :=
  if v.length = AES_128_KEY_LEN ∨ v.length = AES_256_KEY_LEN then .ok ⟨v⟩
  else .error ("key length " ++ toString v.length ++ " does not correspond to valid GCM cipher")

def clone (k : SymmKey) : SymmKey := ⟨k.bytes⟩

def ValidLen (k : SymmKey) : Prop :=
  k.bytes.length = AES_128_KEY_LEN ∨ k.bytes.length = AES_256_KEY_LEN

instance : DecidablePred ValidLen := fun _ => inferInstanceAs (Decidable (_ ∨ _))

theorem xorInto_eq_zipWith (out xs ys : List UInt8) (hx : out.length = xs.length)
    (hy : xs.length = ys.length) : xorInto out xs ys = List.zipWith (· ^^^ ·) xs ys := by
  induction xs generalizing out ys with
  | nil => cases out <;> cases ys <;> simp_all [xorInto]
  | cons x xs ih => cases out <;> cases ys <;> simp_all [xorInto]

theorem xor_eq_error_iff (a b : SymmKey) :
    (∃ e, a.xor b = .error e) ↔ a.bytes.length ≠ b.bytes.length := by
  by_cases h : a.bytes.length = b.bytes.length <;> simp [xor, h]

theorem xor_eq_ok (a b : SymmKey) (h : a.bytes.length = b.bytes.length) :
    a.xor b = .ok ⟨List.zipWith (· ^^^ ·) a.bytes b.bytes⟩ := by
  simp [xor, h, xorInto_eq_zipWith]

/-- `xor` fails exactly on operands of different lengths; otherwise the new key has their
length and holds their position-wise exclusive-or at every position. -/
theorem xor_spec (a b : SymmKey) :
    ((∃ e, a.xor b = .error e) ↔ a.bytes.length ≠ b.bytes.length) ∧
    (a.bytes.length = b.bytes.length → ∃ c, a.xor b = .ok c ∧
      c.bytes.length = a.bytes.length ∧ c.bytes = List.zipWith (· ^^^ ·) a.bytes b.bytes) :=
  ⟨xor_eq_error_iff a b, fun h => ⟨_, xor_eq_ok a b h, by simp [h], rfl⟩⟩

theorem uint8_xor_comm (x y : UInt8) : x ^^^ y = y ^^^ x := congrArg UInt8.mk (BitVec.xor_comm _ _)

theorem uint8_xor_xor_cancel (x y : UInt8) : x ^^^ y ^^^ y = x := by
  show UInt8.mk (x.toBitVec ^^^ y.toBitVec ^^^ y.toBitVec) = x
  rw [BitVec.xor_assoc, BitVec.xor_self, BitVec.xor_zero]

theorem zipWith_xor_cancel : ∀ xs ys : List UInt8, xs.length = ys.length →
    List.zipWith (· ^^^ ·) (List.zipWith (· ^^^ ·) xs ys) ys = xs
  | [], [], _ => rfl
  | x :: xs, y :: ys, h => by
    simp only [List.zipWith_cons_cons, uint8_xor_xor_cancel,
      zipWith_xor_cancel xs ys (Nat.succ.inj h)]

theorem xor_comm (a b : SymmKey) : a.xor b = b.xor a := by
  by_cases h : a.bytes.length = b.bytes.length
  · rw [xor_eq_ok a b h, xor_eq_ok b a h.symm, List.zipWith_comm_of_comm _ uint8_xor_comm]
  · simp [xor, h, Ne.symm h]

theorem xor_cancel {a b k : SymmKey} (hk : a.xor b = .ok k) : k.xor b = .ok a := by
  have h : a.bytes.length = b.bytes.length := by
    by_contra h
    simp [xor, h] at hk
  rw [xor_eq_ok a b h] at hk
  cases hk
  rw [xor_eq_ok _ _ (by simp [h])]
  exact congrArg (fun bs => Except.ok (SymmKey.mk bs)) (zipWith_xor_cancel _ _ h)

/-- Combining two key shares does not depend on their order, and combining the key with
either share gives back the other one. -/
theorem xor_shares (a b : SymmKey) :
    a.xor b = b.xor a ∧ ∀ k, a.xor b = .ok k → k.xor b = .ok a ∧ k.xor a = .ok b :=
  ⟨xor_comm a b, fun _ hk => ⟨xor_cancel hk, xor_cancel ((xor_comm b a).trans hk)⟩⟩

theorem uint8_xor_assoc (x y z : UInt8) : x ^^^ y ^^^ z = x ^^^ (y ^^^ z) :=
  congrArg UInt8.mk (BitVec.xor_assoc _ _ _)

theorem zipWith_xor_assoc : ∀ xs ys zs : List UInt8,
    List.zipWith (· ^^^ ·) (List.zipWith (· ^^^ ·) xs ys) zs =
      List.zipWith (· ^^^ ·) xs (List.zipWith (· ^^^ ·) ys zs)
  | x :: xs, y :: ys, z :: zs => by
    simp only [List.zipWith_cons_cons, uint8_xor_assoc, zipWith_xor_assoc xs ys zs]
  | [], _, _ => rfl
  | _ :: _, [], _ => rfl
  | _ :: _, _ :: _, [] => rfl

/-- Combining three shares does not depend on the grouping, failures included: either way the
three lengths agree and the key is the same, or both fail with the same error. -/
theorem xor_assoc (a b c : SymmKey) :
    (a.xor b >>= fun ab => ab.xor c) = (b.xor c >>= fun bc => a.xor bc) := by
  by_cases hab : a.bytes.length = b.bytes.length <;> by_cases hbc : b.bytes.length = c.bytes.length
  · rw [xor_eq_ok a b hab, xor_eq_ok b c hbc, ok_bind, ok_bind, xor_eq_ok _ _ (by simp [hab, hbc]),
      xor_eq_ok _ _ (by simp [hab, hbc]), zipWith_xor_assoc]
  · rw [xor_eq_ok a b hab, ok_bind]
    simp [xor, hab, hbc]
  · have hac : a.bytes.length ≠ c.bytes.length := hbc ▸ hab
    rw [xor_eq_ok b c hbc, ok_bind]
    simp [xor, hab, hac, hbc]
  · simp [xor, hab, hbc]

theorem tryFrom_eq_ok_iff (v : List UInt8) (k : SymmKey) :
    tryFrom v = .ok k ↔ (v.length = AES_128_KEY_LEN ∨ v.length = AES_256_KEY_LEN) ∧ k.bytes = v := by
  unfold tryFrom
  split <;> aesop

theorem tryFrom_eq_error (v : List UInt8) (h : ¬(v.length = AES_128_KEY_LEN ∨ v.length = AES_256_KEY_LEN)) :
    tryFrom v = .error ("key length " ++ toString v.length ++ " does not correspond to valid GCM cipher") := by
  simp [tryFrom, h]

theorem tryFrom_validLen {v : List UInt8} {k : SymmKey} (h : tryFrom v = .ok k) : k.ValidLen := by
  obtain ⟨hv, rfl⟩ := (tryFrom_eq_ok_iff v k).1 h
  exact hv

theorem xor_validLen {a b c : SymmKey} (ha : a.ValidLen) (h : a.xor b = .ok c) : c.ValidLen := by
  by_cases hab : a.bytes.length = b.bytes.length
  · rw [xor_eq_ok a b hab] at h
    cases h
    simpa [ValidLen, hab] using ha
  · simp [xor, hab] at h

/-- The keys the API of common.rs can produce: `try_from`, then any finite sequence of `xor`
and `clone`. -/
inductive Reachable : SymmKey → Prop
  | tryFrom {v : List UInt8} {k : SymmKey} : SymmKey.tryFrom v = .ok k → Reachable k
  | xor {a b c : SymmKey} : Reachable a → Reachable b → a.xor b = .ok c → Reachable c
  | clone {a : SymmKey} : Reachable a → Reachable a.clone

theorem Reachable.validLen {k : SymmKey} (h : Reachable k) : k.ValidLen := by
  induction h with
  | tryFrom h => exact tryFrom_validLen h
  | xor _ _ h iha _ => exact xor_validLen iha h
  | clone _ ih => exact ih

/-- Every key built by `try_from` and combined by `xor` and `clone` has one of the two AES
lengths; `try_from` accepts exactly those lengths and keeps the bytes it was given. -/
theorem reachable_bytes_length :
    (∀ k, Reachable k → k.bytes.length = AES_128_KEY_LEN ∨ k.bytes.length = AES_256_KEY_LEN) ∧
    ∀ v, ((∃ k, tryFrom v = .ok k) ↔ v.length = AES_128_KEY_LEN ∨ v.length = AES_256_KEY_LEN) ∧
      ∀ k, tryFrom v = .ok k → k.bytes = v := by
  refine ⟨fun k h => h.validLen, fun v => ⟨?_, fun k h => ((tryFrom_eq_ok_iff v k).1 h).2⟩⟩
  simp only [tryFrom_eq_ok_iff]
  exact ⟨fun ⟨_, h, _⟩ => h, fun h => ⟨⟨v⟩, h, rfl⟩⟩

/-- The length invariant is exact: every key of an AES length is reachable. -/
theorem reachable_iff_validLen (k : SymmKey) : Reachable k ↔ k.ValidLen :=
  ⟨Reachable.validLen, fun h => .tryFrom ((tryFrom_eq_ok_iff k.bytes k).2 ⟨h, rfl⟩)⟩

end SymmKey

end KeylimeCommon
