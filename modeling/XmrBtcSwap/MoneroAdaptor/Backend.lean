import Mathlib

/-!
# Scalars, points and hashes

What `monero-adaptor` takes from curve25519-dalek, sha2 and Monero's C core. Scalars are
integers modulo ℓ. Points are left abstract: `Backend` names the operations the crate calls and
the facts of those libraries the proofs rely on. dalek multiplies a point by the scalar's
canonical value on the whole curve, whose group has order `8 * ℓ`, so multiplication is a
module action only on the subgroup of order ℓ (`InPrimeSubgroup`).
-/

namespace MoneroAdaptor

/-- ℓ, the order of the Ed25519 basepoint and the modulus of dalek's `Scalar`. -/
def basepointOrder : ℕ := 2 ^ 252 + 27742317777372353535851937790883648493

instance : Fact (1 < basepointOrder) := ⟨by decide⟩

/-- curve25519-dalek's `Scalar`. -/
abbrev Scalar := ZMod basepointOrder

/-! ### Results -/

section Results

variable {ε α β : Type}

@[simp] theorem ok_bind (a : α) (f : α → Except ε β) : (Except.ok a >>= f) = f a := rfl

@[simp] theorem error_bind (e : ε) (f : α → Except ε β) : (Except.error e >>= f) = .error e := rfl

@[simp] theorem map_ok (f : α → β) (a : α) : (f <$> (Except.ok a : Except ε α)) = .ok (f a) := rfl

@[simp] theorem map_error (f : α → β) (e : ε) : (f <$> (Except.error e : Except ε α)) = .error e :=
  rfl

end Results

/-! ### Little-endian bytes -/

/-- The `n` low bytes of `v`, least significant first. -/
def leBytes : ℕ → ℕ → List UInt8
  | 0, _ => []
  | n + 1, v => UInt8.ofNat (v % 256) :: leBytes n (v / 256)

@[simp] theorem leBytes_length (n v : ℕ) : (leBytes n v).length = n := by
  induction n generalizing v with
  | zero => rfl
  | succ n ih => simp [leBytes, ih]

/-- The value of a little-endian byte string. -/
def leValue (bytes : List UInt8) : ℕ := bytes.foldr (fun b acc => b.toNat + 256 * acc) 0

theorem leValue_leBytes (n v : ℕ) : leValue (leBytes n v) = v % 256 ^ n := by
  induction n generalizing v with
  | zero => simp [leBytes, leValue, Nat.mod_one]
  | succ n ih =>
    have low : (UInt8.ofNat (v % 256)).toNat = v % 256 :=
      UInt8.toNat_ofNat_of_lt (Nat.mod_lt _ (by decide))
    simp only [leBytes, leValue, List.foldr_cons] at ih ⊢
    rw [ih, low, pow_succ', Nat.mod_mul]

/-- `Scalar::as_bytes`: the canonical value in 32 little-endian bytes. -/
def Scalar.asBytes (s : Scalar) : List UInt8 := leBytes 32 s.val

theorem Scalar.asBytes_length (s : Scalar) : s.asBytes.length = 32 := leBytes_length 32 s.val

/-- `leValue` decodes `Scalar::as_bytes`. -/
theorem Scalar.leValue_asBytes (s : Scalar) : leValue s.asBytes = s.val := by
  rw [Scalar.asBytes, leValue_leBytes, Nat.mod_eq_of_lt ((ZMod.val_lt s).trans (by decide))]

theorem Scalar.asBytes_injective : Function.Injective Scalar.asBytes := fun s t same =>
  ZMod.val_injective _ (by rw [← Scalar.leValue_asBytes, same, Scalar.leValue_asBytes])

/-- `Scalar::from_bytes_mod_order_wide`. -/
def fromBytesModOrderWide (bytes : List UInt8) : Scalar := (leValue bytes : Scalar)

/-! ### The external primitives -/

/-- The operations the crate calls on points and digests, and the facts about them that the
proofs use. -/
structure Backend (Point : Type) [AddCommGroup Point] where
  /-- `ED25519_BASEPOINT_POINT`. -/
  basepoint : Point
  /-- `Scalar * EdwardsPoint`. -/
  mul : Scalar → Point → Point
  /-- `EdwardsPoint::compress`, also Monero's `ge_p3_tobytes`. -/
  compress : Point → List UInt8
  /-- `CompressedEdwardsY::decompress`. -/
  decompress : List UInt8 → Option Point
  /-- Monero's `hash_to_p3`. -/
  hashToP3 : List UInt8 → Point
  /-- The SHA-512 digest of the absorbed bytes. -/
  sha512 : List UInt8 → List UInt8
  /-- dalek multiplies by the canonical value of the scalar. -/
  mul_eq_nsmul : ∀ s P, mul s P = s.val • P
  basepoint_addOrderOf : addOrderOf basepoint = basepointOrder
  /-- `hash_to_p3` ends with a multiplication by the cofactor 8 (its result is `hash8_p3`). -/
  hashToP3_order : ∀ bytes, basepointOrder • hashToP3 bytes = 0
  /-- A `CompressedEdwardsY` holds 32 bytes. -/
  compress_length : ∀ P, (compress P).length = 32
  decompress_compress : ∀ P, decompress (compress P) = some P

variable {Point : Type} [AddCommGroup Point]

/-- `P` lies in the subgroup of order ℓ. -/
def InPrimeSubgroup (P : Point) : Prop := basepointOrder • P = 0

/-! ### A SHA-512 hasher -/

/-- A `Sha512` hasher, as the bytes it has absorbed. -/
structure Sha512 where
  absorbed : List UInt8

/-- `Sha512::new()` and `Sha512::default()`. -/
def Sha512.new : Sha512 := ⟨[]⟩

/-- `Digest::chain`. -/
def Sha512.chain (hasher : Sha512) (data : List UInt8) : Sha512 := ⟨hasher.absorbed ++ data⟩

@[simp] theorem Sha512.chain_absorbed (hasher : Sha512) (data : List UInt8) :
    (hasher.chain data).absorbed = hasher.absorbed ++ data := rfl

/-- `Digest::finalize`. -/
def Sha512.finalize (B : Backend Point) (hasher : Sha512) : List UInt8 := B.sha512 hasher.absorbed

/-- `Scalar::from_hash`: the digest reduced modulo ℓ. -/
def Scalar.fromHash (B : Backend Point) (hasher : Sha512) : Scalar :=
  fromBytesModOrderWide (hasher.finalize B)

/-- `Scalar::from_hash` sends the hashers `a` and `b`, which absorbed different bytes, to one
scalar: a collision on two named inputs. -/
def FromHashCollides (B : Backend Point) (a b : Sha512) : Prop :=
  a.absorbed ≠ b.absorbed ∧ Scalar.fromHash B a = Scalar.fromHash B b

/-- SHA-512 sends the different inputs `a` and `b` to one digest. -/
def Sha512Collides (B : Backend Point) (a b : List UInt8) : Prop := a ≠ b ∧ B.sha512 a = B.sha512 b

/-- `hash_point_to_point`. -/
def hashPointToPoint (B : Backend Point) (point : Point) : Except String Point :=
  match B.decompress (B.compress (B.hashToP3 (B.compress point))) with
  | some point => .ok point
  | none => .error "not y-coordinate"

namespace Backend

variable (B : Backend Point)

theorem hashPointToPoint_eq (P : Point) :
    hashPointToPoint B P = .ok (B.hashToP3 (B.compress P)) := by
  simp [hashPointToPoint, B.decompress_compress]

theorem compress_injective : Function.Injective B.compress := fun P Q same =>
  Option.some_injective _ (by rw [← B.decompress_compress, same, B.decompress_compress])

theorem basepoint_mem : InPrimeSubgroup B.basepoint := by
  rw [InPrimeSubgroup, ← B.basepoint_addOrderOf]
  exact addOrderOf_nsmul_eq_zero _

/-! ### Multiplication on the subgroup of order ℓ -/

theorem nsmul_mod {P : Point} (hP : InPrimeSubgroup P) (n : ℕ) :
    (n % basepointOrder) • P = n • P :=
  nsmul_eq_nsmul_iff_modEq.mpr
    ((Nat.mod_modEq n _).of_dvd (addOrderOf_dvd_iff_nsmul_eq_zero.mpr hP))

theorem mul_add_left {P : Point} (hP : InPrimeSubgroup P) (a b : Scalar) :
    B.mul (a + b) P = B.mul a P + B.mul b P := by
  rw [B.mul_eq_nsmul, B.mul_eq_nsmul, B.mul_eq_nsmul, ZMod.val_add, nsmul_mod hP, add_nsmul]

theorem mul_mul_left {P : Point} (hP : InPrimeSubgroup P) (a b : Scalar) :
    B.mul (a * b) P = B.mul a (B.mul b P) := by
  rw [B.mul_eq_nsmul, B.mul_eq_nsmul, B.mul_eq_nsmul, ZMod.val_mul, nsmul_mod hP, mul_nsmul']

@[simp] theorem mul_zero_left (P : Point) : B.mul 0 P = 0 := by
  rw [B.mul_eq_nsmul, ZMod.val_zero, zero_nsmul]

@[simp] theorem mul_one_left (P : Point) : B.mul 1 P = P := by
  rw [B.mul_eq_nsmul, ZMod.val_one, one_nsmul]

theorem mul_neg_left {P : Point} (hP : InPrimeSubgroup P) (a : Scalar) :
    B.mul (-a) P = -B.mul a P :=
  eq_neg_of_add_eq_zero_left (by rw [← B.mul_add_left hP, neg_add_cancel, mul_zero_left])

theorem mul_sub_left {P : Point} (hP : InPrimeSubgroup P) (a b : Scalar) :
    B.mul (a - b) P = B.mul a P - B.mul b P := by
  rw [sub_eq_add_neg, B.mul_add_left hP, B.mul_neg_left hP, ← sub_eq_add_neg]

theorem mul_add_right (a : Scalar) (P Q : Point) : B.mul a (P + Q) = B.mul a P + B.mul a Q := by
  simp only [B.mul_eq_nsmul, nsmul_add]

theorem mul_sub_right (a : Scalar) (P Q : Point) : B.mul a (P - Q) = B.mul a P - B.mul a Q := by
  simp only [B.mul_eq_nsmul, nsmul_sub]

/-- Discrete logarithms to the basepoint are unique. -/
theorem mul_basepoint_injective {a b : Scalar} (h : B.mul a B.basepoint = B.mul b B.basepoint) :
    a = b := by
  rw [B.mul_eq_nsmul, B.mul_eq_nsmul, nsmul_eq_nsmul_iff_modEq, B.basepoint_addOrderOf] at h
  exact ZMod.val_injective _ (h.eq_of_lt_of_lt (ZMod.val_lt a) (ZMod.val_lt b))

theorem mul_mem {P : Point} (hP : InPrimeSubgroup P) (a : Scalar) :
    InPrimeSubgroup (B.mul a P) := by
  rw [InPrimeSubgroup, B.mul_eq_nsmul, nsmul_left_comm, hP, nsmul_zero]

end Backend

/-! ### A computable backend -/

instance : NeZero (8 * basepointOrder) := ⟨by decide⟩

theorem cofactor_mul_order : (basepointOrder : ZMod (8 * basepointOrder)) * 8 = 0 := by decide

/-- The cyclic group of order `8 * ℓ`, to which the Ed25519 group is isomorphic, with points
written as their value in 32 little-endian bytes, and a stand-in digest: the input's
little-endian value modulo `2 ^ 255 - 19`, in 64 bytes. -/
def cyclic : Backend (ZMod (8 * basepointOrder)) where
  basepoint := 8
  mul s P := (s.val : ZMod (8 * basepointOrder)) * P
  compress P := leBytes 32 P.val
  decompress bytes := some (leValue bytes : ZMod (8 * basepointOrder))
  hashToP3 bytes := 8 * (leValue bytes : ZMod (8 * basepointOrder))
  sha512 bytes := leBytes 64 (leValue bytes % (2 ^ 255 - 19))
  mul_eq_nsmul s P := (nsmul_eq_mul _ _).symm
  basepoint_addOrderOf := by
    show addOrderOf ((8 : ℕ) : ZMod (8 * basepointOrder)) = _
    rw [ZMod.addOrderOf_coe 8 (by decide)]
    norm_num [basepointOrder]
  hashToP3_order bytes := by rw [nsmul_eq_mul, ← mul_assoc, cofactor_mul_order, zero_mul]
  compress_length P := leBytes_length 32 P.val
  decompress_compress P := by
    have small : P.val < 256 ^ 32 := (ZMod.val_lt P).trans (by decide)
    dsimp only
    rw [leValue_leBytes, Nat.mod_eq_of_lt small, ZMod.natCast_zmod_val]

end MoneroAdaptor
