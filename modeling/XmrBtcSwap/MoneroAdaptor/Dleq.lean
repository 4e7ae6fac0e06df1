import XmrBtcSwap.MoneroAdaptor.Backend

/-!
# DLEQ proofs

`DleqProof` is a Chaum–Pedersen proof that `xG` and `xH` share the discrete logarithm `x` on the
bases `G` and `H`. `verify_new` is completeness for bases in the subgroup of order ℓ, which is
where every caller takes them. Off that subgroup dalek's multiplication does not distribute over
scalar addition, and `verify_new_torsion` is an honest proof that is rejected.
-/

namespace MoneroAdaptor

variable {Point : Type} [AddCommGroup Point] (B : Backend Point)

/-- `DleqProof`. -/
structure DleqProof where
  s : Scalar
  c : Scalar

/-- The challenge `DleqProof::new` and `DleqProof::verify` both hash:
`G ‖ xG ‖ H ‖ xH ‖ rG ‖ rH`. -/
def dleqChallenge (G xG H xH rG rH : Point) : Scalar :=
  Scalar.fromHash B <|
    (((((Sha512.new.chain (B.compress G)).chain (B.compress xG)).chain (B.compress H)).chain
      (B.compress xH)).chain (B.compress rG)).chain (B.compress rH)

/-- `DleqProof::new`; `r` is the nonce drawn from `OsRng`. -/
def DleqProof.new (G xG H xH : Point) (x r : Scalar) : DleqProof :=
  let rG := B.mul r G
  let rH := B.mul r H
  let c := dleqChallenge B G xG H xH rG rH
  let s := r + c * x
  { s, c }

/-- `DleqProof::verify`. -/
def DleqProof.verify (proof : DleqProof) (G xG H xH : Point) : Except String Unit :=
  let s := proof.s
  let c := proof.c
  let rG := B.mul s G + B.mul (-c) xG
  let rH := B.mul s H + B.mul (-c) xH
  let c_prime := dleqChallenge B G xG H xH rG rH
  if c ≠ c_prime then .error "invalid DLEQ proof" else .ok ()

theorem verify_eq_ok_iff (proof : DleqProof) (G xG H xH : Point) :
    proof.verify B G xG H xH = .ok () ↔
      proof.c = dleqChallenge B G xG H xH (B.mul proof.s G + B.mul (-proof.c) xG)
        (B.mul proof.s H + B.mul (-proof.c) xH) := by
  simp only [DleqProof.verify]
  split
  · exact iff_of_false nofun ‹_›
  · exact iff_of_true rfl (not_not.mp ‹_›)

/-- Every failure of `DleqProof::verify` is the DLEQ check's. -/
theorem verify_eq_error_iff (proof : DleqProof) (G xG H xH : Point) (e : String) :
    proof.verify B G xG H xH = .error e ↔
      proof.verify B G xG H xH ≠ .ok () ∧ e = "invalid DLEQ proof" := by
  simp only [DleqProof.verify]
  split
  · simp [eq_comm]
  · simp

/-- The verifier recomputes the prover's commitment `r • P` on a base of order ℓ. -/
theorem recommit {P : Point} (hP : InPrimeSubgroup P) (x r c : Scalar) :
    B.mul (r + c * x) P + B.mul (-c) (B.mul x P) = B.mul r P := by
  rw [B.mul_add_left hP, B.mul_mul_left hP, B.mul_neg_left (B.mul_mem hP x), add_neg_cancel_right]

/-- The proof a party sends for its points on the basepoint and on `H_p(pk)` verifies: both bases
lie in the subgroup of order ℓ. -/
theorem verify_new_on_key (pk : Point) (x r : Scalar) :
    let H := B.hashToP3 (B.compress pk)
    (DleqProof.new B B.basepoint (B.mul x B.basepoint) H (B.mul x H) x r).verify B B.basepoint
      (B.mul x B.basepoint) H (B.mul x H) = .ok () := by
  intro H
  rw [verify_eq_ok_iff]
  simp only [DleqProof.new, recommit B B.basepoint_mem, recommit B (B.hashToP3_order _)]

theorem verify_new {G H : Point} (hG : InPrimeSubgroup G) (hH : InPrimeSubgroup H) (x r : Scalar) :
    (DleqProof.new B G (B.mul x G) H (B.mul x H) x r).verify B G (B.mul x G) H (B.mul x H) =
      .ok () := by
  rw [verify_eq_ok_iff]
  simp only [DleqProof.new, recommit B hG, recommit B hH]

theorem verify_new_basepoint :
    InPrimeSubgroup cyclic.basepoint ∧
      (DleqProof.new cyclic cyclic.basepoint (cyclic.mul 3 cyclic.basepoint) cyclic.basepoint
        (cyclic.mul 3 cyclic.basepoint) 3 5).verify cyclic cyclic.basepoint
          (cyclic.mul 3 cyclic.basepoint) cyclic.basepoint (cyclic.mul 3 cyclic.basepoint) = .ok () :=
  ⟨cyclic.basepoint_mem, verify_new cyclic cyclic.basepoint_mem cyclic.basepoint_mem 3 5⟩

set_option maxRecDepth 100000 in
/-- On the generator `1` of the whole group `ZMod (8 * ℓ)` the honest proof is rejected. -/
theorem verify_new_torsion :
    (DleqProof.new cyclic 1 (cyclic.mul 1 1) 1 (cyclic.mul 1 1) 1 1).verify cyclic 1
      (cyclic.mul 1 1) 1 (cyclic.mul 1 1) ≠ .ok () := by
  rw [ne_eq, verify_eq_ok_iff]
  decide

end MoneroAdaptor
