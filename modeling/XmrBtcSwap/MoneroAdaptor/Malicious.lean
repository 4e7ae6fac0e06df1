import XmrBtcSwap.MoneroAdaptor.Protocol

/-!
# A dishonest peer

Neither party checks the peer's share of the real response: `Bob1::receive` checks the opening and
`pi_a`, `Alice1::receive` checks nothing, and neither checks the peer's key image share.
`valid_iff_peer_share_answers` says what is left: the adaptor signature a party ends with is valid
for the adaptor secret exactly when the peer's share answers the peer's commitments, for the
peer's part of the key and the peer's key image share. `bob_accepts_forged_share` is a share Bob
accepts that leaves his signature invalid.
-/

namespace MoneroAdaptor

variable {Point : Type} [AddCommGroup Point] (B : Backend Point)

theorem alice_adapts_iff (ring : Fin ringSize → Point) (msg : Fin 32 → UInt8) (R_a R_prime_a : Point)
    (y s_prime_a alpha_a : Scalar) (f : Fin (ringSize - 1) → Scalar) (m1 : Message1 Point)
    (m3 : Message3) (alice : Alice2 Point)
    (statement : R_a = B.mul y B.basepoint ∧ R_prime_a = B.mul y (B.hashToP3 (B.compress (ring 0))))
    (accepts : aliceRun B ring msg R_a R_prime_a s_prime_a f alpha_a m1 m3 = .ok alice) :
    let sig := alice.adaptor_sig
    let H := B.hashToP3 (B.compress (ring 0))
    let h := finalChallengeValue B sig.fake_responses ring sig.h_0 sig.I msg
    Adapts B sig ring msg y (B.mul alpha_a B.basepoint + m1.T_b + R_a)
        (B.mul alpha_a H + m1.I_hat_b + R_prime_a) ↔
      B.mul m3.s_0_b B.basepoint + B.mul h (ring 0 - B.mul s_prime_a B.basepoint) = m1.T_b ∧
        B.mul m3.s_0_b H + B.mul h m1.I_b = m1.I_hat_b := by
  obtain ⟨-, rfl⟩ := (aliceRun_eq_ok B _ _ _ _ _ _ _ _ _ _).mp accepts
  obtain ⟨rfl, rfl⟩ := statement
  exact (and_iff_right rfl).trans (closesRing_iff B _ _ _ _ _ _ _ _ _)

theorem bob_adapts_iff (ring : Fin ringSize → Point) (msg : Fin 32 → UInt8) (R_a R_prime_a : Point)
    (y s_b alpha_b : Scalar) (m0 : Message0) (m2 : Message2 Point) (bob : Bob2 Point)
    (statement : R_a = B.mul y B.basepoint ∧ R_prime_a = B.mul y (B.hashToP3 (B.compress (ring 0))))
    (accepts : bobRun B ring msg R_a R_prime_a s_b alpha_b m0 m2 = .ok bob) :
    let sig := bob.adaptor_sig
    let H := B.hashToP3 (B.compress (ring 0))
    let h := finalChallengeValue B sig.fake_responses ring sig.h_0 sig.I msg
    Adapts B sig ring msg y (m2.d_a.T_a + B.mul alpha_b B.basepoint + R_a)
        (m2.d_a.I_hat_a + B.mul alpha_b H + R_prime_a) ↔
      B.mul m2.s_0_a B.basepoint + B.mul h (ring 0 - B.mul s_b B.basepoint) = m2.d_a.T_a ∧
        B.mul m2.s_0_a H + B.mul h m2.d_a.I_a = m2.d_a.I_hat_a := by
  obtain ⟨-, -, rfl⟩ := (bobRun_eq_ok B _ _ _ _ _ _ _ _ _).mp accepts
  obtain ⟨rfl, rfl⟩ := statement
  exact (and_iff_right rfl).trans (closesRing_iff_right B _ _ _ _ _ _ _ _ _)

theorem valid_iff_peer_share_answers (ring : Fin ringSize → Point) (msg : Fin 32 → UInt8)
    (R_a R_prime_a : Point) (y : Scalar)
    (statement : R_a = B.mul y B.basepoint ∧ R_prime_a = B.mul y (B.hashToP3 (B.compress (ring 0))))
    (s_prime_a alpha_a : Scalar) (f : Fin (ringSize - 1) → Scalar) (m1 : Message1 Point)
    (m3 : Message3) (alice : Alice2 Point)
    (aliceAccepts : aliceRun B ring msg R_a R_prime_a s_prime_a f alpha_a m1 m3 = .ok alice)
    (s_b alpha_b : Scalar) (m0 : Message0) (m2 : Message2 Point) (bob : Bob2 Point)
    (bobAccepts : bobRun B ring msg R_a R_prime_a s_b alpha_b m0 m2 = .ok bob) :
    let H := B.hashToP3 (B.compress (ring 0))
    (let sig := alice.adaptor_sig
     let h := finalChallengeValue B sig.fake_responses ring sig.h_0 sig.I msg
     sig.h_0 = initialChallenge B ring msg (B.mul alpha_a B.basepoint + m1.T_b + R_a)
         (B.mul alpha_a H + m1.I_hat_b + R_prime_a) ∧
       (Adapts B sig ring msg y (B.mul alpha_a B.basepoint + m1.T_b + R_a)
           (B.mul alpha_a H + m1.I_hat_b + R_prime_a) ↔
         B.mul m3.s_0_b B.basepoint + B.mul h (ring 0 - B.mul s_prime_a B.basepoint) = m1.T_b ∧
           B.mul m3.s_0_b H + B.mul h m1.I_b = m1.I_hat_b)) ∧
    (let sig := bob.adaptor_sig
     let h := finalChallengeValue B sig.fake_responses ring sig.h_0 sig.I msg
     sig.h_0 = initialChallenge B ring msg (m2.d_a.T_a + B.mul alpha_b B.basepoint + R_a)
         (m2.d_a.I_hat_a + B.mul alpha_b H + R_prime_a) ∧
       (Adapts B sig ring msg y (m2.d_a.T_a + B.mul alpha_b B.basepoint + R_a)
           (m2.d_a.I_hat_a + B.mul alpha_b H + R_prime_a) ↔
         B.mul m2.s_0_a B.basepoint + B.mul h (ring 0 - B.mul s_b B.basepoint) = m2.d_a.T_a ∧
           B.mul m2.s_0_a H + B.mul h m2.d_a.I_a = m2.d_a.I_hat_a)) :=
  ⟨⟨aliceRun_h_0 B aliceAccepts,
      alice_adapts_iff B ring msg R_a R_prime_a y s_prime_a alpha_a f m1 m3 alice statement aliceAccepts⟩,
    ⟨bobRun_h_0 B bobAccepts,
      bob_adapts_iff B ring msg R_a R_prime_a y s_b alpha_b m0 m2 bob statement bobAccepts⟩⟩

theorem valid_iff_peer_share_answers_cyclic :
    let B := cyclic
    let G := B.basepoint
    let ring : Fin ringSize → ZMod (8 * basepointOrder) := fun _ => B.mul 5 G
    let H := B.hashToP3 (B.compress (ring 0))
    let msg : Fin 32 → UInt8 := fun _ => 0
    let f : Fin (ringSize - 1) → Scalar := fun _ => 1
    let m1 : Message1 (ZMod (8 * basepointOrder)) :=
      { I_b := B.mul 3 H, T_b := B.mul 6 G, I_hat_b := B.mul 6 H,
        pi_b := DleqProof.new B G (B.mul 6 G) H (B.mul 6 H) 6 1 }
    let m3 : Message3 := ⟨0⟩
    let h_0a := initialChallenge B ring msg (B.mul 4 G + m1.T_b + B.mul 7 G)
      (B.mul 4 H + m1.I_hat_b + B.mul 7 H)
    let alice : Alice2 (ZMod (8 * basepointOrder)) :=
      ⟨{ s_0_a := 4 - finalChallengeValue B f ring h_0a (B.mul 2 H + m1.I_b) msg * 2,
         s_0_b := m3.s_0_b, fake_responses := f, h_0 := h_0a, I := B.mul 2 H + m1.I_b }⟩
    let m0 : Message0 :=
      { c_a := Commitment.new B f (B.mul 2 H) (B.mul 4 H) (B.mul 4 G),
        pi_a := DleqProof.new B G (B.mul 4 G) H (B.mul 4 H) 4 1 }
    let m2 : Message2 (ZMod (8 * basepointOrder)) :=
      { d_a := Opening.new f (B.mul 2 H) (B.mul 4 H) (B.mul 4 G), s_0_a := 0 }
    let h_0b := initialChallenge B ring msg (m2.d_a.T_a + B.mul 6 G + B.mul 7 G)
      (m2.d_a.I_hat_a + B.mul 6 H + B.mul 7 H)
    let s_0_b := 6 - finalChallengeValue B f ring h_0b (m2.d_a.I_a + B.mul 3 H) msg * 3
    let bob : Bob2 (ZMod (8 * basepointOrder)) :=
      { s_0_b, adaptor_sig :=
        { s_0_a := m2.s_0_a, s_0_b, fake_responses := f, h_0 := h_0b, I := m2.d_a.I_a + B.mul 3 H } }
    (B.mul 7 G = B.mul 7 G ∧ B.mul 7 H = B.mul 7 H) ∧
    aliceRun B ring msg (B.mul 7 G) (B.mul 7 H) 2 f 4 m1 m3 = .ok alice ∧
    bobRun B ring msg (B.mul 7 G) (B.mul 7 H) 3 6 m0 m2 = .ok bob ∧
    ((let sig := alice.adaptor_sig
      let h := finalChallengeValue B sig.fake_responses ring sig.h_0 sig.I msg
      sig.h_0 = initialChallenge B ring msg (B.mul 4 G + m1.T_b + B.mul 7 G)
          (B.mul 4 H + m1.I_hat_b + B.mul 7 H) ∧
        (Adapts B sig ring msg 7 (B.mul 4 G + m1.T_b + B.mul 7 G)
            (B.mul 4 H + m1.I_hat_b + B.mul 7 H) ↔
          B.mul m3.s_0_b G + B.mul h (ring 0 - B.mul 2 G) = m1.T_b ∧
            B.mul m3.s_0_b H + B.mul h m1.I_b = m1.I_hat_b)) ∧
     (let sig := bob.adaptor_sig
      let h := finalChallengeValue B sig.fake_responses ring sig.h_0 sig.I msg
      sig.h_0 = initialChallenge B ring msg (m2.d_a.T_a + B.mul 6 G + B.mul 7 G)
          (m2.d_a.I_hat_a + B.mul 6 H + B.mul 7 H) ∧
        (Adapts B sig ring msg 7 (m2.d_a.T_a + B.mul 6 G + B.mul 7 G)
            (m2.d_a.I_hat_a + B.mul 6 H + B.mul 7 H) ↔
          B.mul m2.s_0_a G + B.mul h (ring 0 - B.mul 3 G) = m2.d_a.T_a ∧
            B.mul m2.s_0_a H + B.mul h m2.d_a.I_a = m2.d_a.I_hat_a))) := by
  intro B G ring H msg f m1 m3 h_0a alice m0 m2 h_0b s_0_b bob
  have aliceAccepts : aliceRun B ring msg (B.mul 7 G) (B.mul 7 H) 2 f 4 m1 m3 = .ok alice :=
    (aliceRun_eq_ok B _ _ _ _ _ _ _ _ _ _).mpr ⟨verify_new_on_key B (ring 0) 6 1, rfl⟩
  have bobAccepts : bobRun B ring msg (B.mul 7 G) (B.mul 7 H) 3 6 m0 m2 = .ok bob :=
    (bobRun_eq_ok B _ _ _ _ _ _ _ _ _).mpr ⟨rfl, verify_new_on_key B (ring 0) 4 1, rfl⟩
  exact ⟨⟨rfl, rfl⟩, aliceAccepts, bobAccepts, valid_iff_peer_share_answers B ring msg _ _ 7
    ⟨rfl, rfl⟩ 2 4 f m1 m3 alice aliceAccepts 3 6 m0 m2 bob bobAccepts⟩

/-- A share one more than the answering one does not answer, on a non-zero point. -/
theorem forged_share_fails {P : Point} (hP : InPrimeSubgroup P) (nonzero : P ≠ 0)
    (alpha x h : Scalar) : B.mul (alpha - h * x + 1) P + B.mul h (B.mul x P) ≠ B.mul alpha P := by
  rw [B.mul_add_left hP, B.mul_one_left, add_right_comm, honest_response B hP]
  exact fun same => nonzero (self_eq_add_right.mp same.symm)

/-- Bob accepts an honest opening with Alice's share off by one, and ends with an adaptor
signature that is not valid for the adaptor secret `7`. -/
theorem bob_accepts_forged_share :
    let B := cyclic
    let G := B.basepoint
    let ring : Fin ringSize → ZMod (8 * basepointOrder) := fun _ => B.mul 5 G
    let H := B.hashToP3 (B.compress (ring 0))
    let msg : Fin 32 → UInt8 := fun _ => 0
    let f : Fin (ringSize - 1) → Scalar := fun _ => 1
    let T_a := B.mul 4 G
    let I_hat_a := B.mul 4 H
    let I_a := B.mul 2 H
    let X := T_a + B.mul 6 G + B.mul 7 G
    let Y := I_hat_a + B.mul 6 H + B.mul 7 H
    let h_0 := initialChallenge B ring msg X Y
    let I := I_a + B.mul 3 H
    let h := finalChallengeValue B f ring h_0 I msg
    let m0 : Message0 :=
      { c_a := Commitment.new B f I_a I_hat_a T_a, pi_a := DleqProof.new B G T_a H I_hat_a 4 1 }
    let m2 : Message2 (ZMod (8 * basepointOrder)) :=
      { d_a := Opening.new f I_a I_hat_a T_a, s_0_a := 4 - h * 2 + 1 }
    let bob : Bob2 (ZMod (8 * basepointOrder)) :=
      { s_0_b := 6 - h * 3,
        adaptor_sig := { s_0_a := 4 - h * 2 + 1, s_0_b := 6 - h * 3, fake_responses := f, h_0, I } }
    bobRun B ring msg (B.mul 7 G) (B.mul 7 H) 3 6 m0 m2 = .ok bob ∧
      ¬ Adapts B bob.adaptor_sig ring msg 7 X Y := by
  intro B G ring H msg f T_a I_hat_a I_a X Y h_0 I h m0 m2 bob
  have accepts : bobRun B ring msg (B.mul 7 G) (B.mul 7 H) 3 6 m0 m2 = .ok bob :=
    (bobRun_eq_ok B _ _ _ _ _ _ _ _ _).mpr ⟨rfl, verify_new_on_key B (ring 0) 4 1, rfl⟩
  refine ⟨accepts, fun valid => ?_⟩
  have share : ring 0 - B.mul 3 G = B.mul 2 G := by
    rw [← B.mul_sub_left B.basepoint_mem]
    rfl
  have answers := ((bob_adapts_iff B ring msg _ _ 7 3 6 m0 m2 bob ⟨rfl, rfl⟩ accepts).mp valid).1
  rw [share] at answers
  exact forged_share_fails B B.basepoint_mem (by decide) 4 2 h answers

/-! ### What `Signature::verify` tells each party -/

/-- Alice can check Bob's share with `Signature::verify`: her adapted signature verifies when his
share answers his commitments, and only then, unless the closing step's input and `X ‖ Y` collide
under `Scalar::from_hash`. -/
theorem alice_verify_iff_peer_share_answers (ring : Fin ringSize → Point) (msg : Fin 32 → UInt8)
    (R_a R_prime_a : Point) (y s_prime_a alpha_a : Scalar) (f : Fin (ringSize - 1) → Scalar)
    (m1 : Message1 Point) (m3 : Message3) (alice : Alice2 Point)
    (statement : R_a = B.mul y B.basepoint ∧ R_prime_a = B.mul y (B.hashToP3 (B.compress (ring 0))))
    (accepts : aliceRun B ring msg R_a R_prime_a s_prime_a f alpha_a m1 m3 = .ok alice) :
    let sig := alice.adaptor_sig
    let H := B.hashToP3 (B.compress (ring 0))
    let h := finalChallengeValue B sig.fake_responses ring sig.h_0 sig.I msg
    let answers := B.mul m3.s_0_b B.basepoint + B.mul h (ring 0 - B.mul s_prime_a B.basepoint) = m1.T_b ∧
      B.mul m3.s_0_b H + B.mul h m1.I_b = m1.I_hat_b
    (answers → (sig.adapt y).verify B ring msg = .ok true) ∧
      ((sig.adapt y).verify B ring msg = .ok true → answers ∨
        ClosingCollides B (sig.s_0_a + sig.s_0_b + y) h sig.I ring msg
          (B.mul alpha_a B.basepoint + m1.T_b + R_a) (B.mul alpha_a H + m1.I_hat_b + R_prime_a)) := by
  intro sig H h answers
  have valid := alice_adapts_iff B ring msg R_a R_prime_a y s_prime_a alpha_a f m1 m3 alice
    statement accepts
  have hashed := aliceRun_h_0 B accepts
  exact ⟨fun answered => verify_adapt B (valid.mpr answered), fun verifies =>
    (closesRing_of_verify B hashed verifies).imp (fun closes => valid.mp ⟨hashed, closes⟩) id⟩

theorem alice_verify_iff_peer_share_answers_cyclic :
    let B := cyclic
    let G := B.basepoint
    let ring : Fin ringSize → ZMod (8 * basepointOrder) := fun _ => B.mul 5 G
    let H := B.hashToP3 (B.compress (ring 0))
    let msg : Fin 32 → UInt8 := fun _ => 0
    let f : Fin (ringSize - 1) → Scalar := fun _ => 1
    let m1 : Message1 (ZMod (8 * basepointOrder)) :=
      { I_b := B.mul 3 H, T_b := B.mul 6 G, I_hat_b := B.mul 6 H,
        pi_b := DleqProof.new B G (B.mul 6 G) H (B.mul 6 H) 6 1 }
    let m3 : Message3 := ⟨0⟩
    let h_0 := initialChallenge B ring msg (B.mul 4 G + m1.T_b + B.mul 7 G)
      (B.mul 4 H + m1.I_hat_b + B.mul 7 H)
    let alice : Alice2 (ZMod (8 * basepointOrder)) :=
      ⟨{ s_0_a := 4 - finalChallengeValue B f ring h_0 (B.mul 2 H + m1.I_b) msg * 2,
         s_0_b := m3.s_0_b, fake_responses := f, h_0, I := B.mul 2 H + m1.I_b }⟩
    let sig := alice.adaptor_sig
    let h := finalChallengeValue B sig.fake_responses ring sig.h_0 sig.I msg
    let answers := B.mul m3.s_0_b G + B.mul h (ring 0 - B.mul 2 G) = m1.T_b ∧
      B.mul m3.s_0_b H + B.mul h m1.I_b = m1.I_hat_b
    ((B.mul 7 G = B.mul 7 G ∧ B.mul 7 H = B.mul 7 H) ∧
      aliceRun B ring msg (B.mul 7 G) (B.mul 7 H) 2 f 4 m1 m3 = .ok alice) ∧
    (answers → (sig.adapt 7).verify B ring msg = .ok true) ∧
      ((sig.adapt 7).verify B ring msg = .ok true → answers ∨
        ClosingCollides B (sig.s_0_a + sig.s_0_b + 7) h sig.I ring msg
          (B.mul 4 G + m1.T_b + B.mul 7 G) (B.mul 4 H + m1.I_hat_b + B.mul 7 H)) := by
  intro B G ring H msg f m1 m3 h_0 alice sig h answers
  have accepts : aliceRun B ring msg (B.mul 7 G) (B.mul 7 H) 2 f 4 m1 m3 = .ok alice :=
    (aliceRun_eq_ok B _ _ _ _ _ _ _ _ _ _).mpr ⟨verify_new_on_key B (ring 0) 6 1, rfl⟩
  exact ⟨⟨⟨rfl, rfl⟩, accepts⟩,
    alice_verify_iff_peer_share_answers B ring msg _ _ 7 2 4 f m1 m3 alice ⟨rfl, rfl⟩ accepts⟩

/-- A share that answers commitments `alpha • G` and `alpha • H` for the key share `x • G` pins
the key image share `I'` down to `x • H` up to what `h` annihilates, whatever the other share `x'`
of the key. -/
theorem key_image_of_answers {H I' : Point} (hH : InPrimeSubgroup H) {s_0 h alpha x : Scalar}
    (onG : B.mul s_0 B.basepoint + B.mul h (B.mul x B.basepoint) = B.mul alpha B.basepoint)
    (onH : B.mul s_0 H + B.mul h I' = B.mul alpha H) (x' : Scalar) :
    B.mul h (B.mul x' H + I' - B.mul (x' + x) H) = 0 := by
  rw [← B.mul_mul_left B.basepoint_mem, ← B.mul_add_left B.basepoint_mem] at onG
  rw [← B.mul_basepoint_injective onG, B.mul_add_left hH, B.mul_mul_left hH] at onH
  rw [B.mul_add_left hH, B.mul_sub_right, B.mul_add_right, B.mul_add_right, add_left_cancel onH,
    sub_self]

/-- What a verifying signature tells Alice about her key image, when Bob's `T_b` and `I_hat_b`
share a discrete logarithm, as `pi_b` claims: the key image is `(s_prime_a + s_b) • H_p(ring[0])`
up to a point that `h_last` annihilates, unless the closing step's input and `X ‖ Y` collide. `Signature::verify` does not
check that the key image lies in the subgroup of order ℓ, which is what would close the gap. -/
theorem alice_key_image_of_verify (ring : Fin ringSize → Point) (msg : Fin 32 → UInt8)
    (R_a R_prime_a : Point) (y s_prime_a s_b alpha_a alpha_b : Scalar)
    (f : Fin (ringSize - 1) → Scalar) (m1 : Message1 Point) (m3 : Message3) (alice : Alice2 Point)
    (pk : ring 0 = B.mul (s_prime_a + s_b) B.basepoint)
    (statement : R_a = B.mul y B.basepoint ∧ R_prime_a = B.mul y (B.hashToP3 (B.compress (ring 0))))
    (bobShares : m1.T_b = B.mul alpha_b B.basepoint ∧
      m1.I_hat_b = B.mul alpha_b (B.hashToP3 (B.compress (ring 0))))
    (accepts : aliceRun B ring msg R_a R_prime_a s_prime_a f alpha_a m1 m3 = .ok alice)
    (verifies : (alice.adaptor_sig.adapt y).verify B ring msg = .ok true) :
    let sig := alice.adaptor_sig
    let h := finalChallengeValue B sig.fake_responses ring sig.h_0 sig.I msg
    let H := B.hashToP3 (B.compress (ring 0))
    B.mul h (sig.I - B.mul (s_prime_a + s_b) H) = 0 ∨
      ClosingCollides B (sig.s_0_a + sig.s_0_b + y) h sig.I ring msg
        (B.mul alpha_a B.basepoint + m1.T_b + R_a) (B.mul alpha_a H + m1.I_hat_b + R_prime_a) := by
  intro sig h H
  have hH : InPrimeSubgroup H := B.hashToP3_order _
  have valid := alice_adapts_iff B ring msg R_a R_prime_a y s_prime_a alpha_a f m1 m3 alice
    statement accepts
  have hashed := aliceRun_h_0 B accepts
  refine (closesRing_of_verify B hashed verifies).imp (fun closes => ?_) id
  obtain ⟨onG, onH⟩ := valid.mp ⟨hashed, closes⟩
  obtain ⟨-, rfl⟩ := (aliceRun_eq_ok B _ _ _ _ _ _ _ _ _ _).mp accepts
  have share : ring 0 - B.mul s_prime_a B.basepoint = B.mul s_b B.basepoint := by
    rw [pk, B.mul_add_left B.basepoint_mem, add_sub_cancel_left]
  rw [share] at onG
  exact key_image_of_answers B hH (onG.trans bobShares.1) (onH.trans bobShares.2) s_prime_a

theorem alice_key_image_of_verify_cyclic :
    let B := cyclic
    let G := B.basepoint
    let ring : Fin ringSize → ZMod (8 * basepointOrder) := fun _ => B.mul (2 + 3) G
    let H := B.hashToP3 (B.compress (ring 0))
    let msg : Fin 32 → UInt8 := fun _ => 0
    let f : Fin (ringSize - 1) → Scalar := fun _ => 1
    let m1 : Message1 (ZMod (8 * basepointOrder)) :=
      { I_b := B.mul 3 H, T_b := B.mul 6 G, I_hat_b := B.mul 6 H,
        pi_b := DleqProof.new B G (B.mul 6 G) H (B.mul 6 H) 6 1 }
    let h_0 := initialChallenge B ring msg (B.mul 4 G + m1.T_b + B.mul 7 G)
      (B.mul 4 H + m1.I_hat_b + B.mul 7 H)
    let h := finalChallengeValue B f ring h_0 (B.mul 2 H + m1.I_b) msg
    let m3 : Message3 := ⟨6 - h * 3⟩
    let alice : Alice2 (ZMod (8 * basepointOrder)) :=
      ⟨{ s_0_a := 4 - h * 2, s_0_b := m3.s_0_b, fake_responses := f, h_0, I := B.mul 2 H + m1.I_b }⟩
    let sig := alice.adaptor_sig
    (ring 0 = B.mul (2 + 3) G ∧ (B.mul 7 G = B.mul 7 G ∧ B.mul 7 H = B.mul 7 H) ∧
      (m1.T_b = B.mul 6 G ∧ m1.I_hat_b = B.mul 6 H) ∧
      aliceRun B ring msg (B.mul 7 G) (B.mul 7 H) 2 f 4 m1 m3 = .ok alice ∧
      (sig.adapt 7).verify B ring msg = .ok true) ∧
    (B.mul h (sig.I - B.mul (2 + 3) H) = 0 ∨
      ClosingCollides B (sig.s_0_a + sig.s_0_b + 7) h sig.I ring msg
        (B.mul 4 G + m1.T_b + B.mul 7 G) (B.mul 4 H + m1.I_hat_b + B.mul 7 H)) := by
  intro B G ring H msg f m1 h_0 h m3 alice sig
  have hH : InPrimeSubgroup H := B.hashToP3_order _
  have accepts : aliceRun B ring msg (B.mul 7 G) (B.mul 7 H) 2 f 4 m1 m3 = .ok alice :=
    (aliceRun_eq_ok B _ _ _ _ _ _ _ _ _ _).mpr ⟨verify_new_on_key B (ring 0) 6 1, rfl⟩
  have share : ring 0 - B.mul 2 G = B.mul 3 G := by
    rw [← B.mul_sub_left B.basepoint_mem]
    rfl
  have answers : B.mul m3.s_0_b G + B.mul h (ring 0 - B.mul 2 G) = m1.T_b ∧
      B.mul m3.s_0_b H + B.mul h m1.I_b = m1.I_hat_b :=
    ⟨by rw [share]; exact honest_response B B.basepoint_mem 6 3 h, honest_response B hH 6 3 h⟩
  have verifies := verify_adapt B
    ((alice_adapts_iff B ring msg _ _ 7 2 4 f m1 m3 alice ⟨rfl, rfl⟩ accepts).mpr answers)
  exact ⟨⟨rfl, ⟨rfl, rfl⟩, ⟨rfl, rfl⟩, accepts, verifies⟩,
    alice_key_image_of_verify B ring msg _ _ 7 2 3 4 6 f m1 m3 alice rfl ⟨rfl, rfl⟩ ⟨rfl, rfl⟩
      accepts verifies⟩

/-- Whatever Alice sends, once her share answers her commitments, any signature she publishes with
Bob's fake responses, `h_0` and key image that verifies hands Bob a witness of the adaptor
statement: its last response minus both shares is the discrete logarithm of `R_a` to the
basepoint and of `R_prime_a` to `H_p(ring[0])`, unless the closing step's input and `X ‖ Y`
collide. -/
theorem bob_extracts_witness (ring : Fin ringSize → Point) (msg : Fin 32 → UInt8)
    (R_a R_prime_a : Point) (s_b alpha_b : Scalar) (m0 : Message0) (m2 : Message2 Point)
    (bob : Bob2 Point) (accepts : bobRun B ring msg R_a R_prime_a s_b alpha_b m0 m2 = .ok bob)
    (answers :
      let sig := bob.adaptor_sig
      let h := finalChallengeValue B sig.fake_responses ring sig.h_0 sig.I msg
      B.mul m2.s_0_a B.basepoint + B.mul h (ring 0 - B.mul s_b B.basepoint) = m2.d_a.T_a ∧
        B.mul m2.s_0_a (B.hashToP3 (B.compress (ring 0))) + B.mul h m2.d_a.I_a = m2.d_a.I_hat_a)
    (s : Scalar)
    (published : Signature.verify B
      ⟨Fin.snoc bob.adaptor_sig.fake_responses s, bob.adaptor_sig.h_0, bob.adaptor_sig.I⟩ ring msg =
        .ok true) :
    let sig := bob.adaptor_sig
    let y := s - sig.s_0_a - sig.s_0_b
    let H := B.hashToP3 (B.compress (ring 0))
    (R_a = B.mul y B.basepoint ∧ R_prime_a = B.mul y H) ∨
      ClosingCollides B s (finalChallengeValue B sig.fake_responses ring sig.h_0 sig.I msg) sig.I ring
        msg (m2.d_a.T_a + B.mul alpha_b B.basepoint + R_a) (m2.d_a.I_hat_a + B.mul alpha_b H + R_prime_a) := by
  intro sig y H
  refine (closesRing_of_verify B (bobRun_h_0 B accepts) published).imp (fun closes => ?_) id
  obtain ⟨-, -, rfl⟩ := (bobRun_eq_ok B _ _ _ _ _ _ _ _ _).mp accepts
  have answered := (closesRing_iff_right B (ring 0) alpha_b s_b m2.s_0_a y _ _ _ _).mpr answers
  rw [show m2.s_0_a + (alpha_b - _ * s_b) + y = s by simp only [y]; ring] at answered
  exact ⟨add_left_cancel (closes.1.symm.trans answered.1),
    add_left_cancel (closes.2.symm.trans answered.2)⟩

theorem bob_extracts_witness_cyclic :
    let B := cyclic
    let G := B.basepoint
    let ring : Fin ringSize → ZMod (8 * basepointOrder) := fun _ => B.mul 5 G
    let H := B.hashToP3 (B.compress (ring 0))
    let msg : Fin 32 → UInt8 := fun _ => 0
    let f : Fin (ringSize - 1) → Scalar := fun _ => 1
    let T_a := B.mul 4 G
    let I_hat_a := B.mul 4 H
    let I_a := B.mul 2 H
    let h_0 := initialChallenge B ring msg (T_a + B.mul 6 G + B.mul 7 G)
      (I_hat_a + B.mul 6 H + B.mul 7 H)
    let I := I_a + B.mul 3 H
    let h := finalChallengeValue B f ring h_0 I msg
    let m0 : Message0 :=
      { c_a := Commitment.new B f I_a I_hat_a T_a, pi_a := DleqProof.new B G T_a H I_hat_a 4 1 }
    let m2 : Message2 (ZMod (8 * basepointOrder)) :=
      { d_a := Opening.new f I_a I_hat_a T_a, s_0_a := 4 - h * 2 }
    let bob : Bob2 (ZMod (8 * basepointOrder)) :=
      { s_0_b := 6 - h * 3,
        adaptor_sig := { s_0_a := 4 - h * 2, s_0_b := 6 - h * 3, fake_responses := f, h_0, I } }
    let s := bob.adaptor_sig.s_0_a + bob.adaptor_sig.s_0_b + 7
    let y := s - bob.adaptor_sig.s_0_a - bob.adaptor_sig.s_0_b
    (bobRun B ring msg (B.mul 7 G) (B.mul 7 H) 3 6 m0 m2 = .ok bob ∧
      (B.mul m2.s_0_a G + B.mul h (ring 0 - B.mul 3 G) = m2.d_a.T_a ∧
        B.mul m2.s_0_a H + B.mul h m2.d_a.I_a = m2.d_a.I_hat_a) ∧
      Signature.verify B
        ⟨Fin.snoc bob.adaptor_sig.fake_responses s, bob.adaptor_sig.h_0, bob.adaptor_sig.I⟩ ring msg =
          .ok true) ∧
    ((B.mul 7 G = B.mul y G ∧ B.mul 7 H = B.mul y H) ∨
      ClosingCollides B s h I ring msg (T_a + B.mul 6 G + B.mul 7 G) (I_hat_a + B.mul 6 H + B.mul 7 H)) := by
  intro B G ring H msg f T_a I_hat_a I_a h_0 I h m0 m2 bob s y
  have hH : InPrimeSubgroup H := B.hashToP3_order _
  have accepts : bobRun B ring msg (B.mul 7 G) (B.mul 7 H) 3 6 m0 m2 = .ok bob :=
    (bobRun_eq_ok B _ _ _ _ _ _ _ _ _).mpr ⟨rfl, verify_new_on_key B (ring 0) 4 1, rfl⟩
  have share : ring 0 - B.mul 3 G = B.mul 2 G := by
    rw [← B.mul_sub_left B.basepoint_mem]
    rfl
  have answers : B.mul m2.s_0_a G + B.mul h (ring 0 - B.mul 3 G) = m2.d_a.T_a ∧
      B.mul m2.s_0_a H + B.mul h m2.d_a.I_a = m2.d_a.I_hat_a :=
    ⟨by rw [share]; exact honest_response B B.basepoint_mem 4 2 h, honest_response B hH 4 2 h⟩
  have published := verify_adapt B
    ((bob_adapts_iff B ring msg _ _ 7 3 6 m0 m2 bob ⟨rfl, rfl⟩ accepts).mpr answers)
  exact ⟨⟨accepts, answers, published⟩,
    bob_extracts_witness B ring msg _ _ 3 6 m0 m2 bob accepts answers s published⟩

end MoneroAdaptor
