import XmrBtcSwap.MoneroAdaptor.Protocol

/-!
# Completeness and agreement

`honest_run_verifies`: for every ring whose first member is the joint key, every message and
every draw, the honest run succeeds and Alice's adaptor signature, adapted by the adaptor
secret, verifies. `honest_run_agrees`: both parties end with the same adaptor signature, so Bob
reads the secret off the signature Alice publishes.
-/

namespace MoneroAdaptor

variable {Point : Type} [AddCommGroup Point] (B : Backend Point)

/-- The honest adaptor signature is valid for the adaptor secret, on the aggregated commitments. -/
theorem honestSignature_adapts (ring : Fin ringSize → Point) (msg : Fin 32 → UInt8)
    (s_prime_a s_b r_a : Scalar) (draws : Draws)
    (pk : ring 0 = B.mul (s_prime_a + s_b) B.basepoint) :
    let G := B.basepoint
    let H := B.hashToP3 (B.compress (ring 0))
    Adapts B (honestSignature B ring msg (B.mul r_a G) (B.mul r_a H) s_prime_a s_b draws) ring msg
      r_a (B.mul draws.alpha_a G + B.mul draws.alpha_b G + B.mul r_a G)
      (B.mul draws.alpha_a H + B.mul draws.alpha_b H + B.mul r_a H) := by
  intro G H
  have hG : InPrimeSubgroup G := B.basepoint_mem
  have hH : InPrimeSubgroup H := B.hashToP3_order _
  have share : ring 0 - B.mul s_prime_a G = B.mul s_b G := by
    rw [pk, B.mul_add_left hG, add_sub_cancel_left]
  refine ⟨rfl, (closesRing_iff B (ring 0) draws.alpha_a s_prime_a _ r_a _
    (B.mul draws.alpha_b G) (B.mul s_b H) (B.mul draws.alpha_b H)).mpr ⟨?_, honest_response B hH _ _ _⟩⟩
  rw [share]
  exact honest_response B hG _ _ _

theorem honest_run_verifies (ring : Fin ringSize → Point) (msg : Fin 32 → UInt8)
    (s_prime_a s_b r_a : Scalar) (R_a R_prime_a H : Point) (draws : Draws)
    (pk : ring 0 = B.mul (s_prime_a + s_b) B.basepoint)
    (hashed : hashPointToPoint B (ring 0) = .ok H)
    (statement : R_a = B.mul r_a B.basepoint ∧ R_prime_a = B.mul r_a H) :
    ∃ alice bob, honestRun B ring msg R_a R_prime_a s_prime_a s_b draws = .ok (alice, bob) ∧
      alice.adaptor_sig.I = B.mul (s_prime_a + s_b) H ∧
      (let sig := alice.adaptor_sig
       challenge B (sig.s_0_a + sig.s_0_b + r_a) (ring 0)
          (finalChallengeValue B sig.fake_responses ring sig.h_0 sig.I msg) sig.I
          (ringPrefix B ring msg) = .ok sig.h_0) ∧
      (alice.adaptor_sig.adapt r_a).verify B ring msg = .ok true := by
  rw [B.hashPointToPoint_eq, Except.ok.injEq] at hashed
  subst hashed
  obtain ⟨rfl, rfl⟩ := statement
  have valid := honestSignature_adapts B ring msg s_prime_a s_b r_a draws pk
  exact ⟨_, _, honestRun_eq B ring msg _ _ s_prime_a s_b draws,
    (B.mul_add_left (B.hashToP3_order _) _ _).symm, challenge_of_closesRing B valid.2,
    verify_adapt B valid⟩

theorem honest_run_verifies_cyclic :
    let B := cyclic
    let G := B.basepoint
    let ring : Fin ringSize → ZMod (8 * basepointOrder) := Fin.cons (B.mul (2 + 3) G) (fun i => B.mul i.val G)
    let msg : Fin 32 → UInt8 := fun i => UInt8.ofNat i.val
    let H := B.hashToP3 (B.compress (ring 0))
    let draws : Draws := ⟨fun i => i.val, 4, 6, 1, 1⟩
    (ring 0 = B.mul (2 + 3) G ∧ hashPointToPoint B (ring 0) = .ok H ∧
      (B.mul 7 G = B.mul 7 G ∧ B.mul 7 H = B.mul 7 H)) ∧
    ∃ alice bob, honestRun B ring msg (B.mul 7 G) (B.mul 7 H) 2 3 draws = .ok (alice, bob) ∧
      alice.adaptor_sig.I = B.mul (2 + 3) H ∧
      (let sig := alice.adaptor_sig
       challenge B (sig.s_0_a + sig.s_0_b + 7) (ring 0)
          (finalChallengeValue B sig.fake_responses ring sig.h_0 sig.I msg) sig.I
          (ringPrefix B ring msg) = .ok sig.h_0) ∧
      (alice.adaptor_sig.adapt 7).verify B ring msg = .ok true :=
  ⟨⟨rfl, cyclic.hashPointToPoint_eq _, rfl, rfl⟩,
    honest_run_verifies cyclic _ _ 2 3 7 _ _ _ _ rfl (cyclic.hashPointToPoint_eq _) ⟨rfl, rfl⟩⟩

theorem honest_run_agrees (ring : Fin ringSize → Point) (msg : Fin 32 → UInt8) (R_a R_prime_a : Point)
    (s_prime_a s_b : Scalar) (draws : Draws) (alice : Alice2 Point) (bob : Bob2 Point)
    (run : honestRun B ring msg R_a R_prime_a s_prime_a s_b draws = .ok (alice, bob)) :
    alice.adaptor_sig = bob.adaptor_sig ∧
      ∀ y, let sig := alice.adaptor_sig.adapt y
        (∀ i, sig.responses (Fin.castSucc i) = bob.adaptor_sig.fake_responses i) ∧
        sig.h_0 = bob.adaptor_sig.h_0 ∧ sig.I = bob.adaptor_sig.I ∧
        sig.responses (Fin.last _) - bob.adaptor_sig.s_0_a - bob.adaptor_sig.s_0_b = y := by
  rw [honestRun_eq, Except.ok.injEq, Prod.mk.injEq] at run
  obtain ⟨rfl, rfl⟩ := run
  refine ⟨rfl, fun y => ⟨fun i => by simp [AdaptorSignature.adapt], rfl, rfl, ?_⟩⟩
  simp only [AdaptorSignature.adapt, Fin.snoc_last]
  abel

theorem honest_run_agrees_cyclic :
    let B := cyclic
    let G := B.basepoint
    let ring : Fin ringSize → ZMod (8 * basepointOrder) := fun i => B.mul i.val G
    let msg : Fin 32 → UInt8 := fun i => UInt8.ofNat i.val
    let H := B.hashToP3 (B.compress (ring 0))
    let draws : Draws := ⟨fun i => i.val, 4, 6, 1, 1⟩
    let sig := honestSignature B ring msg (B.mul 7 G) (B.mul 7 H) 2 3 draws
    let alice : Alice2 (ZMod (8 * basepointOrder)) := ⟨sig⟩
    let bob : Bob2 (ZMod (8 * basepointOrder)) := ⟨sig.s_0_b, sig⟩
    honestRun B ring msg (B.mul 7 G) (B.mul 7 H) 2 3 draws = .ok (alice, bob) ∧
      alice.adaptor_sig = bob.adaptor_sig ∧
      ∀ y, let sig := alice.adaptor_sig.adapt y
        (∀ i, sig.responses (Fin.castSucc i) = bob.adaptor_sig.fake_responses i) ∧
        sig.h_0 = bob.adaptor_sig.h_0 ∧ sig.I = bob.adaptor_sig.I ∧
        sig.responses (Fin.last _) - bob.adaptor_sig.s_0_a - bob.adaptor_sig.s_0_b = y :=
  ⟨honestRun_eq cyclic _ _ _ _ 2 3 _,
    honest_run_agrees cyclic _ _ _ _ 2 3 _ _ _ (honestRun_eq cyclic _ _ _ _ 2 3 _)⟩

/-- Key images link: two honest runs whose rings share member 0 and whose shares add up to the same
key end with the same key image, whatever the messages, the other ring members and the draws. -/
theorem key_image_links (ring ring' : Fin ringSize → Point) (msg msg' : Fin 32 → UInt8)
    (R_a R_prime_a R_a' R_prime_a' : Point) (s_prime_a s_b t_prime_a t_b : Scalar)
    (draws draws' : Draws) (alice alice' : Alice2 Point) (bob bob' : Bob2 Point)
    (same_key : ring 0 = ring' 0) (same_secret : s_prime_a + s_b = t_prime_a + t_b)
    (run : honestRun B ring msg R_a R_prime_a s_prime_a s_b draws = .ok (alice, bob))
    (run' : honestRun B ring' msg' R_a' R_prime_a' t_prime_a t_b draws' = .ok (alice', bob')) :
    alice.adaptor_sig.I = alice'.adaptor_sig.I := by
  rw [honestRun_eq, Except.ok.injEq, Prod.mk.injEq] at run run'
  obtain ⟨rfl, -⟩ := run
  obtain ⟨rfl, -⟩ := run'
  have hH : InPrimeSubgroup (B.hashToP3 (B.compress (ring 0))) := B.hashToP3_order _
  show B.mul s_prime_a _ + B.mul s_b _ = B.mul t_prime_a _ + B.mul t_b _
  rw [← same_key, ← B.mul_add_left hH, ← B.mul_add_left hH, same_secret]

theorem key_image_links_cyclic :
    let B := cyclic
    let G := B.basepoint
    let ring : Fin ringSize → ZMod (8 * basepointOrder) := fun i => B.mul i.val G
    let ring' : Fin ringSize → ZMod (8 * basepointOrder) := Fin.cons (ring 0) (fun _ => G)
    let msg : Fin 32 → UInt8 := fun i => UInt8.ofNat i.val
    let H := B.hashToP3 (B.compress (ring 0))
    let draws : Draws := ⟨fun i => i.val, 4, 6, 1, 1⟩
    let draws' : Draws := ⟨fun _ => 0, 5, 9, 2, 3⟩
    let sig := honestSignature B ring msg (B.mul 7 G) (B.mul 7 H) 2 3 draws
    let sig' := honestSignature B ring' 0 (B.mul 8 G) (B.mul 8 H) 4 1 draws'
    (ring 0 = ring' 0 ∧ (2 : Scalar) + 3 = 4 + 1 ∧
      honestRun B ring msg (B.mul 7 G) (B.mul 7 H) 2 3 draws = .ok (⟨sig⟩, ⟨sig.s_0_b, sig⟩) ∧
      honestRun B ring' 0 (B.mul 8 G) (B.mul 8 H) 4 1 draws' = .ok (⟨sig'⟩, ⟨sig'.s_0_b, sig'⟩)) ∧
    (⟨sig⟩ : Alice2 (ZMod (8 * basepointOrder))).adaptor_sig.I = (⟨sig'⟩ : Alice2 _).adaptor_sig.I := by
  intro B G ring ring' msg H draws draws' sig sig'
  have run := honestRun_eq B ring msg (B.mul 7 G) (B.mul 7 H) 2 3 draws
  have run' := honestRun_eq B ring' 0 (B.mul 8 G) (B.mul 8 H) 4 1 draws'
  have same_secret : (2 : Scalar) + 3 = 4 + 1 := by decide
  exact ⟨⟨rfl, same_secret, run, run'⟩, key_image_links B ring ring' msg 0 _ _ _ _ 2 3 4 1 draws draws'
    _ _ _ _ rfl same_secret run run'⟩

/-! ### Extraction -/

/-- For a valid adaptor signature, any response that closes its ring at `ring[0]` is the two shares
plus the adaptor secret. -/
theorem adaptor_secret_of_closesRing {sig : AdaptorSignature Point} {ring : Fin ringSize → Point}
    {msg : Fin 32 → UInt8} {y s : Scalar} {X Y : Point} (valid : Adapts B sig ring msg y X Y)
    (closes : ClosesRing B s (finalChallengeValue B sig.fake_responses ring sig.h_0 sig.I msg)
      (ring 0) sig.I X Y) :
    s - sig.s_0_a - sig.s_0_b = y := by
  rw [closesRing_response_unique B closes valid.2]
  ring

/-- Bob reads the adaptor secret off any published signature that carries his adaptor signature's
fake responses, `h_0` and key image and verifies, or else the published closing step's input and
the `X ‖ Y` that `h_0` hashes are two different byte strings with one scalar. -/
theorem extraction_or_collision {sig : AdaptorSignature Point} {ring : Fin ringSize → Point}
    {msg : Fin 32 → UInt8} {y : Scalar} {X Y : Point} (valid : Adapts B sig ring msg y X Y)
    (s : Scalar)
    (published : Signature.verify B ⟨Fin.snoc sig.fake_responses s, sig.h_0, sig.I⟩ ring msg = .ok true) :
    s - sig.s_0_a - sig.s_0_b = y ∨
      ClosingCollides B s (finalChallengeValue B sig.fake_responses ring sig.h_0 sig.I msg) sig.I ring
        msg X Y :=
  (closesRing_of_verify B valid.1 published).imp (adaptor_secret_of_closesRing B valid) id

theorem extraction_or_collision_cyclic :
    let B := cyclic
    let G := B.basepoint
    let ring : Fin ringSize → ZMod (8 * basepointOrder) := Fin.cons (B.mul (2 + 3) G) (fun i => B.mul i.val G)
    let msg : Fin 32 → UInt8 := fun i => UInt8.ofNat i.val
    let H := B.hashToP3 (B.compress (ring 0))
    let draws : Draws := ⟨fun i => i.val, 4, 6, 1, 1⟩
    let sig := honestSignature B ring msg (B.mul 7 G) (B.mul 7 H) 2 3 draws
    let X := B.mul 4 G + B.mul 6 G + B.mul 7 G
    let Y := B.mul 4 H + B.mul 6 H + B.mul 7 H
    let s := sig.s_0_a + sig.s_0_b + 7
    Adapts B sig ring msg 7 X Y ∧
      Signature.verify B ⟨Fin.snoc sig.fake_responses s, sig.h_0, sig.I⟩ ring msg = .ok true ∧
      (s - sig.s_0_a - sig.s_0_b = 7 ∨
        ClosingCollides B s (finalChallengeValue B sig.fake_responses ring sig.h_0 sig.I msg) sig.I
          ring msg X Y) :=
  let valid := honestSignature_adapts cyclic _ _ 2 3 7 _ rfl
  ⟨valid, verify_adapt cyclic valid, extraction_or_collision cyclic valid _ (verify_adapt cyclic valid)⟩

end MoneroAdaptor
