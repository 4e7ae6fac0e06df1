import XmrBtcSwap.MoneroAdaptor.Completeness

/-!
# What the hashes bind

`Commitment::new`, `DleqProof::verify`, `final_challenge` and `Signature::verify` hash fixed-width
encodings: scalars and compressed points in 32 bytes, the seven bytes of `DOMAIN_TAG`, the ring in
352 bytes and the message in 32. These encodings are injective, so equal hashes of different data
are a collision. Bob accepts only the opening Alice committed to (`bob_opening_binds`), a DLEQ
proof verifies for one statement (`dleq_verify_binds_statement`), and a signature for one ring and
one message (`verify_binds_ring_and_msg`), unless the two inputs the code hashes collide.
`verify_iff_closesRing` is the hash-based verifier against the algebraic closing equations
`ClosesRing`. The collision is a conclusion, never a hypothesis, and it is always about the two
byte strings or hashers that the theorem's inputs determine (`commitmentBytes`,
`Signature.closingHasher`, `DleqProof.verifyHasher`): that some two inputs collide is true of every
hash into a smaller set, and says nothing.
-/

namespace MoneroAdaptor

variable {Point : Type} [AddCommGroup Point] (B : Backend Point)

/-! ### Fixed-width encodings -/

section Width

variable {α : Type} {encode : α → List UInt8} {n : ℕ}

theorem length_flatMap_of_width (width : ∀ a, (encode a).length = n) (l : List α) :
    (l.flatMap encode).length = l.length * n := by
  simp [List.length_flatMap, Function.comp_def, width]

/-- Concatenated encodings of one width determine the encoded list. -/
theorem flatMap_inj_of_width (width : ∀ a, (encode a).length = n)
    (injective : Function.Injective encode) {l l' : List α} (lengths : l.length = l'.length)
    (same : l.flatMap encode = l'.flatMap encode) : l = l' := by
  induction l generalizing l' with
  | nil => exact (List.length_eq_zero.mp lengths.symm).symm
  | cons a l ih =>
    obtain _ | ⟨b, l'⟩ := l'
    · cases lengths
    rw [List.flatMap_cons, List.flatMap_cons] at same
    obtain ⟨first, rest⟩ := List.append_inj same (by rw [width, width])
    rw [injective first, ih (Nat.succ.inj lengths) rest]

end Width

theorem compress_length_eq (P Q : Point) : (B.compress P).length = (B.compress Q).length := by
  rw [B.compress_length, B.compress_length]

theorem ringConcat_length (ring : Fin ringSize → Point) : (ringConcat B ring).length = 352 := by
  rw [ringConcat, length_flatMap_of_width B.compress_length, List.length_ofFn]
  rfl

theorem ringConcat_injective : Function.Injective (ringConcat B) := fun _ _ same =>
  List.ofFn_injective
    (flatMap_inj_of_width B.compress_length B.compress_injective (by simp) same)

theorem ringPrefix_length (ring : Fin ringSize → Point) (msg : Fin 32 → UInt8) :
    (ringPrefix B ring msg).absorbed.length = 391 := by
  simp only [ringPrefix, Sha512.new, Sha512.chain_absorbed, List.nil_append, List.length_append,
    ringConcat_length, List.length_ofFn]
  decide

/-- The hasher's prefix determines the ring and the message. -/
theorem ringPrefix_inj {ring ring' : Fin ringSize → Point} {msg msg' : Fin 32 → UInt8}
    (same : (ringPrefix B ring msg).absorbed = (ringPrefix B ring' msg').absorbed) :
    ring = ring' ∧ msg = msg' := by
  simp only [ringPrefix, Sha512.new, Sha512.chain_absorbed, List.nil_append] at same
  obtain ⟨rings, msgs⟩ := List.append_inj' same (by simp)
  exact ⟨ringConcat_injective B (List.append_cancel_left rings), List.ofFn_injective msgs⟩

/-! ### Commitment binding -/

/-- The bytes `Commitment::new` hashes: the fake responses, then `I_a`, `I_hat_a` and `T_a`. -/
def commitmentBytes (f : Fin (ringSize - 1) → Scalar) (I_a I_hat_a T_a : Point) : List UInt8 :=
  (List.ofFn f).flatMap Scalar.asBytes ++ B.compress I_a ++ B.compress I_hat_a ++ B.compress T_a

/-- The commitment's preimage determines the committed values. -/
theorem commitmentBytes_inj {f f' : Fin (ringSize - 1) → Scalar}
    {I_a I_hat_a T_a I_a' I_hat_a' T_a' : Point}
    (same : commitmentBytes B f I_a I_hat_a T_a = commitmentBytes B f' I_a' I_hat_a' T_a') :
    f = f' ∧ I_a = I_a' ∧ I_hat_a = I_hat_a' ∧ T_a = T_a' := by
  obtain ⟨rest, onT⟩ := List.append_inj' same (compress_length_eq B _ _)
  obtain ⟨rest, onIHat⟩ := List.append_inj' rest (compress_length_eq B _ _)
  obtain ⟨fakes, onI⟩ := List.append_inj' rest (compress_length_eq B _ _)
  exact ⟨List.ofFn_injective (flatMap_inj_of_width Scalar.asBytes_length
      Scalar.asBytes_injective (by simp) fakes),
    B.compress_injective onI, B.compress_injective onIHat, B.compress_injective onT⟩

/-- Equal commitments are commitments to the same values, unless their two preimages collide
under SHA-512. -/
theorem commitment_new_inj_or_collision {f f' : Fin (ringSize - 1) → Scalar}
    {I_a I_hat_a T_a I_a' I_hat_a' T_a' : Point}
    (same : Commitment.new B f I_a I_hat_a T_a = Commitment.new B f' I_a' I_hat_a' T_a') :
    (f = f' ∧ I_a = I_a' ∧ I_hat_a = I_hat_a' ∧ T_a = T_a') ∨
      Sha512Collides B (commitmentBytes B f I_a I_hat_a T_a) (commitmentBytes B f' I_a' I_hat_a' T_a') := by
  by_cases preimage : commitmentBytes B f I_a I_hat_a T_a = commitmentBytes B f' I_a' I_hat_a' T_a'
  · exact .inl (commitmentBytes_inj B preimage)
  · exact .inr ⟨preimage, congrArg Commitment.bytes same⟩

/-- Bob goes on only with the opening Alice committed to in her first message: whatever she sends
in her third, an opening he accepts is the committed one, unless its preimage and the committed
one collide under SHA-512. -/
theorem bob_opening_binds (ring : Fin ringSize → Point) (msg : Fin 32 → UInt8)
    (R_a R_prime_a : Point) (s_b alpha_b : Scalar) (m0 : Message0) (m2 : Message2 Point)
    (bob : Bob2 Point) (f : Fin (ringSize - 1) → Scalar) (I_a I_hat_a T_a : Point)
    (committed : m0.c_a = Commitment.new B f I_a I_hat_a T_a)
    (accepts : bobRun B ring msg R_a R_prime_a s_b alpha_b m0 m2 = .ok bob) :
    m2.d_a = Opening.new f I_a I_hat_a T_a ∨
      Sha512Collides B (commitmentBytes B m2.d_a.fake_responses m2.d_a.I_a m2.d_a.I_hat_a m2.d_a.T_a)
        (commitmentBytes B f I_a I_hat_a T_a) := by
  obtain ⟨opens, -, -⟩ := (bobRun_eq_ok B _ _ _ _ _ _ _ _ _).mp accepts
  rw [committed] at opens
  exact (commitment_new_inj_or_collision B opens).imp (fun ⟨rfl, rfl, rfl, rfl⟩ => rfl) id

theorem bob_opening_binds_cyclic :
    let B := cyclic
    let G := B.basepoint
    let ring : Fin ringSize → ZMod (8 * basepointOrder) := fun _ => B.mul 5 G
    let H := B.hashToP3 (B.compress (ring 0))
    let msg : Fin 32 → UInt8 := fun _ => 0
    let f : Fin (ringSize - 1) → Scalar := fun _ => 1
    let m0 : Message0 :=
      { c_a := Commitment.new B f (B.mul 2 H) (B.mul 4 H) (B.mul 4 G),
        pi_a := DleqProof.new B G (B.mul 4 G) H (B.mul 4 H) 4 1 }
    let m2 : Message2 (ZMod (8 * basepointOrder)) :=
      { d_a := Opening.new f (B.mul 2 H) (B.mul 4 H) (B.mul 4 G), s_0_a := 0 }
    let h_0 := initialChallenge B ring msg (m2.d_a.T_a + B.mul 6 G + B.mul 7 G)
      (m2.d_a.I_hat_a + B.mul 6 H + B.mul 7 H)
    let s_0_b := 6 - finalChallengeValue B f ring h_0 (m2.d_a.I_a + B.mul 3 H) msg * 3
    let bob : Bob2 (ZMod (8 * basepointOrder)) :=
      { s_0_b, adaptor_sig :=
        { s_0_a := m2.s_0_a, s_0_b, fake_responses := f, h_0, I := m2.d_a.I_a + B.mul 3 H } }
    (m0.c_a = Commitment.new B f (B.mul 2 H) (B.mul 4 H) (B.mul 4 G) ∧
      bobRun B ring msg (B.mul 7 G) (B.mul 7 H) 3 6 m0 m2 = .ok bob) ∧
    (m2.d_a = Opening.new f (B.mul 2 H) (B.mul 4 H) (B.mul 4 G) ∨
      Sha512Collides B (commitmentBytes B m2.d_a.fake_responses m2.d_a.I_a m2.d_a.I_hat_a m2.d_a.T_a)
        (commitmentBytes B f (B.mul 2 H) (B.mul 4 H) (B.mul 4 G))) := by
  intro B G ring H msg f m0 m2 h_0 s_0_b bob
  have accepts : bobRun B ring msg (B.mul 7 G) (B.mul 7 H) 3 6 m0 m2 = .ok bob :=
    (bobRun_eq_ok B _ _ _ _ _ _ _ _ _).mpr ⟨rfl, verify_new_on_key B (ring 0) 4 1, rfl⟩
  exact ⟨⟨rfl, accepts⟩, bob_opening_binds B ring msg _ _ 3 6 m0 m2 bob f _ _ _ rfl accepts⟩

/-! ### Ring and message binding -/

/-- A signature verifies for at most one ring and one message: its closing challenge hashes the
ring and the message in front of the last commitments, and must give `h_0` for both, which
two different prefixes can do only when the two closing hashers collide under
`Scalar::from_hash`. -/
theorem verify_binds_ring_and_msg (sig : Signature Point) (ring ring' : Fin ringSize → Point)
    (msg msg' : Fin 32 → UInt8) (verifies : sig.verify B ring msg = .ok true)
    (verifies' : sig.verify B ring' msg' = .ok true) :
    (ring = ring' ∧ msg = msg') ∨
      FromHashCollides B (sig.closingHasher B ring msg) (sig.closingHasher B ring' msg') := by
  rw [verify_eq_value] at verifies verifies'
  have closes := beq_iff_eq.mp (Except.ok.inj verifies)
  have closes' := beq_iff_eq.mp (Except.ok.inj verifies')
  by_cases prefixes : (ringPrefix B ring msg).absorbed = (ringPrefix B ring' msg').absorbed
  · exact .inl (ringPrefix_inj B prefixes)
  · refine .inr ⟨fun hashed => prefixes ?_, closes.trans closes'.symm⟩
    simp only [Signature.closingHasher, challengeHasher, Sha512.chain_absorbed] at hashed
    exact (List.append_inj hashed (by rw [ringPrefix_length, ringPrefix_length])).1

theorem verify_binds_ring_and_msg_cyclic :
    let B := cyclic
    let G := B.basepoint
    let ring : Fin ringSize → ZMod (8 * basepointOrder) := Fin.cons (B.mul (2 + 3) G) (fun i => B.mul i.val G)
    let msg : Fin 32 → UInt8 := fun i => UInt8.ofNat i.val
    let H := B.hashToP3 (B.compress (ring 0))
    let draws : Draws := ⟨fun i => i.val, 4, 6, 1, 1⟩
    let sig := (honestSignature B ring msg (B.mul 7 G) (B.mul 7 H) 2 3 draws).adapt 7
    (sig.verify B ring msg = .ok true ∧ sig.verify B ring msg = .ok true) ∧
      ((ring = ring ∧ msg = msg) ∨
        FromHashCollides B (sig.closingHasher B ring msg) (sig.closingHasher B ring msg)) := by
  intro B G ring msg H draws sig
  have verifies : sig.verify B ring msg = .ok true :=
    verify_adapt B (honestSignature_adapts B ring msg 2 3 7 draws rfl)
  exact ⟨⟨verifies, verifies⟩, verify_binds_ring_and_msg B sig ring ring msg msg verifies verifies⟩

/-! ### The verifier and the closing equations -/

/-- `Signature::verify` refines the closing equations, up to a collision: for a signature whose
`h_0` hashes `X ‖ Y`, it accepts when the last response closes the ring at `ring[0]` with `X` and
`Y` after the signer's loop, and it accepts only then, unless the closing step's input and
`X ‖ Y` collide under `Scalar::from_hash`. -/
theorem verify_iff_closesRing (f : Fin (ringSize - 1) → Scalar) (s h_0 : Scalar) (I : Point)
    (ring : Fin ringSize → Point) (msg : Fin 32 → UInt8) (X Y : Point)
    (hashed : h_0 = initialChallenge B ring msg X Y) :
    let h := finalChallengeValue B f ring h_0 I msg
    (ClosesRing B s h (ring 0) I X Y → Signature.verify B ⟨Fin.snoc f s, h_0, I⟩ ring msg = .ok true) ∧
      (Signature.verify B ⟨Fin.snoc f s, h_0, I⟩ ring msg = .ok true →
        ClosesRing B s h (ring 0) I X Y ∨ ClosingCollides B s h I ring msg X Y) := by
  intro h
  refine ⟨fun closes => ?_, closesRing_of_verify B hashed⟩
  rw [verify_snoc, finalChallenge_eq, ok_bind, challenge_of_closesRing B closes, ok_bind, ← hashed]
  exact congrArg Except.ok (beq_self_eq_true h_0)

theorem verify_iff_closesRing_cyclic :
    let B := cyclic
    let G := B.basepoint
    let ring : Fin ringSize → ZMod (8 * basepointOrder) := Fin.cons (B.mul (2 + 3) G) (fun i => B.mul i.val G)
    let msg : Fin 32 → UInt8 := fun i => UInt8.ofNat i.val
    let H := B.hashToP3 (B.compress (ring 0))
    let draws : Draws := ⟨fun i => i.val, 4, 6, 1, 1⟩
    let sig := honestSignature B ring msg (B.mul 7 G) (B.mul 7 H) 2 3 draws
    let X := B.mul 4 G + B.mul 6 G + B.mul 7 G
    let Y := B.mul 4 H + B.mul 6 H + B.mul 7 H
    let s := sig.s_0_a + sig.s_0_b + 7
    let h := finalChallengeValue B sig.fake_responses ring sig.h_0 sig.I msg
    sig.h_0 = initialChallenge B ring msg X Y ∧
      (ClosesRing B s h (ring 0) sig.I X Y →
        Signature.verify B ⟨Fin.snoc sig.fake_responses s, sig.h_0, sig.I⟩ ring msg = .ok true) ∧
      (Signature.verify B ⟨Fin.snoc sig.fake_responses s, sig.h_0, sig.I⟩ ring msg = .ok true →
        ClosesRing B s h (ring 0) sig.I X Y ∨ ClosingCollides B s h sig.I ring msg X Y) := by
  intro B G ring msg H draws sig X Y s h
  exact ⟨rfl, verify_iff_closesRing B sig.fake_responses s sig.h_0 sig.I ring msg X Y rfl⟩

/-! ### DLEQ statement binding -/

/-- The hasher `DleqProof::verify` finalises for `c_prime`: the statement, then the commitments it
recomputes from `s` and `c`. -/
def DleqProof.verifyHasher (proof : DleqProof) (G xG H xH : Point) : Sha512 :=
  (((((Sha512.new.chain (B.compress G)).chain (B.compress xG)).chain (B.compress H)).chain
      (B.compress xH)).chain (B.compress (B.mul proof.s G + B.mul (-proof.c) xG))).chain
    (B.compress (B.mul proof.s H + B.mul (-proof.c) xH))

/-- A DLEQ proof is bound to its statement: `DleqProof::verify` hashes `G ‖ xG ‖ H ‖ xH` in front
of the recomputed commitments, so a proof that verifies for two statements verifies for one,
unless the two hashers collide under `Scalar::from_hash`. -/
theorem dleq_verify_binds_statement (proof : DleqProof) (G X H Y G' X' H' Y' : Point)
    (verifies : proof.verify B G X H Y = .ok ()) (verifies' : proof.verify B G' X' H' Y' = .ok ()) :
    (G = G' ∧ X = X' ∧ H = H' ∧ Y = Y') ∨
      FromHashCollides B (proof.verifyHasher B G X H Y) (proof.verifyHasher B G' X' H' Y') := by
  rw [verify_eq_ok_iff] at verifies verifies'
  by_cases statements : B.compress G ++ B.compress X ++ B.compress H ++ B.compress Y =
      B.compress G' ++ B.compress X' ++ B.compress H' ++ B.compress Y'
  · obtain ⟨rest, onY⟩ := List.append_inj' statements (compress_length_eq B _ _)
    obtain ⟨rest, onH⟩ := List.append_inj' rest (compress_length_eq B _ _)
    obtain ⟨onG, onX⟩ := List.append_inj' rest (compress_length_eq B _ _)
    exact .inl ⟨B.compress_injective onG, B.compress_injective onX, B.compress_injective onH,
      B.compress_injective onY⟩
  · refine .inr ⟨fun absorbed => statements ?_, verifies.symm.trans verifies'⟩
    simp only [DleqProof.verifyHasher, Sha512.chain_absorbed, Sha512.new, List.nil_append] at absorbed
    obtain ⟨rest, -⟩ := List.append_inj' absorbed (compress_length_eq B _ _)
    exact (List.append_inj' rest (compress_length_eq B _ _)).1

theorem dleq_verify_binds_statement_cyclic :
    let B := cyclic
    let G := B.basepoint
    let H := B.hashToP3 (B.compress (B.mul 5 G))
    let proof := DleqProof.new B G (B.mul 3 G) H (B.mul 3 H) 3 5
    (proof.verify B G (B.mul 3 G) H (B.mul 3 H) = .ok () ∧
      proof.verify B G (B.mul 3 G) H (B.mul 3 H) = .ok ()) ∧
    ((G = G ∧ B.mul 3 G = B.mul 3 G ∧ H = H ∧ B.mul 3 H = B.mul 3 H) ∨
      FromHashCollides B (proof.verifyHasher B G (B.mul 3 G) H (B.mul 3 H))
        (proof.verifyHasher B G (B.mul 3 G) H (B.mul 3 H))) := by
  intro B G H proof
  have verifies := verify_new_on_key B (B.mul 5 G) 3 5
  exact ⟨⟨verifies, verifies⟩, dleq_verify_binds_statement B proof _ _ _ _ _ _ _ _ verifies verifies⟩

end MoneroAdaptor
