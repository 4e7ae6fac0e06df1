import XmrBtcSwap.MoneroAdaptor.Backend

/-!
# The ring signature kernel

`challenge` is one step of the ring's hash chain, `final_challenge` runs it through the ten fake
responses pairing `fake_responses[i]` with `ring[i + 1]`, and `Signature::verify` runs it through
all eleven responses pairing `responses[i]` with `ring[(i + 1) % RING_SIZE]`. `verify_snoc` shows
that the verifier's loop is the signer's loop followed by one closing step at `ring[0]`.
-/

namespace MoneroAdaptor

/-- `RING_SIZE`. -/
abbrev ringSize : ℕ := 11

/-- `DOMAIN_TAG`. -/
def domainTag : String := "CSLAG_c"

/-- `str::as_bytes` for an ASCII string. -/
def asciiBytes (s : String) : List UInt8 := s.toList.map (fun c => UInt8.ofNat c.toNat)

variable {Point : Type} [AddCommGroup Point] (B : Backend Point)

/-- `ring.iter().flat_map(|pk| pk.compress().as_bytes().to_vec())`. -/
def ringConcat (ring : Fin ringSize → Point) : List UInt8 := (List.ofFn ring).flatMap B.compress

/-- The hasher seeded with `DOMAIN_TAG ‖ ring_concat ‖ msg`, built the same way by
`final_challenge` and `Signature::verify`. -/
def ringPrefix (ring : Fin ringSize → Point) (msg : Fin 32 → UInt8) : Sha512 :=
  Sha512.new.chain ((asciiBytes domainTag ++ ringConcat B ring) ++ List.ofFn msg)

/-- `challenge`. -/
def challenge (s_i : Scalar) (pk_i : Point) (h_prev : Scalar) (I : Point) (prefixHasher : Sha512) :
    Except String Scalar := do
  let L_i := B.mul s_i B.basepoint + B.mul h_prev pk_i
  let H_p_pk_i ← hashPointToPoint B pk_i
  let R_i := B.mul s_i H_p_pk_i + B.mul h_prev I
  let bytes := B.compress L_i ++ B.compress R_i
  pure (Scalar.fromHash B (prefixHasher.chain bytes))

/-- `final_challenge`. -/
def finalChallenge (fake_responses : Fin (ringSize - 1) → Scalar) (ring : Fin ringSize → Point)
    (h_0 : Scalar) (I : Point) (msg : Fin 32 → UInt8) : Except String Scalar :=
  (List.finRange (ringSize - 1)).foldlM
    (fun h i => challenge B (fake_responses i) (ring i.succ) h I (ringPrefix B ring msg)) h_0

/-- `foo`: `h_0` hashed from the aggregated commitments, and `final_challenge` from it. -/
def foo (fake_responses : Fin (ringSize - 1) → Scalar) (ring : Fin ringSize → Point)
    (T_a T_b R_a I_hat_a I_hat_b R_prime_a I_a I_b : Point) (msg : Fin 32 → UInt8) :
    Except String (Scalar × Scalar) := do
  let h_0 := Scalar.fromHash B <|
    ((((Sha512.new.chain (asciiBytes domainTag)).chain (ringConcat B ring)).chain
      (List.ofFn msg)).chain (B.compress (T_a + T_b + R_a))).chain
      (B.compress (I_hat_a + I_hat_b + R_prime_a))
  let h_last ← finalChallenge B fake_responses ring h_0 (I_a + I_b) msg
  pure (h_last, h_0)

/-- `AdaptorSignature`. -/
structure AdaptorSignature (Point : Type) where
  s_0_a : Scalar
  s_0_b : Scalar
  fake_responses : Fin (ringSize - 1) → Scalar
  h_0 : Scalar
  /-- Key image of the real key in the ring. -/
  I : Point

/-- `Signature`. -/
structure Signature (Point : Type) where
  responses : Fin ringSize → Scalar
  h_0 : Scalar
  /-- Key image of the real key in the ring. -/
  I : Point

/-- `AdaptorSignature::adapt`: the fake responses followed by `s_0_a + s_0_b + y`. -/
def AdaptorSignature.adapt (sig : AdaptorSignature Point) (y : Scalar) : Signature Point :=
  let r_last := sig.s_0_a + sig.s_0_b + y
  { responses := Fin.snoc sig.fake_responses r_last, h_0 := sig.h_0, I := sig.I }

/-- `Signature::verify`. -/
def Signature.verify (sig : Signature Point) (ring : Fin ringSize → Point) (msg : Fin 32 → UInt8) :
    Except String Bool := do
  let h ← (List.finRange ringSize).foldlM
    (fun h i => challenge B (sig.responses i)
      (ring ⟨(i.val + 1) % ringSize, Nat.mod_lt _ (by decide)⟩) h sig.I (ringPrefix B ring msg))
    sig.h_0
  pure (h == sig.h_0)

/-! ### The verifier's loop -/

/-- Below the last index, `(i + 1) % RING_SIZE` is `i + 1`. -/
theorem succ_mod_ringSize (i : Fin (ringSize - 1)) (h : (i.val + 1) % ringSize < ringSize) :
    (⟨(i.val + 1) % ringSize, h⟩ : Fin ringSize) = i.succ :=
  Fin.ext (Nat.mod_eq_of_lt (by omega))

theorem verify_snoc (f : Fin (ringSize - 1) → Scalar) (s h_0 : Scalar) (I : Point)
    (ring : Fin ringSize → Point) (msg : Fin 32 → UInt8) :
    Signature.verify B ⟨Fin.snoc f s, h_0, I⟩ ring msg =
      (do
        let h ← finalChallenge B f ring h_0 I msg
        let h' ← challenge B s (ring 0) h I (ringPrefix B ring msg)
        pure (h' == h_0)) := by
  simp only [Signature.verify, finalChallenge]
  rw [show List.finRange ringSize = _ from List.finRange_succ_last (ringSize - 1),
    List.foldlM_append, List.foldlM_map]
  simp [Fin.snoc_castSucc, Fin.snoc_last, succ_mod_ringSize]

theorem verify_eq_closing_step (ring : Fin ringSize → Point) (msg : Fin 32 → UInt8) (I : Point)
    (h_0 : Scalar) (f : Fin (ringSize - 1) → Scalar) (s : Scalar) :
    let sig : Signature Point := ⟨Fin.snoc f s, h_0, I⟩
    sig.verify B ring msg =
        (do
          let h ← finalChallenge B f ring h_0 I msg
          let h' ← challenge B s (ring 0) h I (ringPrefix B ring msg)
          pure (h' == h_0)) ∧
      ∀ e, sig.verify B ring msg = .error e ↔
        finalChallenge B f ring h_0 I msg = .error e ∨
          ∃ h, finalChallenge B f ring h_0 I msg = .ok h ∧
            challenge B s (ring 0) h I (ringPrefix B ring msg) = .error e := by
  refine ⟨verify_snoc B f s h_0 I ring msg, fun e => ?_⟩
  rw [verify_snoc]
  cases finalChallenge B f ring h_0 I msg with
  | error e' => simp
  | ok h =>
    simp only [ok_bind]
    cases closing : challenge B s (ring 0) h I (ringPrefix B ring msg) <;> simp [closing]

/-! ### Steps that cannot fail -/

/-- The value `challenge` returns, `hash_point_to_point` being unable to fail. -/
def challengeValue (s_i : Scalar) (pk_i : Point) (h_prev : Scalar) (I : Point)
    (prefixHasher : Sha512) : Scalar :=
  Scalar.fromHash B (prefixHasher.chain
    (B.compress (B.mul s_i B.basepoint + B.mul h_prev pk_i) ++
      B.compress (B.mul s_i (B.hashToP3 (B.compress pk_i)) + B.mul h_prev I)))

/-- The hasher `challenge` finalises: the prefix followed by `L_i ‖ R_i`. -/
def challengeHasher (s_i : Scalar) (pk_i : Point) (h_prev : Scalar) (I : Point)
    (prefixHasher : Sha512) : Sha512 :=
  prefixHasher.chain
    (B.compress (B.mul s_i B.basepoint + B.mul h_prev pk_i) ++
      B.compress (B.mul s_i (B.hashToP3 (B.compress pk_i)) + B.mul h_prev I))

/-- The value `final_challenge` returns. -/
def finalChallengeValue (fake_responses : Fin (ringSize - 1) → Scalar)
    (ring : Fin ringSize → Point) (h_0 : Scalar) (I : Point) (msg : Fin 32 → UInt8) : Scalar :=
  (List.finRange (ringSize - 1)).foldl
    (fun h i => challengeValue B (fake_responses i) (ring i.succ) h I (ringPrefix B ring msg)) h_0

theorem challenge_eq (s_i : Scalar) (pk_i : Point) (h_prev : Scalar) (I : Point)
    (prefixHasher : Sha512) :
    challenge B s_i pk_i h_prev I prefixHasher = .ok (challengeValue B s_i pk_i h_prev I prefixHasher) := by
  simp [challenge, challengeValue, B.hashPointToPoint_eq]

/-- A fold whose every step succeeds succeeds with the fold of the step's values. -/
theorem foldlM_ok {α β : Type} (g : β → α → Except String β) (value : β → α → β)
    (ok : ∀ b a, g b a = .ok (value b a)) (l : List α) (b : β) :
    l.foldlM g b = .ok (l.foldl value b) := by
  induction l generalizing b with
  | nil => rfl
  | cons a l ih => rw [List.foldlM_cons, ok]; exact ih _

theorem finalChallenge_eq (f : Fin (ringSize - 1) → Scalar) (ring : Fin ringSize → Point)
    (h_0 : Scalar) (I : Point) (msg : Fin 32 → UInt8) :
    finalChallenge B f ring h_0 I msg = .ok (finalChallengeValue B f ring h_0 I msg) :=
  foldlM_ok _ _ (fun _ _ => challenge_eq B _ _ _ _ _) _ _

/-- The hasher `Signature::verify` finalises in its last step, at `ring[0]`, after the signer's
loop over all but the last response. -/
def Signature.closingHasher (sig : Signature Point) (ring : Fin ringSize → Point)
    (msg : Fin 32 → UInt8) : Sha512 :=
  challengeHasher B (sig.responses (Fin.last _)) (ring 0)
    (finalChallengeValue B (Fin.init sig.responses) ring sig.h_0 sig.I msg) sig.I (ringPrefix B ring msg)

/-- `Signature::verify` compares `h_0` with the scalar of its closing hasher. -/
theorem verify_eq_value (sig : Signature Point) (ring : Fin ringSize → Point) (msg : Fin 32 → UInt8) :
    sig.verify B ring msg = .ok (Scalar.fromHash B (sig.closingHasher B ring msg) == sig.h_0) := by
  obtain ⟨responses, h_0, I⟩ := sig
  conv_lhs => rw [← Fin.snoc_init_self responses]
  rw [verify_snoc, finalChallenge_eq, ok_bind, challenge_eq, ok_bind]
  rfl

/-- The `h_0` that `foo` hashes: the chain's prefix followed by `X ‖ Y`. -/
def initialChallenge (ring : Fin ringSize → Point) (msg : Fin 32 → UInt8) (X Y : Point) : Scalar :=
  Scalar.fromHash B ((ringPrefix B ring msg).chain (B.compress X ++ B.compress Y))

/-- The hasher `foo` finalises for `h_0`. -/
def initialHasher (ring : Fin ringSize → Point) (msg : Fin 32 → UInt8) (X Y : Point) : Sha512 :=
  (ringPrefix B ring msg).chain (B.compress X ++ B.compress Y)

theorem foo_eq (f : Fin (ringSize - 1) → Scalar) (ring : Fin ringSize → Point)
    (T_a T_b R_a I_hat_a I_hat_b R_prime_a I_a I_b : Point) (msg : Fin 32 → UInt8) :
    foo B f ring T_a T_b R_a I_hat_a I_hat_b R_prime_a I_a I_b msg =
      let h_0 := initialChallenge B ring msg (T_a + T_b + R_a) (I_hat_a + I_hat_b + R_prime_a)
      .ok (finalChallengeValue B f ring h_0 (I_a + I_b) msg, h_0) := by
  simp [foo, finalChallenge_eq, initialChallenge, ringPrefix, Scalar.fromHash, Sha512.finalize,
    Sha512.new, Sha512.chain, List.append_assoc]

/-! ### The closing step -/

/-- The closing step's equations at `pk`: the response `s` and the challenge `h` give back the
points `X` and `Y` that were hashed into `h_0`, on the basepoint and on `H_p(pk)`. -/
def ClosesRing (s h : Scalar) (pk I X Y : Point) : Prop :=
  B.mul s B.basepoint + B.mul h pk = X ∧ B.mul s (B.hashToP3 (B.compress pk)) + B.mul h I = Y

/-- Two equations with the same difference of sides hold together. -/
theorem eq_iff_eq_of_sub_eq {a b c d : Point} (h : a - b = c - d) : a = b ↔ c = d := by
  rw [← sub_eq_zero, h, sub_eq_zero]

/-- One party's view of the closing equations. With its own share `x` and nonce `alpha`, and
`s = alpha - h * x + s' + y`, the ring closes on the aggregated commitments exactly when the
other party's response `s'` answers its commitments `T'` and `I_hat'` for its part
`pk - x • G` of the key and its key image share `I'`. -/
theorem closesRing_iff (pk : Point) (alpha x s' y h : Scalar) (T' I' I_hat' : Point) :
    let H := B.hashToP3 (B.compress pk)
    ClosesRing B (alpha - h * x + s' + y) h pk (B.mul x H + I')
        (B.mul alpha B.basepoint + T' + B.mul y B.basepoint) (B.mul alpha H + I_hat' + B.mul y H) ↔
      B.mul s' B.basepoint + B.mul h (pk - B.mul x B.basepoint) = T' ∧
        B.mul s' H + B.mul h I' = I_hat' := by
  intro H
  have hG := B.basepoint_mem
  have hH : InPrimeSubgroup H := B.hashToP3_order _
  refine and_congr (eq_iff_eq_of_sub_eq ?_) (eq_iff_eq_of_sub_eq ?_)
  · simp only [B.mul_add_left hG, B.mul_sub_left hG, B.mul_mul_left hG, B.mul_sub_right]
    abel
  · simp only [B.mul_add_left hH, B.mul_sub_left hH, B.mul_mul_left hH, B.mul_add_right]
    abel

/-- The honest response `alpha - h * x` answers the commitment `alpha • P` for the share `x • P`. -/
theorem honest_response {P : Point} (hP : InPrimeSubgroup P) (alpha x h : Scalar) :
    B.mul (alpha - h * x) P + B.mul h (B.mul x P) = B.mul alpha P := by
  rw [B.mul_sub_left hP, B.mul_mul_left hP, sub_add_cancel]

/-- `closesRing_iff` with the other party's terms first, as Bob adds them. -/
theorem closesRing_iff_right (pk : Point) (alpha x s' y h : Scalar) (T' I' I_hat' : Point) :
    let H := B.hashToP3 (B.compress pk)
    ClosesRing B (s' + (alpha - h * x) + y) h pk (I' + B.mul x H)
        (T' + B.mul alpha B.basepoint + B.mul y B.basepoint) (I_hat' + B.mul alpha H + B.mul y H) ↔
      B.mul s' B.basepoint + B.mul h (pk - B.mul x B.basepoint) = T' ∧
        B.mul s' H + B.mul h I' = I_hat' := by
  intro H
  rw [add_comm s', add_comm I', add_comm T', add_comm I_hat']
  exact closesRing_iff B pk alpha x s' y h T' I' I_hat'

/-- The closing equation on the basepoint fixes the response. -/
theorem closesRing_response_unique {s s' h : Scalar} {pk I X Y : Point}
    (closes : ClosesRing B s h pk I X Y) (closes' : ClosesRing B s' h pk I X Y) : s = s' :=
  B.mul_basepoint_injective (add_right_cancel (closes.1.trans closes'.1.symm))

theorem challenge_of_closesRing {s h : Scalar} {ring : Fin ringSize → Point} {msg : Fin 32 → UInt8}
    {I X Y : Point} (closes : ClosesRing B s h (ring 0) I X Y) :
    challenge B s (ring 0) h I (ringPrefix B ring msg) = .ok (initialChallenge B ring msg X Y) := by
  rw [challenge_eq, challengeValue, closes.1, closes.2, initialChallenge]

/-- The closing step at `ring[0]`, for the response `s` and the challenge `h`, and `foo`'s `h_0`
for `X ‖ Y` hash different bytes to one scalar: a collision between these two inputs. -/
def ClosingCollides (s h : Scalar) (I : Point) (ring : Fin ringSize → Point) (msg : Fin 32 → UInt8)
    (X Y : Point) : Prop :=
  FromHashCollides B (challengeHasher B s (ring 0) h I (ringPrefix B ring msg)) (initialHasher B ring msg X Y)

/-- The converse of `challenge_of_closesRing`: a closing challenge that reproduces `h_0` closes the
ring, or the closing step's input and `X ‖ Y` collide. -/
theorem closesRing_of_challenge {s h : Scalar} {ring : Fin ringSize → Point} {msg : Fin 32 → UInt8}
    {I X Y : Point}
    (reproduces : challengeValue B s (ring 0) h I (ringPrefix B ring msg) = initialChallenge B ring msg X Y) :
    ClosesRing B s h (ring 0) I X Y ∨ ClosingCollides B s h I ring msg X Y := by
  by_cases same : B.compress (B.mul s B.basepoint + B.mul h (ring 0)) ++
      B.compress (B.mul s (B.hashToP3 (B.compress (ring 0))) + B.mul h I) =
    B.compress X ++ B.compress Y
  · obtain ⟨onBasepoint, onKeyImage⟩ :=
      List.append_inj same (by rw [B.compress_length, B.compress_length])
    exact .inl ⟨B.compress_injective onBasepoint, B.compress_injective onKeyImage⟩
  · exact .inr ⟨fun absorbed => same (List.append_cancel_left absorbed), reproduces⟩

/-- A signature that verifies, whose `h_0` hashes `X ‖ Y`, closes the ring with `X` and `Y` at its
last response, or its closing step's input and `X ‖ Y` collide. -/
theorem closesRing_of_verify {f : Fin (ringSize - 1) → Scalar} {s h_0 : Scalar} {I : Point}
    {ring : Fin ringSize → Point} {msg : Fin 32 → UInt8} {X Y : Point}
    (hashed : h_0 = initialChallenge B ring msg X Y)
    (verifies : Signature.verify B ⟨Fin.snoc f s, h_0, I⟩ ring msg = .ok true) :
    let h := finalChallengeValue B f ring h_0 I msg
    ClosesRing B s h (ring 0) I X Y ∨ ClosingCollides B s h I ring msg X Y := by
  rw [verify_snoc, finalChallenge_eq, ok_bind, challenge_eq, ok_bind] at verifies
  exact closesRing_of_challenge B ((beq_iff_eq.mp (Except.ok.inj verifies)).trans hashed)

/-- The adaptor signature `sig` is valid for the adaptor secret `y`: its `h_0` hashes `X ‖ Y`, and
the adapted response closes the ring at `ring[0]` with `X` and `Y`. -/
def Adapts (sig : AdaptorSignature Point) (ring : Fin ringSize → Point) (msg : Fin 32 → UInt8)
    (y : Scalar) (X Y : Point) : Prop :=
  sig.h_0 = initialChallenge B ring msg X Y ∧
    ClosesRing B (sig.s_0_a + sig.s_0_b + y)
      (finalChallengeValue B sig.fake_responses ring sig.h_0 sig.I msg) (ring 0) sig.I X Y

/-- A valid adaptor signature adapts to a signature that verifies. -/
theorem verify_adapt {sig : AdaptorSignature Point} {y : Scalar} {ring : Fin ringSize → Point}
    {msg : Fin 32 → UInt8} {X Y : Point} (valid : Adapts B sig ring msg y X Y) :
    (sig.adapt y).verify B ring msg = .ok true := by
  simp [AdaptorSignature.adapt, verify_snoc, finalChallenge_eq,
    challenge_of_closesRing B valid.2, ← valid.1]

end MoneroAdaptor
