import XmrBtcSwap.MoneroAdaptor.Clsag
import XmrBtcSwap.MoneroAdaptor.Dleq

/-!
# The two-party protocol

Alice holds the real key's share `s_prime_a` and the adaptor secret; Bob holds `s_b`. Each state
is consumed by the transition out of it: `Alice0 → Alice1 → Alice2` and `Bob0 → Bob1 → Bob2`, with
the four messages `Message0` to `Message3` between them. Alice commits to her fake responses and
the points `I_a`, `I_hat_a`, `T_a` in her first message and opens them in her third. The draws
from `OsRng` are arguments, in the order the source makes them. `honestRun` is the run of the
crate's test `sign_and_verify_success`, and `honestRun_eq` computes it.
-/

namespace MoneroAdaptor

variable {Point : Type} [AddCommGroup Point] (B : Backend Point)

/-! ### Commitment and opening -/

/-- `Commitment`: a 64-byte digest. -/
structure Commitment where
  bytes : List UInt8
  deriving DecidableEq

/-- `Commitment::new`. -/
def Commitment.new (fake_responses : Fin (ringSize - 1) → Scalar) (I_a I_hat_a T_a : Point) :
    Commitment :=
  let fake_responses := (List.ofFn fake_responses).flatMap Scalar.asBytes
  let hash := ((((Sha512.new.chain fake_responses).chain (B.compress I_a)).chain
    (B.compress I_hat_a)).chain (B.compress T_a)).finalize B
  ⟨hash⟩

/-- `Opening`. -/
structure Opening (Point : Type) where
  fake_responses : Fin (ringSize - 1) → Scalar
  I_a : Point
  I_hat_a : Point
  T_a : Point

/-- `Opening::new`. -/
def Opening.new (fake_responses : Fin (ringSize - 1) → Scalar) (I_a I_hat_a T_a : Point) :
    Opening Point :=
  { fake_responses, I_a, I_hat_a, T_a }

/-- `Opening::open`. -/
def Opening.open (opening : Opening Point) (commitment : Commitment) :
    Except String ((Fin (ringSize - 1) → Scalar) × Point × Point × Point) :=
  let self_commitment :=
    Commitment.new B opening.fake_responses opening.I_a opening.I_hat_a opening.T_a
  if self_commitment = commitment then
    .ok (opening.fake_responses, opening.I_a, opening.I_hat_a, opening.T_a)
  else .error "opening does not match commitment"

/-! ### Messages -/

/-- `Message0`: Alice sends this to Bob. -/
structure Message0 where
  c_a : Commitment
  pi_a : DleqProof

/-- `Message1`: Bob sends this to Alice. -/
structure Message1 (Point : Type) where
  I_b : Point
  T_b : Point
  I_hat_b : Point
  pi_b : DleqProof

/-- `Message2`: Alice sends this to Bob. -/
structure Message2 (Point : Type) where
  d_a : Opening Point
  s_0_a : Scalar

/-- `Message3`: Bob sends this to Alice. -/
structure Message3 where
  s_0_b : Scalar

/-! ### Alice -/

/-- `Alice0`; her secret index is always 0. -/
structure Alice0 (Point : Type) where
  ring : Fin ringSize → Point
  fake_responses : Fin (ringSize - 1) → Scalar
  msg : Fin 32 → UInt8
  R_a : Point
  R_prime_a : Point
  s_prime_a : Scalar
  alpha_a : Scalar
  H_p_pk : Point
  I_a : Point
  I_hat_a : Point
  T_a : Point

/-- `Alice1`. -/
structure Alice1 (Point : Type) where
  fake_responses : Fin (ringSize - 1) → Scalar
  I_a : Point
  I_hat_a : Point
  T_a : Point
  h_0 : Scalar
  I_b : Point
  s_0_a : Scalar

/-- `Alice2`. -/
structure Alice2 (Point : Type) where
  adaptor_sig : AdaptorSignature Point

/-- `Alice0::new`; `fake_responses` and `alpha_a` are drawn from `OsRng`. -/
def Alice0.new (ring : Fin ringSize → Point) (msg : Fin 32 → UInt8) (R_a R_prime_a : Point)
    (s_prime_a : Scalar) (fake_responses : Fin (ringSize - 1) → Scalar) (alpha_a : Scalar) :
    Except String (Alice0 Point) := do
  let p_k := ring 0
  let H_p_pk ← hashPointToPoint B p_k
  let I_a := B.mul s_prime_a H_p_pk
  let I_hat_a := B.mul alpha_a H_p_pk
  let T_a := B.mul alpha_a B.basepoint
  pure { ring, fake_responses, msg, R_a, R_prime_a, s_prime_a, alpha_a, H_p_pk, I_a, I_hat_a, T_a }

/-- `Alice0::next_message`; `r` is the nonce of `pi_a`, drawn from `OsRng`. -/
def Alice0.nextMessage (self : Alice0 Point) (r : Scalar) : Message0 :=
  { pi_a := DleqProof.new B B.basepoint self.T_a self.H_p_pk self.I_hat_a self.alpha_a r
    c_a := Commitment.new B self.fake_responses self.I_a self.I_hat_a self.T_a }

/-- `Alice0::receive`. -/
def Alice0.receive (self : Alice0 Point) (msg : Message1 Point) : Except String (Alice1 Point) := do
  msg.pi_b.verify B B.basepoint msg.T_b self.H_p_pk msg.I_hat_b
  let (h_last, h_0) ← foo B self.fake_responses self.ring self.T_a msg.T_b self.R_a self.I_hat_a
    msg.I_hat_b self.R_prime_a self.I_a msg.I_b self.msg
  let s_0_a := self.alpha_a - h_last * self.s_prime_a
  pure { fake_responses := self.fake_responses, h_0, I_b := msg.I_b, s_0_a, I_a := self.I_a,
         I_hat_a := self.I_hat_a, T_a := self.T_a }

/-- `Alice1::next_message`. -/
def Alice1.nextMessage (self : Alice1 Point) : Message2 Point :=
  { d_a := Opening.new self.fake_responses self.I_a self.I_hat_a self.T_a, s_0_a := self.s_0_a }

/-- `Alice1::receive`. -/
def Alice1.receive (self : Alice1 Point) (msg : Message3) : Alice2 Point :=
  let adaptor_sig : AdaptorSignature Point :=
    { s_0_a := self.s_0_a, s_0_b := msg.s_0_b, fake_responses := self.fake_responses,
      h_0 := self.h_0, I := self.I_a + self.I_b }
  { adaptor_sig }

/-! ### Bob -/

/-- `Bob0`; the secret index is always 0. -/
structure Bob0 (Point : Type) where
  ring : Fin ringSize → Point
  msg : Fin 32 → UInt8
  R_a : Point
  R_prime_a : Point
  s_b : Scalar
  alpha_b : Scalar
  H_p_pk : Point
  I_b : Point
  I_hat_b : Point
  T_b : Point

/-- `Bob1`. -/
structure Bob1 (Point : Type) extends Bob0 Point where
  pi_a : DleqProof
  c_a : Commitment

/-- `Bob2`. -/
structure Bob2 (Point : Type) where
  s_0_b : Scalar
  adaptor_sig : AdaptorSignature Point

/-- `Bob0::new`; `alpha_b` is drawn from `OsRng`. -/
def Bob0.new (ring : Fin ringSize → Point) (msg : Fin 32 → UInt8) (R_a R_prime_a : Point)
    (s_b : Scalar) (alpha_b : Scalar) : Except String (Bob0 Point) := do
  let p_k := ring 0
  let H_p_pk ← hashPointToPoint B p_k
  let I_b := B.mul s_b H_p_pk
  let I_hat_b := B.mul alpha_b H_p_pk
  let T_b := B.mul alpha_b B.basepoint
  pure { ring, msg, R_a, R_prime_a, s_b, alpha_b, H_p_pk, I_b, I_hat_b, T_b }

/-- `Bob0::receive`: Bob keeps `pi_a`, which he cannot check before the opening. -/
def Bob0.receive (self : Bob0 Point) (msg : Message0) : Bob1 Point :=
  { self with pi_a := msg.pi_a, c_a := msg.c_a }

/-- `Bob1::next_message`; `r` is the nonce of `pi_b`, drawn from `OsRng`. -/
def Bob1.nextMessage (self : Bob1 Point) (r : Scalar) : Message1 Point :=
  { I_b := self.I_b, T_b := self.T_b, I_hat_b := self.I_hat_b
    pi_b := DleqProof.new B B.basepoint self.T_b self.H_p_pk self.I_hat_b self.alpha_b r }

/-- `Bob1::receive`. -/
def Bob1.receive (self : Bob1 Point) (msg : Message2 Point) : Except String (Bob2 Point) := do
  let (fake_responses, I_a, I_hat_a, T_a) ← msg.d_a.open B self.c_a
  self.pi_a.verify B B.basepoint T_a self.H_p_pk I_hat_a
  let (h_last, h_0) ← foo B fake_responses self.ring T_a self.T_b self.R_a I_hat_a self.I_hat_b
    self.R_prime_a I_a self.I_b self.msg
  let s_0_b := self.alpha_b - h_last * self.s_b
  let adaptor_sig : AdaptorSignature Point :=
    { s_0_a := msg.s_0_a, s_0_b, fake_responses, h_0, I := I_a + self.I_b }
  pure { s_0_b, adaptor_sig }

/-- `Bob2::next_message`. -/
def Bob2.nextMessage (self : Bob2 Point) : Message3 := { s_0_b := self.s_0_b }

/-! ### One spec lemma per transition -/

theorem Alice0.new_eq (ring : Fin ringSize → Point) (msg : Fin 32 → UInt8) (R_a R_prime_a : Point)
    (s_prime_a : Scalar) (f : Fin (ringSize - 1) → Scalar) (alpha_a : Scalar) :
    Alice0.new B ring msg R_a R_prime_a s_prime_a f alpha_a =
      let H := B.hashToP3 (B.compress (ring 0))
      .ok { ring, fake_responses := f, msg, R_a, R_prime_a, s_prime_a, alpha_a, H_p_pk := H,
            I_a := B.mul s_prime_a H, I_hat_a := B.mul alpha_a H,
            T_a := B.mul alpha_a B.basepoint } := by
  simp [Alice0.new, B.hashPointToPoint_eq]

theorem Bob0.new_eq (ring : Fin ringSize → Point) (msg : Fin 32 → UInt8) (R_a R_prime_a : Point)
    (s_b alpha_b : Scalar) :
    Bob0.new B ring msg R_a R_prime_a s_b alpha_b =
      let H := B.hashToP3 (B.compress (ring 0))
      .ok { ring, msg, R_a, R_prime_a, s_b, alpha_b, H_p_pk := H, I_b := B.mul s_b H,
            I_hat_b := B.mul alpha_b H, T_b := B.mul alpha_b B.basepoint } := by
  simp [Bob0.new, B.hashPointToPoint_eq]

theorem Alice0.receive_eq_ok (self : Alice0 Point) (m : Message1 Point) (a1 : Alice1 Point) :
    self.receive B m = .ok a1 ↔
      m.pi_b.verify B B.basepoint m.T_b self.H_p_pk m.I_hat_b = .ok () ∧
      let h_0 := initialChallenge B self.ring self.msg (self.T_a + m.T_b + self.R_a)
        (self.I_hat_a + m.I_hat_b + self.R_prime_a)
      let h_last := finalChallengeValue B self.fake_responses self.ring h_0 (self.I_a + m.I_b) self.msg
      a1 = { fake_responses := self.fake_responses, h_0, I_b := m.I_b,
             s_0_a := self.alpha_a - h_last * self.s_prime_a, I_a := self.I_a,
             I_hat_a := self.I_hat_a, T_a := self.T_a } := by
  simp only [Alice0.receive, foo_eq]
  cases verified : m.pi_b.verify B B.basepoint m.T_b self.H_p_pk m.I_hat_b with
  | error e => simp [verified]
  | ok u => simp [verified, eq_comm]

theorem Bob1.receive_eq_ok (self : Bob1 Point) (m : Message2 Point) (b2 : Bob2 Point) :
    self.receive B m = .ok b2 ↔
      Commitment.new B m.d_a.fake_responses m.d_a.I_a m.d_a.I_hat_a m.d_a.T_a = self.c_a ∧
      self.pi_a.verify B B.basepoint m.d_a.T_a self.H_p_pk m.d_a.I_hat_a = .ok () ∧
      let h_0 := initialChallenge B self.ring self.msg (m.d_a.T_a + self.T_b + self.R_a)
        (m.d_a.I_hat_a + self.I_hat_b + self.R_prime_a)
      let h_last := finalChallengeValue B m.d_a.fake_responses self.ring h_0
        (m.d_a.I_a + self.I_b) self.msg
      b2 = { s_0_b := self.alpha_b - h_last * self.s_b,
             adaptor_sig :=
              { s_0_a := m.s_0_a, s_0_b := self.alpha_b - h_last * self.s_b,
                fake_responses := m.d_a.fake_responses, h_0, I := m.d_a.I_a + self.I_b } } := by
  simp only [Bob1.receive, Opening.open, foo_eq]
  by_cases opens : Commitment.new B m.d_a.fake_responses m.d_a.I_a m.d_a.I_hat_a m.d_a.T_a = self.c_a
  · cases verified : self.pi_a.verify B B.basepoint m.d_a.T_a self.H_p_pk m.d_a.I_hat_a with
    | error e => simp [opens, verified]
    | ok u => simp [opens, verified, eq_comm]
  · simp [opens]

/-- `Alice0::receive` fails only on `pi_b`, with that check's error, and `Bob1::receive` fails on
the opening with its error, or else on `pi_a` with that check's error. -/
theorem receive_eq_error (alice : Alice0 Point) (m1 : Message1 Point) (bob : Bob1 Point)
    (m2 : Message2 Point) (e : String) :
    (alice.receive B m1 = .error e ↔
      m1.pi_b.verify B B.basepoint m1.T_b alice.H_p_pk m1.I_hat_b ≠ .ok () ∧
        e = "invalid DLEQ proof") ∧
    (bob.receive B m2 = .error e ↔
      (Commitment.new B m2.d_a.fake_responses m2.d_a.I_a m2.d_a.I_hat_a m2.d_a.T_a ≠ bob.c_a ∧
        e = "opening does not match commitment") ∨
      (Commitment.new B m2.d_a.fake_responses m2.d_a.I_a m2.d_a.I_hat_a m2.d_a.T_a = bob.c_a ∧
        bob.pi_a.verify B B.basepoint m2.d_a.T_a bob.H_p_pk m2.d_a.I_hat_a ≠ .ok () ∧
        e = "invalid DLEQ proof")) := by
  constructor
  · rw [← verify_eq_error_iff]
    simp only [Alice0.receive, foo_eq]
    cases m1.pi_b.verify B B.basepoint m1.T_b alice.H_p_pk m1.I_hat_b <;> simp
  · simp only [Bob1.receive, Opening.open, foo_eq]
    by_cases opens : Commitment.new B m2.d_a.fake_responses m2.d_a.I_a m2.d_a.I_hat_a m2.d_a.T_a =
      bob.c_a
    · rw [← verify_eq_error_iff]
      cases verified : bob.pi_a.verify B B.basepoint m2.d_a.T_a bob.H_p_pk m2.d_a.I_hat_a <;>
        simp [opens, verified]
    · simp [opens, eq_comm]

/-! ### The honest run -/

/-- The draws from `OsRng` in one run: Alice's fake responses and `alpha_a`, Bob's `alpha_b`, and
the nonces of `pi_a` and `pi_b`. -/
structure Draws where
  fake_responses : Fin (ringSize - 1) → Scalar
  alpha_a : Scalar
  alpha_b : Scalar
  nonce_a : Scalar
  nonce_b : Scalar

/-- The run of `sign_and_verify_success`, up to `Alice2` and `Bob2`. -/
def honestRun (ring : Fin ringSize → Point) (msg : Fin 32 → UInt8) (R_a R_prime_a : Point)
    (s_prime_a s_b : Scalar) (draws : Draws) : Except String (Alice2 Point × Bob2 Point) := do
  let alice ← Alice0.new B ring msg R_a R_prime_a s_prime_a draws.fake_responses draws.alpha_a
  let bob ← Bob0.new B ring msg R_a R_prime_a s_b draws.alpha_b
  let msg0 := alice.nextMessage B draws.nonce_a
  let bob := bob.receive msg0
  let msg1 := bob.nextMessage B draws.nonce_b
  let alice ← alice.receive B msg1
  let msg2 := alice.nextMessage
  let bob ← bob.receive B msg2
  let msg3 := bob.nextMessage
  let alice := alice.receive msg3
  pure (alice, bob)

/-- The adaptor signature of the honest run: the honest shares `alpha - h_last * secret`, the
fake responses, the `h_0` hashed from the aggregated commitments, and the key image `I_a + I_b`. -/
def honestSignature (ring : Fin ringSize → Point) (msg : Fin 32 → UInt8) (R_a R_prime_a : Point)
    (s_prime_a s_b : Scalar) (draws : Draws) : AdaptorSignature Point :=
  let H := B.hashToP3 (B.compress (ring 0))
  let I := B.mul s_prime_a H + B.mul s_b H
  let h_0 := initialChallenge B ring msg
    (B.mul draws.alpha_a B.basepoint + B.mul draws.alpha_b B.basepoint + R_a)
    (B.mul draws.alpha_a H + B.mul draws.alpha_b H + R_prime_a)
  let h_last := finalChallengeValue B draws.fake_responses ring h_0 I msg
  { s_0_a := draws.alpha_a - h_last * s_prime_a, s_0_b := draws.alpha_b - h_last * s_b,
    fake_responses := draws.fake_responses, h_0, I }

/-- Both parties finish, with the same adaptor signature. -/
theorem honestRun_eq (ring : Fin ringSize → Point) (msg : Fin 32 → UInt8) (R_a R_prime_a : Point)
    (s_prime_a s_b : Scalar) (draws : Draws) :
    let sig := honestSignature B ring msg R_a R_prime_a s_prime_a s_b draws
    honestRun B ring msg R_a R_prime_a s_prime_a s_b draws = .ok (⟨sig⟩, ⟨sig.s_0_b, sig⟩) := by
  have alice := verify_new_on_key B (ring 0) draws.alpha_b draws.nonce_b
  have bob := verify_new_on_key B (ring 0) draws.alpha_a draws.nonce_a
  simp only [honestRun, Alice0.new_eq, Bob0.new_eq, ok_bind]
  rw [(Alice0.receive_eq_ok B _ _ _).mpr ⟨alice, rfl⟩]
  simp only [ok_bind]
  rw [(Bob1.receive_eq_ok B _ _ _).mpr ⟨rfl, bob, rfl⟩]
  rfl

/-! ### One party against any peer -/

/-- Alice's side of a run against any Bob: `Alice0::new`, `Alice0::receive` of his first message
and `Alice1::receive` of his second. -/
def aliceRun (ring : Fin ringSize → Point) (msg : Fin 32 → UInt8) (R_a R_prime_a : Point)
    (s_prime_a : Scalar) (fake_responses : Fin (ringSize - 1) → Scalar) (alpha_a : Scalar)
    (m1 : Message1 Point) (m3 : Message3) : Except String (Alice2 Point) := do
  let alice ← Alice0.new B ring msg R_a R_prime_a s_prime_a fake_responses alpha_a
  let alice ← alice.receive B m1
  pure (alice.receive m3)

/-- Bob's side of a run against any Alice: `Bob0::new`, `Bob0::receive` of her first message and
`Bob1::receive` of her second. -/
def bobRun (ring : Fin ringSize → Point) (msg : Fin 32 → UInt8) (R_a R_prime_a : Point)
    (s_b alpha_b : Scalar) (m0 : Message0) (m2 : Message2 Point) : Except String (Bob2 Point) := do
  let bob ← Bob0.new B ring msg R_a R_prime_a s_b alpha_b
  (bob.receive m0).receive B m2

theorem aliceRun_eq_ok (ring : Fin ringSize → Point) (msg : Fin 32 → UInt8) (R_a R_prime_a : Point)
    (s_prime_a : Scalar) (f : Fin (ringSize - 1) → Scalar) (alpha_a : Scalar) (m1 : Message1 Point)
    (m3 : Message3) (alice : Alice2 Point) :
    aliceRun B ring msg R_a R_prime_a s_prime_a f alpha_a m1 m3 = .ok alice ↔
      let H := B.hashToP3 (B.compress (ring 0))
      m1.pi_b.verify B B.basepoint m1.T_b H m1.I_hat_b = .ok () ∧
      let h_0 := initialChallenge B ring msg (B.mul alpha_a B.basepoint + m1.T_b + R_a)
        (B.mul alpha_a H + m1.I_hat_b + R_prime_a)
      let I := B.mul s_prime_a H + m1.I_b
      alice = ⟨{ s_0_a := alpha_a - finalChallengeValue B f ring h_0 I msg * s_prime_a,
                 s_0_b := m3.s_0_b, fake_responses := f, h_0, I }⟩ := by
  simp only [aliceRun, Alice0.new_eq, Alice0.receive, foo_eq, ok_bind]
  cases m1.pi_b.verify B B.basepoint m1.T_b (B.hashToP3 (B.compress (ring 0))) m1.I_hat_b with
  | error e => simp
  | ok u => simp [Alice1.receive, eq_comm]

theorem bobRun_eq_ok (ring : Fin ringSize → Point) (msg : Fin 32 → UInt8) (R_a R_prime_a : Point)
    (s_b alpha_b : Scalar) (m0 : Message0) (m2 : Message2 Point) (bob : Bob2 Point) :
    bobRun B ring msg R_a R_prime_a s_b alpha_b m0 m2 = .ok bob ↔
      let H := B.hashToP3 (B.compress (ring 0))
      Commitment.new B m2.d_a.fake_responses m2.d_a.I_a m2.d_a.I_hat_a m2.d_a.T_a = m0.c_a ∧
      m0.pi_a.verify B B.basepoint m2.d_a.T_a H m2.d_a.I_hat_a = .ok () ∧
      let h_0 := initialChallenge B ring msg (m2.d_a.T_a + B.mul alpha_b B.basepoint + R_a)
        (m2.d_a.I_hat_a + B.mul alpha_b H + R_prime_a)
      let I := m2.d_a.I_a + B.mul s_b H
      let s_0_b := alpha_b - finalChallengeValue B m2.d_a.fake_responses ring h_0 I msg * s_b
      bob = { s_0_b, adaptor_sig :=
        { s_0_a := m2.s_0_a, s_0_b, fake_responses := m2.d_a.fake_responses, h_0, I } } := by
  simp only [bobRun, Bob0.new_eq, ok_bind]
  exact Bob1.receive_eq_ok B _ _ _

/-- The `h_0` Alice ends with hashes her aggregated commitments `X ‖ Y`. -/
theorem aliceRun_h_0 {ring : Fin ringSize → Point} {msg : Fin 32 → UInt8} {R_a R_prime_a : Point}
    {s_prime_a alpha_a : Scalar} {f : Fin (ringSize - 1) → Scalar} {m1 : Message1 Point}
    {m3 : Message3} {alice : Alice2 Point}
    (accepts : aliceRun B ring msg R_a R_prime_a s_prime_a f alpha_a m1 m3 = .ok alice) :
    alice.adaptor_sig.h_0 = initialChallenge B ring msg (B.mul alpha_a B.basepoint + m1.T_b + R_a)
      (B.mul alpha_a (B.hashToP3 (B.compress (ring 0))) + m1.I_hat_b + R_prime_a) := by
  obtain ⟨-, rfl⟩ := (aliceRun_eq_ok B _ _ _ _ _ _ _ _ _ _).mp accepts
  rfl

/-- The `h_0` Bob ends with hashes his aggregated commitments `X ‖ Y`. -/
theorem bobRun_h_0 {ring : Fin ringSize → Point} {msg : Fin 32 → UInt8} {R_a R_prime_a : Point}
    {s_b alpha_b : Scalar} {m0 : Message0} {m2 : Message2 Point} {bob : Bob2 Point}
    (accepts : bobRun B ring msg R_a R_prime_a s_b alpha_b m0 m2 = .ok bob) :
    bob.adaptor_sig.h_0 = initialChallenge B ring msg (m2.d_a.T_a + B.mul alpha_b B.basepoint + R_a)
      (m2.d_a.I_hat_a + B.mul alpha_b (B.hashToP3 (B.compress (ring 0))) + R_prime_a) := by
  obtain ⟨-, -, rfl⟩ := (bobRun_eq_ok B _ _ _ _ _ _ _ _ _).mp accepts
  rfl

end MoneroAdaptor
