import SecureElement.Endorse
import SecureElement.KeyGen
import SecureElement.Methods

/-!
# Which calls can panic

A panic in a method ends the call the way Go ends it: the deferred release runs, and the panic
goes on up the caller's stack. Every error path of the secure element returns an `error`; a
method reaches a `panic` in two places only: the `default` branch of the key-parameter switch of
`GenerateKeyPairAndCert`, and the read of `UseHighSecuritySeed` through a nil request pointer in
`GenerateSymmetricKeys`. The panics of `make` and of an out-of-range token index are `NewHSM`'s,
before any session is borrowed (`newHSM_blocks_or_panics_out_of_range`). The pk11 binding and
the certificate signer are modelled by their answers, so a panic inside them is not one of the
model's.

* `methods_panic_only_on_bad_requests`: `DeriveAndWrapTransportSecret`, `VerifySession`,
  `GenerateRandom`, `EndorseCert` and the session-borrowing part of `NewHSM` never panic;
  `GenerateSymmetricKeys` panics only with the nil-dereference message, on a list holding a nil
  request; `GenerateKeyPairAndCert` panics only with the message of the `default` branch, on a
  request whose key parameters are of no known type. `ExecuteCmd` panics where its command does.
-/

namespace SecureElement

open Prog

variable {P : String → Prop} {session : Session}

/-- A method whose body panics only with messages satisfying `P` panics only with those. -/
theorem panicsOnly_withSession {α : Type} {body : Session → HsmM α} {t : SpmTrace} {msg : String}
    (h : Runs (withSession body).run t (.error (.panic msg))) (hb : ∀ s, PanicsOnly P (body s)) :
    P msg := by
  obtain ⟨s, t', -, hr⟩ := runs_withSession_iff.1 h
  exact hb s t' msg hr

theorem not_runs_withSession_panic {α : Type} {body : Session → HsmM α}
    (hb : ∀ s, PanicsOnly (fun _ => False) (body s)) {t : SpmTrace} {msg : String} :
    ¬ Runs (withSession body).run t (.error (.panic msg)) :=
  fun h => panicsOnly_withSession h hb

theorem panicsOnly_ofExcept_mapError {α ε : Type} {x : Except ε α} {format : String} :
    PanicsOnly P (ofExcept (x.mapError fun _ => internal format)) :=
  panicsOnly_ofExcept fun msg h => by cases x <;> cases h

/-! ## The functions that never panic -/

theorem panicsOnly_getKeyIDByLabel {cls : ClassAttribute} {label : String} :
    PanicsOnly P (getKeyIDByLabel session cls label) :=
  (panicsOnly_pk11 _).bind fun _ => (panicsOnly_pk11 _).bind fun
    | none => panicsOnly_throw _
    | some _ => panicsOnly_pure _

theorem panicsOnly_findKeyIDs {cls : ClassAttribute} {format : String} (labels : List String)
    (keys : KeyMap) : PanicsOnly P (findKeyIDs session cls format labels keys) := by
  induction labels generalizing keys with
  | nil => exact panicsOnly_pure _
  | cons label labels ih => exact (panicsOnly_getKeyIDByLabel.wrapError _).bind fun _ => ih _

theorem panicsOnly_loadKeyIDs (cfg : HSMConfig) : PanicsOnly P (loadKeyIDs cfg session) :=
  (panicsOnly_findKeyIDs _ _).bind fun _ => (panicsOnly_findKeyIDs _ _).bind fun _ =>
    panicsOnly_pure _

theorem panicsOnly_deriveTransportSecret (h : HSM) (deviceId : Bytes) :
    PanicsOnly P (h.deriveTransportSecret session deviceId) := by
  unfold HSM.deriveTransportSecret
  cases h.symmetricKeys "KT" with
  | none => exact panicsOnly_throw _
  | some _ => exact (panicsOnly_pk11 _).bind fun _ => panicsOnly_pk11 _

theorem panicsOnly_deriveAndWrapTransportSecretBody (h : HSM) (deviceId : Bytes) :
    PanicsOnly P (h.deriveAndWrapTransportSecretBody deviceId session) := by
  unfold HSM.deriveAndWrapTransportSecretBody
  cases h.symmetricKeys "KG" with
  | none => exact panicsOnly_throw _
  | some _ =>
    exact (panicsOnly_pk11 _).bind fun _ => (panicsOnly_deriveTransportSecret h deviceId).bind
      fun _ => (panicsOnly_pk11 _).bind fun _ => panicsOnly_pure _

theorem panicsOnly_verifySessionBody (h : HSM) : PanicsOnly P (h.verifySessionBody session) := by
  unfold HSM.verifySessionBody
  cases h.privateKeys "KCAPriv" with
  | none => exact panicsOnly_throw _
  | some _ => exact (panicsOnly_call fun _ _ => Exit.noConfusion).bind fun _ => panicsOnly_pure _

theorem panicsOnly_seedOf (h : HSM) (useHighSecuritySeed : Bool) :
    PanicsOnly P (h.seedOf session useHighSecuritySeed) := by
  unfold HSM.seedOf HSM.findSeed
  split <;> split
  all_goals first
    | exact panicsOnly_throw _
    | exact panicsOnly_call fun _ _ => Exit.noConfusion


theorem panicsOnly_endorseCertBody (tbs : Bytes) (params : EndorseCertParams) :
    PanicsOnly P (endorseCertBody tbs params session) :=
  (panicsOnly_getKeyIDByLabel.wrapError _).bind fun _ =>
    (panicsOnly_call fun _ _ => Exit.noConfusion).bind fun _ =>
      panicsOnly_ofExcept_mapError.bind fun _ =>
        (panicsOnly_call fun _ _ => Exit.noConfusion).bind fun _ =>
          panicsOnly_ofExcept_mapError.bind fun _ => panicsOnly_ofExcept_mapError

/-! ## The key-parameter switch -/

/-- The panic of the `default` branch, on key parameters of no known type. -/
def UnknownKeyType (params : List SigningParams) (msg : String) : Prop :=
  msg = "unknown key param type: %s" ∧ ∃ p ∈ params, ∃ name, p.keyParams = .other name

theorem panicsOnly_issueCert {caCert : Certificate} {ca : Signer} {wi : SecretKey}
    {params : List SigningParams} {p : SigningParams} (hp : p ∈ params) :
    PanicsOnly (UnknownKeyType params) (issueCert session caCert ca wi p) := by
  have hgen : PanicsOnly (UnknownKeyType params) (generateKeyPair session p.keyParams) := by
    cases hk : p.keyParams with
    | rsa _ | curve _ => exact panicsOnly_call fun _ _ => Exit.noConfusion
    | other name =>
      intro t msg h
      cases (runs_run_throw_iff.1 h).2
      exact ⟨rfl, p, hp, name, hk⟩
  exact hgen.bind fun _ => (panicsOnly_call fun _ _ => Exit.noConfusion).bind fun _ =>
    (panicsOnly_call fun _ _ => Exit.noConfusion).bind fun _ =>
      (panicsOnly_call fun _ _ => Exit.noConfusion).bind fun _ =>
        (panicsOnly_callIgnoringError _).bind fun _ => panicsOnly_pure _

theorem panicsOnly_generateKeyPairAndCertBody (h : HSM) (caCert : Certificate)
    (params : List SigningParams) :
    PanicsOnly (UnknownKeyType params) (h.generateKeyPairAndCertBody caCert params session) := by
  unfold HSM.generateKeyPairAndCertBody
  cases h.privateKeys "KCAPriv" with
  | none => exact panicsOnly_throw _
  | some _ =>
    refine (panicsOnly_call fun _ _ => Exit.noConfusion).bind fun _ =>
      (panicsOnly_call fun _ _ => Exit.noConfusion).bind fun _ => ?_
    cases h.symmetricKeys "KG" with
    | none => exact panicsOnly_throw _
    | some _ =>
      exact (panicsOnly_call fun _ _ => Exit.noConfusion).bind fun _ =>
        PanicsOnly.collect (fun _ hp => panicsOnly_issueCert hp) _

/-! ## Nil request pointers -/

/-- The panic of a nil dereference, on a list of request pointers holding nil. -/
def NilRequest (params : List (Option SymmetricKeygenParams)) (msg : String) : Prop :=
  msg = "runtime error: invalid memory address or nil pointer dereference" ∧ none ∈ params

theorem panicsOnly_generateSymmetricKey (h : HSM) (cShake128 : CShake128)
    {params : List (Option SymmetricKeygenParams)} {p : Option SymmetricKeygenParams}
    (hp : p ∈ params) :
    PanicsOnly (NilRequest params) (h.generateSymmetricKey cShake128 session p) := by
  have hderef : PanicsOnly (NilRequest params) (deref p) := by
    cases p with
    | none =>
      intro t msg h
      cases (runs_run_throw_iff.1 h).2
      exact ⟨rfl, hp⟩
    | some _ => exact panicsOnly_pure _
  exact hderef.bind fun _ => (panicsOnly_seedOf h _).bind fun _ =>
    (panicsOnly_call fun _ _ => Exit.noConfusion).bind fun _ =>
      (panicsOnly_call fun _ _ => Exit.noConfusion).bind fun
        | .other _ => panicsOnly_throw _
        | .aesKey _ => by dsimp only; split <;> exact panicsOnly_pure _

/-! ## The methods -/

theorem methods_panic_only_on_bad_requests (h : HSM) (cShake128 : CShake128)
    {t : SpmTrace} {msg : String} :
    (∀ deviceId, ¬ Runs (h.deriveAndWrapTransportSecret deviceId).run t (.error (.panic msg))) ∧
      ¬ Runs h.verifySession.run t (.error (.panic msg)) ∧
      (∀ length, ¬ Runs (generateRandom length).run t (.error (.panic msg))) ∧
      (∀ tbs params, ¬ Runs (endorseCert tbs params).run t (.error (.panic msg))) ∧
      (∀ cfg, ¬ Runs (newHSMPreamble cfg).run t (.error (.panic msg))) ∧
      (∀ params, Runs (h.generateSymmetricKeys cShake128 params).run t (.error (.panic msg)) →
        msg = "runtime error: invalid memory address or nil pointer dereference" ∧
          none ∈ params) ∧
      ∀ caCert params, Runs (h.generateKeyPairAndCert caCert params).run t (.error (.panic msg)) →
        msg = "unknown key param type: %s" ∧ ∃ p ∈ params, ∃ name, p.keyParams = .other name :=
  ⟨fun _ => not_runs_withSession_panic fun _ => panicsOnly_deriveAndWrapTransportSecretBody _ _,
    not_runs_withSession_panic fun _ => panicsOnly_verifySessionBody _,
    fun length => not_runs_withSession_panic fun s => panicsOnly_pk11 (.generateRandom s length),
    fun _ _ => not_runs_withSession_panic fun _ => panicsOnly_endorseCertBody _ _,
    fun _ => not_runs_withSession_panic fun _ => panicsOnly_loadKeyIDs _,
    fun _ hr => panicsOnly_withSession hr fun _ =>
      PanicsOnly.collect (fun _ hp => panicsOnly_generateSymmetricKey _ _ hp) _,
    fun _ _ hr => panicsOnly_withSession hr fun _ => panicsOnly_generateKeyPairAndCertBody _ _ _⟩

/-- A nil request reaches the panic as soon as its field is read. -/
example : Runs (seedHSM.generateSymmetricKeys zeroXof [none]).run
    [⟨.getHandle, ⟨⟨0⟩, 0⟩⟩, ⟨.release ⟨⟨0⟩, 0⟩, ()⟩]
    (.error (.panic "runtime error: invalid memory address or nil pointer dereference")) :=
  .step _ (.step _ (.pure _))

/-- A request for a key of an unknown type reaches the panic, after the CA key and `KG` are
found. -/
example : Runs (caHSM.generateKeyPairAndCert ⟨0⟩ [⟨⟨1⟩, .other "ed25519.PrivateKey"⟩]).run
    [⟨.getHandle, ⟨⟨0⟩, 0⟩⟩,
      ⟨.pk11 (.findPrivateKey ⟨⟨0⟩, 0⟩ [1]), .ok ⟨0⟩⟩,
      ⟨.pk11 (.signer ⟨0⟩), .ok ⟨0⟩⟩,
      ⟨.pk11 (.findSecretKey ⟨⟨0⟩, 0⟩ [2]), .ok ⟨0⟩⟩,
      ⟨.release ⟨⟨0⟩, 0⟩, ()⟩]
    (.error (.panic "unknown key param type: %s")) :=
  .step _ (.step _ (.step _ (.step _ (.step _ (.pure _)))))

end SecureElement
