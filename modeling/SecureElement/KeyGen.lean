import SecureElement.NewHSM

/-!
# Generating keys

`GenerateKeyPairAndCert` finds the CA signer and the wrapping key `KG`, then for each request
generates a key pair, exports its public key, wraps its private key under `KG`, issues the
certificate, and destroys the pair. `GenerateSymmetricKeys` derives one AES key per request from
the high- or low-security seed and exports it, hashing lifecycle tokens with cSHAKE128.

* `generateKeyPairAndCert_certs`: a successful call returns one `CertInfo` per request, in
  order, each built from the key pair generated for it.
* `generateKeyPairAndCert_leaks_key_pair`: when exporting the public key fails, the call returns
  without destroying the key pair it has just generated.
* `generateKeyPairAndCert_leaves_at_most_one_key_pair`: that pair is all a call can leave: every
  other key pair it generates it also asks to destroy, and a successful call leaves none.
* `generateSymmetricKeys_keys`: a successful call returns one key per request, in order, each
  derived from its own request alone. The requests are Go pointers: a nil one panics when its
  `UseHighSecuritySeed` is read, so a successful call had none.
-/

namespace SecureElement

open Prog

/-! ## GenerateKeyPairAndCert -/

/-- `RSAParams`. Modelled from the spec: the modulus size and the public exponent. -/
structure RSAParams where
  modBits : Int
  exp : Int

/-- The key parameters of a request: `RSAParams`, an `elliptic.Curve`, or a value of another
type, named by its type. -/
inductive KeyParams where
  | rsa (k : RSAParams)
  | curve (k : Curve)
  | other (typeName : String)

/-- `SigningParams`. Modelled from the spec: the certificate template and the key parameters. -/
structure SigningParams where
  template : Certificate
  keyParams : KeyParams

/-- `CertInfo`. Modelled from the spec: the wrapped private key, its IV, and the certificate. -/
structure CertInfo where
  wrappedKey : Bytes
  iv : Bytes
  cert : Bytes

/-- The `switch k := p.KeyParams.(type)` of `GenerateKeyPairAndCert`. -/
def generateKeyPair (session : Session) : KeyParams → HsmM KeyPair
  | .rsa k => call (.generateRSA session (goUint k.modBits) (goUint k.exp) ⟨true⟩) fun _ =>
    errorf "failed GenerateRSA: %v"
  | .curve k => call (.generateECDSA session k ⟨true⟩) fun _ => errorf "failed GenerateECDSA: %v"
  | .other _ => throw (.panic "unknown key param type: %s")

/-- One iteration of the loop of `GenerateKeyPairAndCert`. `DestroyKeyPairObject`'s error is
ignored. -/
def issueCert (session : Session) (caCert : Certificate) (ca : Signer) (wi : SecretKey)
    (p : SigningParams) : HsmM CertInfo := do
  let kp ← generateKeyPair session p.keyParams
  let public ← call (.exportPublicKey kp.publicKey) fun _ =>
    errorf "failed to export kp public key: %v"
  let wrapped ← call (.wrapAES wi (.privateKey kp.privateKey)) fun _ =>
    errorf "failed to wrap kp with wi: %v"
  let cert ← call (.createCertificate p.template caCert public ca) fun _ =>
    errorf "failed to create certificate: %v"
  callIgnoringError (.destroyKeyPairObject session kp)
  pure ⟨wrapped.1, wrapped.2, cert⟩

/-- The body of `GenerateKeyPairAndCert`. -/
def HSM.generateKeyPairAndCertBody (h : HSM) (caCert : Certificate)
    (params : List SigningParams) (session : Session) : HsmM (List CertInfo) := do
  let some kca := h.privateKeys "KCAPriv" | throw (internal "failed to find KCAPriv key UID")
  let caObj ← call (.findPrivateKey session kca) fun _ =>
    internal "failed to find Kca key object: %v"
  let ca ← call (.signer caObj) fun _ => internal "failed to get Kca signer: %v"
  let some kg := h.symmetricKeys "KG" | throw (internal "failed to find KG key UID")
  let wi ← call (.findSecretKey session kg) fun _ => internal "failed to get KG key object: %v"
  collect (issueCert session caCert ca wi) params []

/-- `GenerateKeyPairAndCert`. -/
def HSM.generateKeyPairAndCert (h : HSM) (caCert : Certificate) (params : List SigningParams) :
    SpmM (List CertInfo) :=
  withSession (h.generateKeyPairAndCertBody caCert params)

/-- The call that generates a key pair for the key parameters `k`, answered with `kp`. -/
def KeyParams.generated (session : Session) (kp : KeyPair) : KeyParams → Option Trace
  | .rsa k => some [⟨.generateRSA session (goUint k.modBits) (goUint k.exp) ⟨true⟩, .ok kp⟩]
  | .curve k => some [⟨.generateECDSA session k ⟨true⟩, .ok kp⟩]
  | .other _ => none

/-- `t` are the calls of an iteration that issued `cert` for `p`: a key pair generated as `p`
asks, its public key exported, its private key wrapped under `wi`, the certificate created from
`p`'s template, `caCert`, that public key and `ca`, and the pair destroyed. -/
def Issued (session : Session) (caCert : Certificate) (ca : Signer) (wi : SecretKey)
    (p : SigningParams) (t : Trace) (cert : CertInfo) : Prop :=
  ∃ kp gen public destroyed, p.keyParams.generated session kp = some gen ∧
    t = gen ++ [⟨.exportPublicKey kp.publicKey, .ok public⟩,
      ⟨.wrapAES wi (.privateKey kp.privateKey), .ok (cert.wrappedKey, cert.iv)⟩,
      ⟨.createCertificate p.template caCert public ca, .ok cert.cert⟩,
      ⟨.destroyKeyPairObject session kp, destroyed⟩]

variable {session : Session} {caCert : Certificate} {ca : Signer} {wi : SecretKey} {t : Trace}

theorem runs_generateKeyPair_ok {k : KeyParams} {kp : KeyPair}
    (h : Runs (generateKeyPair session k).run t (.ok kp)) : k.generated session kp = some t := by
  cases k with
  | rsa k | curve k =>
    rcases runs_call_iff.1 h with ⟨_, _, he⟩ | ⟨_, rfl, he⟩
    · cases he
    cases he
    rfl
  | other _ => cases (runs_run_throw_iff.1 h).2

theorem runs_issueCert_ok {p : SigningParams} {cert : CertInfo}
    (h : Runs (issueCert session caCert ca wi p).run t (.ok cert)) :
    Issued session caCert ca wi p t cert := by
  rcases runs_exceptBind_iff.1 h with ⟨_, he, -⟩ | ⟨t₁, t₂, kp, rfl, h₁, h₂⟩
  · cases he
  obtain ⟨_, _, he⟩ | ⟨public, t₃, rfl, h₃⟩ := runs_call_bind_iff.1 h₂
  · cases he
  obtain ⟨_, _, he⟩ | ⟨wrapped, t₄, rfl, h₄⟩ := runs_call_bind_iff.1 h₃
  · cases he
  obtain ⟨_, _, he⟩ | ⟨c, t₅, rfl, h₅⟩ := runs_call_bind_iff.1 h₄
  · cases he
  obtain ⟨destroyed, t₆, rfl, h₆⟩ := runs_callIgnoringError_bind_iff.1 h₅
  obtain ⟨rfl, he⟩ := runs_run_pure_iff.1 h₆
  cases he
  exact ⟨kp, t₁, public, destroyed, runs_generateKeyPair_ok h₁, rfl⟩

/-- What a successful run `t` of `GenerateKeyPairAndCert` that returned `certs` did: on the
session `s` it found the CA signer from the UID recorded under `KCAPriv` and the wrapping key
from the UID recorded under `KG`, then issued one certificate per request, in order. -/
def CertsIssued (h : HSM) (caCert : Certificate) (params : List SigningParams) (t : SpmTrace)
    (certs : List CertInfo) : Prop :=
  ∃ s kca caObj ca kg wi tLoop, h.privateKeys "KCAPriv" = some kca ∧
    h.symmetricKeys "KG" = some kg ∧
    t = ⟨.getHandle, s⟩ :: ((⟨.findPrivateKey s kca, .ok caObj⟩ :: ⟨.signer caObj, .ok ca⟩ ::
      ⟨.findSecretKey s kg, .ok wi⟩ :: tLoop).map liftEvent ++ [⟨.release s, ()⟩]) ∧
    Segmented (Issued s caCert ca wi) params tLoop certs

theorem generateKeyPairAndCert_certs (h : HSM) (caCert : Certificate)
    (params : List SigningParams) {t : SpmTrace} {certs : List CertInfo}
    (hr : Runs (h.generateKeyPairAndCert caCert params).run t (.ok certs)) :
    CertsIssued h caCert params t certs := by
  obtain ⟨s, t', rfl, hb⟩ := runs_withSession_iff.1 hr
  unfold HSM.generateKeyPairAndCertBody at hb
  cases hkca : h.privateKeys "KCAPriv" with
  | none => simp only [hkca] at hb; cases (runs_run_throw_iff.1 hb).2
  | some kca =>
  simp only [hkca] at hb
  obtain ⟨_, _, he⟩ | ⟨caObj, t₁, rfl, h₁⟩ := runs_call_bind_iff.1 hb
  · cases he
  obtain ⟨_, _, he⟩ | ⟨ca, t₂, rfl, h₂⟩ := runs_call_bind_iff.1 h₁
  · cases he
  cases hkg : h.symmetricKeys "KG" with
  | none => simp only [hkg] at h₂; cases (runs_run_throw_iff.1 h₂).2
  | some kg =>
  simp only [hkg] at h₂
  obtain ⟨_, _, he⟩ | ⟨wi, tLoop, rfl, h₃⟩ := runs_call_bind_iff.1 h₂
  · cases he
  obtain ⟨certs', rfl, hs⟩ := runs_collect_ok h₃
  exact ⟨s, kca, caObj, ca, kg, wi, tLoop, hkca, hkg, rfl,
    by simpa using hs.imp fun _ _ _ => runs_issueCert_ok⟩

/-- An HSM that records the CA key under `KCAPriv` and the wrapping key under `KG`. -/
def caHSM : HSM :=
  ⟨fun l => if l = "KG" then some [2] else none,
    fun l => if l = "KCAPriv" then some [1] else none, ⟨1, []⟩⟩

theorem generateKeyPairAndCert_certs_p256 : ∃ t certs,
    Runs (caHSM.generateKeyPairAndCert ⟨0⟩ [⟨⟨1⟩, .curve ⟨"P-256"⟩⟩]).run t (.ok certs) ∧
      CertsIssued caHSM ⟨0⟩ [⟨⟨1⟩, .curve ⟨"P-256"⟩⟩] t certs :=
  have run : Runs (caHSM.generateKeyPairAndCert ⟨0⟩ [⟨⟨1⟩, .curve ⟨"P-256"⟩⟩]).run
      [⟨.getHandle, ⟨⟨0⟩, 0⟩⟩,
        ⟨.pk11 (.findPrivateKey ⟨⟨0⟩, 0⟩ [1]), .ok ⟨0⟩⟩,
        ⟨.pk11 (.signer ⟨0⟩), .ok ⟨0⟩⟩,
        ⟨.pk11 (.findSecretKey ⟨⟨0⟩, 0⟩ [2]), .ok ⟨0⟩⟩,
        ⟨.pk11 (.generateECDSA ⟨⟨0⟩, 0⟩ ⟨"P-256"⟩ ⟨true⟩), .ok ⟨⟨0⟩, ⟨0⟩⟩⟩,
        ⟨.pk11 (.exportPublicKey ⟨0⟩), .ok (.other 0)⟩,
        ⟨.pk11 (.wrapAES ⟨0⟩ (.privateKey ⟨0⟩)), .ok ([3], [4])⟩,
        ⟨.pk11 (.createCertificate ⟨1⟩ ⟨0⟩ (.other 0) ⟨0⟩), .ok [5]⟩,
        ⟨.pk11 (.destroyKeyPairObject ⟨⟨0⟩, 0⟩ ⟨⟨0⟩, ⟨0⟩⟩), .ok ()⟩,
        ⟨.release ⟨⟨0⟩, 0⟩, ()⟩] (.ok [⟨[3], [4], [5]⟩]) :=
    .step _ (.step _ (.step _ (.step _ (.step _ (.step _ (.step _ (.step _ (.step _
      (.step _ (.pure _))))))))))
  ⟨_, _, run, generateKeyPairAndCert_certs caHSM ⟨0⟩ [⟨⟨1⟩, .curve ⟨"P-256"⟩⟩] run⟩

/-- The key pair generated for a P-256 request stays on the HSM when exporting its public key
fails: the call returns the error, and no `DestroyKeyPairObject` is made. -/
theorem generateKeyPairAndCert_leaks_key_pair :
    Runs (caHSM.generateKeyPairAndCert ⟨0⟩ [⟨⟨1⟩, .curve ⟨"P-256"⟩⟩]).run
      [⟨.getHandle, ⟨⟨0⟩, 0⟩⟩,
        ⟨.pk11 (.findPrivateKey ⟨⟨0⟩, 0⟩ [1]), .ok ⟨0⟩⟩,
        ⟨.pk11 (.signer ⟨0⟩), .ok ⟨0⟩⟩,
        ⟨.pk11 (.findSecretKey ⟨⟨0⟩, 0⟩ [2]), .ok ⟨0⟩⟩,
        ⟨.pk11 (.generateECDSA ⟨⟨0⟩, 0⟩ ⟨"P-256"⟩ ⟨true⟩), .ok ⟨⟨0⟩, ⟨0⟩⟩⟩,
        ⟨.pk11 (.exportPublicKey ⟨0⟩), .error ⟨"export failed"⟩⟩,
        ⟨.release ⟨⟨0⟩, 0⟩, ()⟩]
      (.error (errorf "failed to export kp public key: %v")) :=
  .step _ (.step _ (.step _ (.step _ (.step _ (.step _ (.step _ (.pure _)))))))

/-! ## The key pairs a call leaves behind -/

/-- The key pair an event generated: the answer of a successful `GenerateRSA` or
`GenerateECDSA`. -/
def generatedKeyPair : Event Prim Prim.Resp → Option KeyPair
  | ⟨.generateRSA .., .ok kp⟩ => some kp
  | ⟨.generateECDSA .., .ok kp⟩ => some kp
  | _ => none

/-- The key pair an event asks to destroy; the answer of `DestroyKeyPairObject` is ignored. -/
def destroyedKeyPair : Event Prim Prim.Resp → Option KeyPair
  | ⟨.destroyKeyPairObject _ kp, _⟩ => some kp
  | _ => none

/-- Every key pair a run of `x` generates is destroyed in that run, in the order generated, but
at most one left by a run that fails. -/
def DestroysKeyPairs {α : Type} (x : HsmM α) : Prop :=
  ∀ t r, Runs x.run t r → ∃ left, t.filterMap generatedKeyPair =
    t.filterMap destroyedKeyPair ++ left ∧ left.length ≤ 1 ∧ ∀ a, r = .ok a → left = []

theorem DestroysKeyPairs.bind {α β : Type} {x : HsmM α} {f : α → HsmM β} (hx : DestroysKeyPairs x)
    (hf : ∀ a, DestroysKeyPairs (f a)) : DestroysKeyPairs (x >>= f) := by
  intro t r h
  rcases runs_exceptBind_iff.1 h with ⟨e, rfl, h₁⟩ | ⟨t₁, t₂, a, rfl, h₁, h₂⟩
  · obtain ⟨left, hl, hlen, -⟩ := hx t _ h₁
    exact ⟨left, hl, hlen, fun _ he => by cases he⟩
  · obtain ⟨left₁, hl₁, -, hok⟩ := hx t₁ _ h₁
    obtain ⟨left₂, hl₂, hlen, hok₂⟩ := hf a t₂ r h₂
    refine ⟨left₂, ?_, hlen, hok₂⟩
    rw [List.filterMap_append, List.filterMap_append, hl₁, hok a rfl, hl₂, List.append_nil,
      List.append_assoc]

theorem destroysKeyPairs_pure {α : Type} (a : α) : DestroysKeyPairs (pure a : HsmM α) := by
  intro t r h
  obtain ⟨rfl, rfl⟩ := runs_run_pure_iff.1 h
  exact ⟨[], rfl, by simp, fun _ _ => rfl⟩

theorem destroysKeyPairs_throw {α : Type} (e : Exit) : DestroysKeyPairs (throw e : HsmM α) := by
  intro t r h
  obtain ⟨rfl, rfl⟩ := runs_run_throw_iff.1 h
  exact ⟨[], rfl, by simp, fun _ he => by cases he⟩

/-- A call that neither generates nor destroys a key pair. -/
theorem destroysKeyPairs_call {c : Prim} {f : Pk11Error → Exit}
    (hc : ∀ r, generatedKeyPair ⟨c, r⟩ = none ∧ destroyedKeyPair ⟨c, r⟩ = none) :
    DestroysKeyPairs (call c f) := by
  intro t r h
  rcases runs_call_iff.1 h with ⟨e, rfl, rfl⟩ | ⟨v, rfl, rfl⟩
  · exact ⟨[], by simp [(hc _).1, (hc _).2], by simp, fun _ he => by cases he⟩
  · exact ⟨[], by simp [(hc _).1, (hc _).2], by simp, fun _ _ => rfl⟩

theorem DestroysKeyPairs.collect {α β : Type} {f : α → HsmM β} (hf : ∀ a, DestroysKeyPairs (f a))
    (as : List α) (acc : List β) : DestroysKeyPairs (collect f as acc) := by
  induction as generalizing acc with
  | nil => exact destroysKeyPairs_pure _
  | cons a as ih => exact (hf a).bind fun _ => ih _

theorem filterMap_generated {k : KeyParams} {kp : KeyPair} {gen : Trace}
    (h : k.generated session kp = some gen) :
    gen.filterMap generatedKeyPair = [kp] ∧ gen.filterMap destroyedKeyPair = [] := by
  cases k <;> simp only [KeyParams.generated, Option.some.injEq, reduceCtorEq] at h <;> subst h <;>
    simp [generatedKeyPair, destroyedKeyPair]

/-- A failed iteration destroys nothing and has generated at most its own pair. -/
theorem runs_issueCert_error {p : SigningParams} {e : Exit}
    (h : Runs (issueCert session caCert ca wi p).run t (.error e)) :
    t.filterMap destroyedKeyPair = [] ∧ (t.filterMap generatedKeyPair).length ≤ 1 := by
  rcases runs_exceptBind_iff.1 h with ⟨_, -, h₁⟩ | ⟨t₁, t₂, kp, rfl, h₁, h₂⟩
  · cases hk : p.keyParams <;> rw [hk] at h₁
    case other => obtain ⟨rfl, -⟩ := runs_run_throw_iff.1 h₁; simp
    all_goals
      rcases runs_call_iff.1 h₁ with ⟨_, rfl, -⟩ | ⟨_, -, he⟩
      · simp [generatedKeyPair, destroyedKeyPair]
      · cases he
  have hg := filterMap_generated (runs_generateKeyPair_ok h₁)
  have hrest : t₂.filterMap generatedKeyPair = [] ∧ t₂.filterMap destroyedKeyPair = [] := by
    obtain ⟨_, rfl, -⟩ | ⟨public, t₃, rfl, h₃⟩ := runs_call_bind_iff.1 h₂
    · simp [generatedKeyPair, destroyedKeyPair]
    obtain ⟨_, rfl, -⟩ | ⟨wrapped, t₄, rfl, h₄⟩ := runs_call_bind_iff.1 h₃
    · simp [generatedKeyPair, destroyedKeyPair]
    obtain ⟨_, rfl, -⟩ | ⟨c, t₅, rfl, h₅⟩ := runs_call_bind_iff.1 h₄
    · simp [generatedKeyPair, destroyedKeyPair]
    obtain ⟨_, _, rfl, h₆⟩ := runs_callIgnoringError_bind_iff.1 h₅
    cases (runs_run_pure_iff.1 h₆).2
  simp [List.filterMap_append, hg, hrest]

/-- An iteration destroys the pair it generated, unless a call after the generation fails. -/
theorem destroysKeyPairs_issueCert (p : SigningParams) :
    DestroysKeyPairs (issueCert session caCert ca wi p) := by
  intro t r h
  cases r with
  | ok cert =>
    obtain ⟨kp, gen, public, destroyed, hgen, rfl⟩ := runs_issueCert_ok h
    refine ⟨[], ?_, by simp, fun _ _ => rfl⟩
    simp [List.filterMap_append, filterMap_generated hgen, generatedKeyPair, destroyedKeyPair]
  | error e =>
    obtain ⟨hd, hlen⟩ := runs_issueCert_error h
    exact ⟨_, by rw [hd]; rfl, hlen, fun _ he => by cases he⟩

theorem destroysKeyPairs_generateKeyPairAndCertBody (h : HSM) (caCert : Certificate)
    (params : List SigningParams) :
    DestroysKeyPairs (h.generateKeyPairAndCertBody caCert params session) := by
  unfold HSM.generateKeyPairAndCertBody
  cases h.privateKeys "KCAPriv" with
  | none => exact destroysKeyPairs_throw _
  | some _ =>
    refine (destroysKeyPairs_call fun _ => ⟨by rfl, by rfl⟩).bind fun _ =>
      (destroysKeyPairs_call fun _ => ⟨by rfl, by rfl⟩).bind fun _ => ?_
    cases h.symmetricKeys "KG" with
    | none => exact destroysKeyPairs_throw _
    | some _ =>
      exact (destroysKeyPairs_call fun _ => ⟨by rfl, by rfl⟩).bind fun _ =>
        DestroysKeyPairs.collect destroysKeyPairs_issueCert _ _

theorem generateKeyPairAndCert_leaves_at_most_one_key_pair (h : HSM) (caCert : Certificate)
    (params : List SigningParams) {t : SpmTrace} {r : Except Exit (List CertInfo)}
    (hr : Runs (h.generateKeyPairAndCert caCert params).run t r) :
    ∃ (s : Session) (t' : Trace) (left : List KeyPair), t = ⟨.getHandle, s⟩ :: (t'.map liftEvent ++ [⟨.release s, ()⟩]) ∧
      t'.filterMap generatedKeyPair = t'.filterMap destroyedKeyPair ++ left ∧ left.length ≤ 1 ∧
      ∀ certs, r = .ok certs → left = [] := by
  obtain ⟨s, t', rfl, hb⟩ := runs_withSession_iff.1 hr
  obtain ⟨left, hl, hlen, hok⟩ :=
    destroysKeyPairs_generateKeyPairAndCertBody h caCert params t' r hb
  exact ⟨s, t', left, rfl, hl, hlen, hok⟩

theorem generateKeyPairAndCert_leaves_at_most_one_key_pair_export : ∃ t r,
    Runs (caHSM.generateKeyPairAndCert ⟨0⟩ [⟨⟨1⟩, .curve ⟨"P-256"⟩⟩]).run t r ∧
    ∃ (s : Session) (t' : Trace) (left : List KeyPair), t = ⟨.getHandle, s⟩ :: (t'.map liftEvent ++ [⟨.release s, ()⟩]) ∧
      t'.filterMap generatedKeyPair = t'.filterMap destroyedKeyPair ++ left ∧ left.length ≤ 1 ∧
      ∀ certs, r = .ok certs → left = [] :=
  have run : Runs (caHSM.generateKeyPairAndCert ⟨0⟩ [⟨⟨1⟩, .curve ⟨"P-256"⟩⟩]).run
      [⟨.getHandle, ⟨⟨0⟩, 0⟩⟩,
        ⟨.pk11 (.findPrivateKey ⟨⟨0⟩, 0⟩ [1]), .ok ⟨0⟩⟩,
        ⟨.pk11 (.signer ⟨0⟩), .ok ⟨0⟩⟩,
        ⟨.pk11 (.findSecretKey ⟨⟨0⟩, 0⟩ [2]), .ok ⟨0⟩⟩,
        ⟨.pk11 (.generateECDSA ⟨⟨0⟩, 0⟩ ⟨"P-256"⟩ ⟨true⟩), .ok ⟨⟨0⟩, ⟨0⟩⟩⟩,
        ⟨.pk11 (.exportPublicKey ⟨0⟩), .error ⟨"export failed"⟩⟩,
        ⟨.release ⟨⟨0⟩, 0⟩, ()⟩] _ :=
    .step _ (.step _ (.step _ (.step _ (.step _ (.step _ (.step _ (.pure _)))))))
  ⟨_, _, run, generateKeyPairAndCert_leaves_at_most_one_key_pair caHSM ⟨0⟩ _ run⟩

/-! ## GenerateSymmetricKeys -/

/-- `SymmetricKeyType`. Modelled from the spec: a raw AES key, or an OpenTitan lifecycle token. -/
inductive SymmetricKeyType where
  | raw
  | hashedOtLcToken
  deriving DecidableEq, Repr

/-- `SymmetricKeygenParams`. Modelled from the spec: the seed to use, the key type, the key size,
and the SKU and diversifier the key is derived for. -/
structure SymmetricKeygenParams where
  useHighSecuritySeed : Bool
  keyType : SymmetricKeyType
  sizeInBits : Nat
  sku : String
  diversifier : String

/-- cSHAKE128 (`sha3.NewCShake128`), which the model leaves open: `read n s input len` is the
first `len` bytes of its output on `input` with function name `n` and customization `s`. -/
structure CShake128 where
  read : Bytes → Bytes → Bytes → Nat → Bytes
  length_read : ∀ n s input len, (read n s input len).length = len

/-- One branch of `if p.UseHighSecuritySeed`: the UID recorded under `label` and the secret key
it names. -/
def HSM.findSeed (h : HSM) (session : Session) (label missing notFound : String) :
    HsmM SecretKey := do
  let some uid := h.symmetricKeys label | throw (internal missing)
  call (.findSecretKey session uid) fun _ => internal notFound

/-- `if p.UseHighSecuritySeed`: the high- or the low-security seed. -/
def HSM.seedOf (h : HSM) (session : Session) (useHighSecuritySeed : Bool) : HsmM SecretKey :=
  if useHighSecuritySeed then
    h.findSeed session "HighSecKdfSeed" "failed to find HighSecKdfSeed key UID"
      "failed to get KHsks key object: %v"
  else
    h.findSeed session "LowSecKdfSeed" "failed to find LowSecKdfSeed key UID"
      "failed to get KLsks key object: %v"

/-- `*p` for a Go pointer `p`, read as an `Option`: nil panics. -/
def deref {α : Type} : Option α → HsmM α
  | none => throw (.panic "runtime error: invalid memory address or nil pointer dereference")
  | some a => pure a

theorem runs_deref_ok {α : Type} {p : Option α} {a : α} {t : Trace}
    (h : Runs (deref p).run t (.ok a)) : p = some a ∧ t = [] := by
  cases p with
  | none => cases (runs_run_throw_iff.1 h).2
  | some b =>
    obtain ⟨rfl, he⟩ := runs_run_pure_iff.1 h
    cases he
    exact ⟨rfl, rfl⟩

/-- One iteration of the loop of `GenerateSymmetricKeys`, on the pointer `p`. -/
def HSM.generateSymmetricKey (h : HSM) (cShake128 : CShake128) (session : Session)
    (p : Option SymmetricKeygenParams) : HsmM Bytes := do
  let p ← deref p
  let seed ← h.seedOf session p.useHighSecuritySeed
  let seKey ← call (.hkdfDeriveAES seed sha256 (goBytes p.sku) (goBytes p.diversifier)
    p.sizeInBits ⟨true⟩) fun _ => internal "failed HKDFDeriveAES: %v"
  let exportedKey ← call (.exportSecretKey seKey) fun _ =>
    internal "failed to extract symmetric key: %v"
  let .aesKey keyBytes := exportedKey |
    throw (internal "failed to parse extracted symmetric key: %v")
  if p.keyType = .hashedOtLcToken then
    pure (cShake128.read (goBytes "") (goBytes "LC_CTRL") keyBytes keyBytes.length)
  else
    pure keyBytes

/-- `GenerateSymmetricKeys`. -/
def HSM.generateSymmetricKeys (h : HSM) (cShake128 : CShake128)
    (params : List (Option SymmetricKeygenParams)) : SpmM (List Bytes) :=
  withSession fun session => collect (h.generateSymmetricKey cShake128 session) params []

/-- The label of the seed the request `p` asks for. -/
def seedLabel (p : SymmetricKeygenParams) : String :=
  if p.useHighSecuritySeed then "HighSecKdfSeed" else "LowSecKdfSeed"

/-- The key the request `p` asks for, from the exported AES key `aes`: `aes` itself, or its
cSHAKE128 digest of the same length for a lifecycle token. -/
def requestedKey (cShake128 : CShake128) (p : SymmetricKeygenParams) (aes : Bytes) : Bytes :=
  if p.keyType = .hashedOtLcToken then cShake128.read (goBytes "") (goBytes "LC_CTRL") aes aes.length
  else aes

/-- `t` are the calls of an iteration that returned `key` for the pointer `p`: `p` is not nil,
and what it points to asks for a seed, found by the UID recorded under its label; an AES key
derived from it with HKDF over SHA-256 with `p`'s SKU as salt and diversifier as info; that key
exported; and `key` made from it. -/
def KeyDerived (h : HSM) (cShake128 : CShake128) (session : Session) :
    Option SymmetricKeygenParams → Trace → Bytes → Prop
  | none, _, _ => False
  | some p, t, key => ∃ uid seed seKey aes, h.symmetricKeys (seedLabel p) = some uid ∧
    t = [⟨.findSecretKey session uid, .ok seed⟩,
      ⟨.hkdfDeriveAES seed sha256 (goBytes p.sku) (goBytes p.diversifier) p.sizeInBits ⟨true⟩,
        .ok seKey⟩,
      ⟨.exportSecretKey seKey, .ok (.aesKey aes)⟩] ∧
    key = requestedKey cShake128 p aes

theorem runs_findSeed_ok {h : HSM} {label missing notFound : String} {seed : SecretKey}
    (hr : Runs (h.findSeed session label missing notFound).run t (.ok seed)) :
    ∃ uid, h.symmetricKeys label = some uid ∧ t = [⟨.findSecretKey session uid, .ok seed⟩] := by
  unfold HSM.findSeed at hr
  cases huid : h.symmetricKeys label with
  | none => simp only [huid] at hr; cases (runs_run_throw_iff.1 hr).2
  | some uid =>
    simp only [huid] at hr
    rcases runs_call_iff.1 hr with ⟨_, _, he⟩ | ⟨_, rfl, he⟩
    · cases he
    cases he
    exact ⟨uid, rfl, rfl⟩

theorem runs_generateSymmetricKey_ok {h : HSM} {cShake128 : CShake128}
    {p : Option SymmetricKeygenParams} {key : Bytes}
    (hr : Runs (h.generateSymmetricKey cShake128 session p).run t (.ok key)) :
    KeyDerived h cShake128 session p t key := by
  rcases runs_exceptBind_iff.1 hr with ⟨_, he, -⟩ | ⟨t₀, t, p, rfl, h₀, hb⟩
  · cases he
  obtain ⟨rfl, rfl⟩ := runs_deref_ok h₀
  rcases runs_exceptBind_iff.1 hb with ⟨_, he, -⟩ | ⟨t₁, t₂, seed, rfl, h₁, h₂⟩
  · cases he
  obtain ⟨uid, huid, rfl⟩ : ∃ uid, h.symmetricKeys (seedLabel p) = some uid ∧
      t₁ = [⟨.findSecretKey session uid, .ok seed⟩] := by
    unfold HSM.seedOf at h₁
    unfold seedLabel
    split at h₁ <;> simpa [*] using runs_findSeed_ok h₁
  obtain ⟨_, _, he⟩ | ⟨seKey, t₃, rfl, h₃⟩ := runs_call_bind_iff.1 h₂
  · cases he
  obtain ⟨_, _, he⟩ | ⟨exported, t₄, rfl, h₄⟩ := runs_call_bind_iff.1 h₃
  · cases he
  cases exported with
  | other _ => cases (runs_run_throw_iff.1 h₄).2
  | aesKey aes =>
    refine ⟨uid, seed, seKey, aes, huid, ?_⟩
    simp only [requestedKey] at h₄ ⊢
    by_cases hk : p.keyType = .hashedOtLcToken <;> simp only [hk, if_true, if_false] at h₄ ⊢ <;>
      obtain ⟨rfl, he⟩ := runs_run_pure_iff.1 h₄ <;> cases he <;> simp

theorem generateSymmetricKeys_keys (h : HSM) (cShake128 : CShake128)
    (params : List (Option SymmetricKeygenParams)) {t : SpmTrace} {keys : List Bytes}
    (hr : Runs (h.generateSymmetricKeys cShake128 params).run t (.ok keys)) :
    ∃ s t', t = ⟨.getHandle, s⟩ :: (t'.map liftEvent ++ [⟨.release s, ()⟩]) ∧
      Segmented (KeyDerived h cShake128 s) params t' keys := by
  obtain ⟨s, t', rfl, hb⟩ := runs_withSession_iff.1 hr
  obtain ⟨keys', rfl, hs⟩ := runs_collect_ok hb
  exact ⟨s, t', rfl, by simpa using hs.imp fun _ _ _ => runs_generateSymmetricKey_ok⟩

/-- A cSHAKE128 stand-in that outputs zero bytes. -/
def zeroXof : CShake128 := ⟨fun _ _ _ len => List.replicate len 0, by simp⟩

/-- An HSM that records the high-security seed under `HighSecKdfSeed`. -/
def seedHSM : HSM := ⟨fun l => if l = "HighSecKdfSeed" then some [7] else none, fun _ => none, ⟨1, []⟩⟩

theorem generateSymmetricKeys_keys_token : ∃ t keys,
    Runs (seedHSM.generateSymmetricKeys zeroXof [some ⟨true, .hashedOtLcToken, 128, "sku", "div"⟩]).run
      t (.ok keys) ∧
    ∃ s t', t = ⟨.getHandle, s⟩ :: (t'.map liftEvent ++ [⟨.release s, ()⟩]) ∧
      Segmented (KeyDerived seedHSM zeroXof s) [some ⟨true, .hashedOtLcToken, 128, "sku", "div"⟩] t'
        keys :=
  have run : Runs (seedHSM.generateSymmetricKeys zeroXof
      [some ⟨true, .hashedOtLcToken, 128, "sku", "div"⟩]).run
      [⟨.getHandle, ⟨⟨0⟩, 0⟩⟩,
        ⟨.pk11 (.findSecretKey ⟨⟨0⟩, 0⟩ [7]), .ok ⟨0⟩⟩,
        ⟨.pk11 (.hkdfDeriveAES ⟨0⟩ sha256 (goBytes "sku") (goBytes "div") 128 ⟨true⟩), .ok ⟨1⟩⟩,
        ⟨.pk11 (.exportSecretKey ⟨1⟩), .ok (.aesKey [1, 2])⟩,
        ⟨.release ⟨⟨0⟩, 0⟩, ()⟩] _ :=
    .step _ (.step _ (.step _ (.step _ (.step _ (.pure _)))))
  ⟨_, _, run, generateSymmetricKeys_keys seedHSM zeroXof _ run⟩

end SecureElement
