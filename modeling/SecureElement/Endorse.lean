import SecureElement.NewHSM
import SecureElement.Asn1.Der

/-!
# Endorsing a certificate

`EndorseCert` finds the private key by label, signs the TBS certificate with the hash of the
requested signature algorithm, and marshals the certificate: the TBS bytes as they are, the
algorithm's object identifier, and the DER signature as a bit string.

* `endorseCert_layout`: for a TBS that is one DER element and an ECDSA algorithm, a successful
  call signed the TBS once, with the hash of the requested algorithm, and the bytes returned read
  back, all length fields included, as exactly that TBS, the algorithm's object identifier (which
  names the hash the key signed with) and the marshalled signature.
* `endorseCert_rejects_unsupported`: for any other algorithm every run ends with an Internal
  error and never signs, but the key lookup comes first: a run that reaches the algorithm check
  borrowed a session, looked the label up and found the key before it failed.
-/

namespace SecureElement

open Prog Asn1

/-- `x509.SignatureAlgorithm`, by the value of its Go constant. -/
structure SignatureAlgorithm where
  val : Int
  deriving DecidableEq, Repr

/-- `x509.ECDSAWithSHA256`. -/
def ecdsaWithSHA256 : SignatureAlgorithm := ⟨10⟩
/-- `x509.ECDSAWithSHA384`. -/
def ecdsaWithSHA384 : SignatureAlgorithm := ⟨11⟩
/-- `x509.ECDSAWithSHA512`. -/
def ecdsaWithSHA512 : SignatureAlgorithm := ⟨12⟩

/-- The algorithms `EndorseCert` supports. -/
def ecdsaAlgorithms : List SignatureAlgorithm := [ecdsaWithSHA256, ecdsaWithSHA384, ecdsaWithSHA512]

/-- `oidECDSAWithSHA256`. -/
def oidECDSAWithSHA256 : ObjectIdentifier := [1, 2, 840, 10045, 4, 3, 2]
/-- `oidECDSAWithSHA384`. -/
def oidECDSAWithSHA384 : ObjectIdentifier := [1, 2, 840, 10045, 4, 3, 3]
/-- `oidECDSAWithSHA512`. -/
def oidECDSAWithSHA512 : ObjectIdentifier := [1, 2, 840, 10045, 4, 3, 4]

/-- The `switch alg` of `oidFromSignatureAlgorithm` and `hashFromSignatureAlgorithm`: the value
of the SHA-256, SHA-384 or SHA-512 case, or the error of the `default` case. -/
def ecdsaSwitch {β : Type} (sha256Case sha384Case sha512Case : β) (alg : SignatureAlgorithm) :
    Except Error β :=
  if alg = ecdsaWithSHA256 then .ok sha256Case
  else if alg = ecdsaWithSHA384 then .ok sha384Case
  else if alg = ecdsaWithSHA512 then .ok sha512Case
  else .error (.errorf "unsupported signature algorithm: %v")

/-- `oidFromSignatureAlgorithm`. -/
def oidFromSignatureAlgorithm : SignatureAlgorithm → Except Error ObjectIdentifier :=
  ecdsaSwitch oidECDSAWithSHA256 oidECDSAWithSHA384 oidECDSAWithSHA512

/-- `hashFromSignatureAlgorithm`. -/
def hashFromSignatureAlgorithm : SignatureAlgorithm → Except Error Hash :=
  ecdsaSwitch sha256 sha384 sha512

theorem ecdsaSwitch_of_not_mem {β : Type} {a b c : β} {alg : SignatureAlgorithm}
    (h : alg ∉ ecdsaAlgorithms) :
    ecdsaSwitch a b c alg = .error (.errorf "unsupported signature algorithm: %v") := by
  simp only [ecdsaAlgorithms, List.mem_cons, List.mem_singleton, List.not_mem_nil, or_false,
    not_or] at h
  simp [ecdsaSwitch, h]

/-- The hash each ecdsa-with-SHA2 object identifier of RFC 5758 names. -/
def rfc5758Hash : ObjectIdentifier → Option Hash
  | [1, 2, 840, 10045, 4, 3, 2] => some sha256
  | [1, 2, 840, 10045, 4, 3, 3] => some sha384
  | [1, 2, 840, 10045, 4, 3, 4] => some sha512
  | _ => none

theorem objectIdentifierContents_ecdsa {last : Nat} (h₀ : 0 < last) (h : last < 128) :
    objectIdentifierContents [1, 2, 840, 10045, 4, 3, (last : Int)] =
      some [0x2a, 0x86, 0x48, 0xce, 0x3d, 0x04, 0x03, UInt8.ofNat last] := by
  have hd : Nat.digits 128 last = [last] := by
    rw [Nat.digits_def' (by norm_num) h₀, Nat.div_eq_of_lt h, Nat.digits_zero, Nat.mod_eq_of_lt h]
  rw [show ([1, 2, 840, 10045, 4, 3, (last : Int)] : ObjectIdentifier) =
    ((1 : Nat) : Int) :: ((2 : Nat) : Int) :: [840, 10045, 4, 3, last].map fun n : Nat => (n : Int)
    from rfl, objectIdentifierContents_natCast (by decide) (by decide) (by norm_num)]
  norm_num [base128, Nat.digits_def', hd]
  decide

/-- For each supported algorithm, the identifier `EndorseCert` writes names the hash it signs
with, and reads back from its encoding. -/
theorem ecdsa_oid_hash {alg : SignatureAlgorithm} (h : alg ∈ ecdsaAlgorithms) :
    ∃ oid hash c, oidFromSignatureAlgorithm alg = .ok oid ∧
      hashFromSignatureAlgorithm alg = .ok hash ∧ rfc5758Hash oid = some hash ∧
      objectIdentifierContents oid = some c ∧ c.length < 2 ^ 63 ∧
      parseObjectIdentifier c = some oid := by
  simp only [ecdsaAlgorithms, List.mem_cons, List.mem_singleton, List.not_mem_nil,
    or_false] at h
  rcases h with rfl | rfl | rfl
  · exact ⟨_, _, _, rfl, rfl, rfl, objectIdentifierContents_ecdsa (by decide) (by decide), by decide,
      by decide⟩
  · exact ⟨_, _, _, rfl, rfl, rfl, objectIdentifierContents_ecdsa (by decide) (by decide), by decide,
      by decide⟩
  · exact ⟨_, _, _, rfl, rfl, rfl, objectIdentifierContents_ecdsa (by decide) (by decide), by decide,
      by decide⟩

/-! ## EndorseCert -/

/-- `EndorseCertParams`. Modelled from the spec: the label of the signing key and the signature
algorithm. -/
structure EndorseCertParams where
  keyLabel : String
  signatureAlgorithm : SignatureAlgorithm

/-- The body of `EndorseCert` on the borrowed session. `asn1.Marshal(sig)` cannot fail on two
integers, so its error branch is left out. -/
def endorseCertBody (tbs : Bytes) (params : EndorseCertParams) (session : Session) :
    HsmM Bytes := do
  let keyID ← wrapError (getKeyIDByLabel session .privateKey params.keyLabel)
    (internal "fail to find key with label: %q, error: %v")
  let key ← call (.findPrivateKey session keyID) fun _ =>
    internal "failed to find key object %q: %v"
  let hash ← ofExcept <| (hashFromSignatureAlgorithm params.signatureAlgorithm).mapError fun _ =>
    internal "failed to get hash from signature algorithm: %v"
  let sig ← call (.signECDSA key hash tbs) fun _ => internal "failed to sign: %v"
  let s := encodeSignature sig.1 sig.2
  let sigType ← ofExcept <| (oidFromSignatureAlgorithm params.signatureAlgorithm).mapError
    fun _ => internal "failed to get signature algorithm OID: %v"
  ofExcept <| (marshalCertificate tbs sigType s).mapError fun _ =>
    internal "failed to marshal certificate: %v"

/-- `EndorseCert`. -/
def endorseCert (tbs : Bytes) (params : EndorseCertParams) : SpmM Bytes :=
  withSession (endorseCertBody tbs params)

variable {tbs : Bytes} {params : EndorseCertParams} {session : Session}

/-- A successful run of the body: the key lookup, `FindPrivateKey`, `SignECDSA`, and the
certificate marshalled from the answer. -/
theorem runs_endorseCertBody_ok {t : Trace} {cert : Bytes}
    (h : Runs (endorseCertBody tbs params session).run t (.ok cert)) :
    ∃ obj keyID key hash rb sb oid,
      t = lookupTrace session .privateKey params.keyLabel obj keyID ++
        [⟨.findPrivateKey session keyID, .ok key⟩, ⟨.signECDSA key hash tbs, .ok (rb, sb)⟩] ∧
      hashFromSignatureAlgorithm params.signatureAlgorithm = .ok hash ∧
      oidFromSignatureAlgorithm params.signatureAlgorithm = .ok oid ∧
      marshalCertificate tbs oid (encodeSignature rb sb) = .ok cert := by
  rcases runs_wrapError_bind_iff.1 h with ⟨_, -, he⟩ | ⟨_, -, he⟩ | ⟨t₁, t₂, keyID, rfl, h₁, h₂⟩
  · cases he
  · cases he
  rcases runs_getKeyIDByLabel h₁ with ⟨_, he⟩ | ⟨_, he, obj, rfl⟩
  · cases he
  cases he
  obtain ⟨_, _, he⟩ | ⟨key, t₃, rfl, h₃⟩ := runs_call_bind_iff.1 h₂
  · cases he
  obtain ⟨_, -, -, he⟩ | ⟨hash, hh, h₄⟩ := runs_ofExcept_bind_iff.1 h₃
  · cases he
  obtain ⟨_, _, he⟩ | ⟨⟨rb, sb⟩, t₅, rfl, h₅⟩ := runs_call_bind_iff.1 h₄
  · cases he
  obtain ⟨_, -, -, he⟩ | ⟨oid, ho, h₆⟩ := runs_ofExcept_bind_iff.1 h₅
  · cases he
  obtain ⟨rfl, hc⟩ := runs_ofExcept_iff.1 h₆
  rw [eq_comm, mapError_eq_ok_iff] at hc
  rw [mapError_eq_ok_iff] at hh ho
  exact ⟨obj, keyID, key, hash, rb, sb, oid, by simp [lookupTrace], hh, ho, hc⟩

theorem endorseCert_layout (tbs : Bytes) (params : EndorseCertParams) {e : Element}
    (htbs : parseElement tbs = some (e, [])) (hlen : tbs.length < 2 ^ 63)
    (halg : params.signatureAlgorithm ∈ ecdsaAlgorithms) {t : SpmTrace} {cert : Bytes}
    (h : Runs (endorseCert tbs params).run t (.ok cert)) :
    ∃ key hash rb sb, (⟨.pk11 (.signECDSA key hash tbs), .ok (rb, sb)⟩ : Event Eff Eff.Resp) ∈ t ∧
      (∀ key' hash' data resp,
        (⟨.pk11 (.signECDSA key' hash' data), resp⟩ : Event Eff Eff.Resp) ∈ t →
          key' = key ∧ hash' = hash ∧ data = tbs ∧ resp = .ok (rb, sb)) ∧
      hashFromSignatureAlgorithm params.signatureAlgorithm = .ok hash ∧
      ∃ oid, oidFromSignatureAlgorithm params.signatureAlgorithm = .ok oid ∧
        rfc5758Hash oid = some hash ∧ (rb.length < 2 ^ 63 → sb.length < 2 ^ 63 →
          parseCertificate cert = some (tbs, oid, encodeSignature rb sb)) := by
  obtain ⟨s, t', rfl, hb⟩ := runs_withSession_iff.1 h
  obtain ⟨obj, keyID, key, hash, rb, sb, oid, rfl, hh, ho, hm⟩ := runs_endorseCertBody_ok hb
  obtain ⟨oid', hash', c, ho', hh', hnamed, hc, hcl, hoid⟩ := ecdsa_oid_hash halg
  rw [ho] at ho'; cases ho'
  rw [hh] at hh'; cases hh'
  have hlenSig := length_encodeSignature_le rb sb
  refine ⟨key, hash, rb, sb, by simp [lookupTrace, liftEvent], fun key' hash' data resp hmem => ?_,
    hh, oid, ho, hnamed,
    fun hr hs => parseCertificate_marshalCertificate htbs hlen hc hcl hoid (by omega) hm⟩
  simpa [lookupTrace, liftEvent, and_assoc] using hmem

theorem endorseCert_layout_sha256 : ∃ t cert,
    Runs (endorseCert [0x30, 0] ⟨"KCAPriv", ecdsaWithSHA256⟩).run t (.ok cert) ∧
      (⟨.pk11 (.signECDSA ⟨0⟩ sha256 [0x30, 0]), .ok ([1], [0x80])⟩ : Event Eff Eff.Resp) ∈ t ∧
      hashFromSignatureAlgorithm ecdsaWithSHA256 = .ok sha256 ∧
      ∃ oid, oidFromSignatureAlgorithm ecdsaWithSHA256 = .ok oid ∧ rfc5758Hash oid = some sha256 ∧
        parseCertificate cert = some ([0x30, 0], oid, encodeSignature [1] [0x80]) := by
  have run : Runs (endorseCert [0x30, 0] ⟨"KCAPriv", ecdsaWithSHA256⟩).run
      [⟨.getHandle, ⟨⟨0⟩, 0⟩⟩,
        ⟨.pk11 (.findKeyByLabel ⟨⟨0⟩, 0⟩ .privateKey "KCAPriv"), .ok ⟨0⟩⟩,
        ⟨.pk11 (.uid ⟨0⟩), .ok (some [1])⟩,
        ⟨.pk11 (.findPrivateKey ⟨⟨0⟩, 0⟩ [1]), .ok ⟨0⟩⟩,
        ⟨.pk11 (.signECDSA ⟨0⟩ sha256 [0x30, 0]), .ok ([1], [0x80])⟩,
        ⟨.release ⟨⟨0⟩, 0⟩, ()⟩] _ :=
    .step _ (.step _ (.step _ (.step _ (.step _ (.step _ (.pure _))))))
  simp only [marshalCertificate, algorithmIdentifier, oidFromSignatureAlgorithm, ecdsaSwitch,
    if_true, Except.mapError, oidECDSAWithSHA256, objectIdentifierContents_ecdsa (by decide)
    (by decide : 2 < 128), Option.map_some'] at run
  obtain ⟨key, hash, rb, sb, -, honly, hh, oid, ho, hn, hp⟩ :=
    endorseCert_layout [0x30, 0] ⟨"KCAPriv", ecdsaWithSHA256⟩
      (by decide : parseElement [0x30, 0] = some (⟨sequenceId, []⟩, [])) (by decide) (by decide) run
  obtain ⟨rfl, rfl, -, hresp⟩ := honly ⟨0⟩ sha256 [0x30, 0] (.ok ([1], [0x80])) (by simp)
  cases hresp
  exact ⟨_, _, run, by simp, hh, oid, ho, hn, hp (by decide) (by decide)⟩

/-! ## Unsupported algorithms -/

theorem endorseCert_rejects_unsupported (tbs : Bytes) (params : EndorseCertParams)
    (halg : params.signatureAlgorithm ∉ ecdsaAlgorithms) {t : SpmTrace} {r : Except Exit Bytes}
    (h : Runs (endorseCert tbs params).run t r) :
    (r = .error (internal "fail to find key with label: %q, error: %v") ∨
      r = .error (internal "failed to find key object %q: %v") ∨
      r = .error (internal "failed to get hash from signature algorithm: %v")) ∧
    (∀ key hash data resp,
      (⟨.pk11 (.signECDSA key hash data), resp⟩ : Event Eff Eff.Resp) ∉ t) ∧
    (r = .error (internal "failed to get hash from signature algorithm: %v") →
      ∃ s obj keyID key, t = ⟨.getHandle, s⟩ :: ((lookupTrace s .privateKey params.keyLabel obj keyID ++
        [⟨.findPrivateKey s keyID, .ok key⟩] : Trace).map liftEvent ++ [⟨.release s, ()⟩])) := by
  obtain ⟨s, t', rfl, hb⟩ := runs_withSession_iff.1 h
  simp only [pk11_mem_withSession_trace]
  rcases runs_wrapError_bind_iff.1 hb with ⟨e, he, rfl⟩ | ⟨msg, he, -⟩ |
    ⟨t₁, t₂, keyID, rfl, h₁, h₂⟩
  · refine ⟨.inl rfl, fun key hash data resp hmem => ?_, fun h => by simp [internal] at h⟩
    rcases calls_of_runs_getKeyIDByLabel he _ hmem with hc | ⟨_, hc⟩ <;> cases hc
  · rcases runs_getKeyIDByLabel he with ⟨_, he'⟩ | ⟨_, he', -⟩ <;> cases he'
  rcases runs_getKeyIDByLabel h₁ with ⟨_, he⟩ | ⟨_, he, obj, rfl⟩
  · cases he
  cases he
  obtain ⟨_, rfl, rfl⟩ | ⟨key, t₃, rfl, h₃⟩ := runs_call_bind_iff.1 h₂
  · exact ⟨.inr (.inl rfl), by simp [lookupTrace], fun h => by simp [internal] at h⟩
  simp only [hashFromSignatureAlgorithm, ecdsaSwitch_of_not_mem halg, Except.mapError,
    runs_ofExcept_bind_iff] at h₃
  obtain ⟨_, he, rfl, rfl⟩ | ⟨_, he, -⟩ := h₃ <;> cases he
  exact ⟨.inr (.inr rfl), by simp [lookupTrace], fun _ => ⟨s, obj, keyID, key, by simp⟩⟩

theorem endorseCert_rejects_unsupported_zero : ∃ t r,
    Runs (endorseCert [] ⟨"KCAPriv", ⟨0⟩⟩).run t r ∧
    (r = .error (internal "fail to find key with label: %q, error: %v") ∨
      r = .error (internal "failed to find key object %q: %v") ∨
      r = .error (internal "failed to get hash from signature algorithm: %v")) ∧
    (∀ key hash data resp,
      (⟨.pk11 (.signECDSA key hash data), resp⟩ : Event Eff Eff.Resp) ∉ t) ∧
    (r = .error (internal "failed to get hash from signature algorithm: %v") →
      ∃ s obj keyID key, t = ⟨.getHandle, s⟩ :: ((lookupTrace s .privateKey "KCAPriv" obj keyID ++
        [⟨.findPrivateKey s keyID, .ok key⟩] : Trace).map liftEvent ++ [⟨.release s, ()⟩])) :=
  have run : Runs (endorseCert [] ⟨"KCAPriv", ⟨0⟩⟩).run
      [⟨.getHandle, ⟨⟨0⟩, 0⟩⟩,
        ⟨.pk11 (.findKeyByLabel ⟨⟨0⟩, 0⟩ .privateKey "KCAPriv"), .ok ⟨0⟩⟩,
        ⟨.pk11 (.uid ⟨0⟩), .ok (some [1])⟩,
        ⟨.pk11 (.findPrivateKey ⟨⟨0⟩, 0⟩ [1]), .ok ⟨0⟩⟩,
        ⟨.release ⟨⟨0⟩, 0⟩, ()⟩] _ :=
    .step _ (.step _ (.step _ (.step _ (.step _ (.pure _)))))
  ⟨_, _, run, endorseCert_rejects_unsupported [] ⟨"KCAPriv", ⟨0⟩⟩ (by decide) run⟩

/-- With an algorithm `EndorseCert` does not support, it looks the key up on the HSM before it
fails, and fails with an Internal error. -/
theorem endorseCert_calls_hsm_before_rejecting :
    Runs (endorseCert [] ⟨"KCAPriv", ⟨0⟩⟩).run
      [⟨.getHandle, ⟨⟨0⟩, 0⟩⟩,
        ⟨.pk11 (.findKeyByLabel ⟨⟨0⟩, 0⟩ .privateKey "KCAPriv"), .ok ⟨0⟩⟩,
        ⟨.pk11 (.uid ⟨0⟩), .ok (some [1])⟩,
        ⟨.pk11 (.findPrivateKey ⟨⟨0⟩, 0⟩ [1]), .ok ⟨0⟩⟩,
        ⟨.release ⟨⟨0⟩, 0⟩, ()⟩]
      (.error (internal "failed to get hash from signature algorithm: %v")) :=
  .step _ (.step _ (.step _ (.step _ (.step _ (.pure _)))))

end SecureElement
