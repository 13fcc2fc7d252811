import SecureElement.Endorse
import SecureElement.KeyGen
import SecureElement.Methods

/-!
# How many calls each method makes

Every round trip to the HSM is a call on the binding. `CallsAtMost n x` says that every run of `x`,
whatever the HSM answers, makes at most `n` calls; it has one rule per combinator (`bind` adds the
bounds, a loop multiplies its body's bound by the number of elements), and each function's bound is
assembled from its body.

* `hsm_calls_bounded`: a call of each method takes its session, makes at most as many pk11 calls
  as its body has, and releases it: four for `DeriveAndWrapTransportSecret` and `EndorseCert`, one
  for `VerifySession` and `GenerateRandom`, three plus five per request for
  `GenerateKeyPairAndCert`, three per request for `GenerateSymmetricKeys`; and `NewHSM` makes at
  most two calls, plus two per session it opens and two per key label it looks up.
-/

namespace SecureElement

open Prog

variable {E : Type} {R : E → Type} {α β : Type} {n m : Nat}

/-- Every run of `p`, whatever the answers, makes at most `n` calls. -/
def Prog.CallsAtMost (n : Nat) (p : Prog E R α) : Prop := ∀ t a, Runs p t a → t.length ≤ n

theorem Prog.CallsAtMost.mono {p : Prog E R α} (h : p.CallsAtMost n) (hnm : n ≤ m) :
    p.CallsAtMost m :=
  fun t a hr => (h t a hr).trans hnm

theorem Prog.CallsAtMost.bind {p : Prog E R α} {f : α → Prog E R β} (hp : p.CallsAtMost n)
    (hf : ∀ a, (f a).CallsAtMost m) : (p.bind f).CallsAtMost (n + m) := by
  intro t b hr
  obtain ⟨t₁, t₂, a, rfl, h₁, h₂⟩ := runs_bind_iff.1 hr
  have := hp t₁ a h₁
  have := hf a t₂ b h₂
  simp only [List.length_append]
  omega

theorem Prog.callsAtMost_pure (a : α) (n : Nat) : (Prog.pure a : Prog E R α).CallsAtMost n :=
  fun _ _ hr => by
    obtain ⟨rfl, -⟩ := runs_pure_iff.1 hr
    exact Nat.zero_le _

theorem Prog.callsAtMost_step {c : E} {k : R c → Prog E R α} (hk : ∀ r, (k r).CallsAtMost n) :
    (Prog.step c k).CallsAtMost (n + 1) := by
  intro _ a hr
  cases hr with
  | step r hr => exact Nat.succ_le_succ (hk r _ a hr)

/-- Every run of `x`, whatever the HSM answers, makes at most `n` calls on the binding. -/
def CallsAtMost (n : Nat) (x : HsmM α) : Prop := x.run.CallsAtMost n

theorem CallsAtMost.mono {x : HsmM α} (h : CallsAtMost n x) (hnm : n ≤ m) : CallsAtMost m x :=
  Prog.CallsAtMost.mono h hnm

theorem CallsAtMost.bind {x : HsmM α} {f : α → HsmM β} (hx : CallsAtMost n x)
    (hf : ∀ a, CallsAtMost m (f a)) : CallsAtMost (n + m) (x >>= f) := by
  change (x.run.bind (ExceptT.bindCont f)).CallsAtMost (n + m)
  refine Prog.CallsAtMost.bind hx fun r => ?_
  cases r with
  | error e => exact Prog.callsAtMost_pure _ _
  | ok a => exact hf a

/-- `bind` with the sum bounded: the form to use where the bound is fixed by the statement. -/
theorem CallsAtMost.bind_le {x : HsmM α} {f : α → HsmM β} {k : Nat} (hx : CallsAtMost n x)
    (hf : ∀ a, CallsAtMost m (f a)) (h : n + m ≤ k) : CallsAtMost k (x >>= f) :=
  (hx.bind hf).mono h

theorem callsAtMost_pure (a : α) (n : Nat) : CallsAtMost n (pure a : HsmM α) :=
  Prog.callsAtMost_pure _ _

theorem callsAtMost_throw (e : Exit) (n : Nat) : CallsAtMost n (throw e : HsmM α) :=
  Prog.callsAtMost_pure _ _

theorem callsAtMost_ofExcept (x : Except Exit α) (n : Nat) : CallsAtMost n (ofExcept x) :=
  Prog.callsAtMost_pure _ _

theorem callsAtMost_call (c : Prim) (f : Pk11Error → Exit) : CallsAtMost 1 (call c f) :=
  Prog.callsAtMost_step fun _ => Prog.callsAtMost_pure _ 0

theorem callsAtMost_pk11 (c : Prim) : CallsAtMost 1 (pk11 c) := callsAtMost_call c _

theorem callsAtMost_callIgnoringError (c : Prim) : CallsAtMost 1 (callIgnoringError c) :=
  Prog.callsAtMost_step fun _ => Prog.callsAtMost_pure _ 0

theorem CallsAtMost.wrapError {x : HsmM α} (hx : CallsAtMost n x) (err : Exit) :
    CallsAtMost n (wrapError x err) :=
  (Prog.CallsAtMost.bind hx fun _ => Prog.callsAtMost_pure _ 0).mono (Nat.add_zero n).le

theorem CallsAtMost.collect {f : α → HsmM β} {as : List α}
    (hf : ∀ a ∈ as, CallsAtMost n (f a)) (acc : List β) :
    CallsAtMost (as.length * n) (collect f as acc) := by
  induction as generalizing acc with
  | nil => exact callsAtMost_pure _ _
  | cons a as ih =>
    refine ((hf a (List.mem_cons_self _ _)).bind fun b =>
      ih (fun a' ha' => hf a' (List.mem_cons_of_mem _ ha')) _).mono ?_
    rw [List.length_cons, Nat.succ_mul, Nat.add_comm]

/-! ## The bodies

Each bound is the sum its body's binds give; the outer `mono` leaves the bind rules free to
compute it. -/

variable {session : Session}

theorem callsAtMost_getKeyIDByLabel {cls : ClassAttribute} {label : String} :
    CallsAtMost 2 (getKeyIDByLabel session cls label) :=
  (callsAtMost_pk11 _).bind_le (fun _ => (callsAtMost_pk11 _).bind fun
    | none => callsAtMost_throw _ 0
    | some _ => callsAtMost_pure _ 0) le_rfl

theorem callsAtMost_findKeyIDs {cls : ClassAttribute} {format : String} (labels : List String)
    (keys : KeyMap) :
    CallsAtMost (2 * labels.length) (findKeyIDs session cls format labels keys) := by
  induction labels generalizing keys with
  | nil => exact callsAtMost_pure _ _
  | cons label labels ih =>
    refine (callsAtMost_getKeyIDByLabel.wrapError _).bind_le (fun _ => ih _) ?_
    rw [List.length_cons]
    omega

theorem callsAtMost_loadKeyIDs (cfg : HSMConfig) :
    CallsAtMost (2 * (cfg.symmetricKeys.length + cfg.privateKeys.length))
      (loadKeyIDs cfg session) :=
  (callsAtMost_findKeyIDs _ _).bind_le (fun _ => (callsAtMost_findKeyIDs _ _).bind fun _ =>
    callsAtMost_pure _ 0) (by omega)

theorem callsAtMost_deriveTransportSecret (h : HSM) (deviceId : Bytes) :
    CallsAtMost 2 (h.deriveTransportSecret session deviceId) := by
  unfold HSM.deriveTransportSecret
  cases h.symmetricKeys "KT" with
  | none => exact callsAtMost_throw _ _
  | some _ => exact (callsAtMost_pk11 _).bind_le (fun _ => callsAtMost_pk11 _) le_rfl

theorem callsAtMost_deriveAndWrapTransportSecretBody (h : HSM) (deviceId : Bytes) :
    CallsAtMost 4 (h.deriveAndWrapTransportSecretBody deviceId session) := by
  unfold HSM.deriveAndWrapTransportSecretBody
  cases h.symmetricKeys "KG" with
  | none => exact callsAtMost_throw _ _
  | some _ =>
    exact (callsAtMost_pk11 _).bind_le (fun _ => (callsAtMost_deriveTransportSecret h deviceId).bind
      fun _ => (callsAtMost_pk11 _).bind fun _ => callsAtMost_pure _ 0) le_rfl

theorem callsAtMost_verifySessionBody (h : HSM) : CallsAtMost 1 (h.verifySessionBody session) := by
  unfold HSM.verifySessionBody
  cases h.privateKeys "KCAPriv" with
  | none => exact callsAtMost_throw _ _
  | some _ => exact (callsAtMost_call _ _).bind_le (fun _ => callsAtMost_pure _ 0) le_rfl

theorem callsAtMost_seedOf (h : HSM) (useHighSecuritySeed : Bool) :
    CallsAtMost 1 (h.seedOf session useHighSecuritySeed) := by
  unfold HSM.seedOf HSM.findSeed
  split <;> split
  all_goals first
    | exact callsAtMost_throw _ _
    | exact callsAtMost_call _ _

theorem callsAtMost_deref {α : Type} (p : Option α) : CallsAtMost 0 (deref p) := by
  cases p with
  | none => exact callsAtMost_throw _ _
  | some a => exact callsAtMost_pure _ _

theorem callsAtMost_generateSymmetricKey (h : HSM) (cShake128 : CShake128)
    (p : Option SymmetricKeygenParams) :
    CallsAtMost 3 (h.generateSymmetricKey cShake128 session p) :=
  (callsAtMost_deref p).bind_le (fun _ => (callsAtMost_seedOf h _).bind fun _ =>
    (callsAtMost_call _ _).bind fun _ => (callsAtMost_call _ _).bind fun
      | .other _ => callsAtMost_throw _ 0
      | .aesKey _ => by dsimp only; split <;> exact callsAtMost_pure _ 0) le_rfl

theorem callsAtMost_generateKeyPair (k : KeyParams) :
    CallsAtMost 1 (generateKeyPair session k) := by
  cases k with
  | rsa _ | curve _ => exact callsAtMost_call _ _
  | other _ => exact callsAtMost_throw _ _

theorem callsAtMost_issueCert {caCert : Certificate} {ca : Signer} {wi : SecretKey}
    (p : SigningParams) : CallsAtMost 5 (issueCert session caCert ca wi p) :=
  (callsAtMost_generateKeyPair _).bind_le (fun _ => (callsAtMost_call _ _).bind fun _ =>
    (callsAtMost_call _ _).bind fun _ => (callsAtMost_call _ _).bind fun _ =>
      (callsAtMost_callIgnoringError _).bind fun _ => callsAtMost_pure _ 0) le_rfl

theorem callsAtMost_generateKeyPairAndCertBody (h : HSM) (caCert : Certificate)
    (params : List SigningParams) :
    CallsAtMost (3 + 5 * params.length) (h.generateKeyPairAndCertBody caCert params session) := by
  unfold HSM.generateKeyPairAndCertBody
  cases h.privateKeys "KCAPriv" with
  | none => exact callsAtMost_throw _ _
  | some _ =>
    cases h.symmetricKeys "KG" with
    | none =>
      exact (callsAtMost_call _ _).bind_le (fun _ => (callsAtMost_call _ _).bind fun _ =>
        callsAtMost_throw _ 0) (by omega)
    | some _ =>
      exact (callsAtMost_call _ _).bind_le (fun _ => (callsAtMost_call _ _).bind fun _ =>
        (callsAtMost_call _ _).bind fun _ =>
          CallsAtMost.collect (fun p _ => callsAtMost_issueCert p) _) (by omega)

theorem callsAtMost_endorseCertBody (tbs : Bytes) (params : EndorseCertParams) :
    CallsAtMost 4 (endorseCertBody tbs params session) :=
  (callsAtMost_getKeyIDByLabel.wrapError _).bind_le (fun _ => (callsAtMost_call _ _).bind fun _ =>
    (callsAtMost_ofExcept _ 0).bind fun _ => (callsAtMost_call _ _).bind fun _ =>
      (callsAtMost_ofExcept _ 0).bind fun _ => callsAtMost_ofExcept _ 0) le_rfl

/-- A call that borrows a session makes its body's calls and two on the queue. -/
theorem callsAtMost_withSession {body : Session → HsmM α} (hb : ∀ s, CallsAtMost n (body s)) :
    (withSession body).run.CallsAtMost (n + 2) := by
  intro t r h
  obtain ⟨s, t', rfl, hs⟩ := runs_withSession_iff.1 h
  have := hb s t' r hs
  simp only [List.length_cons, List.length_append, List.length_map, List.length_nil]
  omega

/-! ## NewHSM -/

variable {toks : List Token} {tokSlot : Int} {hsmPW : String}

theorem callsAtMost_openSessionsLoop (i n : Nat) (q : SessionQueue) :
    CallsAtMost (2 * n) (openSessionsLoop toks tokSlot hsmPW i n q) := by
  induction n generalizing i q with
  | zero => exact callsAtMost_pure _ _
  | succ n ih =>
    exact (callsAtMost_ofExcept _ 0).bind_le (fun _ => (callsAtMost_call _ _).bind fun _ =>
      (callsAtMost_call _ _).bind fun _ => (callsAtMost_ofExcept _ 0).bind fun _ => ih _ _)
        (by omega)

theorem callsAtMost_openSessions (hsmType : HSMType) (soPath : String) (numSessions : Int) :
    CallsAtMost (2 + 2 * numSessions.toNat)
      (openSessions hsmType soPath hsmPW tokSlot numSessions) := by
  refine (callsAtMost_call _ _).bind_le (fun _ => (callsAtMost_call _ _).bind fun _ =>
    (?_ : CallsAtMost (2 * numSessions.toNat) _)) (by omega)
  split
  · exact callsAtMost_throw _ _
  · exact (callsAtMost_ofExcept _ 0).bind_le (fun _ => callsAtMost_openSessionsLoop _ _ _)
      (Nat.zero_add _).le

theorem callsAtMost_onQueue_withSession {body : Session → HsmM α}
    (hb : ∀ s, CallsAtMost n (body s)) (q : SessionQueue) :
    ((withSession body).run.onQueue q).CallsAtMost n := by
  cases hq : q.getHandle with
  | none => rw [onQueue_withSession_of_empty hq]; exact Prog.callsAtMost_pure _ _
  | some p =>
    rw [onQueue_withSession_of_getHandle hq]
    exact Prog.CallsAtMost.mono (Prog.CallsAtMost.bind (hb p.1) fun _ => Prog.callsAtMost_pure _ 0)
      le_rfl

theorem callsAtMost_newHSM (cfg : HSMConfig) :
    (newHSM cfg).CallsAtMost (2 + 2 * cfg.numSessions.toNat +
      2 * (cfg.symmetricKeys.length + cfg.privateKeys.length)) := by
  refine Prog.CallsAtMost.bind (callsAtMost_openSessions _ _ _) fun r => ?_
  rcases r with (_ | _) | sq
  · exact Prog.callsAtMost_pure _ _
  · exact Prog.callsAtMost_pure _ _
  · exact Prog.CallsAtMost.mono (Prog.CallsAtMost.bind
      (callsAtMost_onQueue_withSession (fun _ => callsAtMost_loadKeyIDs cfg) sq) fun r => by
        rcases r with _ | _ <;> exact Prog.callsAtMost_pure _ 0) le_rfl

/-! ## Every method -/

/-- However the HSM answers, a call of a method makes at most as many pk11 calls as its body has,
between taking its session and releasing it, and `NewHSM` at most two, plus two per session and
two per key label: linear in the number of requests for the two loops, fixed for the others. -/
theorem hsm_calls_bounded (h : HSM) (cShake128 : CShake128) :
    (∀ deviceId, (h.deriveAndWrapTransportSecret deviceId).run.CallsAtMost (4 + 2)) ∧
    h.verifySession.run.CallsAtMost (1 + 2) ∧
    (∀ length, (generateRandom length).run.CallsAtMost (1 + 2)) ∧
    (∀ caCert params,
      (h.generateKeyPairAndCert caCert params).run.CallsAtMost (3 + 5 * params.length + 2)) ∧
    (∀ params,
      (h.generateSymmetricKeys cShake128 params).run.CallsAtMost (3 * params.length + 2)) ∧
    (∀ tbs params, (endorseCert tbs params).run.CallsAtMost (4 + 2)) ∧
    ∀ cfg, (newHSM cfg).CallsAtMost
      (2 + 2 * cfg.numSessions.toNat + 2 * (cfg.symmetricKeys.length + cfg.privateKeys.length)) :=
  ⟨fun _ => callsAtMost_withSession fun _ => callsAtMost_deriveAndWrapTransportSecretBody h _,
    callsAtMost_withSession fun _ => callsAtMost_verifySessionBody h,
    fun _ => callsAtMost_withSession fun _ => callsAtMost_pk11 _,
    fun _ _ => callsAtMost_withSession fun _ => callsAtMost_generateKeyPairAndCertBody h _ _,
    fun _ => callsAtMost_withSession fun _ =>
      (CallsAtMost.collect (fun p _ => callsAtMost_generateSymmetricKey h cShake128 p) _).mono
        (Nat.mul_comm _ _).le,
    fun _ _ => callsAtMost_withSession fun _ => callsAtMost_endorseCertBody _ _,
    callsAtMost_newHSM⟩

end SecureElement
