import SecureElement.Pool

/-!
# Each call works on the session it holds

`ExecuteCmd` runs its command "with a session handle in a thread safe way", and every other
method takes its session the same way: `getHandle`, then `defer release()`. A PKCS#11 session is
used by one call at a time when each call makes its session calls on the session it took, and
no two calls hold the same session.

`Prim.session` is the session a call names (a call on a key object names none), and
`Confined s x` says that every call `x` can make names `s` or no session, with one rule per
combinator and one lemma per method body. A call of the pool keeps `Caller.Confined` at every
step of its own and at every step of another call (`PoolStep.confined`), so along every run.

* `hsmBuilt_calls_use_own_session`: on the HSM `NewHSM` builds, under any interleaving of any
  calls, every call of a method other than `ExecuteCmd`, and every `ExecuteCmd` whose command
  works on the session it is given, makes each call that names a session on the session it
  holds: one that `NewHSM` opened and logged in as `NormalUser`, and that no other call holds.
-/

namespace SecureElement

open Prog Relation

/-- The session a call works on, for the calls made on a session. `OpenSession` is made on a
token, and a call on a key object names no session: the object was found on one. -/
def Prim.session : Prim → Option Session
  | .login s .. => some s
  | .findKeyByLabel s .. => some s
  | .findSecretKey s _ => some s
  | .findPrivateKey s _ => some s
  | .generateRSA s .. => some s
  | .generateECDSA s .. => some s
  | .destroyKeyPairObject s _ => some s
  | .generateRandom s _ => some s
  | _ => none

variable {α β : Type} {s : Session}

/-- Every call `p` can make names the session `s` or no session. -/
inductive Prog.Confined (s : Session) : Prog Prim Prim.Resp α → Prop
  | pure (a : α) : Prog.Confined s (.pure a)
  | step {c : Prim} {k : c.Resp → Prog Prim Prim.Resp α}
      (hc : c.session = none ∨ c.session = some s) (hk : ∀ r, Prog.Confined s (k r)) :
      Prog.Confined s (.step c k)

theorem Prog.Confined.bind {p : Prog Prim Prim.Resp α} {f : α → Prog Prim Prim.Resp β}
    (hp : p.Confined s) (hf : ∀ a, (f a).Confined s) : (p.bind f).Confined s := by
  induction hp with
  | pure a => exact hf a
  | step hc _ ih => exact .step hc ih

/-- Every call `x` can make names the session `s` or no session. -/
def Confined (s : Session) (x : HsmM α) : Prop := x.run.Confined s

theorem Confined.bind {x : HsmM α} {f : α → HsmM β} (hx : Confined s x)
    (hf : ∀ a, Confined s (f a)) : Confined s (x >>= f) := by
  change (x.run.bind (ExceptT.bindCont f)).Confined s
  refine Prog.Confined.bind hx fun r => ?_
  cases r with
  | error e => exact .pure _
  | ok a => exact hf a

theorem confined_pure (a : α) : Confined s (pure a : HsmM α) := .pure _

theorem confined_throw (e : Exit) : Confined s (throw e : HsmM α) := .pure _

theorem confined_ofExcept (x : Except Exit α) : Confined s (ofExcept x) := .pure _

theorem confined_call {c : Prim} (hc : c.session = none ∨ c.session = some s)
    (f : Pk11Error → Exit) : Confined s (call c f) :=
  .step hc fun _ => .pure _

theorem confined_pk11 {c : Prim} (hc : c.session = none ∨ c.session = some s) :
    Confined s (pk11 c) :=
  confined_call hc _

theorem confined_callIgnoringError {c : Prim} (hc : c.session = none ∨ c.session = some s) :
    Confined s (callIgnoringError c) :=
  .step hc fun _ => .pure _

theorem Confined.wrapError {x : HsmM α} (hx : Confined s x) (err : Exit) :
    Confined s (wrapError x err) :=
  Prog.Confined.bind hx fun _ => .pure _

theorem Confined.collect {f : α → HsmM β} {as : List α} (hf : ∀ a ∈ as, Confined s (f a))
    (acc : List β) : Confined s (collect f as acc) := by
  induction as generalizing acc with
  | nil => exact confined_pure _
  | cons a as ih =>
    exact (hf a (List.mem_cons_self _ _)).bind fun b =>
      ih (fun a' ha' => hf a' (List.mem_cons_of_mem _ ha')) _

/-! ## The method bodies -/

variable {session : Session}

theorem confined_getKeyIDByLabel {cls : ClassAttribute} {label : String} :
    Confined session (getKeyIDByLabel session cls label) :=
  (confined_pk11 (.inr (by rfl))).bind fun _ => (confined_pk11 (.inl (by rfl))).bind fun
    | none => confined_throw _
    | some _ => confined_pure _

theorem confined_findKeyIDs {cls : ClassAttribute} {format : String} (labels : List String)
    (keys : KeyMap) : Confined session (findKeyIDs session cls format labels keys) := by
  induction labels generalizing keys with
  | nil => exact confined_pure _
  | cons label labels ih => exact (confined_getKeyIDByLabel.wrapError _).bind fun _ => ih _

theorem confined_loadKeyIDs (cfg : HSMConfig) : Confined session (loadKeyIDs cfg session) :=
  (confined_findKeyIDs _ _).bind fun _ => (confined_findKeyIDs _ _).bind fun _ =>
    confined_pure _

theorem confined_deriveTransportSecret (h : HSM) (deviceId : Bytes) :
    Confined session (h.deriveTransportSecret session deviceId) := by
  unfold HSM.deriveTransportSecret
  cases h.symmetricKeys "KT" with
  | none => exact confined_throw _
  | some _ => exact (confined_pk11 (.inr (by rfl))).bind fun _ => confined_pk11 (.inl (by rfl))

theorem confined_deriveAndWrapTransportSecretBody (h : HSM) (deviceId : Bytes) :
    Confined session (h.deriveAndWrapTransportSecretBody deviceId session) := by
  unfold HSM.deriveAndWrapTransportSecretBody
  cases h.symmetricKeys "KG" with
  | none => exact confined_throw _
  | some _ =>
    exact (confined_pk11 (.inr (by rfl))).bind fun _ =>
      (confined_deriveTransportSecret h deviceId).bind fun _ =>
        (confined_pk11 (.inl (by rfl))).bind fun _ => confined_pure _

theorem confined_verifySessionBody (h : HSM) : Confined session (h.verifySessionBody session) := by
  unfold HSM.verifySessionBody
  cases h.privateKeys "KCAPriv" with
  | none => exact confined_throw _
  | some _ => exact (confined_call (.inr (by rfl)) _).bind fun _ => confined_pure _

theorem confined_seedOf (h : HSM) (useHighSecuritySeed : Bool) :
    Confined session (h.seedOf session useHighSecuritySeed) := by
  unfold HSM.seedOf HSM.findSeed
  split <;> split
  all_goals first
    | exact confined_throw _
    | exact confined_call (.inr (by rfl)) _

theorem confined_deref {α : Type} (p : Option α) : Confined session (deref p) := by
  cases p with
  | none => exact confined_throw _
  | some a => exact confined_pure _

theorem confined_generateSymmetricKey (h : HSM) (cShake128 : CShake128)
    (p : Option SymmetricKeygenParams) :
    Confined session (h.generateSymmetricKey cShake128 session p) :=
  (confined_deref p).bind fun _ => (confined_seedOf h _).bind fun _ =>
    (confined_call (.inl (by rfl)) _).bind fun _ => (confined_call (.inl (by rfl)) _).bind fun
      | .other _ => confined_throw _
      | .aesKey _ => by dsimp only; split <;> exact confined_pure _

theorem confined_generateKeyPair (k : KeyParams) :
    Confined session (generateKeyPair session k) := by
  cases k with
  | rsa _ | curve _ => exact confined_call (.inr (by rfl)) _
  | other _ => exact confined_throw _

theorem confined_issueCert {caCert : Certificate} {ca : Signer} {wi : SecretKey}
    (p : SigningParams) : Confined session (issueCert session caCert ca wi p) :=
  (confined_generateKeyPair _).bind fun _ => (confined_call (.inl (by rfl)) _).bind fun _ =>
    (confined_call (.inl (by rfl)) _).bind fun _ => (confined_call (.inl (by rfl)) _).bind fun _ =>
      (confined_callIgnoringError (.inr (by rfl))).bind fun _ => confined_pure _

theorem confined_generateKeyPairAndCertBody (h : HSM) (caCert : Certificate)
    (params : List SigningParams) :
    Confined session (h.generateKeyPairAndCertBody caCert params session) := by
  unfold HSM.generateKeyPairAndCertBody
  cases h.privateKeys "KCAPriv" with
  | none => exact confined_throw _
  | some _ =>
    refine (confined_call (.inr (by rfl)) _).bind fun _ => (confined_call (.inl (by rfl)) _).bind fun _ => ?_
    cases h.symmetricKeys "KG" with
    | none => exact confined_throw _
    | some _ =>
      exact (confined_call (.inr (by rfl)) _).bind fun _ =>
        Confined.collect (fun p _ => confined_issueCert p) _

theorem confined_endorseCertBody (tbs : Bytes) (params : EndorseCertParams) :
    Confined session (endorseCertBody tbs params session) :=
  (confined_getKeyIDByLabel.wrapError _).bind fun _ => (confined_call (.inr (by rfl)) _).bind fun _ =>
    (confined_ofExcept _).bind fun _ => (confined_call (.inl (by rfl)) _).bind fun _ =>
      (confined_ofExcept _).bind fun _ => confined_ofExcept _

/-! ## Calls in the pool -/

/-- The rest of a call that holds `s` and works on it: calls confined to `s`, then the release
of `s`. -/
def HoldingConfined (s : Session) (p : Prog Eff Eff.Resp Unit) : Prop :=
  ∃ (β : Type) (q : Prog Prim Prim.Resp β), q.Confined s ∧
    p = q.liftPk11.bind fun _ => .step (.release s) fun _ => .pure ()

/-- A call that has not taken its session yet, and will work on the one it takes. -/
def FreshConfined (p : Prog Eff Eff.Resp Unit) : Prop :=
  ∃ (β : Type) (body : Session → Prog Prim Prim.Resp β), (∀ s, (body s).Confined s) ∧
    p = .step .getHandle fun s =>
      (body s).liftPk11.bind fun _ => .step (.release s) fun _ => .pure ()

theorem freshConfined_callProg_withSession {body : Session → HsmM α}
    (hb : ∀ s, Confined s (body s)) : FreshConfined (callProg (withSession body)) :=
  ⟨_, fun s => (body s).run, hb, by simp [callProg, withSession, Prog.bind_assoc]⟩

/-- The calls that work only on the session they take: those of every method but an
`ExecuteCmd` whose command works on a session other than the one it is given. -/
def Request.Confined : Request → Prop
  | .executeCmd cmd => ∀ s, SecureElement.Confined s (cmd s)
  | _ => True

theorem freshConfined_request (h : HSM) (cShake128 : CShake128) {req : Request}
    (hreq : req.Confined) : FreshConfined (req.prog h cShake128) := by
  cases req with
  | executeCmd cmd => exact freshConfined_callProg_withSession hreq
  | deriveAndWrapTransportSecret deviceId =>
    exact freshConfined_callProg_withSession fun _ =>
      confined_deriveAndWrapTransportSecretBody h deviceId
  | verifySession => exact freshConfined_callProg_withSession fun _ => confined_verifySessionBody h
  | generateRandom length =>
    exact freshConfined_callProg_withSession fun _ => confined_pk11 (.inr (by rfl))
  | generateKeyPairAndCert caCert params =>
    exact freshConfined_callProg_withSession fun _ =>
      confined_generateKeyPairAndCertBody h caCert params
  | generateSymmetricKeys params =>
    exact freshConfined_callProg_withSession fun _ =>
      Confined.collect (fun p _ => confined_generateSymmetricKey h cShake128 p) _
  | endorseCert tbs params =>
    exact freshConfined_callProg_withSession fun _ => confined_endorseCertBody tbs params
  | newHSMPreamble cfg => exact freshConfined_callProg_withSession fun _ => confined_loadKeyIDs cfg

variable {p : Prog Eff Eff.Resp Unit} {e : Eff} {k : e.Resp → Prog Eff Eff.Resp Unit}

/-- A call holding `s` next makes a call that names `s` or no session, or releases `s`. -/
theorem HoldingConfined.step (hp : HoldingConfined s p) (he : p = .step e k) :
    (∃ c, e = .pk11 c ∧ (c.session = none ∨ c.session = some s) ∧
        ∀ r, HoldingConfined s (k r)) ∨
      (e = .release s ∧ ∀ r, k r = .pure ()) := by
  obtain ⟨β, q, hq, rfl⟩ := hp
  cases hq with
  | pure b =>
    obtain ⟨rfl, hk⟩ := Prog.step.inj he
    exact .inr ⟨rfl, fun r => by rw [← eq_of_heq hk]⟩
  | step hc hq =>
    obtain ⟨rfl, hk⟩ := Prog.step.inj he
    exact .inl ⟨_, rfl, hc, fun r => ⟨β, _, hq r, by rw [← eq_of_heq hk]⟩⟩

theorem FreshConfined.eq_getHandle (hp : FreshConfined p) (he : p = .step e k) :
    e = .getHandle := by
  obtain ⟨β, body, -, rfl⟩ := hp
  exact (Prog.step.inj he).1.symm

theorem FreshConfined.holding {k : Session → Prog Eff Eff.Resp Unit} (hp : FreshConfined p)
    (he : p = .step .getHandle k) (s : Session) : HoldingConfined s (k s) := by
  obtain ⟨β, body, hb, rfl⟩ := hp
  exact ⟨β, body s, hb s, by rw [← eq_of_heq (Prog.step.inj he).2]⟩

/-- A call in flight works on the session it holds: it has not taken one yet, it holds `s` and
works on `s`, or it is done. -/
def Caller.Confined (c : Caller) : Prop :=
  FreshConfined c.prog ∨ (∃ s, c.held = some s ∧ HoldingConfined s c.prog) ∨ c.prog = .pure ()

variable {h : HSM} {cShake128 : CShake128} {st st' : Pool}

/-- A step of call `j` leaves every other call as it is, and keeps call `j` confined when its new
state is. -/
theorem confined_set {cs : List Caller} {i j : Nat} (hj : j < cs.length) {c x : Caller}
    (hc : cs[i]? = some c) (hconf : c.Confined) (hx : j = i → cs[j] = c → x.Confined) :
    ∃ c', (cs.set j x)[i]? = some c' ∧ c'.Confined := by
  by_cases hji : j = i
  · subst hji
    rw [List.getElem?_set_self hj]
    exact ⟨x, rfl, hx rfl (Option.some.inj ((List.getElem?_eq_getElem hj).symm.trans hc))⟩
  · exact ⟨c, by rw [List.getElem?_set_ne hji]; exact hc, hconf⟩

/-- Every step keeps every call confined: a call's own steps follow its program, and the steps
of the others leave it as it is. -/
theorem PoolStep.confined (hs : PoolStep h cShake128 st st') {i : Nat} {c : Caller}
    (hc : st.callers[i]? = some c) (hconf : c.Confined) :
    ∃ c', st'.callers[i]? = some c' ∧ c'.Confined := by
  cases hs with
  | spawn req =>
    obtain ⟨hi, -⟩ := List.getElem?_eq_some_iff.1 hc
    exact ⟨c, by rw [List.getElem?_append_left hi]; exact hc, hconf⟩
  | getHandle j hj hp hq =>
    refine confined_set hj hc hconf fun _ hcj => ?_
    rw [hcj] at hp
    rcases hconf with hf | ⟨s', -, hh⟩ | hd
    · exact .inr (.inl ⟨_, rfl, hf.holding hp _⟩)
    · rcases hh.step hp with ⟨_, he, -⟩ | ⟨he, -⟩ <;> cases he
    · rw [hd] at hp; cases hp
  | release j hj hp =>
    refine confined_set hj hc hconf fun _ hcj => ?_
    rw [hcj] at hp
    rcases hconf with hf | ⟨s', -, hh⟩ | hd
    · cases hf.eq_getHandle hp
    · rcases hh.step hp with ⟨_, he, -⟩ | ⟨-, hk⟩
      · cases he
      · exact .inr (.inr (hk ()))
    · rw [hd] at hp; cases hp
  | pk11 j hj hp r =>
    refine confined_set hj hc hconf fun _ hcj => ?_
    rw [hcj] at hp ⊢
    rcases hconf with hf | ⟨s', hheld, hh⟩ | hd
    · cases hf.eq_getHandle hp
    · rcases hh.step hp with ⟨_, he, -, hk⟩ | ⟨he, -⟩
      · cases he
        exact .inr (.inl ⟨s', hheld, hk r⟩)
      · cases he
    · rw [hd] at hp; cases hp

/-- A call confined in one state is confined in every state a run reaches from it. -/
theorem confined_of_reachable (hr : ReflTransGen (PoolStep h cShake128) st st') {i : Nat}
    {c : Caller} (hc : st.callers[i]? = some c) (hconf : c.Confined) :
    ∃ c', st'.callers[i]? = some c' ∧ c'.Confined := by
  induction hr with
  | refl => exact ⟨c, hc, hconf⟩
  | tail _ hs ih =>
    obtain ⟨c', hc', hconf'⟩ := ih
    exact hs.confined hc' hconf'

/-- Two entries of a list that `f` maps to the same value are one entry when the values `f`
keeps have no duplicates. -/
theorem index_eq_of_nodup_filterMap {f : α → Option β} {l : List α}
    (hnd : (l.filterMap f).Nodup) {i j : Nat} {a a' : α} {b : β} (hi : l[i]? = some a)
    (hj : l[j]? = some a') (ha : f a = some b) (ha' : f a' = some b) : i = j := by
  induction l generalizing i j with
  | nil => simp at hi
  | cons x l ih =>
    have head_only : ∀ {n : Nat} {y : α}, l[n]? = some y → f y = some b → f x ≠ some b :=
      fun hn hy hx => by
        rw [List.filterMap_cons, hx] at hnd
        exact (List.nodup_cons.1 hnd).1 (List.mem_filterMap.2 ⟨_, List.getElem?_mem hn, hy⟩)
    cases i <;> cases j <;>
      simp only [List.getElem?_cons_zero, List.getElem?_cons_succ, Option.some.injEq] at hi hj
    · rfl
    · subst hi
      exact (head_only hj ha' ha).elim
    · subst hj
      exact (head_only hi ha ha').elim
    · exact congrArg (· + 1) (ih (hnd.sublist ((List.sublist_cons_self x l).filterMap f)) hi hj)

/-! ## Exclusive use -/

/-- On a queue of distinct sessions, full: a call started with a confined request makes each
call that names a session on the session it holds, one of the queue's, which no other call
holds. -/
theorem calls_use_own_session (h : HSM) (cShake128 : CShake128) {q₀ : SessionQueue}
    (hfull : (q₀.s.length : Int) = q₀.numSessions) (hnodup : q₀.s.Nodup) {st₁ : Pool}
    (hr₁ : ReflTransGen (PoolStep h cShake128) ⟨q₀, []⟩ st₁) {req : Request} (hreq : req.Confined)
    {st : Pool} (hr₂ : ReflTransGen (PoolStep h cShake128)
      ⟨st₁.queue, st₁.callers ++ [⟨req.prog h cShake128, none, 0⟩]⟩ st)
    {c : Caller} (hc : st.callers[st₁.callers.length]? = some c) {x : Prim}
    {k : x.Resp → Prog Eff Eff.Resp Unit} (hx : c.prog = .step (.pk11 x) k) {s : Session}
    (hs : x.session = some s) :
    c.held = some s ∧ s ∈ q₀.s ∧
      ∀ j c', st.callers[j]? = some c' → c'.held = some s → j = st₁.callers.length := by
  have hinv := pool_inv hfull ((hr₁.tail (.spawn req)).trans hr₂)
  obtain ⟨c', hc', hconf⟩ := confined_of_reachable hr₂ (List.getElem?_concat_length _ _)
    (.inl (freshConfined_request h cShake128 hreq))
  rw [hc] at hc'
  cases hc'
  have hheld : c.held = some s := by
    rcases hconf with hf | ⟨s', hh, hp⟩ | hd
    · cases hf.eq_getHandle hx
    · rcases hp.step hx with ⟨_, he, hon, -⟩ | ⟨he, -⟩
      · cases he
        rcases hon with hn | hn <;> rw [hs] at hn <;> cases hn
        exact hh
      · cases he
    · rw [hd] at hx; cases hx
  have hmem : s ∈ st.held := List.mem_filterMap.2 ⟨c, List.getElem?_mem hc, hheld⟩
  have hnd : st.held.Nodup := (List.nodup_append.1 (hinv.perm.nodup_iff.2 hnodup)).2.1
  exact ⟨hheld, hinv.perm.subset (List.mem_append_right _ hmem),
    fun j c' hj hj' => index_eq_of_nodup_filterMap hnd hj hc hj' hheld⟩

/-- On the HSM `NewHSM` builds, under any interleaving of any calls, a call of a method other
than `ExecuteCmd`, or an `ExecuteCmd` whose command works on the session it is given, makes each
call that names a session on the session it holds: one that `NewHSM` opened and logged in as
`NormalUser`, and that no other call holds. -/
theorem hsmBuilt_calls_use_own_session {cfg : HSMConfig} {t : Trace} {hsm : HSM}
    (hb : HSMBuilt cfg t hsm) (hn : 0 ≤ cfg.numSessions) (cShake128 : CShake128) {st₁ : Pool}
    (hr₁ : ReflTransGen (PoolStep hsm cShake128) ⟨hsm.sessions, []⟩ st₁) {req : Request}
    (hreq : req.Confined) {st : Pool} (hr₂ : ReflTransGen (PoolStep hsm cShake128)
      ⟨st₁.queue, st₁.callers ++ [⟨req.prog hsm cShake128, none, 0⟩]⟩ st)
    {c : Caller} (hc : st.callers[st₁.callers.length]? = some c) {x : Prim}
    {k : x.Resp → Prog Eff Eff.Resp Unit} (hx : c.prog = .step (.pk11 x) k) {s : Session}
    (hs : x.session = some s) :
    c.held = some s ∧ (⟨.login s .normalUser cfg.hsmPassword, .ok ()⟩ : Event Prim Prim.Resp) ∈ t ∧
      ∀ j c', st.callers[j]? = some c' → c'.held = some s → j = st₁.callers.length := by
  obtain ⟨mod, toks, tok, t', -, rfl, hnum, hperm, -, -⟩ := hb
  have hfull : (hsm.sessions.s.length : Int) = hsm.sessions.numSessions := by
    rw [hperm.length_eq, hnum]
    simp only [openedSessions, List.length_map, List.length_range']
    omega
  obtain ⟨hheld, hmem, hothers⟩ := calls_use_own_session hsm cShake128 hfull
    (hperm.nodup_iff.2 (openedSessions_nodup _ _ _)) hr₁ hreq hr₂ hc hx hs
  obtain ⟨i, hi, rfl⟩ := List.mem_map.1 (hperm.subset hmem)
  refine ⟨hheld, ?_, hothers⟩
  simp only [List.mem_cons, List.mem_append, List.mem_flatMap]
  exact .inr (.inr (.inl ⟨i, hi, by simp [openTrace]⟩))

theorem hsmBuilt_calls_use_own_session_random : ∃ (t : Trace) (hsm : HSM) (st : Pool) (c : Caller),
    HSMBuilt bareSession t hsm ∧ st.callers[0]? = some c ∧
      c.held = some ⟨⟨0⟩, 0⟩ ∧
      (⟨.login ⟨⟨0⟩, 0⟩ .normalUser bareSession.hsmPassword, .ok ()⟩ : Event Prim Prim.Resp) ∈ t ∧
      ∀ j c', st.callers[j]? = some c' → c'.held = some ⟨⟨0⟩, 0⟩ → j = 0 :=
  have hb : HSMBuilt bareSession
      [⟨.load ⟨0⟩ "", .ok ⟨0⟩⟩, ⟨.tokens ⟨0⟩, .ok [⟨0⟩]⟩, ⟨.openSession ⟨0⟩, .ok ()⟩,
        ⟨.login ⟨⟨0⟩, 0⟩ .normalUser "", .ok ()⟩]
      ⟨fun _ => none, fun _ => none, ⟨1, [⟨⟨0⟩, 0⟩]⟩⟩ :=
    ⟨⟨0⟩, [⟨0⟩], ⟨0⟩, [], rfl, rfl, rfl, by simp [openedSessions, bareSession],
      by simp [KeysFound, bareSession], by simp [KeysFound, bareSession]⟩
  have step : PoolStep ⟨fun _ => none, fun _ => none, ⟨1, [⟨⟨0⟩, 0⟩]⟩⟩ zeroXof
      ⟨⟨1, [⟨⟨0⟩, 0⟩]⟩, [] ++ [⟨(Request.generateRandom 16).prog
        ⟨fun _ => none, fun _ => none, ⟨1, [⟨⟨0⟩, 0⟩]⟩⟩ zeroXof, none, 0⟩]⟩ _ :=
    .getHandle 0 (by decide) rfl rfl
  have own := hsmBuilt_calls_use_own_session hb (by decide) zeroXof .refl
    (by exact trivial) (.single step) rfl rfl rfl
  ⟨_, _, _, _, hb, by rfl, own⟩

end SecureElement
