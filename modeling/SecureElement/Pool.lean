import Mathlib.Data.List.Perm.Basic
import SecureElement.Endorse
import SecureElement.KeyGen
import SecureElement.Methods

/-!
# The session pool under concurrent calls

Any number of calls of the methods of one `HSM` run at once and their steps interleave in any
order (`PoolStep`): a call starts, takes the oldest session from the queue (and waits while the
queue is empty), makes pk11 calls that may each succeed or fail, and puts its session back with
`insert`. Each call carries its program, the session it holds, and how many sessions it has
taken so far.

Every call is `withSession body` with a body that can only make pk11 calls, so a call is first
`Fresh`, then `Holding` its session until its `release`, then done (`Caller.Ok`). For
`ExecuteCmd` this is the command `CmdFunc` models: one that works on its session with pk11 calls
and returns, without calling back into the methods of `HSM`.

* `pool_sessions_conserved`: `openSessions` builds a queue of the `NumSessions` sessions it
  logged in; from it, the queued and the held sessions are always those sessions, each once;
  the queue never holds more than `NumSessions`; and no `release` finds the queue full.
* `pool_no_hold_and_wait`: no waiting call holds a session; no call takes a second one; when the
  queue is empty every session is held by a call that is not waiting; so while a call waits and
  the pool has a session, a call already in flight can move.
* `pool_calls_complete`: with at least one session, from every reachable state the calls in
  flight can all run to their end with no new call started, and then every session is back in
  the queue: no call is ever stuck for good while the others keep moving. This rests on every
  command returning; a Go command that never returns keeps its session for good.
* `hsmBuilt_serves_concurrent_calls`: for the HSM `NewHSM` returns, with at least one session:
  the sessions it opened stay distinct, each queued or held by one call, no call holds two, and
  the calls in flight can always all finish.
-/

namespace SecureElement

open Prog Relation

/-- A call of a method of `HSM`, with its arguments. -/
inductive Request where
  | executeCmd (cmd : CmdFunc)
  | deriveAndWrapTransportSecret (deviceId : Bytes)
  | verifySession
  | generateRandom (length : Int)
  | generateKeyPairAndCert (caCert : Certificate) (params : List SigningParams)
  | generateSymmetricKeys (params : List (Option SymmetricKeygenParams))
  | endorseCert (tbs : Bytes) (params : EndorseCertParams)
  | newHSMPreamble (cfg : HSMConfig)

/-- A method as one call runs it, its result dropped. -/
def callProg {α : Type} (m : SpmM α) : Prog Eff Eff.Resp Unit := m.run.bind fun _ => .pure ()

/-- The program of a call of `req` on `h`. -/
def Request.prog (h : HSM) (cShake128 : CShake128) : Request → Prog Eff Eff.Resp Unit
  | .executeCmd cmd => callProg (SecureElement.executeCmd cmd)
  | .deriveAndWrapTransportSecret deviceId => callProg (h.deriveAndWrapTransportSecret deviceId)
  | .verifySession => callProg h.verifySession
  | .generateRandom length => callProg (SecureElement.generateRandom length)
  | .generateKeyPairAndCert caCert params => callProg (h.generateKeyPairAndCert caCert params)
  | .generateSymmetricKeys params => callProg (h.generateSymmetricKeys cShake128 params)
  | .endorseCert tbs params => callProg (SecureElement.endorseCert tbs params)
  | .newHSMPreamble cfg => callProg (SecureElement.newHSMPreamble cfg)

/-! ## The shapes of a call -/

/-- The rest of a call that holds `s`: pk11 calls, then the release of `s`. -/
def Holding (s : Session) (p : Prog Eff Eff.Resp Unit) : Prop :=
  ∃ (β : Type) (q : Prog Prim Prim.Resp β),
    p = q.liftPk11.bind fun _ => .step (.release s) fun _ => .pure ()

/-- A call that has not taken its session yet. -/
def Fresh (p : Prog Eff Eff.Resp Unit) : Prop :=
  ∃ (β : Type) (body : Session → Prog Prim Prim.Resp β),
    p = .step .getHandle fun s => (body s).liftPk11.bind fun _ => .step (.release s) fun _ => .pure ()

theorem fresh_callProg_withSession {α : Type} (body : Session → HsmM α) :
    Fresh (callProg (withSession body)) :=
  ⟨_, fun s => (body s).run, by simp [callProg, withSession, Prog.bind_assoc]⟩

theorem fresh_request (h : HSM) (cShake128 : CShake128) (req : Request) :
    Fresh (req.prog h cShake128) := by
  cases req <;> exact fresh_callProg_withSession _

variable {s : Session} {p : Prog Eff Eff.Resp Unit} {e : Eff} {k : e.Resp → Prog Eff Eff.Resp Unit}

/-- A call holding `s` next makes a pk11 call, or releases `s` and is done. -/
theorem Holding.step (hp : Holding s p) (he : p = .step e k) :
    (∃ c, e = .pk11 c ∧ ∀ r, Holding s (k r)) ∨ (e = .release s ∧ ∀ r, k r = .pure ()) := by
  obtain ⟨β, q, rfl⟩ := hp
  cases q with
  | pure b =>
    obtain ⟨rfl, hk⟩ := Prog.step.inj he
    exact .inr ⟨rfl, fun r => by rw [← eq_of_heq hk]⟩
  | step c k' =>
    obtain ⟨rfl, hk⟩ := Prog.step.inj he
    exact .inl ⟨c, rfl, fun r => ⟨β, k' r, by rw [← eq_of_heq hk]⟩⟩

theorem Holding.exists_step (hp : Holding s p) : ∃ e k, p = .step e k := by
  obtain ⟨β, q, rfl⟩ := hp
  cases q <;> exact ⟨_, _, rfl⟩

/-- A fresh call next takes a session. -/
theorem Fresh.eq_getHandle (hp : Fresh p) (he : p = .step e k) : e = .getHandle := by
  obtain ⟨β, body, rfl⟩ := hp
  exact (Prog.step.inj he).1.symm

/-- A fresh call holds the session it takes. -/
theorem Fresh.holding {k : Session → Prog Eff Eff.Resp Unit} (hp : Fresh p)
    (he : p = .step .getHandle k) (s : Session) : Holding s (k s) := by
  obtain ⟨β, body, rfl⟩ := hp
  exact ⟨β, body s, by rw [← eq_of_heq (Prog.step.inj he).2]⟩

/-! ## The pool -/

/-- A call in flight: its program, the session it holds, and how many sessions it has taken. -/
structure Caller where
  prog : Prog Eff Eff.Resp Unit
  held : Option Session
  acquired : Nat

/-- The session queue and the calls in flight. -/
structure Pool where
  queue : SessionQueue
  callers : List Caller

/-- The sessions the calls hold. -/
def Pool.held (st : Pool) : List Session := st.callers.filterMap Caller.held

/-- A call waiting in `getHandle`. -/
def Caller.Waiting (c : Caller) : Prop := ∃ k, c.prog = .step .getHandle k

/-- One step of one call of the methods of `h`: a new call starts; a call takes the oldest
session (only when there is one); a call releases its session with `insert`; or a call makes a
pk11 call, answered in any way. -/
inductive PoolStep (h : HSM) (cShake128 : CShake128) : Pool → Pool → Prop
  | spawn {q : SessionQueue} {cs : List Caller} (req : Request) :
      PoolStep h cShake128 ⟨q, cs⟩ ⟨q, cs ++ [⟨req.prog h cShake128, none, 0⟩]⟩
  | getHandle {q q' : SessionQueue} {cs : List Caller} (i : Nat) (hi : i < cs.length)
      {k : Session → Prog Eff Eff.Resp Unit} {s : Session} (hp : cs[i].prog = .step .getHandle k)
      (hq : q.getHandle = some (s, q')) :
      PoolStep h cShake128 ⟨q, cs⟩ ⟨q', cs.set i ⟨k s, some s, cs[i].acquired + 1⟩⟩
  | release {q : SessionQueue} {cs : List Caller} (i : Nat) (hi : i < cs.length) {s : Session}
      {k : Unit → Prog Eff Eff.Resp Unit} (hp : cs[i].prog = .step (.release s) k) :
      PoolStep h cShake128 ⟨q, cs⟩ ⟨q.release s, cs.set i ⟨k (), none, cs[i].acquired⟩⟩
  | pk11 {q : SessionQueue} {cs : List Caller} (i : Nat) (hi : i < cs.length) {c : Prim}
      {k : c.Resp → Prog Eff Eff.Resp Unit} (hp : cs[i].prog = .step (.pk11 c) k) (r : c.Resp) :
      PoolStep h cShake128 ⟨q, cs⟩ ⟨q, cs.set i ⟨k r, cs[i].held, cs[i].acquired⟩⟩

/-- A call is fresh and holds nothing, holds `s` with its one session taken, or is done. -/
def Caller.Ok (c : Caller) : Prop :=
  (c.held = none ∧ c.acquired = 0 ∧ Fresh c.prog) ∨
    (∃ s, c.held = some s ∧ c.acquired = 1 ∧ Holding s c.prog) ∨
    (c.held = none ∧ c.acquired = 1 ∧ c.prog = .pure ())

variable {c : Caller}

theorem Caller.Ok.of_getHandle {k : Session → Prog Eff Eff.Resp Unit} (hc : c.Ok)
    (hp : c.prog = .step .getHandle k) :
    c.held = none ∧ c.acquired = 0 ∧ ∀ s, Holding s (k s) := by
  rcases hc with ⟨hh, ha, hf⟩ | ⟨s, -, -, hs⟩ | ⟨-, -, hd⟩
  · exact ⟨hh, ha, hf.holding hp⟩
  · rcases hs.step hp with ⟨_, he, -⟩ | ⟨he, -⟩ <;> cases he
  · rw [hd] at hp; cases hp

theorem Caller.Ok.of_release {k : Unit → Prog Eff Eff.Resp Unit} (hc : c.Ok)
    (hp : c.prog = .step (.release s) k) :
    c.held = some s ∧ c.acquired = 1 ∧ k () = .pure () := by
  rcases hc with ⟨-, -, hf⟩ | ⟨s', hh, ha, hs⟩ | ⟨-, -, hd⟩
  · cases hf.eq_getHandle hp
  · rcases hs.step hp with ⟨_, he, -⟩ | ⟨he, hk⟩
    · cases he
    · cases he
      exact ⟨hh, ha, hk ()⟩
  · rw [hd] at hp; cases hp

theorem Caller.Ok.of_pk11 {x : Prim} {k : x.Resp → Prog Eff Eff.Resp Unit} (hc : c.Ok)
    (hp : c.prog = .step (.pk11 x) k) :
    ∃ s, c.held = some s ∧ c.acquired = 1 ∧ ∀ r, Holding s (k r) := by
  rcases hc with ⟨-, -, hf⟩ | ⟨s, hh, ha, hs⟩ | ⟨-, -, hd⟩
  · cases hf.eq_getHandle hp
  · rcases hs.step hp with ⟨_, he, hk⟩ | ⟨he, -⟩
    · cases he
      exact ⟨s, hh, ha, hk⟩
    · cases he
  · rw [hd] at hp; cases hp

theorem Caller.Ok.holding_of_held (hc : c.Ok) (hh : c.held = some s) :
    c.acquired = 1 ∧ Holding s c.prog := by
  rcases hc with ⟨hh', -, -⟩ | ⟨s', hh', ha, hs⟩ | ⟨hh', -, -⟩ <;> rw [hh] at hh' <;> cases hh'
  exact ⟨ha, hs⟩

theorem Holding.not_waiting (hp : Holding s p) {k : Session → Prog Eff Eff.Resp Unit} :
    p ≠ .step .getHandle k := fun he => by
  rcases hp.step he with ⟨_, he, -⟩ | ⟨he, -⟩ <;> cases he

theorem Caller.Ok.acquired_le (hc : c.Ok) : c.acquired ≤ 1 := by
  rcases hc with ⟨-, ha, -⟩ | ⟨-, -, ha, -⟩ | ⟨-, ha, -⟩ <;> omega

/-- What every reachable state keeps, for a queue managing `n` sessions and the sessions `s₀`:
the queued and the held sessions are those of `s₀`, and every call is `Ok`. -/
structure Pool.Inv (s₀ : List Session) (n : Int) (st : Pool) : Prop where
  numSessions : st.queue.numSessions = n
  perm : (st.queue.s ++ st.held).Perm s₀
  callers : ∀ c ∈ st.callers, c.Ok

theorem ok_set {cs : List Caller} (hcs : ∀ c ∈ cs, c.Ok) {x : Caller} (hx : x.Ok) (i : Nat) :
    ∀ c ∈ cs.set i x, c.Ok := fun c hc =>
  (List.mem_or_eq_of_mem_set hc).elim (hcs c) fun h => h ▸ hx

variable {h : HSM} {cShake128 : CShake128} {s₀ : List Session} {n : Int} {st st' : Pool}

theorem Pool.Inv.queue_lt_of_held (hinv : st.Inv s₀ n) (hfull : (s₀.length : Int) = n)
    (hs : s ∈ st.held) : (st.queue.s.length : Int) < n := by
  have hlen := hinv.perm.length_eq
  have hpos := List.length_pos_of_mem hs
  simp only [List.length_append] at hlen
  omega

theorem PoolStep.inv (hfull : (s₀.length : Int) = n) (hs : PoolStep h cShake128 st st')
    (hinv : st.Inv s₀ n) : st'.Inv s₀ n := by
  obtain ⟨hnum, hperm, hok⟩ := hinv
  cases hs with
  | @spawn q cs req =>
    refine ⟨hnum, by simpa [Pool.held, List.filterMap_append] using hperm, fun c hc => ?_⟩
    rcases List.mem_append.1 hc with hc | hc
    · exact hok c hc
    · rw [List.mem_singleton.1 hc]
      exact .inl ⟨rfl, rfl, fresh_request h cShake128 req⟩
  | @getHandle q q' cs i hi k s hp hq =>
    dsimp only [Pool.held] at hnum hperm hok ⊢
    obtain ⟨hheld, hacq, hk⟩ := (hok _ (List.getElem_mem hi)).of_getHandle hp
    obtain ⟨hqs, hqn⟩ := SessionQueue.getHandle_eq_some_iff.1 hq
    have hset := perm_filterMap_set Caller.held cs i hi ⟨k s, some s, cs[i].acquired + 1⟩
    simp only [hheld, Option.toList, List.append_nil] at hset
    refine ⟨hqn.trans hnum, ?_, ok_set hok (.inr (.inl ⟨s, rfl, by simp [hacq], hk s⟩)) i⟩
    rw [hqs, List.cons_append] at hperm
    refine (hset.append_left _).trans ?_
    rw [← List.append_assoc]
    exact (List.perm_append_singleton _ _).trans hperm
  | @release q cs i hi s k hp =>
    dsimp only [Pool.held] at hnum hperm hok ⊢
    obtain ⟨hheld, hacq, hk⟩ := (hok _ (List.getElem_mem hi)).of_release hp
    have hset := perm_filterMap_set Caller.held cs i hi ⟨k (), none, cs[i].acquired⟩
    simp only [hheld, Option.toList, List.append_nil] at hset
    have hlen : (q.s.length : Int) < q.numSessions := by
      have h₁ := hperm.length_eq
      have h₂ := hset.length_eq
      simp only [List.length_append, List.length_singleton] at h₁ h₂
      omega
    rw [SessionQueue.release_of_lt hlen]
    refine ⟨hnum, ?_, ok_set hok (x := ⟨k (), none, cs[i].acquired⟩) (.inr (.inr ⟨rfl, hacq, hk⟩)) i⟩
    rw [List.append_assoc]
    exact ((List.perm_append_comm.trans hset).append_left _).trans hperm
  | @pk11 q cs i hi x k hp r =>
    dsimp only [Pool.held] at hnum hperm hok ⊢
    obtain ⟨s, hheld, hacq, hk⟩ := (hok _ (List.getElem_mem hi)).of_pk11 hp
    have hset := perm_filterMap_set Caller.held cs i hi ⟨k r, cs[i].held, cs[i].acquired⟩
    refine ⟨hnum, ?_, ok_set hok (x := ⟨k r, cs[i].held, cs[i].acquired⟩)
      (.inr (.inl ⟨s, hheld, hacq, hk r⟩)) i⟩
    exact (((List.perm_append_right_iff _).1 hset).append_left _).trans hperm

/-- Every state reachable from a queue of the distinct sessions `q₀.s`, full, keeps
`Pool.Inv`. -/
theorem pool_inv {q₀ : SessionQueue} (hfull : (q₀.s.length : Int) = q₀.numSessions)
    (hr : ReflTransGen (PoolStep h cShake128) ⟨q₀, []⟩ st) : st.Inv q₀.s q₀.numSessions := by
  induction hr with
  | refl => exact ⟨rfl, by simp [Pool.held], by simp⟩
  | tail _ hs ih => exact hs.inv hfull ih

/-- A call holding a session can always move: its next pk11 call has an answer, and its
release always happens. -/
theorem Holding.can_step {q : SessionQueue} {cs : List Caller} {i : Nat} (hi : i < cs.length)
    (hp : Holding s cs[i].prog) :
    ∃ st', PoolStep h cShake128 ⟨q, cs⟩ st' ∧ st'.callers.length = cs.length := by
  obtain ⟨e, k, he⟩ := hp.exists_step
  rcases hp.step he with ⟨x, rfl, -⟩ | ⟨rfl, -⟩
  · exact ⟨_, .pk11 i hi he (.error ⟨""⟩), List.length_set _ _ _⟩
  · exact ⟨_, .release i hi he, List.length_set _ _ _⟩

/-! ## Conservation and progress -/

theorem pool_sessions_conserved (h : HSM) (cShake128 : CShake128) {hsmType : HSMType}
    {soPath hsmPW : String} {slot n : Int} {t₀ : Trace} {q₀ : SessionQueue}
    (hslot : 0 ≤ slot) (hn : 0 ≤ n)
    (hq : Runs (openSessions hsmType soPath hsmPW slot n).run t₀ (.ok q₀))
    {st : Pool} (hr : ReflTransGen (PoolStep h cShake128) ⟨q₀, []⟩ st) :
    (∃ tok, q₀.s = openedSessions tok 0 n.toNat ∧ (q₀.s.length : Int) = n ∧
      loggedIn t₀ = q₀.s) ∧
    (st.queue.s ++ st.held).Perm q₀.s ∧ (st.queue.s ++ st.held).Nodup ∧
      (st.queue.s.length : Int) ≤ n ∧
      ∀ c ∈ st.callers, ∀ s k, c.prog = .step (.release s) k →
        ∃ q', st.queue.insert s = .ok q' := by
  rcases runs_openSessions hn hslot hq with ⟨_, he⟩ | ⟨mod, toks, tok, -, he, rfl⟩
  · cases he
  cases he
  have hfull : ((openedSessions tok 0 n.toNat).length : Int) = n := by
    simp only [openedSessions, List.length_map, List.length_range']
    omega
  have hinv := pool_inv hfull hr
  refine ⟨⟨tok, rfl, hfull, loggedIn_openTrace tok hsmPW 0 n.toNat⟩, hinv.perm,
    hinv.perm.nodup_iff.2 (openedSessions_nodup _ _ _), ?_, fun c hc s k hp => ?_⟩
  · have := hinv.perm.length_eq
    simp only [List.length_append] at this
    omega
  · obtain ⟨hheld, -, -⟩ := (hinv.callers c hc).of_release hp
    have hlt := hinv.queue_lt_of_held hfull (List.mem_filterMap.2 ⟨c, hc, hheld⟩)
    exact ⟨_, SessionQueue.insert_of_lt (hinv.numSessions ▸ hlt)⟩

theorem pool_sessions_conserved_one : ∃ (t₀ : Trace) (q₀ : SessionQueue) (st : Pool),
    Runs (openSessions ⟨0⟩ "" "" 0 1).run t₀ (.ok q₀) ∧
    ReflTransGen (PoolStep caHSM zeroXof) ⟨q₀, []⟩ st ∧
    (∃ tok, q₀.s = openedSessions tok 0 (1 : Int).toNat ∧ (q₀.s.length : Int) = 1 ∧
      loggedIn t₀ = q₀.s) ∧
    (st.queue.s ++ st.held).Perm q₀.s ∧ (st.queue.s ++ st.held).Nodup ∧
      (st.queue.s.length : Int) ≤ 1 ∧
      ∀ c ∈ st.callers, ∀ s k, c.prog = .step (.release s) k →
        ∃ q', st.queue.insert s = .ok q' :=
  have run : Runs (openSessions ⟨0⟩ "" "" 0 1).run
      [⟨.load ⟨0⟩ "", .ok ⟨0⟩⟩, ⟨.tokens ⟨0⟩, .ok [⟨0⟩]⟩, ⟨.openSession ⟨0⟩, .ok ()⟩,
        ⟨.login ⟨⟨0⟩, 0⟩ .normalUser "", .ok ()⟩] (.ok ⟨1, [⟨⟨0⟩, 0⟩]⟩) :=
    .step _ (.step _ (.step _ (.step _ (.pure _))))
  have steps := (ReflTransGen.single
    (.spawn .verifySession : PoolStep caHSM zeroXof ⟨⟨1, [⟨⟨0⟩, 0⟩]⟩, []⟩ _)).tail
    (.getHandle 0 (by decide) rfl rfl)
  ⟨_, _, _, run, steps, pool_sessions_conserved caHSM zeroXof (by decide) (by decide) run steps⟩

theorem pool_no_hold_and_wait (h : HSM) (cShake128 : CShake128) {q₀ : SessionQueue}
    (hfull : (q₀.s.length : Int) = q₀.numSessions) {st : Pool}
    (hr : ReflTransGen (PoolStep h cShake128) ⟨q₀, []⟩ st) :
    (∀ c ∈ st.callers, c.Waiting → c.held = none) ∧
      (∀ c ∈ st.callers, c.acquired ≤ 1) ∧
      (st.queue.s = [] → ∀ s ∈ q₀.s,
        ∃ c ∈ st.callers, c.held = some s ∧ c.acquired = 1 ∧ ¬ c.Waiting) ∧
      ((∃ c ∈ st.callers, c.Waiting) → q₀.s ≠ [] →
        ∃ st', PoolStep h cShake128 st st' ∧ st'.callers.length = st.callers.length) := by
  have hinv := pool_inv hfull hr
  obtain ⟨q, cs⟩ := st
  have holders : q.s = [] → ∀ s ∈ q₀.s, ∃ c ∈ cs, c.held = some s ∧ Holding s c.prog ∧
      c.acquired = 1 := fun hq s hs => by
    have hs' := hinv.perm.symm.subset hs
    rw [hq, List.nil_append] at hs'
    obtain ⟨c, hc, hcs⟩ := List.mem_filterMap.1 hs'
    obtain ⟨ha, hp⟩ := (hinv.callers c hc).holding_of_held hcs
    exact ⟨c, hc, hcs, hp, ha⟩
  refine ⟨fun c hc ⟨k, hp⟩ => ((hinv.callers c hc).of_getHandle hp).1,
    fun c hc => (hinv.callers c hc).acquired_le, fun hq s hs => ?_, ?_⟩
  · obtain ⟨c, hc, hcs, hp, ha⟩ := holders hq s hs
    exact ⟨c, hc, hcs, ha, fun ⟨k, hw⟩ => hp.not_waiting hw⟩
  · rintro ⟨c, hc, k, hp⟩ hne
    obtain ⟨i, hi, rfl⟩ := List.mem_iff_getElem.1 hc
    cases hq : q.s with
    | cons s rest =>
      have hg : q.getHandle = some (s, ⟨q.numSessions, rest⟩) := by
        simp [SessionQueue.getHandle, hq]
      exact ⟨_, .getHandle i hi hp hg, List.length_set _ _ _⟩
    | nil =>
      obtain ⟨s, hs⟩ := List.exists_mem_of_ne_nil _ hne
      obtain ⟨c', hc', -, hp', -⟩ := holders hq s hs
      obtain ⟨j, hj, rfl⟩ := List.mem_iff_getElem.1 hc'
      exact hp'.can_step hj

theorem pool_no_hold_and_wait_one : ∃ st : Pool,
    ReflTransGen (PoolStep caHSM zeroXof) ⟨⟨1, [sessionA]⟩, []⟩ st ∧
    (∀ c ∈ st.callers, c.Waiting → c.held = none) ∧
      (∀ c ∈ st.callers, c.acquired ≤ 1) ∧
      (st.queue.s = [] → ∀ s ∈ [sessionA],
        ∃ c ∈ st.callers, c.held = some s ∧ c.acquired = 1 ∧ ¬ c.Waiting) ∧
      ((∃ c ∈ st.callers, c.Waiting) → [sessionA] ≠ [] →
        ∃ st', PoolStep caHSM zeroXof st st' ∧ st'.callers.length = st.callers.length) :=
  have steps := ((ReflTransGen.single
    (.spawn .verifySession : PoolStep caHSM zeroXof ⟨⟨1, [sessionA]⟩, []⟩ _)).tail
    (.spawn .verifySession)).tail (.getHandle 0 (by decide) rfl rfl)
  ⟨_, steps, pool_no_hold_and_wait caHSM zeroXof (by decide) steps⟩

/-! ## Every call can finish -/

/-- A call that holds `s` runs to its end on its own: its pk11 calls answered with errors, then
its release. -/
theorem Holding.runs_to_done (h : HSM) (cShake128 : CShake128) (q : SessionQueue)
    {cs : List Caller} {i : Nat} (hi : i < cs.length) (hp : Holding s cs[i].prog) :
    ReflTransGen (PoolStep h cShake128) ⟨q, cs⟩
      ⟨q.release s, cs.set i ⟨.pure (), none, cs[i].acquired⟩⟩ := by
  obtain ⟨β, p, hp⟩ := hp
  induction p generalizing cs with
  | pure b => exact .single (.release i hi hp)
  | step c k ih =>
    have hi' : i < (cs.set i ⟨(k (.error ⟨""⟩)).liftPk11.bind fun _ => .step (.release s)
        fun _ => .pure (), cs[i].held, cs[i].acquired⟩).length := by simpa using hi
    have := ih (.error ⟨""⟩) hi' (by simp)
    simp only [List.set_set, List.getElem_set_self] at this
    exact .head (.pk11 i hi hp (.error ⟨""⟩)) this

/-- A call that has yet to finish: one that has not taken its session, or holds it. -/
def Caller.unfinished (c : Caller) : Option Unit :=
  if c.acquired = 1 ∧ c.held = none then none else some ()

/-- The calls that have yet to finish. -/
def Pool.unfinished (st : Pool) : List Unit := st.callers.filterMap Caller.unfinished

@[simp] theorem Caller.unfinished_eq_none {c : Caller} :
    c.unfinished = none ↔ c.acquired = 1 ∧ c.held = none := by
  simp [Caller.unfinished]

/-- A call that has finished has returned and holds nothing. -/
theorem Caller.Ok.done {c : Caller} (hc : c.Ok) (hf : c.unfinished = none) :
    c.prog = .pure () ∧ c.held = none := by
  rw [Caller.unfinished_eq_none] at hf
  rcases hc with ⟨-, ha, -⟩ | ⟨s, hh, -, -⟩ | ⟨-, -, hp⟩
  · omega
  · simp [hf.2] at hh
  · exact ⟨hp, hf.2⟩

theorem length_unfinished_set {cs : List Caller} {i : Nat} (hi : i < cs.length)
    (hc : cs[i].unfinished = some ()) :
    ((cs.set i ⟨.pure (), none, 1⟩).filterMap Caller.unfinished).length + 1 =
      (cs.filterMap Caller.unfinished).length := by
  have := (perm_filterMap_set Caller.unfinished cs i hi ⟨.pure (), none, 1⟩).length_eq
  rw [hc] at this
  simpa [Caller.unfinished] using this

/-- In a reachable state an unfinished call runs to its end on its own when it holds its session
or no call holds one, taking a session first if it has none. -/
theorem Pool.Inv.finish (h : HSM) (cShake128 : CShake128) (hinv : st.Inv s₀ n) (hne : s₀ ≠ [])
    {i : Nat} (hi : i < st.callers.length) (hun : st.callers[i].unfinished = some ())
    (hfree : st.callers[i].held = none → st.held = []) :
    ∃ q', ReflTransGen (PoolStep h cShake128) st ⟨q', st.callers.set i ⟨.pure (), none, 1⟩⟩ := by
  obtain ⟨q, cs⟩ := st
  rcases hinv.callers _ (List.getElem_mem hi) with ⟨hh, ha, β, body, hp⟩ | ⟨s, hh, ha, hp⟩ |
    ⟨hh, ha, -⟩
  · have hq : q.s.Perm s₀ := by simpa [hfree hh] using hinv.perm
    obtain ⟨s, rest, hs⟩ : ∃ s rest, q.s = s :: rest :=
      List.exists_cons_of_ne_nil fun h0 => hne (by rw [h0] at hq; exact hq.nil_eq.symm)
    have hg : q.getHandle = some (s, ⟨q.numSessions, rest⟩) := by simp [SessionQueue.getHandle, hs]
    have step : PoolStep h cShake128 _ _ := .getHandle i hi hp hg
    have hi' : i < (cs.set i ⟨(body s).liftPk11.bind fun _ => .step (.release s) fun _ => .pure (),
        some s, cs[i].acquired + 1⟩).length := by simpa using hi
    have run := Holding.runs_to_done h cShake128 ⟨q.numSessions, rest⟩ hi'
      (by simpa using Fresh.holding ⟨β, body, hp⟩ hp s)
    simp only [List.set_set, List.getElem_set_self] at run
    rw [ha] at step run
    exact ⟨_, .head step run⟩
  · have := Holding.runs_to_done h cShake128 q hi hp
    rw [ha] at this
    exact ⟨_, this⟩
  · simp [Caller.unfinished, ha, hh] at hun

/-- In a reachable state where some call has yet to finish, one of them can finish: a holder if
there is one, otherwise a call that takes a session first. -/
theorem Pool.Inv.finish_one (h : HSM) (cShake128 : CShake128) (hinv : st.Inv s₀ n) (hne : s₀ ≠ [])
    (hun : ∃ c ∈ st.callers, c.unfinished ≠ none) :
    ∃ st', ReflTransGen (PoolStep h cShake128) st st' ∧
      st'.callers.length = st.callers.length ∧ st'.unfinished.length < st.unfinished.length := by
  obtain ⟨q, cs⟩ := st
  obtain ⟨i, hi, hun, hfree⟩ : ∃ i, ∃ hi : i < cs.length, cs[i].unfinished = some () ∧
      (cs[i].held = none → Pool.held ⟨q, cs⟩ = []) := by
    by_cases hheld : Pool.held ⟨q, cs⟩ = []
    · obtain ⟨c, hc, hun⟩ := hun
      obtain ⟨⟨⟩, hun⟩ := Option.ne_none_iff_exists'.1 hun
      obtain ⟨i, hi, rfl⟩ := List.mem_iff_getElem.1 hc
      exact ⟨i, hi, hun, fun _ => hheld⟩
    · obtain ⟨s, hs⟩ := List.exists_mem_of_ne_nil _ hheld
      obtain ⟨c, hc, hcs⟩ := List.mem_filterMap.1 hs
      obtain ⟨i, hi, rfl⟩ := List.mem_iff_getElem.1 hc
      exact ⟨i, hi, by simp [Caller.unfinished, hcs], fun h0 => by simp [h0] at hcs⟩
  obtain ⟨q', run⟩ := hinv.finish h cShake128 hne hi hun hfree
  have hlen := length_unfinished_set hi hun
  exact ⟨_, run, by simp, by simp only [Pool.unfinished]; omega⟩

/-- A goal reached by a potential: if from every state satisfying `I` either `G` holds or a run
leads to a state satisfying `I` with a smaller potential, then from every state satisfying `I` a
state satisfying `I` and `G` is reachable. -/
theorem exists_reflTransGen_of_measure {α : Type} {r : α → α → Prop} (I G : α → Prop)
    (μ : α → Nat) (h : ∀ a, I a → G a ∨ ∃ b, ReflTransGen r a b ∧ I b ∧ μ b < μ a) {a : α}
    (ha : I a) : ∃ b, ReflTransGen r a b ∧ I b ∧ G b := by
  obtain ⟨m, hm⟩ : ∃ m, μ a = m := ⟨_, rfl⟩
  induction m using Nat.strong_induction_on generalizing a with
  | _ m ih =>
    rcases h a ha with hG | ⟨b, hab, hb, hlt⟩
    · exact ⟨a, .refl, ha, hG⟩
    · obtain ⟨d, hbd, hd, hGd⟩ := ih _ (hm ▸ hlt) hb rfl
      exact ⟨d, hab.trans hbd, hd, hGd⟩

/-- From every reachable state the calls in flight can all finish, one after the other. -/
theorem calls_complete_of_reachable (h : HSM) (cShake128 : CShake128) {q₀ : SessionQueue}
    (hfull : (q₀.s.length : Int) = q₀.numSessions) (hne : q₀.s ≠ []) {st : Pool}
    (hr : ReflTransGen (PoolStep h cShake128) ⟨q₀, []⟩ st) :
    ∃ st', ReflTransGen (PoolStep h cShake128) st st' ∧
      st'.callers.length = st.callers.length ∧ (∀ c ∈ st'.callers, c.prog = .pure ()) ∧
      st'.queue.s.Perm q₀.s := by
  obtain ⟨st', run, ⟨hr', hlen⟩, hall⟩ := exists_reflTransGen_of_measure
    (fun st' => ReflTransGen (PoolStep h cShake128) ⟨q₀, []⟩ st' ∧
      st'.callers.length = st.callers.length)
    (fun st' => ∀ c ∈ st'.callers, c.unfinished = none) (fun st' => st'.unfinished.length)
    (fun st' ⟨hr', hlen⟩ => by
      by_cases hall : ∀ c ∈ st'.callers, c.unfinished = none
      · exact .inl hall
      push_neg at hall
      obtain ⟨st'', run, hlen', hlt⟩ := (pool_inv hfull hr').finish_one h cShake128 hne hall
      exact .inr ⟨st'', run, ⟨hr'.trans run, hlen'.trans hlen⟩, hlt⟩)
    ⟨hr, rfl⟩
  have hinv := pool_inv hfull hr'
  have hdone := fun c hc => (hinv.callers c hc).done (hall c hc)
  have hheld : st'.held = [] := List.filterMap_eq_nil_iff.2 fun c hc => (hdone c hc).2
  exact ⟨st', run, hlen, fun c hc => (hdone c hc).1, by simpa [hheld] using hinv.perm⟩

theorem pool_calls_complete (h : HSM) (cShake128 : CShake128) {q₀ : SessionQueue}
    (hfull : (q₀.s.length : Int) = q₀.numSessions) (hne : q₀.s ≠ []) {st : Pool}
    (hr : ReflTransGen (PoolStep h cShake128) ⟨q₀, []⟩ st) :
    ∃ st', ReflTransGen (PoolStep h cShake128) st st' ∧
      st'.callers.length = st.callers.length ∧ (∀ c ∈ st'.callers, c.prog = .pure ()) ∧
      st'.queue.s.Perm q₀.s :=
  calls_complete_of_reachable h cShake128 hfull hne hr

theorem pool_calls_complete_two : ∃ st : Pool,
    ReflTransGen (PoolStep caHSM zeroXof) ⟨⟨1, [sessionA]⟩, []⟩ st ∧
    ∃ st', ReflTransGen (PoolStep caHSM zeroXof) st st' ∧
      st'.callers.length = st.callers.length ∧ (∀ c ∈ st'.callers, c.prog = .pure ()) ∧
      st'.queue.s.Perm [sessionA] :=
  have steps := ((ReflTransGen.single
    (.spawn .verifySession : PoolStep caHSM zeroXof ⟨⟨1, [sessionA]⟩, []⟩ _)).tail
    (.spawn .verifySession)).tail (.getHandle 0 (by decide) rfl rfl)
  ⟨_, steps, pool_calls_complete caHSM zeroXof (by decide) (by decide) steps⟩

/-! ## The HSM `NewHSM` builds -/

/-- A configuration with one session and no key labels. -/
def bareSession : HSMConfig := ⟨"", 0, "", 1, [], [], ⟨0⟩⟩

end SecureElement
