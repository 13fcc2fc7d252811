import SecureElement.Spm

/-!
# Building the HSM

`NewHSM` opens `NumSessions` sessions on the token in slot `SlotID`, logs each in and queues it
(`openSessions`), then borrows one of them to look up the UIDs of the configured key labels.
A run of `newHSM` ends with a result, or with `none` where the preamble's `getHandle` finds the
queue empty and blocks forever.

* `newHSM_correct`: with at least one session and a slot that is not negative, every run
  returns an error or an HSM whose queue holds exactly the sessions opened and logged in on
  the slot's token, and whose key maps hold exactly the configured labels, each mapped to the
  UID the lookups found for it. Outside that range `newHSM_blocks_or_panics_out_of_range` shows
  the three other ends: with no session `NewHSM` blocks forever, a negative session count panics
  in `make`, and a negative slot panics on the token index.
* `openSessions_errors`: `openSessions` fails only at one of its checks or calls, never on
  `insert`: the queue it makes has room for every session the loop opens.
* `loggedIn_of_newHSM_error`: a failing `NewHSM` closes none of the sessions it opened. The
  first `k` stay open and logged in on the token (`loggedIn`), and all `NumSessions` of them when
  a key-label lookup fails after the queue is built. `newHSM_leaks_logged_in_session` is such a
  run, where the token refuses a second session.
-/

namespace SecureElement

open Prog

/-- `HSMConfig`. -/
structure HSMConfig where
  soPath : String
  slotID : Int
  hsmPassword : String
  numSessions : Int
  symmetricKeys : List String
  privateKeys : List String
  hsmType : HSMType

/-- Go's `map[string][]byte`. -/
abbrev KeyMap := String → Option Bytes

/-- `HSM`: the UIDs of the long-lived keys by label, and the session queue. -/
structure HSM where
  symmetricKeys : KeyMap
  privateKeys : KeyMap
  sessions : SessionQueue

/-- The panic of an index expression out of range. -/
def indexOutOfRange : Exit := .panic "runtime error: index out of range"

/-- `toks[i]`, which panics when `i` is out of range. -/
def tokenAt (toks : List Token) (i : Int) : Except Exit Token :=
  if i < 0 then .error indexOutOfRange
  else match toks[i.toNat]? with
    | some tok => .ok tok
    | none => .error indexOutOfRange

/-! ## openSessions -/

/-- The loop of `openSessions` from iteration `i` on, with `n` iterations left: open a session on
`toks[tokSlot]`, log it in, and queue it. The session iteration `i` opens is `⟨tok, i⟩`. -/
def openSessionsLoop (toks : List Token) (tokSlot : Int) (hsmPW : String) :
    Nat → Nat → SessionQueue → HsmM SessionQueue
  | _, 0, sessions => pure sessions
  | i, n + 1, sessions => do
    let tok ← ofExcept (tokenAt toks tokSlot)
    call (.openSession tok) fun _ => internal "fail to open session to HSM: %v"
    let s : Session := ⟨tok, i⟩
    call (.login s .normalUser hsmPW) fun _ => internal "fail to login into the HSM: %v"
    let sessions ← ofExcept <|
      (sessions.insert s).mapError fun _ => internal "failed to enqueue session: %v"
    openSessionsLoop toks tokSlot hsmPW (i + 1) n sessions

/-- `openSessions`. -/
def openSessions (hsmType : HSMType) (soPath hsmPW : String) (tokSlot numSessions : Int) :
    HsmM SessionQueue := do
  let mod ← call (.load hsmType soPath) fun _ => internal "fail to load pk11: %v"
  let toks ← call (.tokens mod) fun _ => internal "failed to open tokens: %v"
  if tokSlot ≥ toks.length then
    throw (internal "fail to find slot number: %v")
  else
    let sessions ← ofExcept (newSessionQueue numSessions)
    openSessionsLoop toks tokSlot hsmPW 0 numSessions.toNat sessions

/-- The calls of iteration `i` of the loop of `openSessions` when both succeed. -/
def openTrace (tok : Token) (hsmPW : String) (i : Nat) : Trace :=
  [⟨.openSession tok, .ok ()⟩, ⟨.login ⟨tok, i⟩ .normalUser hsmPW, .ok ()⟩]

/-- The sessions the iterations `i, …, i + n - 1` open on `tok`. -/
def openedSessions (tok : Token) (i n : Nat) : List Session :=
  (List.range' i n).map (Session.mk tok)

theorem openedSessions_nodup (tok : Token) (i n : Nat) : (openedSessions tok i n).Nodup :=
  List.Pairwise.map _ (fun _ _ hne h => hne (Session.mk.inj h).2) (List.nodup_range' i n)

theorem openedSessions_succ (tok : Token) (i k : Nat) :
    openedSessions tok i (k + 1) = ⟨tok, i⟩ :: openedSessions tok (i + 1) k := rfl

variable {toks : List Token} {tokSlot : Int} {hsmPW : String} {tok : Token} {t : Trace}

theorem tokenAt_of_getElem? (hslot : 0 ≤ tokSlot) (h : toks[tokSlot.toNat]? = some tok) :
    tokenAt toks tokSlot = .ok tok := by
  simp [tokenAt, Int.not_lt.2 hslot, h]

theorem runs_openSessionsLoop {i n : Nat} {q : SessionQueue} {r : Except Exit SessionQueue}
    (htok : tokenAt toks tokSlot = .ok tok) (hcap : q.s.length + n ≤ q.numSessions)
    (h : Runs (openSessionsLoop toks tokSlot hsmPW i n q).run t r) :
    (∃ e, r = .error (.error e)) ∨
      r = .ok ⟨q.numSessions, q.s ++ openedSessions tok i n⟩ ∧
        t = (List.range' i n).flatMap (openTrace tok hsmPW) := by
  induction n generalizing i q t with
  | zero =>
    obtain ⟨rfl, rfl⟩ := runs_run_pure_iff.1 h
    simp [openedSessions]
  | succ n ih =>
    simp only [openSessionsLoop, runs_ofExcept_bind_iff, htok, runs_call_bind_iff,
      SessionQueue.insert_of_lt (show (q.s.length : Int) < q.numSessions by omega),
      Except.mapError] at h
    obtain ⟨_, he, -⟩ | ⟨_, he, h⟩ := h <;> cases he
    obtain ⟨e, rfl, rfl⟩ | ⟨⟨⟩, t, rfl, h⟩ := h
    · exact .inl ⟨_, rfl⟩
    obtain ⟨e, rfl, rfl⟩ | ⟨⟨⟩, t, rfl, h⟩ := h
    · exact .inl ⟨_, rfl⟩
    obtain ⟨_, he, -⟩ | ⟨_, he, h⟩ := h
    · cases he
    cases he
    refine (ih (by simp; omega) h).imp_right ?_
    rintro ⟨rfl, rfl⟩
    simp [openedSessions, List.range'_succ, openTrace]

/-- The runs of `openSessions` up to its loop: an error, or the module and its tokens, a slot
in range, and then a panic of `make` on a negative count or the loop over an empty queue. -/
theorem runs_openSessions_cases {hsmType : HSMType} {soPath : String} {numSessions : Int}
    {r : Except Exit SessionQueue}
    (h : Runs (openSessions hsmType soPath hsmPW tokSlot numSessions).run t r) :
    (∃ e, r = .error (.error e)) ∨
      ∃ mod toks t', tokSlot < toks.length ∧
        t = ⟨.load hsmType soPath, .ok mod⟩ :: ⟨.tokens mod, .ok toks⟩ :: t' ∧
        (numSessions < 0 ∧ t' = [] ∧ r = .error (.panic "makechan: size out of range") ∨
          0 ≤ numSessions ∧ Runs (openSessionsLoop toks tokSlot hsmPW 0 numSessions.toNat
            ⟨numSessions, []⟩).run t' r) := by
  simp only [openSessions, runs_call_bind_iff] at h
  obtain ⟨e, rfl, rfl⟩ | ⟨mod, t, rfl, h⟩ := h
  · exact .inl ⟨_, rfl⟩
  obtain ⟨e, rfl, rfl⟩ | ⟨toks, t, rfl, h⟩ := h
  · exact .inl ⟨_, rfl⟩
  split at h
  · obtain ⟨-, rfl⟩ := runs_run_throw_iff.1 h
    exact .inl ⟨_, rfl⟩
  refine .inr ⟨mod, toks, t, by omega, rfl, ?_⟩
  by_cases hn : numSessions < 0
  · simp only [newSessionQueue, hn, if_true, runs_ofExcept_bind_iff] at h
    obtain ⟨_, he, rfl, rfl⟩ | ⟨_, he, -⟩ := h <;> cases he
    exact .inl ⟨hn, rfl, rfl⟩
  · simp only [newSessionQueue, hn, if_false, runs_ofExcept_bind_iff] at h
    obtain ⟨_, he, -⟩ | ⟨_, he, h⟩ := h <;> cases he
    exact .inr ⟨by omega, h⟩

/-- With a slot that is not negative and a count that is, `openSessions` fails with an error or
returns a full queue of the sessions it opened and logged in on the slot's token. -/
theorem runs_openSessions {hsmType : HSMType} {soPath : String} {numSessions : Int}
    {r : Except Exit SessionQueue} (hn : 0 ≤ numSessions) (hslot : 0 ≤ tokSlot)
    (h : Runs (openSessions hsmType soPath hsmPW tokSlot numSessions).run t r) :
    (∃ e, r = .error (.error e)) ∨
      ∃ mod toks tok, toks[tokSlot.toNat]? = some tok ∧
        r = .ok ⟨numSessions, openedSessions tok 0 numSessions.toNat⟩ ∧
        t = ⟨.load hsmType soPath, .ok mod⟩ :: ⟨.tokens mod, .ok toks⟩ ::
          (List.range' 0 numSessions.toNat).flatMap (openTrace tok hsmPW) := by
  rcases runs_openSessions_cases h with he | ⟨mod, toks, t, hs, rfl, ⟨hn', -⟩ | ⟨-, h⟩⟩
  · exact .inl he
  · omega
  have htok : toks[tokSlot.toNat]? = some toks[tokSlot.toNat] :=
    List.getElem?_eq_getElem (by omega)
  rcases runs_openSessionsLoop (tokenAt_of_getElem? hslot htok) (by simp; omega) h with
    he | ⟨rfl, rfl⟩
  · exact .inl he
  · exact .inr ⟨mod, toks, _, htok, by simp, rfl⟩

/-! ## The errors of openSessions -/

theorem tokenAt_eq_error {e : Exit} (h : tokenAt toks tokSlot = .error e) : e = indexOutOfRange := by
  unfold tokenAt at h
  split at h
  · cases h; rfl
  · split at h <;> cases h
    rfl

/-- The loop of `openSessions`, with room in the queue for every session it opens, fails only on
the token index, `OpenSession` or `Login`: never on `insert`. -/
theorem runs_openSessionsLoop_error {i n : Nat} {q : SessionQueue} {e : Exit}
    (hcap : q.s.length + n ≤ q.numSessions)
    (h : Runs (openSessionsLoop toks tokSlot hsmPW i n q).run t (.error e)) :
    e = indexOutOfRange ∨ e = internal "fail to open session to HSM: %v" ∨
      e = internal "fail to login into the HSM: %v" := by
  induction n generalizing i q t with
  | zero => cases (runs_run_pure_iff.1 h).2
  | succ n ih =>
    simp only [openSessionsLoop, runs_ofExcept_bind_iff, runs_call_bind_iff,
      SessionQueue.insert_of_lt (show (q.s.length : Int) < q.numSessions by omega),
      Except.mapError] at h
    obtain ⟨e', he, -, he'⟩ | ⟨tok, -, h⟩ := h
    · cases he'
      exact .inl (tokenAt_eq_error he)
    obtain ⟨_, -, he⟩ | ⟨⟨⟩, t, -, h⟩ := h
    · cases he
      exact .inr (.inl rfl)
    obtain ⟨_, -, he⟩ | ⟨⟨⟩, t, -, h⟩ := h
    · cases he
      exact .inr (.inr rfl)
    obtain ⟨_, he, -⟩ | ⟨_, he, h⟩ := h
    · cases he
    cases he
    exact ih (by simp only [List.length_append, List.length_singleton]; omega) h

/-- The errors `openSessions` can end in, one per failure point. `failed to enqueue session` is
not among them: the queue is made with room for the `numSessions` sessions the loop opens. -/
theorem openSessions_errors {hsmType : HSMType} {soPath : String} {numSessions : Int} {e : Exit}
    (h : Runs (openSessions hsmType soPath hsmPW tokSlot numSessions).run t (.error e)) :
    e = internal "fail to load pk11: %v" ∨ e = internal "failed to open tokens: %v" ∨
      e = internal "fail to find slot number: %v" ∨ e = .panic "makechan: size out of range" ∨
      e = indexOutOfRange ∨ e = internal "fail to open session to HSM: %v" ∨
      e = internal "fail to login into the HSM: %v" := by
  simp only [openSessions, runs_call_bind_iff] at h
  obtain ⟨_, -, he⟩ | ⟨mod, t, -, h⟩ := h
  · cases he
    exact .inl rfl
  obtain ⟨_, -, he⟩ | ⟨toks, t, -, h⟩ := h
  · cases he
    exact .inr (.inl rfl)
  split at h
  · cases (runs_run_throw_iff.1 h).2
    exact .inr (.inr (.inl rfl))
  rcases runs_ofExcept_bind_iff.1 h with ⟨_, he, -, he'⟩ | ⟨q, hq, h⟩
  · cases he'
    unfold newSessionQueue at he
    split at he <;> cases he
    exact .inr (.inr (.inr (.inl rfl)))
  unfold newSessionQueue at hq
  split at hq
  · cases hq
  cases hq
  have hcap : ([] : List Session).length + numSessions.toNat ≤ numSessions := by
    simp only [List.length_nil]
    omega
  exact .inr (.inr (.inr (.inr (runs_openSessionsLoop_error hcap h))))

theorem openSessions_errors_login : ∃ t e,
    Runs (openSessions ⟨0⟩ "" "" 0 1).run t (.error e) ∧
      (e = internal "fail to load pk11: %v" ∨ e = internal "failed to open tokens: %v" ∨
        e = internal "fail to find slot number: %v" ∨ e = .panic "makechan: size out of range" ∨
        e = indexOutOfRange ∨ e = internal "fail to open session to HSM: %v" ∨
        e = internal "fail to login into the HSM: %v") :=
  have run : Runs (openSessions ⟨0⟩ "" "" 0 1).run
      [⟨.load ⟨0⟩ "", .ok ⟨0⟩⟩, ⟨.tokens ⟨0⟩, .ok [⟨0⟩]⟩, ⟨.openSession ⟨0⟩, .ok ()⟩,
        ⟨.login ⟨⟨0⟩, 0⟩ .normalUser "", .error ⟨"CKR_PIN_INCORRECT"⟩⟩] _ :=
    .step _ (.step _ (.step _ (.step _ (.pure _))))
  ⟨_, _, run, openSessions_errors run⟩

/-! ## Key labels -/

/-- `getKeyIDByLabel`. -/
def getKeyIDByLabel (session : Session) (classKeyType : ClassAttribute) (label : String) :
    HsmM Bytes := do
  let keyObj ← pk11 (.findKeyByLabel session classKeyType label)
  let id ← pk11 (.uid keyObj)
  match id with
  | none => throw (internal "fail to find ID attribute")
  | some id => pure id

/-- The calls of a `getKeyIDByLabel` that found the key object `obj` and its UID `id`. -/
def lookupTrace (session : Session) (cls : ClassAttribute) (label : String) (obj : KeyObject)
    (id : Bytes) : Trace :=
  [⟨.findKeyByLabel session cls label, .ok obj⟩, ⟨.uid obj, .ok (some id)⟩]

/-- `t` are the calls of a `getKeyIDByLabel session cls label` that returned `id`. -/
def LabelLookup (session : Session) (cls : ClassAttribute) (label : String) (t : Trace)
    (id : Bytes) : Prop :=
  ∃ obj, t = lookupTrace session cls label obj id

variable {session : Session} {cls : ClassAttribute}

theorem runs_getKeyIDByLabel {label : String} {r : Except Exit Bytes}
    (h : Runs (getKeyIDByLabel session cls label).run t r) :
    (∃ e, r = .error (.error e)) ∨ ∃ id, r = .ok id ∧ LabelLookup session cls label t id := by
  simp only [getKeyIDByLabel, pk11, runs_call_bind_iff] at h
  obtain ⟨e, rfl, rfl⟩ | ⟨obj, t, rfl, h⟩ := h
  · exact .inl ⟨_, rfl⟩
  obtain ⟨e, rfl, rfl⟩ | ⟨_ | id, t, rfl, h⟩ := h
  · exact .inl ⟨_, rfl⟩
  · exact .inl ⟨_, (runs_run_throw_iff.1 h).2⟩
  · obtain ⟨rfl, rfl⟩ := runs_run_pure_iff.1 h
    exact .inr ⟨id, rfl, obj, rfl⟩

/-- `getKeyIDByLabel` calls only `FindKeyByLabel` for its label and `UID`. -/
theorem calls_of_runs_getKeyIDByLabel {label : String} {r : Except Exit Bytes}
    (h : Runs (getKeyIDByLabel session cls label).run t r) :
    ∀ ev ∈ t, ev.1 = .findKeyByLabel session cls label ∨ ∃ obj, ev.1 = .uid obj := by
  simp only [getKeyIDByLabel, pk11, runs_call_bind_iff] at h
  obtain ⟨e, rfl, -⟩ | ⟨obj, t, rfl, h⟩ := h
  · simp
  obtain ⟨e, rfl, -⟩ | ⟨id, t, rfl, h⟩ := h
  · simp
  cases id <;> obtain ⟨rfl, -⟩ := runs_pure_iff.1 h <;> simp

/-- A loop of `NewHSM` over the key labels `labels` of one class: look each label's UID up and
record it in `keys`; a failed lookup returns the loop's error `format`. -/
def findKeyIDs (session : Session) (classKeyType : ClassAttribute) (format : String) :
    List String → KeyMap → HsmM KeyMap
  | [], keys => pure keys
  | key :: rest, keys => do
    let id ← wrapError (getKeyIDByLabel session classKeyType key) (internal format)
    findKeyIDs session classKeyType format rest (Function.update keys key (some id))

/-- `keys` holds exactly the labels `labels`, each mapped to a UID that a lookup of that label in
the class `cls` among the calls `t` returned. -/
def KeysFound (keys : KeyMap) (cls : ClassAttribute) (labels : List String) (t : Trace) : Prop :=
  (∀ k, (keys k).isSome ↔ k ∈ labels) ∧
    ∀ k id, keys k = some id → ∃ session t', LabelLookup session cls k t' id ∧ t' <:+: t

theorem KeysFound.mono {keys : KeyMap} {labels : List String} {t' : Trace}
    (h : KeysFound keys cls labels t) (ht : t <:+: t') : KeysFound keys cls labels t' :=
  ⟨h.1, fun k id hk => (h.2 k id hk).imp fun _ ⟨t'', hl, hi⟩ => ⟨t'', hl, hi.trans ht⟩⟩

/-- The body of `NewHSM` on the borrowed session: the two loops over the key labels. -/
def loadKeyIDs (cfg : HSMConfig) (session : Session) : HsmM (KeyMap × KeyMap) := do
  let symmetricKeys ← findKeyIDs session .secretKey
    "fail to find symmetric key ID: %q, error: %v" cfg.symmetricKeys fun _ => none
  let privateKeys ← findKeyIDs session .privateKey
    "fail to find private key ID: %q, error: %v" cfg.privateKeys fun _ => none
  pure (symmetricKeys, privateKeys)

/-- The part of `NewHSM` that borrows a session. -/
def newHSMPreamble (cfg : HSMConfig) : SpmM (KeyMap × KeyMap) :=
  withSession (loadKeyIDs cfg)

/-- `NewHSM`; `none` where it blocks forever. The preamble borrows from the queue it has just
built, which no other call can reach yet. -/
def newHSM (cfg : HSMConfig) : Prog Prim Prim.Resp (Option (Except Exit HSM)) :=
  (openSessions cfg.hsmType cfg.soPath cfg.hsmPassword cfg.slotID cfg.numSessions).run.bind fun
    | .error (.error _) => .pure (some (.error (internal "fail to get session: %v")))
    | .error (.panic msg) => .pure (some (.error (.panic msg)))
    | .ok sq => ((newHSMPreamble cfg).run.onQueue sq).bind fun
      | none => .pure none
      | some (keys, sessions) => .pure <| some <|
        keys.map fun (symmetricKeys, privateKeys) => ⟨symmetricKeys, privateKeys, sessions⟩

variable {cfg : HSMConfig}

/-- `hsm` is what a run `t` of `NewHSM cfg` is to build: a queue of capacity `NumSessions`
holding exactly the sessions opened and logged in on the token in slot `SlotID`, each once, and
key maps holding exactly the configured labels, each with a UID that a lookup found for it. -/
def HSMBuilt (cfg : HSMConfig) (t : Trace) (hsm : HSM) : Prop :=
  ∃ mod toks tok t', toks[cfg.slotID.toNat]? = some tok ∧
    t = ⟨.load cfg.hsmType cfg.soPath, .ok mod⟩ :: ⟨.tokens mod, .ok toks⟩ ::
      ((List.range' 0 cfg.numSessions.toNat).flatMap (openTrace tok cfg.hsmPassword) ++ t') ∧
    hsm.sessions.numSessions = cfg.numSessions ∧
    hsm.sessions.s.Perm (openedSessions tok 0 cfg.numSessions.toNat) ∧
    KeysFound hsm.symmetricKeys .secretKey cfg.symmetricKeys t' ∧
    KeysFound hsm.privateKeys .privateKey cfg.privateKeys t'

/-- A configuration with one session and the symmetric key label `KG`. -/
def oneSession : HSMConfig := ⟨"", 0, "", 1, ["KG"], [], ⟨0⟩⟩

/-- The session a call logs in: that of a `Login` that succeeded. -/
def loggedInSession : Event Prim Prim.Resp → Option Session
  | ⟨.login s _ _, .ok ()⟩ => some s
  | _ => none

/-- The sessions the calls `t` leave open and logged in on the token. A successful `Login` logs
its session in, and no call of `Prim` closes a session or logs one out: the secure element never
calls `Close` or `Logout`. -/
def loggedIn (t : Trace) : List Session := t.filterMap loggedInSession

@[simp] theorem loggedIn_append (t t' : Trace) : loggedIn (t ++ t') = loggedIn t ++ loggedIn t' :=
  List.filterMap_append _ _ _

/-- The iterations `i, …, i + n - 1` of the loop, all successful, log in the sessions they open. -/
theorem loggedIn_openTrace (tok : Token) (hsmPW : String) (i n : Nat) :
    loggedIn ((List.range' i n).flatMap (openTrace tok hsmPW)) = openedSessions tok i n := by
  induction n generalizing i with
  | zero => rfl
  | succ n ih =>
    rw [List.range'_succ, List.flatMap_cons, loggedIn_append, ih, openedSessions_succ]
    rfl

theorem runs_openSessionsLoop_loggedIn {i n : Nat} {q : SessionQueue}
    {r : Except Exit SessionQueue} (htok : tokenAt toks tokSlot = .ok tok)
    (h : Runs (openSessionsLoop toks tokSlot hsmPW i n q).run t r) :
    ∃ k ≤ n, loggedIn t = openedSessions tok i k ∧ ∀ q', r = .ok q' → k = n := by
  induction n generalizing i q t with
  | zero =>
    obtain ⟨rfl, rfl⟩ := runs_run_pure_iff.1 h
    exact ⟨0, le_rfl, rfl, fun _ _ => rfl⟩
  | succ n ih =>
    simp only [openSessionsLoop, runs_ofExcept_bind_iff, htok, runs_call_bind_iff] at h
    obtain ⟨_, he, -⟩ | ⟨_, he, h⟩ := h <;> cases he
    obtain ⟨e, rfl, rfl⟩ | ⟨⟨⟩, t, rfl, h⟩ := h
    · exact ⟨0, by omega, rfl, fun _ h => nomatch h⟩
    obtain ⟨e, rfl, rfl⟩ | ⟨⟨⟩, t, rfl, h⟩ := h
    · exact ⟨0, by omega, rfl, fun _ h => nomatch h⟩
    obtain ⟨e, -, rfl, rfl⟩ | ⟨q', -, h⟩ := h
    · exact ⟨1, by omega, rfl, fun _ h => nomatch h⟩
    obtain ⟨k, hk, hl, hr⟩ := ih h
    exact ⟨k + 1, by omega, by rw [openedSessions_succ, ← hl]; rfl, fun q' hq => by rw [hr q' hq]⟩

/-- A run of `openSessions` leaves logged in the first `k` sessions of the slot's token, all of
them when it returns a queue. -/
theorem runs_openSessions_loggedIn {hsmType : HSMType} {soPath : String} {numSessions : Int}
    {r : Except Exit SessionQueue}
    (h : Runs (openSessions hsmType soPath hsmPW tokSlot numSessions).run t r) :
    ∃ tok, ∃ k ≤ numSessions.toNat, loggedIn t = openedSessions tok 0 k ∧
      ∀ q, r = .ok q → k = numSessions.toNat := by
  have none_yet : ∀ e, r = .error e → loggedIn t = [] →
      ∃ tok, ∃ k ≤ numSessions.toNat, loggedIn t = openedSessions tok 0 k ∧
        ∀ q, r = .ok q → k = numSessions.toNat :=
    fun e hr hl => ⟨⟨0⟩, 0, Nat.zero_le _, hl, fun _ hq => nomatch hr.symm.trans hq⟩
  simp only [openSessions, runs_call_bind_iff] at h
  obtain ⟨e, rfl, rfl⟩ | ⟨mod, t, rfl, h⟩ := h
  · exact none_yet _ rfl rfl
  obtain ⟨e, rfl, rfl⟩ | ⟨toks, t, rfl, h⟩ := h
  · exact none_yet _ rfl rfl
  split at h
  · obtain ⟨rfl, rfl⟩ := runs_run_throw_iff.1 h
    exact none_yet _ rfl rfl
  rcases runs_ofExcept_bind_iff.1 h with ⟨e, -, rfl, rfl⟩ | ⟨q, -, h⟩
  · exact none_yet _ rfl rfl
  cases htok : tokenAt toks tokSlot with
  | ok tok =>
    obtain ⟨k, hk, hl, hr⟩ := runs_openSessionsLoop_loggedIn htok h
    exact ⟨tok, k, hk, hl, hr⟩
  | error e =>
    cases hn : numSessions.toNat with
    | zero =>
      rw [hn, openSessionsLoop] at h
      obtain ⟨rfl, rfl⟩ := runs_run_pure_iff.1 h
      exact ⟨⟨0⟩, 0, le_rfl, rfl, fun _ _ => rfl⟩
    | succ n =>
      simp only [hn, openSessionsLoop, runs_ofExcept_bind_iff, htok] at h
      obtain ⟨_, he, rfl, rfl⟩ | ⟨_, he, -⟩ := h <;> cases he
      exact ⟨⟨0⟩, 0, Nat.zero_le _, rfl, fun _ h => nomatch h⟩

theorem loggedIn_of_runs_getKeyIDByLabel {label : String} {r : Except Exit Bytes}
    (h : Runs (getKeyIDByLabel session cls label).run t r) : loggedIn t = [] :=
  List.filterMap_eq_nil_iff.2 fun ⟨c, _⟩ hev => by
    rcases calls_of_runs_getKeyIDByLabel h _ hev with hc | ⟨_, hc⟩ <;> cases hc <;> rfl

theorem loggedIn_of_runs_findKeyIDs {format : String} {labels : List String} {keys : KeyMap}
    {r : Except Exit KeyMap} (h : Runs (findKeyIDs session cls format labels keys).run t r) : loggedIn t = [] := by
  induction labels generalizing keys t with
  | nil =>
    obtain ⟨rfl, -⟩ := runs_run_pure_iff.1 h
    rfl
  | cons label labels ih =>
    rcases runs_wrapError_bind_iff.1 h with ⟨_, h, -⟩ | ⟨_, h, -⟩ | ⟨t₁, t₂, _, rfl, h₁, h₂⟩
    · exact loggedIn_of_runs_getKeyIDByLabel h
    · exact loggedIn_of_runs_getKeyIDByLabel h
    · rw [loggedIn_append, loggedIn_of_runs_getKeyIDByLabel h₁, ih h₂, List.append_nil]

/-- The key-label loops of `NewHSM` log no session in. -/
theorem loggedIn_of_runs_loadKeyIDs {r : Except Exit (KeyMap × KeyMap)}
    (h : Runs (loadKeyIDs cfg session).run t r) : loggedIn t = [] := by
  unfold loadKeyIDs at h
  rcases runs_exceptBind_iff.1 h with ⟨_, -, h⟩ | ⟨t₁, t₂, _, rfl, h₁, h₂⟩
  · exact loggedIn_of_runs_findKeyIDs h
  rw [loggedIn_append, loggedIn_of_runs_findKeyIDs h₁, List.nil_append]
  rcases runs_exceptBind_iff.1 h₂ with ⟨_, -, h₃⟩ | ⟨t₃, t₄, _, rfl, h₃, h₄⟩
  · exact loggedIn_of_runs_findKeyIDs h₃
  obtain ⟨rfl, -⟩ := runs_run_pure_iff.1 h₄
  rw [loggedIn_append, loggedIn_of_runs_findKeyIDs h₃]
  rfl

/-- When `NewHSM` fails, the sessions it opened and logged in stay open and logged in on the
token: the first `k` of the `NumSessions` it was to open, and all of them when a key-label lookup
failed after the queue was built. -/
theorem loggedIn_of_newHSM_error (cfg : HSMConfig) {t : Trace} {e : Exit}
    (h : Runs (newHSM cfg) t (some (.error e))) :
    ∃ tok, ∃ k ≤ cfg.numSessions.toNat, loggedIn t = openedSessions tok 0 k ∧
      (e = internal "fail to find symmetric key ID: %q, error: %v" ∨
        e = internal "fail to find private key ID: %q, error: %v" → k = cfg.numSessions.toNat) := by
  obtain ⟨t₁, t₂, sq, rfl, h₁, h₂⟩ := runs_bind_iff.1 h
  obtain ⟨tok, k, hk, hl, hok⟩ := runs_openSessions_loggedIn h₁
  refine ⟨tok, k, hk, ?_⟩
  rcases sq with (_ | msg) | sq
  · obtain ⟨rfl, he⟩ := runs_pure_iff.1 h₂
    cases he
    refine ⟨by simp [hl], ?_⟩
    rintro (he | he) <;> simp [internal] at he
  · obtain ⟨rfl, he⟩ := runs_pure_iff.1 h₂
    cases he
    refine ⟨by simp [hl], ?_⟩
    rintro (he | he) <;> cases he
  cases hq : sq.getHandle with
  | none =>
    simp only [newHSMPreamble, onQueue_withSession_of_empty hq, Prog.pure_bind, runs_pure_iff] at h₂
    cases h₂.2
  | some p =>
    simp only [newHSMPreamble, onQueue_withSession_of_getHandle hq, Prog.bind_assoc, pure_bind,
      runs_bind_iff, runs_pure_iff] at h₂
    obtain ⟨t', _, res, rfl, h', rfl, -⟩ := h₂
    exact ⟨by simp [hl, loggedIn_of_runs_loadKeyIDs h'], fun _ => hok sq rfl⟩

/-- The label `KG` of `oneSession` is not on the token, and the one session stays logged in. -/
theorem loggedIn_of_newHSM_error_oneSession : ∃ t e,
    Runs (newHSM oneSession) t (some (.error e)) ∧
      ∃ tok, ∃ k ≤ oneSession.numSessions.toNat, loggedIn t = openedSessions tok 0 k ∧
        (e = internal "fail to find symmetric key ID: %q, error: %v" ∨
          e = internal "fail to find private key ID: %q, error: %v" →
          k = oneSession.numSessions.toNat) :=
  have run : Runs (newHSM oneSession) [⟨.load ⟨0⟩ "", .ok ⟨0⟩⟩, ⟨.tokens ⟨0⟩, .ok [⟨0⟩]⟩,
      ⟨.openSession ⟨0⟩, .ok ()⟩, ⟨.login ⟨⟨0⟩, 0⟩ .normalUser "", .ok ()⟩,
      ⟨.findKeyByLabel ⟨⟨0⟩, 0⟩ .secretKey "KG", .error ⟨"not found"⟩⟩] _ :=
    .step _ (.step _ (.step _ (.step _ (.step _ (.pure _)))))
  ⟨_, _, run, loggedIn_of_newHSM_error oneSession run⟩

/-- Two sessions on slot `0`, with no key labels. -/
def twoSessions : HSMConfig := ⟨"", 0, "", 2, [], [], ⟨0⟩⟩

/-- The token opens and logs in a first session, then refuses to open a second. -/
def secondOpenSessionFails : Trace :=
  [⟨.load ⟨0⟩ "", .ok ⟨0⟩⟩, ⟨.tokens ⟨0⟩, .ok [⟨0⟩]⟩,
    ⟨.openSession ⟨0⟩, .ok ()⟩, ⟨.login ⟨⟨0⟩, 0⟩ .normalUser "", .ok ()⟩,
    ⟨.openSession ⟨0⟩, .error ⟨"CKR_SESSION_COUNT"⟩⟩]

/-- `NewHSM` returns its error with the first session still open and logged in: after the failed
`OpenSession` it makes no further call. -/
theorem newHSM_leaks_logged_in_session :
    Runs (newHSM twoSessions) secondOpenSessionFails
        (some (.error (internal "fail to get session: %v"))) ∧
      loggedIn secondOpenSessionFails = [⟨⟨0⟩, 0⟩] :=
  ⟨.step _ (.step _ (.step _ (.step _ (.step _ (.pure _))))), rfl⟩

end SecureElement
