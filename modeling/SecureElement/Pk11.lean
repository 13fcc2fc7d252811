import SecureElement.Prog

/-!
# The pk11 interface

The calls the secure element makes on the PKCS#11 binding `pk11` and on the certificate
`signer`, as effects `Prim` answered by `Prim.Resp`: the value the Go method returns, or the
error it returns instead. The binding itself is not modelled; its handles (sessions, key
objects, key pairs, signers) are opaque and carry only their identity.

The secure element's own functions run in `HsmM`, the error monad over programs issuing these
calls. `call c onError` is the Go idiom

    v, err := <call c>
    if err != nil { return nil, <onError err> }

and `runs_call_bind_iff` describes the runs of a program that starts with it. `collect` is the
loop that appends one result per element, and `PanicsOnly P x` says which panics `x` can end
in, with one rule per combinator.
-/

namespace SecureElement

open Prog

/-- Go's `[]byte`. -/
abbrev Bytes := List UInt8

/-- Go's `[]byte(s)`: the bytes of the string `s`. -/
def goBytes (s : String) : Bytes := s.toUTF8.toList

/-- Go's `uint(x)` for an `int` `x`: the value modulo `2 ^ 64`. -/
def goUint (x : Int) : Nat := (x % 18446744073709551616).toNat

/-! ## Handles -/

/-- A loaded PKCS#11 module (`*pk11.Mod`). -/
structure Mod where
  id : Nat
  deriving DecidableEq, Repr

/-- A token of the module (`pk11.Token`). -/
structure Token where
  id : Nat
  deriving DecidableEq, Repr

/-- A session object (`*pk11.Session`). `OpenSession` allocates a new one; the model names the
object allocated by the `serial`-th iteration of `openSessions` on the token `tok`. -/
structure Session where
  tok : Token
  serial : Nat
  deriving DecidableEq, Repr

/-- A key object found by label, before its UID is read. -/
structure KeyObject where
  id : Nat
  deriving DecidableEq, Repr

/-- A handle to a secret key on the HSM (`pk11.SecretKey`). -/
structure SecretKey where
  id : Nat
  deriving DecidableEq, Repr

/-- A handle to a private key on the HSM (`pk11.PrivateKey`). -/
structure PrivateKey where
  id : Nat
  deriving DecidableEq, Repr

/-- A handle to a public key on the HSM (`pk11.PublicKey`). -/
structure PublicKey where
  id : Nat
  deriving DecidableEq, Repr

/-- A key pair generated on the HSM (`pk11.KeyPair`). -/
structure KeyPair where
  publicKey : PublicKey
  privateKey : PrivateKey
  deriving DecidableEq, Repr

/-- A `crypto.Signer` backed by an HSM private key. -/
structure Signer where
  id : Nat
  deriving DecidableEq, Repr

/-- An `*x509.Certificate`: a certificate template, or the CA certificate. -/
structure Certificate where
  id : Nat
  deriving DecidableEq, Repr

/-- A named elliptic curve (`elliptic.Curve`). -/
structure Curve where
  name : String
  deriving DecidableEq, Repr

/-- The value `ExportKey` returns: raw AES key bytes (`pk11.AESKey`), or a key of another
concrete type. -/
inductive ExportedKey where
  | aesKey (key : Bytes)
  | other (id : Nat)
  deriving DecidableEq, Repr

/-- The key a `WrapAES` call wraps. -/
inductive WrapTarget where
  | secretKey (k : SecretKey)
  | privateKey (k : PrivateKey)
  deriving DecidableEq, Repr

/-- The object classes searched by label (`pk11.ClassSecretKey`, `pk11.ClassPrivateKey`). -/
inductive ClassAttribute where
  | secretKey
  | privateKey
  deriving DecidableEq, Repr

/-- The user a session logs in as (`pk11.NormalUser`, the Crypto User). -/
inductive UserType where
  | normalUser
  deriving DecidableEq, Repr

/-- The kind of HSM the module drives (`pk11.HSMType`). -/
structure HSMType where
  id : Nat
  deriving DecidableEq, Repr

/-- `pk11.KeyOptions`. -/
structure KeyOptions where
  extractable : Bool
  deriving DecidableEq, Repr

/-- A `crypto.Hash`, by its Go constant. -/
structure Hash where
  id : Nat
  deriving DecidableEq, Repr

/-- `crypto.SHA256`. -/
def sha256 : Hash := ⟨5⟩
/-- `crypto.SHA384`. -/
def sha384 : Hash := ⟨6⟩
/-- `crypto.SHA512`. -/
def sha512 : Hash := ⟨7⟩

/-- An error returned by the binding. -/
structure Pk11Error where
  msg : String
  deriving DecidableEq, Repr

/-! ## Calls -/

/-- A call on the binding, with its arguments. -/
inductive Prim where
  | load (hsmType : HSMType) (soPath : String)
  | tokens (mod : Mod)
  | openSession (tok : Token)
  | login (s : Session) (user : UserType) (pin : String)
  | findKeyByLabel (s : Session) (cls : ClassAttribute) (label : String)
  | uid (obj : KeyObject)
  | findSecretKey (s : Session) (uid : Bytes)
  | findPrivateKey (s : Session) (uid : Bytes)
  | hkdfDeriveAES (key : SecretKey) (hash : Hash) (salt info : Bytes) (bits : Nat)
      (opts : KeyOptions)
  | wrapAES (wrapping : SecretKey) (key : WrapTarget)
  | exportPublicKey (key : PublicKey)
  | exportSecretKey (key : SecretKey)
  | signer (key : PrivateKey)
  | generateRSA (s : Session) (modBits exp : Nat) (opts : KeyOptions)
  | generateECDSA (s : Session) (curve : Curve) (opts : KeyOptions)
  | destroyKeyPairObject (s : Session) (kp : KeyPair)
  | signECDSA (key : PrivateKey) (hash : Hash) (data : Bytes)
  | generateRandom (s : Session) (length : Int)
  | createCertificate (template parent : Certificate) (pub : ExportedKey) (signer : Signer)
  deriving DecidableEq, Repr

/-- The value a successful call returns. `UID` may return a nil slice (`none`); `OpenSession`
returns the new session object, which `openSessions` names. -/
@[reducible] def Prim.Val : Prim → Type
  | .load .. => Mod
  | .tokens _ => List Token
  | .openSession _ => Unit
  | .login .. => Unit
  | .findKeyByLabel .. => KeyObject
  | .uid _ => Option Bytes
  | .findSecretKey .. => SecretKey
  | .findPrivateKey .. => PrivateKey
  | .hkdfDeriveAES .. => SecretKey
  | .wrapAES .. => Bytes × Bytes
  | .exportPublicKey _ => ExportedKey
  | .exportSecretKey _ => ExportedKey
  | .signer _ => Signer
  | .generateRSA .. => KeyPair
  | .generateECDSA .. => KeyPair
  | .destroyKeyPairObject .. => Unit
  | .signECDSA .. => Bytes × Bytes
  | .generateRandom .. => Bytes
  | .createCertificate .. => Bytes

/-- The answer to a call: its value, or its error. -/
@[reducible] def Prim.Resp (c : Prim) : Type := Except Pk11Error c.Val

/-! ## Errors -/

/-- The gRPC status codes the secure element returns: `codes.Internal` only. -/
inductive Code where
  | internal
  deriving DecidableEq, Repr

/-- An `error` value. Formatted messages keep their format string; the values substituted
into it are not modelled. -/
inductive Error where
  /-- `status.Errorf(code, format, ...)`. -/
  | status (code : Code) (format : String)
  /-- `fmt.Errorf(format, ...)` and `errors.New(text)`. -/
  | errorf (format : String)
  /-- An error of the binding, returned as is. -/
  | pk11 (e : Pk11Error)
  deriving DecidableEq, Repr

/-- How a function ends without a value: it returns an error, or it panics (deferred calls
still run). -/
inductive Exit where
  | error (e : Error)
  | panic (msg : String)
  deriving DecidableEq, Repr

/-- `status.Errorf(codes.Internal, format, ...)` as a return. -/
def internal (format : String) : Exit := .error (.status .internal format)

/-- `fmt.Errorf(format, ...)` as a return. -/
def errorf (format : String) : Exit := .error (.errorf format)

/-- A function of the secure element that works on a session it already holds. -/
abbrev HsmM := ExceptT Exit (Prog Prim Prim.Resp)

/-- A trace of calls on the binding. -/
abbrev Trace := List (Event Prim Prim.Resp)

/-- Make the call `c`; if it fails with `err`, return `onError err`. -/
def call (c : Prim) (onError : Pk11Error → Exit) : HsmM c.Val :=
  ExceptT.mk <| .step c fun r => .pure (r.mapError onError)

/-- Make the call `c`, returning its error as is. -/
def pk11 (c : Prim) : HsmM c.Val := call c fun e => .error (.pk11 e)

/-- Make the call `c` and ignore its error. -/
def callIgnoringError (c : Prim) : HsmM Unit :=
  ExceptT.mk <| .step c fun _ => .pure (.ok ())

@[simp] theorem mapError_eq_ok_iff {ε ε' α : Type} {x : Except ε α} {f : ε → ε'} {a : α} :
    x.mapError f = .ok a ↔ x = .ok a := by
  cases x <;> simp [Except.mapError]

/-- A value computed without the binding, as a step of `HsmM`. -/
def ofExcept {α : Type} (x : Except Exit α) : HsmM α := ExceptT.mk (.pure x)

/-- `if err != nil { return nil, err' }` after a call of another function: its error becomes
`err'`; a panic goes through. -/
def wrapError {α : Type} (x : HsmM α) (err : Exit) : HsmM α :=
  ExceptT.mk <| x.run.bind fun r => .pure <|
    match r with
    | .error (.error _) => .error err
    | r => r

/-! ## Runs of the error monad -/

variable {α β : Type} {t : Trace} {r : Except Exit β}

@[simp] theorem runs_run_pure_iff {a : β} :
    Runs (pure a : HsmM β).run t r ↔ t = [] ∧ r = .ok a :=
  runs_pure_iff

@[simp] theorem runs_run_throw_iff {e : Exit} :
    Runs (throw e : HsmM β).run t r ↔ t = [] ∧ r = .error e :=
  runs_pure_iff

@[simp] theorem runs_ofExcept_iff {x : Except Exit β} : Runs (ofExcept x).run t r ↔ t = [] ∧ r = x :=
  runs_pure_iff

theorem runs_call_bind_iff {c : Prim} {f : Pk11Error → Exit} {k : c.Val → HsmM β} :
    Runs (call c f >>= k).run t r ↔
      (∃ e, t = [⟨c, .error e⟩] ∧ r = .error (f e)) ∨
      ∃ v t', t = ⟨c, .ok v⟩ :: t' ∧ Runs (k v).run t' r := by
  change Runs (Prog.bind _ _) t r ↔ _
  simp only [call, ExceptT.mk, step_bind, pure_bind, runs_step_iff]
  constructor
  · rintro ⟨e | v, t', rfl, h⟩
    · obtain ⟨rfl, rfl⟩ := runs_pure_iff.1 h
      exact .inl ⟨e, rfl, rfl⟩
    · exact .inr ⟨v, t', rfl, h⟩
  · rintro (⟨e, rfl, rfl⟩ | ⟨v, t', rfl, h⟩)
    · exact ⟨.error e, [], rfl, .pure _⟩
    · exact ⟨.ok v, t', rfl, h⟩

theorem runs_call_iff {c : Prim} {f : Pk11Error → Exit} {r : Except Exit c.Val} :
    Runs (call c f).run t r ↔
      (∃ e, t = [⟨c, .error e⟩] ∧ r = .error (f e)) ∨ ∃ v, t = [⟨c, .ok v⟩] ∧ r = .ok v := by
  change Runs (Prog.step _ _) t r ↔ _
  simp only [runs_step_iff, runs_pure_iff]
  constructor
  · rintro ⟨e | v, _, rfl, rfl, rfl⟩
    · exact .inl ⟨e, rfl, rfl⟩
    · exact .inr ⟨v, rfl, rfl⟩
  · rintro (⟨e, rfl, rfl⟩ | ⟨v, rfl, rfl⟩)
    · exact ⟨.error e, [], rfl, rfl, rfl⟩
    · exact ⟨.ok v, [], rfl, rfl, rfl⟩

theorem runs_callIgnoringError_bind_iff {c : Prim} {k : Unit → HsmM β} :
    Runs (callIgnoringError c >>= k).run t r ↔
      ∃ v t', t = ⟨c, v⟩ :: t' ∧ Runs (k ()).run t' r := by
  change Runs (Prog.bind _ _) t r ↔ _
  simp only [callIgnoringError, ExceptT.mk, step_bind, pure_bind, runs_step_iff]
  exact Iff.rfl

theorem runs_ofExcept_bind_iff {x : Except Exit α} {k : α → HsmM β} :
    Runs (ofExcept x >>= k).run t r ↔
      (∃ e, x = .error e ∧ t = [] ∧ r = .error e) ∨ ∃ a, x = .ok a ∧ Runs (k a).run t r := by
  change Runs (Prog.bind _ _) t r ↔ _
  cases x with
  | error e => simp [ofExcept, ExceptT.mk, ExceptT.bindCont, eq_comm]
  | ok a => simp [ofExcept, ExceptT.mk, ExceptT.bindCont]; exact Iff.rfl

theorem runs_wrapError_bind_iff {x : HsmM α} {err : Exit} {k : α → HsmM β} :
    Runs (wrapError x err >>= k).run t r ↔
      (∃ e, Runs x.run t (.error (.error e)) ∧ r = .error err) ∨
      (∃ msg, Runs x.run t (.error (.panic msg)) ∧ r = .error (.panic msg)) ∨
      ∃ t₁ t₂ a, t = t₁ ++ t₂ ∧ Runs x.run t₁ (.ok a) ∧ Runs (k a).run t₂ r := by
  change Runs (Prog.bind (Prog.bind _ _) _) t r ↔ _
  rw [Prog.bind_assoc, runs_bind_iff]
  constructor
  · rintro ⟨t₁, t₂, (e | msg) | a, rfl, h₁, h₂⟩ <;>
      simp only [Prog.pure_bind, ExceptT.bindCont, Prog.pure_eq, runs_pure_iff] at h₂
    · obtain ⟨rfl, h₂⟩ := h₂
      exact .inl ⟨e, by simpa using h₁, h₂⟩
    · obtain ⟨rfl, h₂⟩ := h₂
      exact .inr (.inl ⟨msg, by simpa using h₁, h₂⟩)
    · exact .inr (.inr ⟨t₁, t₂, a, rfl, h₁, h₂⟩)
  · rintro (⟨e, h, rfl⟩ | ⟨msg, h, rfl⟩ | ⟨t₁, t₂, a, rfl, h₁, h₂⟩)
    · exact ⟨t, [], .error (.error e), by simp, h, .pure _⟩
    · exact ⟨t, [], .error (.panic msg), by simp, h, .pure _⟩
    · exact ⟨t₁, t₂, .ok a, rfl, h₁, h₂⟩

/-! ## Loops that collect a value per element -/

/-- The loop `for _, a := range as { b, err := f(a); if err != nil { return nil, err };
acc = append(acc, b) }`, returning `acc`. -/
def collect (f : α → HsmM β) : List α → List β → HsmM (List β)
  | [], acc => pure acc
  | a :: as, acc => do
    let b ← f a
    collect f as (acc ++ [b])

/-- A successful run of the loop: one successful run of `f` per element, in order. -/
theorem runs_collect_ok {f : α → HsmM β} {as : List α} {acc bs : List β}
    (h : Runs (collect f as acc).run t (.ok bs)) :
    ∃ bs', bs = acc ++ bs' ∧ Segmented (fun a t b => Runs (f a).run t (.ok b)) as t bs' := by
  induction as generalizing acc t with
  | nil =>
    obtain ⟨rfl, he⟩ := runs_run_pure_iff.1 h
    cases he
    exact ⟨[], by simp, .nil⟩
  | cons a as ih =>
    rcases runs_exceptBind_iff.1 h with ⟨_, he, -⟩ | ⟨t₁, t₂, b, rfl, h₁, h₂⟩
    · cases he
    obtain ⟨bs', rfl, hs⟩ := ih h₂
    exact ⟨b :: bs', by simp, .cons h₁ hs⟩

/-! ## Panics -/

/-- Every panic of `x` has a message satisfying `P`; with `P` false, `x` never panics. -/
def PanicsOnly (P : String → Prop) (x : HsmM α) : Prop :=
  ∀ t msg, Runs x.run t (.error (.panic msg)) → P msg

variable {P : String → Prop}

theorem PanicsOnly.bind {x : HsmM α} {f : α → HsmM β} (hx : PanicsOnly P x)
    (hf : ∀ a, PanicsOnly P (f a)) : PanicsOnly P (x >>= f) := by
  intro t msg h
  rcases runs_exceptBind_iff.1 h with ⟨e, he, h⟩ | ⟨t₁, t₂, a, -, -, h₂⟩
  · cases he
    exact hx t msg h
  · exact hf a t₂ msg h₂

theorem panicsOnly_pure (a : α) : PanicsOnly P (pure a : HsmM α) := by
  intro t msg h
  simp at h

theorem panicsOnly_throw (e : Error) : PanicsOnly P (throw (.error e) : HsmM α) := by
  intro t msg h
  simp at h

theorem panicsOnly_ofExcept {x : Except Exit α} (hx : ∀ msg, x = .error (.panic msg) → P msg) :
    PanicsOnly P (ofExcept x) :=
  fun _ msg h => hx msg (runs_ofExcept_iff.1 h).2.symm

theorem panicsOnly_call {c : Prim} {f : Pk11Error → Exit} (hf : ∀ e msg, f e ≠ .panic msg) :
    PanicsOnly P (call c f) := by
  intro t msg h
  rcases runs_call_iff.1 h with ⟨e, -, he⟩ | ⟨_, -, he⟩
  · exact absurd (Except.error.inj he).symm (hf e msg)
  · cases he

theorem panicsOnly_pk11 (c : Prim) : PanicsOnly P (pk11 c) :=
  panicsOnly_call fun _ _ => Exit.noConfusion

theorem panicsOnly_callIgnoringError (c : Prim) : PanicsOnly P (callIgnoringError c) := by
  intro t msg h
  change Runs (Prog.step _ _) t _ at h
  obtain ⟨_, _, -, h⟩ := runs_step_iff.1 h
  simp at h

theorem PanicsOnly.wrapError {x : HsmM α} (hx : PanicsOnly P x) (e : Error) :
    PanicsOnly P (wrapError x (.error e)) := by
  intro t msg h
  change Runs (Prog.bind _ _) t _ at h
  obtain ⟨t₁, t₂, (e' | msg') | a, -, h₁, h₂⟩ := runs_bind_iff.1 h <;>
    simp only [runs_pure_iff] at h₂
  · cases h₂.2
  · cases h₂.2
    exact hx t₁ msg h₁
  · cases h₂.2

theorem PanicsOnly.collect {f : α → HsmM β} {as : List α} (hf : ∀ a ∈ as, PanicsOnly P (f a))
    (acc : List β) : PanicsOnly P (collect f as acc) := by
  induction as generalizing acc with
  | nil => exact panicsOnly_pure _
  | cons a as ih =>
    exact (hf a (List.mem_cons_self _ _)).bind fun b =>
      ih (fun a' ha' => hf a' (List.mem_cons_of_mem _ ha')) _

end SecureElement
