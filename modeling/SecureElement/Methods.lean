import SecureElement.NewHSM

/-!
# The short methods of HSM

`ExecuteCmd`, `DeriveAndWrapTransportSecret`, `VerifySession` and `GenerateRandom`, each a body
on a borrowed session (`withSession`). `deriveTransportSecret` works on the session its caller
already holds: it is an `HsmM` function and cannot take a second one from the queue. What these
bodies do is settled where the whole system is: how many calls they make (`Bounds`), that they
never panic (`Panics`), and that they use the borrowed session and no other (`Exclusive`).
-/

namespace SecureElement

open Prog

/-- `CmdFunc`: a command on a session, here one that makes pk11 calls on that session and
returns. Go lets a command run any code; the model keeps the commands that do not call back into
the methods of `HSM` (a callback takes a second session, and can wait for ever) and
that return. A command that never returns holds its session and makes no further step, which the
interleavings of the pool already include as a call that is never scheduled again. -/
abbrev CmdFunc := Session → HsmM Unit

/-- `ExecuteCmd`. -/
def executeCmd (cmd : CmdFunc) : SpmM Unit :=
  withSession cmd

/-- `transportKeyLabel`. -/
def transportKeyLabel : Bytes := goBytes "transport key"

/-- `deriveTransportSecret`. -/
def HSM.deriveTransportSecret (h : HSM) (session : Session) (deviceId : Bytes) :
    HsmM SecretKey := do
  let some kt := h.symmetricKeys "KT" | throw (internal "failed to find KT key UID")
  let transportStatic ← pk11 (.findSecretKey session kt)
  pk11 (.hkdfDeriveAES transportStatic sha256 deviceId transportKeyLabel 128 ⟨true⟩)

/-- The body of `DeriveAndWrapTransportSecret`. `WrapAES` returns the ciphertext together with
its error; the model keeps the error. -/
def HSM.deriveAndWrapTransportSecretBody (h : HSM) (deviceId : Bytes) (session : Session) :
    HsmM Bytes := do
  let some kg := h.symmetricKeys "KG" | throw (internal "failed to find KG key UID")
  let global ← pk11 (.findSecretKey session kg)
  let transport ← h.deriveTransportSecret session deviceId
  let wrapped ← pk11 (.wrapAES global (.secretKey transport))
  pure wrapped.1

/-- `DeriveAndWrapTransportSecret`. -/
def HSM.deriveAndWrapTransportSecret (h : HSM) (deviceId : Bytes) : SpmM Bytes :=
  withSession (h.deriveAndWrapTransportSecretBody deviceId)

/-- The body of `VerifySession`. -/
def HSM.verifySessionBody (h : HSM) (session : Session) : HsmM Unit := do
  let some kca := h.privateKeys "KCAPriv" | throw (internal "failed to find KCAPriv key UID")
  let _ ← call (.findPrivateKey session kca) fun _ => internal "failed to verify session: %v"
  pure ()

/-- `VerifySession`. -/
def HSM.verifySession (h : HSM) : SpmM Unit :=
  withSession h.verifySessionBody

/-- `GenerateRandom`. -/
def generateRandom (length : Int) : SpmM Bytes :=
  withSession fun session => pk11 (.generateRandom session length)

end SecureElement
