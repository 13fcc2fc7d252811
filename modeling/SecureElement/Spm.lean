import SecureElement.SessionQueue

/-!
# Calls that borrow a session

A method of `HSM` takes a session from the pool, works on it, and puts it back. It runs in
`SpmM`, the error monad over programs whose effects are pk11 calls (`Eff.pk11`) and the two
operations of the session queue (`Eff.getHandle`, `Eff.release`). `withSession body` is the
idiom

    session, release := h.sessions.getHandle()
    defer release()

around `body`, which works on the session it is given and cannot reach the pool: its type is
`HsmM`, whose programs only make pk11 calls. A run of `withSession body` takes a session, makes
the body's calls, and releases that same session whatever the body returned, also after a panic
(`runs_withSession_iff`); a pk11 call is in that trace exactly when the body made it
(`pk11_mem_withSession_trace`).

`Prog.onQueue` answers the queue operations of a program from a queue that no other call can
reach, as `NewHSM` does with the queue it has just built; there a `getHandle` on an empty queue
blocks forever.
-/

namespace SecureElement

open Prog

/-- What a method of `HSM` asks of its environment: a pk11 call, or a queue operation. -/
inductive Eff where
  | pk11 (c : Prim)
  | getHandle
  | release (s : Session)

/-- The answer to an effect: a pk11 call's answer, the session `getHandle` takes, or nothing. -/
@[reducible] def Eff.Resp : Eff → Type
  | .pk11 c => c.Resp
  | .getHandle => Session
  | .release _ => Unit

/-- A method of `HSM`. -/
abbrev SpmM := ExceptT Exit (Prog Eff Eff.Resp)

/-- A trace of a method of `HSM`. -/
abbrev SpmTrace := List (Event Eff Eff.Resp)

variable {α β : Type}

/-- A program of pk11 calls, as a program of a method. -/
def Prog.liftPk11 : Prog Prim Prim.Resp α → Prog Eff Eff.Resp α
  | .pure a => .pure a
  | .step c k => .step (.pk11 c) fun r => (k r).liftPk11

/-- A trace entry of a pk11 call, as an entry of a method's trace. -/
def liftEvent (e : Event Prim Prim.Resp) : Event Eff Eff.Resp := ⟨.pk11 e.1, e.2⟩

theorem runs_liftPk11_iff {p : Prog Prim Prim.Resp α} {t : SpmTrace} {a : α} :
    Runs p.liftPk11 t a ↔ ∃ t', t = t'.map liftEvent ∧ Runs p t' a := by
  induction p generalizing t with
  | pure b =>
    simp only [liftPk11, runs_pure_iff]
    constructor
    · rintro ⟨rfl, rfl⟩; exact ⟨[], rfl, rfl, rfl⟩
    · rintro ⟨t', rfl, rfl, rfl⟩; exact ⟨rfl, rfl⟩
  | step c k ih =>
    simp only [liftPk11, runs_step_iff, ih]
    constructor
    · rintro ⟨r, _, rfl, t', rfl, h⟩; exact ⟨⟨c, r⟩ :: t', rfl, r, t', rfl, h⟩
    · rintro ⟨_, rfl, r, t', rfl, h⟩; exact ⟨r, _, rfl, t', rfl, h⟩

/-- `session, release := h.sessions.getHandle(); defer release()` around `body`. -/
def withSession (body : Session → HsmM α) : SpmM α :=
  ExceptT.mk <| .step .getHandle fun session =>
    (body session).run.liftPk11.bind fun r => .step (.release session) fun _ => .pure r

/-- A run of `withSession body`: take a session, make the body's calls on it, release it. -/
theorem runs_withSession_iff {body : Session → HsmM α} {t : SpmTrace} {r : Except Exit α} :
    Runs (withSession body).run t r ↔
      ∃ s t', t = ⟨.getHandle, s⟩ :: (t'.map liftEvent ++ [⟨.release s, ()⟩]) ∧
        Runs (body s).run t' r := by
  simp only [withSession, ExceptT.run_mk, runs_step_iff, runs_bind_iff, runs_liftPk11_iff,
    runs_pure_iff]
  constructor
  · rintro ⟨s, _, rfl, _, _, r', rfl, ⟨t', rfl, h⟩, _, _, rfl, rfl, rfl⟩
    exact ⟨s, t', rfl, h⟩
  · rintro ⟨s, t', rfl, h⟩
    exact ⟨s, _, rfl, _, _, r, rfl, ⟨t', rfl, h⟩, (), [], rfl, rfl, rfl⟩

/-- A pk11 call is in the trace of `withSession body` exactly when the body made it. -/
@[simp] theorem pk11_mem_withSession_trace {s : Session} {t' : Trace} {c : Prim}
    {r : Prim.Resp c} :
    (⟨.pk11 c, r⟩ : Event Eff Eff.Resp) ∈
      (⟨.getHandle, s⟩ :: (t'.map liftEvent ++ [⟨.release s, ()⟩]) : SpmTrace) ↔ ⟨c, r⟩ ∈ t' := by
  constructor
  · intro hm
    simp only [List.mem_cons, List.mem_append, List.mem_map, List.mem_singleton,
      List.not_mem_nil, or_false] at hm
    rcases hm with hm | ⟨⟨c', r'⟩, hm, he⟩ | hm
    · cases hm
    · cases he
      exact hm
    · cases hm
  · exact fun hm => List.mem_cons_of_mem _ (List.mem_append_left _ (List.mem_map_of_mem liftEvent hm))

/-! ## A queue of one's own -/

/-- Answers the queue operations of `p` from `q`: `getHandle` takes the oldest session and on an
empty queue blocks forever (`none`); `release` inserts the session again, dropping the error. -/
def Prog.onQueue : Prog Eff Eff.Resp α → SessionQueue → Prog Prim Prim.Resp (Option (α × SessionQueue))
  | .pure a, q => .pure (some (a, q))
  | .step (.pk11 c) k, q => .step c fun r => (k r).onQueue q
  | .step .getHandle k, q =>
    match q.getHandle with
    | none => .pure none
    | some (s, q') => (k s).onQueue q'
  | .step (.release s) k, q => (k ()).onQueue (q.release s)

theorem onQueue_liftPk11_bind (p : Prog Prim Prim.Resp α) (f : α → Prog Eff Eff.Resp β)
    (q : SessionQueue) : (p.liftPk11.bind f).onQueue q = p.bind fun a => (f a).onQueue q := by
  induction p with
  | pure a => rfl
  | step c k ih => simp only [liftPk11, step_bind, onQueue, ih]

theorem onQueue_withSession_of_getHandle {body : Session → HsmM α} {q q' : SessionQueue}
    {s : Session} (hq : q.getHandle = some (s, q')) :
    (withSession body).run.onQueue q =
      (body s).run.bind fun r => .pure (some (r, q'.release s)) := by
  simp only [withSession, ExceptT.run_mk, onQueue, hq, onQueue_liftPk11_bind]

theorem onQueue_withSession_of_empty {body : Session → HsmM α} {q : SessionQueue}
    (hq : q.getHandle = none) : (withSession body).run.onQueue q = .pure none := by
  simp only [withSession, ExceptT.run_mk, onQueue, hq]

end SecureElement
