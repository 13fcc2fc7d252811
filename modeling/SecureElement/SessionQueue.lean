import Mathlib.Logic.Relation
import Mathlib.Data.List.Perm.Basic
import SecureElement.Pk11

/-!
# The session queue

`sessionQueue` is a buffered channel of sessions. `getHandle` receives the oldest session and
hands out a release function that `insert`s it again; `insert` refuses a session when the queue
already holds `numSessions` of them, and the release function drops that error.

`LoanStep` lets callers use the queue directly: any caller may take a session, and any release
function handed out so far may be called, also a second time.

* `loans_length_le`: in every run the queue never holds more than `numSessions` sessions;
* `loans_conserved`: when no release function is called twice, the queued and the held sessions
  are exactly the original ones, each once;
* `loans_bounded_and_conserved`: both, from a queue of distinct sessions and no loans;
* `double_release_duplicates`: calling one release function twice while another session is on
  loan queues the first session twice, and the release of the loaned session then hits the full
  queue and drops it, so a repeated release is neither rejected nor without effect.
-/

namespace SecureElement

/-- `sessionQueue`: the sessions waiting in the channel `s`, oldest first, and the number of
sessions `numSessions` the queue manages. -/
structure SessionQueue where
  numSessions : Int
  s : List Session
  deriving DecidableEq, Repr

/-- `newSessionQueue num`: an empty queue over a channel of depth `num`; `make` panics on a
negative depth. -/
def newSessionQueue (num : Int) : Except Exit SessionQueue :=
  if num < 0 then .error (.panic "makechan: size out of range") else .ok ⟨num, []⟩

namespace SessionQueue

/-- `insert`: an error when the queue holds `numSessions` sessions or more, otherwise the queue
with `s` appended. -/
def insert (q : SessionQueue) (s : Session) : Except Error SessionQueue :=
  if q.numSessions ≤ q.s.length then .error (.errorf "Reached maximum session queue capacity.")
  else .ok { q with s := q.s ++ [s] }

/-- `getHandle`: the oldest session and the rest of the queue; `none` when the queue is empty,
where the receive blocks. -/
def getHandle (q : SessionQueue) : Option (Session × SessionQueue) :=
  match q.s with
  | [] => none
  | s :: rest => some (s, { q with s := rest })

/-- The release function `getHandle` returns for `s`: `insert` it, ignoring the error. -/
def release (q : SessionQueue) (s : Session) : SessionQueue :=
  match q.insert s with
  | .ok q' => q'
  | .error _ => q

variable {q q' : SessionQueue} {s : Session}

theorem insert_of_lt (h : (q.s.length : Int) < q.numSessions) :
    q.insert s = .ok { q with s := q.s ++ [s] } := by
  simp [insert, Int.not_le.2 h]

theorem release_of_lt (h : (q.s.length : Int) < q.numSessions) :
    q.release s = { q with s := q.s ++ [s] } := by
  simp [release, insert_of_lt h]

theorem release_of_le (h : q.numSessions ≤ q.s.length) : q.release s = q := by
  simp [release, insert, h]

@[simp] theorem numSessions_release : (q.release s).numSessions = q.numSessions := by
  by_cases h : q.numSessions ≤ q.s.length
  · rw [release_of_le h]
  · rw [release_of_lt (Int.not_le.1 h)]

theorem getHandle_eq_some_iff :
    q.getHandle = some (s, q') ↔ q.s = s :: q'.s ∧ q'.numSessions = q.numSessions := by
  rcases q with ⟨n, _ | ⟨a, rest⟩⟩
  · simp [getHandle]
  · cases q'
    simp only [getHandle, Option.some.injEq, Prod.mk.injEq, mk.injEq, List.cons.injEq]
    tauto

theorem length_release_le (h : (q.s.length : Int) ≤ q.numSessions) :
    ((q.release s).s.length : Int) ≤ q.numSessions := by
  by_cases hle : q.numSessions ≤ q.s.length
  · rwa [release_of_le hle]
  · rw [release_of_lt (Int.not_le.1 hle), List.length_append, List.length_singleton]
    omega

end SessionQueue

/-- Taking out the entry `i` of a list and putting `x` in its place changes the values `f`
picks out by exchanging the value of the old entry for that of `x`. -/
theorem perm_filterMap_set {α β : Type} (f : α → Option β) :
    ∀ (l : List α) (i : Nat) (hi : i < l.length) (x : α),
      ((l.set i x).filterMap f ++ (f l[i]).toList).Perm (l.filterMap f ++ (f x).toList)
  | [], _, hi, _ => absurd hi (Nat.not_lt_zero _)
  | a :: l, 0, _, x => by
    have swap (u v : β) (F : List β) : (v :: (F ++ [u])).Perm (u :: (F ++ [v])) :=
      (List.perm_append_singleton _ _).trans ((List.perm_append_singleton _ _).symm.cons u)
    cases ha : f a <;> cases hx : f x <;>
      simp [List.filterMap_cons, ha, hx, swap, (List.perm_append_singleton _ _).symm]
  | a :: l, i + 1, hi, x => by
    have ih := perm_filterMap_set f l i (by simpa using hi) x
    cases ha : f a <;> simpa [List.filterMap_cons, ha] using ih

/-! ## Callers using the queue directly -/

/-- A release function handed out by `getHandle`: the session it puts back, and whether it has
been called. -/
structure Handle where
  session : Session
  called : Bool
  deriving DecidableEq, Repr

/-- Callers using the queue: the queue, and every release function handed out so far. -/
structure Loans where
  queue : SessionQueue
  handles : List Handle
  deriving DecidableEq, Repr

/-- The session a release function stands for while it has not been called. -/
def Handle.held (h : Handle) : Option Session := if h.called then none else some h.session

/-- The sessions callers hold: those of the release functions not called yet. -/
def Loans.held (l : Loans) : List Session := l.handles.filterMap Handle.held

/-- One step of the callers: a `getHandle`, or a call of the release function `i`. With `once`
no release function is called a second time. -/
inductive LoanStep (once : Bool) : Loans → Loans → Prop
  | getHandle {l : Loans} {s : Session} {q : SessionQueue} (h : l.queue.getHandle = some (s, q)) :
      LoanStep once l ⟨q, l.handles ++ [⟨s, false⟩]⟩
  | release {l : Loans} (i : Nat) (hi : i < l.handles.length)
      (hnew : once = true → l.handles[i].called = false) :
      LoanStep once l ⟨l.queue.release l.handles[i].session,
        l.handles.set i ⟨l.handles[i].session, true⟩⟩

open Relation

variable {once : Bool} {l l' : Loans}

theorem LoanStep.numSessions_eq (h : LoanStep once l l') :
    l'.queue.numSessions = l.queue.numSessions := by
  cases h with
  | getHandle h => exact (SessionQueue.getHandle_eq_some_iff.1 h).2
  | release => exact SessionQueue.numSessions_release

theorem LoanStep.length_le (h : LoanStep once l l')
    (hl : (l.queue.s.length : Int) ≤ l.queue.numSessions) :
    (l'.queue.s.length : Int) ≤ l'.queue.numSessions := by
  rw [h.numSessions_eq]
  cases h with
  | getHandle h =>
    obtain ⟨hs, -⟩ := SessionQueue.getHandle_eq_some_iff.1 h
    rw [hs, List.length_cons] at hl
    dsimp only
    omega
  | release => exact SessionQueue.length_release_le hl

/-- Whatever the callers do, also calling release functions twice, the queue never holds more
sessions than it manages. -/
theorem loans_length_le {l₀ : Loans} (h₀ : (l₀.queue.s.length : Int) ≤ l₀.queue.numSessions)
    (h : ReflTransGen (LoanStep once) l₀ l) :
    l.queue.numSessions = l₀.queue.numSessions ∧
      (l.queue.s.length : Int) ≤ l.queue.numSessions := by
  induction h with
  | refl => exact ⟨rfl, h₀⟩
  | tail _ hstep ih => exact ⟨hstep.numSessions_eq.trans ih.1, hstep.length_le ih.2⟩

/-- What callers that never call a release function twice keep: the queue manages `n` sessions,
and the queued and the held sessions are those of `s₀`. -/
def Loans.Conserves (s₀ : List Session) (n : Int) (l : Loans) : Prop :=
  l.queue.numSessions = n ∧ (l.queue.s ++ l.held).Perm s₀

theorem LoanStep.conserves {s₀ : List Session} {n : Int} (h : LoanStep true l l')
    (hn : (s₀.length : Int) ≤ n) (hl : l.Conserves s₀ n) : l'.Conserves s₀ n := by
  obtain ⟨hnum, hperm⟩ := hl
  refine ⟨h.numSessions_eq.trans hnum, ?_⟩
  cases h with
  | getHandle h =>
    obtain ⟨hs, -⟩ := SessionQueue.getHandle_eq_some_iff.1 h
    rw [hs] at hperm
    refine List.Perm.trans ?_ hperm
    show (_ ++ (l.handles ++ _).filterMap Handle.held).Perm _
    rw [List.filterMap_append, ← List.append_assoc]
    exact List.perm_append_singleton _ _
  | release i hi hnew =>
    have hset : ((l.handles.set i ⟨l.handles[i].session, true⟩).filterMap Handle.held ++
        [l.handles[i].session]).Perm l.held := by
      simpa [Handle.held, hnew rfl] using
        perm_filterMap_set Handle.held l.handles i hi ⟨l.handles[i].session, true⟩
    have hlen : (l.queue.s.length : Int) < l.queue.numSessions := by
      have := hperm.length_eq
      have hpos : 0 < l.held.length := by rw [← hset.length_eq]; simp
      simp only [List.length_append] at this
      omega
    rw [SessionQueue.release_of_lt hlen]
    refine List.Perm.trans ?_ hperm
    show (l.queue.s ++ [_] ++ _).Perm _
    rw [List.append_assoc]
    exact (List.perm_append_comm.trans hset).append_left _

/-- Callers that never call a release function twice neither lose nor duplicate a session: the
queued and the held sessions are always the original ones, each once. -/
theorem loans_conserved {l₀ : Loans} (hh : l₀.handles = [])
    (h₀ : (l₀.queue.s.length : Int) ≤ l₀.queue.numSessions) (hnd : l₀.queue.s.Nodup)
    (h : ReflTransGen (LoanStep true) l₀ l) :
    (l.queue.s ++ l.held).Perm l₀.queue.s ∧ (l.queue.s ++ l.held).Nodup := by
  have : l.Conserves l₀.queue.s l₀.queue.numSessions := by
    induction h with
    | refl => simp [Loans.Conserves, Loans.held, hh]
    | tail _ hstep ih => exact hstep.conserves h₀ ih
  exact ⟨this.2, this.2.nodup_iff.2 hnd⟩

/-- Callers that start from a queue holding no more sessions than it manages never make it hold
more, whatever they do; when they call each release function at most once, the queued and the
held sessions are always the original ones, each once. -/
theorem loans_bounded_and_conserved {q₀ : SessionQueue}
    (h₀ : (q₀.s.length : Int) ≤ q₀.numSessions) (hnd : q₀.s.Nodup) :
    (∀ once l, ReflTransGen (LoanStep once) ⟨q₀, []⟩ l →
      (l.queue.s.length : Int) ≤ q₀.numSessions) ∧
    ∀ l, ReflTransGen (LoanStep true) ⟨q₀, []⟩ l →
      (l.queue.s ++ l.held).Perm q₀.s ∧ (l.queue.s ++ l.held).Nodup := by
  refine ⟨fun once l h => ?_, fun l h => loans_conserved rfl h₀ hnd h⟩
  obtain ⟨hn, hl⟩ := loans_length_le h₀ h
  exact hn ▸ hl

/-- The first session of token `0`. -/
def sessionA : Session := ⟨⟨0⟩, 0⟩

/-- The second session of token `0`. -/
def sessionB : Session := ⟨⟨0⟩, 1⟩

theorem loans_bounded_and_conserved_one :
    (∀ once l, ReflTransGen (LoanStep once) ⟨⟨1, [sessionA]⟩, []⟩ l →
      (l.queue.s.length : Int) ≤ 1) ∧
    ∀ l, ReflTransGen (LoanStep true) ⟨⟨1, [sessionA]⟩, []⟩ l →
      (l.queue.s ++ l.held).Perm [sessionA] ∧ (l.queue.s ++ l.held).Nodup :=
  loans_bounded_and_conserved (by decide) (by decide)

/-- A queue of two sessions: take both, call the first release function twice, then the
second: the first session is queued twice and the second is lost. -/
theorem double_release_duplicates :
    ¬ ∀ l, ReflTransGen (LoanStep false) ⟨⟨2, [sessionA, sessionB]⟩, []⟩ l →
      (l.queue.s ++ l.held).Perm [sessionA, sessionB] := by
  intro h
  have run : ReflTransGen (LoanStep false) ⟨⟨2, [sessionA, sessionB]⟩, []⟩
      ⟨⟨2, [sessionA, sessionA]⟩, [⟨sessionA, true⟩, ⟨sessionB, true⟩]⟩ :=
    ((((ReflTransGen.single
      (show LoanStep false ⟨⟨2, [sessionA, sessionB]⟩, []⟩
        ⟨⟨2, [sessionB]⟩, [⟨sessionA, false⟩]⟩ from .getHandle rfl)).tail
      (show LoanStep false ⟨⟨2, [sessionB]⟩, [⟨sessionA, false⟩]⟩
        ⟨⟨2, []⟩, [⟨sessionA, false⟩, ⟨sessionB, false⟩]⟩ from .getHandle rfl)).tail
      (show LoanStep false ⟨⟨2, []⟩, [⟨sessionA, false⟩, ⟨sessionB, false⟩]⟩
        ⟨⟨2, [sessionA]⟩, [⟨sessionA, true⟩, ⟨sessionB, false⟩]⟩ from
        .release 0 (by decide) (by decide))).tail
      (show LoanStep false ⟨⟨2, [sessionA]⟩, [⟨sessionA, true⟩, ⟨sessionB, false⟩]⟩
        ⟨⟨2, [sessionA, sessionA]⟩, [⟨sessionA, true⟩, ⟨sessionB, false⟩]⟩ from
        .release 0 (by decide) (by decide))).tail
      (show LoanStep false ⟨⟨2, [sessionA, sessionA]⟩, [⟨sessionA, true⟩, ⟨sessionB, false⟩]⟩
        ⟨⟨2, [sessionA, sessionA]⟩, [⟨sessionA, true⟩, ⟨sessionB, true⟩]⟩ from
        .release 1 (by decide) (by decide))
  exact absurd (h _ run) (by decide)

end SecureElement
