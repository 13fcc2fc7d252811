import Mathlib.Data.List.Basic

/-!
# Programs against an interface

The secure element talks to two things it does not implement: the PKCS#11 binding `pk11` and
the queue of HSM sessions. Its functions are modelled as programs `Prog E R α`, which issue
effects `e : E`, each answered by a value of `R e`, and end with a result of type `α`.

`Runs p t a` says that `p` can issue the effects recorded in the trace `t`, receive the answers
recorded there, and end with `a`. Every answer is allowed, so a statement about all runs holds
for every behaviour of the environment. A run splits at a bind (`runs_bind_iff`, and
`runs_exceptBind_iff` for the error monad over programs), and the trace of a loop over a list
is a sequence of segments, one for each element (`Segmented`).
-/

namespace SecureElement

/-- A program issuing effects of `E`, the effect `e` being answered by a value of `R e`. -/
inductive Prog (E : Type) (R : E → Type) (α : Type) : Type where
  | pure (a : α)
  | step (e : E) (k : R e → Prog E R α)

namespace Prog

variable {E : Type} {R : E → Type} {α β γ ε : Type}

/-- Sequencing: run `p`, then `f` on its result. -/
def bind : Prog E R α → (α → Prog E R β) → Prog E R β
  | .pure a, f => f a
  | .step e k, f => .step e fun r => (k r).bind f

instance : Monad (Prog E R) where
  pure := .pure
  bind := bind

/-- Issue the effect `e` and return its answer. -/
def perform (e : E) : Prog E R (R e) := .step e .pure

@[simp] theorem pure_eq (a : α) : (Pure.pure a : Prog E R α) = .pure a := rfl

@[simp] theorem bind_eq (p : Prog E R α) (f : α → Prog E R β) : p >>= f = p.bind f := rfl

@[simp] theorem pure_bind (a : α) (f : α → Prog E R β) : (Prog.pure a).bind f = f a := rfl

@[simp] theorem step_bind (e : E) (k : R e → Prog E R α) (f : α → Prog E R β) :
    (Prog.step e k).bind f = .step e fun r => (k r).bind f := rfl

@[simp] theorem bind_pure (p : Prog E R α) : p.bind Prog.pure = p := by
  induction p with
  | pure a => rfl
  | step e k ih => simp only [step_bind, ih]

theorem bind_assoc (p : Prog E R α) (f : α → Prog E R β) (g : β → Prog E R γ) :
    (p.bind f).bind g = p.bind fun a => (f a).bind g := by
  induction p with
  | pure a => rfl
  | step e k ih => simp only [step_bind, ih]

instance : LawfulMonad (Prog E R) :=
  LawfulMonad.mk' _ (fun x => bind_pure x) (fun _ _ => rfl) (fun x f g => bind_assoc x f g)

/-! ## Runs -/

/-- An entry of a trace: an effect together with the answer it received. -/
abbrev Event (E : Type) (R : E → Type) := Σ e, R e

/-- `Runs p t a`: `p` can issue the effects of `t`, receive the answers recorded there, and
end with `a`. -/
inductive Runs : Prog E R α → List (Event E R) → α → Prop
  | pure (a : α) : Runs (.pure a) [] a
  | step {e : E} {k : R e → Prog E R α} (r : R e) {t : List (Event E R)} {a : α} :
      Runs (k r) t a → Runs (.step e k) (⟨e, r⟩ :: t) a

variable {p : Prog E R α} {t : List (Event E R)} {a b : α}

@[simp] theorem runs_pure_iff : Runs (.pure a : Prog E R α) t b ↔ t = [] ∧ b = a := by
  constructor
  · rintro ⟨⟩; exact ⟨rfl, rfl⟩
  · rintro ⟨rfl, rfl⟩; exact .pure _

@[simp] theorem runs_step_iff {e : E} {k : R e → Prog E R α} :
    Runs (.step e k) t b ↔ ∃ r t', t = ⟨e, r⟩ :: t' ∧ Runs (k r) t' b := by
  constructor
  · rintro ⟨⟩; exact ⟨_, _, rfl, ‹_›⟩
  · rintro ⟨r, t', rfl, h⟩; exact .step r h

theorem runs_bind_iff {f : α → Prog E R β} {c : β} :
    Runs (p.bind f) t c ↔ ∃ t₁ t₂ a, t = t₁ ++ t₂ ∧ Runs p t₁ a ∧ Runs (f a) t₂ c := by
  induction p generalizing t with
  | pure a =>
    constructor
    · exact fun h => ⟨[], t, a, rfl, .pure a, h⟩
    · rintro ⟨t₁, t₂, a', rfl, h₁, h₂⟩
      obtain ⟨rfl, rfl⟩ := runs_pure_iff.1 h₁
      exact h₂
  | step e k ih =>
    simp only [step_bind, runs_step_iff, ih]
    constructor
    · rintro ⟨r, t', rfl, t₁, t₂, a, rfl, h₁, h₂⟩
      exact ⟨_, t₂, a, rfl, ⟨r, t₁, rfl, h₁⟩, h₂⟩
    · rintro ⟨_, t₂, a, rfl, ⟨r, t₁, rfl, h₁⟩, h₂⟩
      exact ⟨r, _, rfl, t₁, t₂, a, rfl, h₁, h₂⟩

/-- A run through an error-monad bind either stops with the first part's error or continues
with its value. -/
theorem runs_exceptBind_iff {x : ExceptT ε (Prog E R) α} {f : α → ExceptT ε (Prog E R) β}
    {r : Except ε β} :
    Runs (x >>= f).run t r ↔
      (∃ e, r = .error e ∧ Runs x.run t (.error e)) ∨
      ∃ t₁ t₂ a, t = t₁ ++ t₂ ∧ Runs x.run t₁ (.ok a) ∧ Runs (f a).run t₂ r := by
  change Runs (x.run.bind (ExceptT.bindCont f)) t r ↔ _
  rw [runs_bind_iff]
  constructor
  · rintro ⟨t₁, t₂, _ | a, rfl, h₁, h₂⟩
    · obtain ⟨rfl, rfl⟩ := runs_pure_iff.1 h₂
      exact .inl ⟨_, rfl, by simpa using h₁⟩
    · exact .inr ⟨t₁, t₂, a, rfl, h₁, h₂⟩
  · rintro (⟨e, rfl, h⟩ | ⟨t₁, t₂, a, rfl, h₁, h₂⟩)
    · exact ⟨t, [], .error e, by simp, h, .pure _⟩
    · exact ⟨t₁, t₂, .ok a, rfl, h₁, h₂⟩

/-! ## Loops over a list -/

/-- The trace of a loop over `as` that produced `bs`: one segment for each element, in order,
the segment of `a` being related to `a` and to its result by `S`. -/
inductive Segmented (S : α → List (Event E R) → β → Prop) :
    List α → List (Event E R) → List β → Prop
  | nil : Segmented S [] [] []
  | cons {a : α} {as : List α} {t₁ t₂ : List (Event E R)} {b : β} {bs : List β} :
      S a t₁ b → Segmented S as t₂ bs → Segmented S (a :: as) (t₁ ++ t₂) (b :: bs)

theorem Segmented.length_eq {S : α → List (Event E R) → β → Prop} {as : List α} {bs : List β}
    (h : Segmented S as t bs) : bs.length = as.length := by
  induction h with
  | nil => rfl
  | cons _ _ ih => simp [ih]

theorem Segmented.imp {S S' : α → List (Event E R) → β → Prop} {as : List α} {bs : List β}
    (h : Segmented S as t bs) (hS : ∀ a t b, S a t b → S' a t b) : Segmented S' as t bs := by
  induction h with
  | nil => exact .nil
  | cons hs _ ih => exact .cons (hS _ _ _ hs) ih

end Prog

end SecureElement
