import Mathlib.Logic.Basic
import Mathlib.Tactic.Common

/-!
# Programs over an interface of fallible calls

A `Program I α` is a straight-line description of code that issues calls of the
interface `I` and continues with each response. A call may fail, and the
failure reaches the program as an `Except` value, so exception handling is
ordinary case analysis on the response. Programs are inductive: every program
issues finitely many calls on every sequence of responses, whatever they are.

The command carries the data of the call, so that a property of a run can speak
about what is being called and with which arguments.
-/

namespace Logistics.Library

/-- What a program can call: its commands, what each answers with when it
succeeds, and the errors it may raise. -/
structure Interface where
  Command : Type
  Result : Command → Type
  Error : Type

abbrev Response (I : Interface) (c : I.Command) : Type :=
  Except I.Error (I.Result c)

/-- The interface with further commands, which raise the same errors. -/
@[reducible] def Interface.extend (I : Interface) (C : Type) (Result : C → Type) : Interface :=
  ⟨I.Command ⊕ C, Sum.elim I.Result Result, I.Error⟩

/-- A condition on the commands of an extended interface is decided on those of the
smaller one and on the further ones. -/
@[reducible] def decideExtended {A B : Type} {p : A ⊕ B → Prop}
    (smaller : ∀ a, Decidable (p (.inl a))) (further : ∀ b, Decidable (p (.inr b))) :
    DecidablePred p
  | .inl a => smaller a
  | .inr b => further b

/-- A program: a value, an uncaught error, or a call with a continuation. -/
inductive Program (I : Interface) (α : Type) : Type
  | pure (a : α)
  | throw (e : I.Error)
  | call (c : I.Command) (k : Response I c → Program I α)

namespace Program

def bind {I : Interface} {α β : Type} :
    Program I α → (α → Program I β) → Program I β
  | .pure a, f => f a
  | .throw e, _ => .throw e
  | .call c k, f => .call c fun r => (k r).bind f

/-- Run the handler on an uncaught error. -/
def tryCatch {I : Interface} {α : Type} :
    Program I α → (I.Error → Program I α) → Program I α
  | .pure a, _ => .pure a
  | .throw e, h => h e
  | .call c k, h => .call c fun r => (k r).tryCatch h

/-- Issue one call and rethrow the error it raises. -/
def perform {I : Interface} (c : I.Command) : Program I (I.Result c) :=
  .call c fun
    | .ok a => .pure a
    | .error e => .throw e

def throwIf {I : Interface} (p : Prop) [Decidable p] (e : I.Error) : Program I Unit :=
  if p then .throw e else .pure ()

def ofExcept {I : Interface} {α : Type} : Except I.Error α → Program I α
  | .ok a => .pure a
  | .error e => .throw e

/-- The same program over an interface with further commands. -/
def lift {I : Interface} {C : Type} {Result : C → Type} {α : Type} :
    Program I α → Program (I.extend C Result) α
  | .pure a => .pure a
  | .throw e => .throw e
  | .call c k => .call (.inl c) fun r => (k r).lift

instance {I : Interface} : Monad (Program I) where
  pure := .pure
  bind := .bind

instance {I : Interface} : MonadExceptOf I.Error (Program I) where
  throw := .throw
  tryCatch := .tryCatch

theorem bind_pure' {I : Interface} {α : Type} (p : Program I α) : p.bind .pure = p := by
  induction p with
  | pure a => rfl
  | throw e => rfl
  | call c k ih => simp only [Program.bind, ih]

theorem bind_bind {I : Interface} {α β γ : Type} (p : Program I α) (f : α → Program I β)
    (g : β → Program I γ) : (p.bind f).bind g = p.bind fun a => (f a).bind g := by
  induction p with
  | pure a => rfl
  | throw e => rfl
  | call c k ih => simp only [Program.bind, ih]

instance {I : Interface} : LawfulMonad (Program I) :=
  LawfulMonad.mk' _ (fun p => bind_pure' p) (fun _ _ => rfl) bind_bind

def error? {I : Interface} {α : Type} : Program I α → Option I.Error
  | .throw e => some e
  | _ => none

def value? {I : Interface} {α : Type} : Program I α → Option α
  | .pure a => some a
  | _ => none

theorem value?_eq_some_iff {I : Interface} {α : Type} {p : Program I α} {a : α} :
    p.value? = some a ↔ p = .pure a := by
  cases p <;> simp [value?]

theorem error?_eq_some_iff {I : Interface} {α : Type} {p : Program I α} {e : I.Error} :
    p.error? = some e ↔ p = .throw e := by
  cases p <;> simp [error?]

@[simp] theorem pure_eq {I : Interface} {α : Type} (a : α) :
    (Pure.pure a : Program I α) = .pure a := rfl

@[simp] theorem throw_eq {I : Interface} {α : Type} (e : I.Error) :
    (throwThe I.Error e : Program I α) = .throw e := rfl

@[simp] theorem throw'_eq {I : Interface} {α : Type} (e : I.Error) :
    (MonadExcept.throw e : Program I α) = .throw e := rfl

@[simp] theorem pure_bind {I : Interface} {α β : Type} (a : α)
    (f : α → Program I β) : (Program.pure a >>= f) = f a := rfl

@[simp] theorem throw_bind {I : Interface} {α β : Type} (e : I.Error)
    (f : α → Program I β) : (Program.throw e >>= f) = .throw e := rfl

@[simp] theorem call_bind {I : Interface} {α β : Type} (c : I.Command)
    (k : Response I c → Program I α) (f : α → Program I β) :
    (Program.call c k >>= f) = .call c fun r => k r >>= f := rfl

@[simp] theorem tryCatch_pure {I : Interface} {α : Type} (a : α)
    (h : I.Error → Program I α) : (Program.pure a).tryCatch h = .pure a := rfl

@[simp] theorem tryCatch_throw {I : Interface} {α : Type} (e : I.Error)
    (h : I.Error → Program I α) : (Program.throw e).tryCatch h = h e := rfl

@[simp] theorem tryCatch_call {I : Interface} {α : Type} (c : I.Command)
    (k : Response I c → Program I α) (h : I.Error → Program I α) :
    (Program.call c k).tryCatch h = .call c fun r => (k r).tryCatch h := rfl

theorem perform_eq {I : Interface} (c : I.Command) :
    (perform c : Program I (I.Result c)) = .call c fun
      | .ok a => .pure a
      | .error e => .throw e := rfl

theorem except_bind_eq_ok {ε α β : Type} {x : Except ε α} {f : α → Except ε β} {b : β} :
    (x >>= f) = .ok b ↔ ∃ a, x = .ok a ∧ f a = .ok b := by
  cases x with
  | error e => simp [Bind.bind, Except.bind]
  | ok a => simp [Bind.bind, Except.bind]

end Program

/-! ## Programs issuing only calls of one kind -/

namespace Program

/-- Every command the program may issue, whatever it is answered, satisfies
`P`. -/
def Issues {I : Interface} {α : Type} (P : I.Command → Prop) :
    Program I α → Prop
  | .pure _ => True
  | .throw _ => True
  | .call c k => P c ∧ ∀ r, (k r).Issues P

theorem issues_true {I : Interface} {α : Type} (p : Program I α) : p.Issues fun _ => True := by
  induction p with
  | pure a => trivial
  | throw e => trivial
  | call c k ih => exact ⟨trivial, ih⟩

theorem Issues.bind {I : Interface} {α β : Type} {P : I.Command → Prop}
    {p : Program I α} {f : α → Program I β} (hp : p.Issues P)
    (hf : ∀ a, (f a).Issues P) : (p >>= f).Issues P := by
  induction p with
  | pure a => exact hf a
  | throw e => trivial
  | call c k ih => exact ⟨hp.1, fun r => ih r (hp.2 r)⟩

theorem Issues.tryCatch {I : Interface} {α : Type} {P : I.Command → Prop}
    {p : Program I α} {h : I.Error → Program I α} (hp : p.Issues P)
    (hh : ∀ e, (h e).Issues P) : (p.tryCatch h).Issues P := by
  induction p with
  | pure a => trivial
  | throw e => exact hh e
  | call c k ih => exact ⟨hp.1, fun r => ih r (hp.2 r)⟩

theorem Issues.mono {I : Interface} {α : Type} {P Q : I.Command → Prop} {p : Program I α}
    (hp : p.Issues P) (hPQ : ∀ c, P c → Q c) : p.Issues Q := by
  induction p with
  | pure a => trivial
  | throw e => trivial
  | call c k ih => exact ⟨hPQ c hp.1, fun r => ih r (hp.2 r)⟩

theorem Issues.throwIf {I : Interface} {P : I.Command → Prop} (p : Prop) [Decidable p]
    (e : I.Error) : (throwIf p e : Program I Unit).Issues P := by
  unfold Program.throwIf
  split <;> trivial

theorem Issues.ofExcept {I : Interface} {α : Type} {P : I.Command → Prop}
    (x : Except I.Error α) : (ofExcept x : Program I α).Issues P := by
  cases x <;> trivial

theorem Issues.perform {I : Interface} {P : I.Command → Prop} {c : I.Command}
    (hc : P c) : (perform c).Issues P := by
  refine ⟨hc, fun r => ?_⟩
  cases r <;> trivial

theorem issues_lift {I : Interface} {C : Type} {Result : C → Type} {α : Type}
    {P : I.Command → Prop} {p : Program I α} (hp : p.Issues P) :
    (p.lift : Program (I.extend C Result) α).Issues fun c => ∃ c', c = Sum.inl c' ∧ P c' := by
  induction p with
  | pure a => trivial
  | throw e => trivial
  | call c k ih => exact ⟨⟨c, rfl, hp.1⟩, fun r => ih r (hp.2 r)⟩

/-! The same by rewriting, for programs written as sequences of calls. -/

section

variable {I : Interface} {α β : Type} {P : I.Command → Prop}

@[simp] theorem issues_pure (a : α) : (Program.pure a : Program I α).Issues P := trivial

@[simp] theorem issues_throw (e : I.Error) : (Program.throw e : Program I α).Issues P := trivial

@[simp] theorem issues_perform_iff (c : I.Command) :
    (perform c : Program I (no_index (I.Result c))).Issues P ↔ P c :=
  ⟨fun h => h.1, Issues.perform⟩

@[simp] theorem issues_perform_bind_iff (c : I.Command) (f : I.Result c → Program I β) :
    (@Bind.bind (Program I) _ (no_index (I.Result c)) β (perform c) f).Issues P ↔
      P c ∧ ∀ a, (f a).Issues P := by
  constructor
  · intro h
    exact ⟨h.1, fun a => h.2 (.ok a)⟩
  · rintro ⟨hc, hf⟩
    exact (Issues.perform hc).bind hf

@[simp] theorem issues_throwIf (p : Prop) [Decidable p] (e : I.Error) :
    (throwIf p e : Program I Unit).Issues P :=
  Issues.throwIf p e

@[simp] theorem issues_throwIf_bind_iff (p : Prop) [Decidable p] (e : I.Error)
    (f : Unit → Program I β) : (throwIf p e >>= f).Issues P ↔ (¬p → (f ()).Issues P) := by
  unfold Program.throwIf
  by_cases hp : p <;> simp [hp]

@[simp] theorem issues_ofExcept (x : Except I.Error α) :
    (ofExcept x : Program I α).Issues P :=
  Issues.ofExcept x

@[simp] theorem issues_ofExcept_bind_iff (x : Except I.Error α) (f : α → Program I β) :
    (ofExcept x >>= f).Issues P ↔ ∀ a, x = .ok a → (f a).Issues P := by
  cases x <;> simp [Program.ofExcept]

@[simp] theorem issues_map_iff (f : α → β) (p : Program I α) :
    (f <$> p).Issues P ↔ p.Issues P := by
  rw [map_eq_pure_bind]
  induction p with
  | pure a => simp
  | throw e => simp
  | call c k ih => exact and_congr_right fun _ => forall_congr' ih

end

end Program

end Logistics.Library
