import Logistics.Library.Program

/-!
# Calls answered by programs

A call of one interface may itself be a program over another: `Program.expand` puts
that program in the place of each call, so that what was one step becomes several.
-/

namespace Logistics.Library

namespace Program

variable {I : Interface} {α β : Type}

/-- Go on with the outcome of a program, whatever it is. -/
def attempt : Program I α → (Except I.Error α → Program I β) → Program I β
  | .pure a, f => f (.ok a)
  | .throw e, f => f (.error e)
  | .call c k, f => .call c fun r => (k r).attempt f

variable {C : Type} {Result : C → Type}

/-- Each call is answered by a program. -/
def expand (answer : (c : C) → Program I (Result c)) :
    Program ⟨C, Result, I.Error⟩ α → Program I α
  | .pure a => .pure a
  | .throw e => .throw e
  | .call c k => (answer c).attempt fun r => (k r).expand answer

theorem Issues.attempt {P : I.Command → Prop} {p : Program I α}
    {f : Except I.Error α → Program I β} (hp : p.Issues P) (hf : ∀ r, (f r).Issues P) :
    (p.attempt f).Issues P := by
  induction p with
  | pure a => exact hf (.ok a)
  | throw e => exact hf (.error e)
  | call c k ih => exact ⟨hp.1, fun r => ih r (hp.2 r)⟩

/-- What is known of the programs that answer the calls is known of the whole. -/
theorem Issues.expand {P : C → Prop} {Q : I.Command → Prop}
    {answer : (c : C) → Program I (Result c)} {p : Program ⟨C, Result, I.Error⟩ α}
    (hp : p.Issues P) (hanswer : ∀ c, P c → (answer c).Issues Q) : (p.expand answer).Issues Q := by
  induction p with
  | pure a => trivial
  | throw e => trivial
  | call c k ih => exact (hanswer c hp.1).attempt fun r => ih r (hp.2 r)

end Program

end Logistics.Library
