import Logistics.Library.Program

/-!
# Running programs one after the other

A backend answers the calls of an interface over a store. `Program.run` runs a
program to its end on an arbitrary stream of inputs, where an input is all that
the environment decides about one call: the clock, fresh identifiers, faults.
`runCalls` runs a list of requests one after the other.

The proof rule is `Program.wp`: a weakest precondition over every input, with
an assumption `A` on the calls that happen and a guarantee `G` to be shown of
each of them. An invariant kept by the `wp` of every request holds after every
list of requests whose calls meet the assumption (`runCalls_invariant`). What a call may
do can also depend on the calls before it (`traced`).
-/

namespace Logistics.Library

/-- How calls are answered over a store. -/
abbrev Backend (I : Interface) (Input S : Type) : Type :=
  (c : I.Command) → Input → S → Response I c × S

/-- Answer the further commands of an extended interface. -/
def Backend.extend {I : Interface} {C : Type} {Result : C → Type} {Input S : Type}
    (b : Backend I Input S)
    (further : (c : C) → Input → S → Except I.Error (Result c) × S) :
    Backend (I.extend C Result) Input S
  | .inl c => b c
  | .inr c => further c

namespace Program

def run {I : Interface} {α Input S : Type} (b : Backend I Input S) :
    Program I α → (ℕ → Input) → S → Except I.Error α × S
  | .pure a, _, s => (.ok a, s)
  | .throw e, _, s => (.error e, s)
  | .call c k, ω, s =>
      (k (b c (ω 0) s).1).run b (fun n => ω (n + 1)) (b c (ω 0) s).2

/-- Every call of the run satisfies `G` at the store and input it is made
with. -/
def Along {I : Interface} {α Input S : Type} (b : Backend I Input S)
    (G : S → I.Command → Input → Prop) :
    Program I α → (ℕ → Input) → S → Prop
  | .pure _, _, _ => True
  | .throw _, _, _ => True
  | .call c k, ω, s =>
      G s c (ω 0) ∧
        (k (b c (ω 0) s).1).Along b G (fun n => ω (n + 1)) (b c (ω 0) s).2

instance decidableAlong {I : Interface} {α Input S : Type} (b : Backend I Input S)
    (G : S → I.Command → Input → Prop) [∀ s c i, Decidable (G s c i)] :
    ∀ (p : Program I α) ω s, Decidable (p.Along b G ω s)
  | .pure _, _, _ => isTrue trivial
  | .throw _, _, _ => isTrue trivial
  | .call c k, ω, s =>
      have := decidableAlong b G (k (b c (ω 0) s).1) (fun n => ω (n + 1)) (b c (ω 0) s).2
      inferInstanceAs (Decidable (_ ∧ _))

/-- From `s`, on all inputs for which the calls meet the assumption `A`, every
call satisfies `G` and the program ends with an outcome and a store satisfying
`Q`. -/
def wp {I : Interface} {α Input S : Type} (b : Backend I Input S)
    (A G : S → I.Command → Input → Prop) (Q : Except I.Error α → S → Prop) :
    Program I α → S → Prop
  | .pure a, s => Q (.ok a) s
  | .throw e, s => Q (.error e) s
  | .call c k, s =>
      ∀ i, A s c i → G s c i ∧ (k (b c i s).1).wp b A G Q (b c i s).2

section Rules

variable {I : Interface} {α β Input S : Type} {b : Backend I Input S}
  {A G : S → I.Command → Input → Prop}

theorem wp_mono {Q Q' : Except I.Error α → S → Prop} {p : Program I α} {s : S}
    (h : p.wp b A G Q s) (hQ : ∀ r s', Q r s' → Q' r s') : p.wp b A G Q' s := by
  induction p generalizing s with
  | pure a => exact hQ _ _ h
  | throw e => exact hQ _ _ h
  | call c k ih => exact fun i hi => ⟨(h i hi).1, ih _ (h i hi).2⟩

theorem wp_guarantee {G' : S → I.Command → Input → Prop} {Q : Except I.Error α → S → Prop}
    {p : Program I α} {s : S} (h : p.wp b A G Q s) (hG : ∀ s c i, G s c i → G' s c i) :
    p.wp b A G' Q s := by
  induction p generalizing s with
  | pure a => exact h
  | throw e => exact h
  | call c k ih => exact fun i hi => ⟨hG _ _ _ (h i hi).1, ih _ (h i hi).2⟩

theorem wp_bind {Q : Except I.Error α → S → Prop}
    {Q' : Except I.Error β → S → Prop} {p : Program I α}
    {f : α → Program I β} {s : S} (h : p.wp b A G Q s)
    (hok : ∀ a s', Q (.ok a) s' → (f a).wp b A G Q' s')
    (herr : ∀ e s', Q (.error e) s' → Q' (.error e) s') :
    (p >>= f).wp b A G Q' s := by
  induction p generalizing s with
  | pure a => exact hok a s h
  | throw e => exact herr e s h
  | call c k ih => exact fun i hi => ⟨(h i hi).1, ih _ (h i hi).2⟩

theorem wp_map_outcome {f : α → β} {Q : Except I.Error β → S → Prop} {p : Program I α} {s : S}
    (h : p.wp b A G (fun outcome s' => Q (outcome.map f) s') s) : (f <$> p).wp b A G Q s := by
  rw [map_eq_pure_bind]
  exact wp_bind h (fun _ _ hs' => hs') fun _ _ hs' => hs'

/-- What holds of the store in the end does not depend on the value returned. -/
theorem wp_map {J : S → Prop} {f : α → β} {p : Program I α} {s : S}
    (h : p.wp b A G (fun _ s' => J s') s) : (f <$> p).wp b A G (fun _ s' => J s') s := by
  rw [map_eq_pure_bind]
  exact wp_bind h (fun _ _ hs' => hs') fun _ _ hs' => hs'

theorem wp_perform_bind {c : I.Command} {f : I.Result c → Program I β}
    {Q : Except I.Error β → S → Prop} {s : S}
    (h : ∀ i, A s c i → G s c i ∧
      (∀ a, (b c i s).1 = .ok a → (f a).wp b A G Q (b c i s).2) ∧
      ∀ e, (b c i s).1 = .error e → Q (.error e) (b c i s).2) :
    (perform c >>= f).wp b A G Q s := by
  intro i hi
  obtain ⟨hG, hok, herr⟩ := h i hi
  refine ⟨hG, ?_⟩
  cases hanswer : (b c i s).1 with
  | ok a => exact hok a hanswer
  | error e => exact herr e hanswer

theorem wp_answered_bind {c : I.Command} {f : I.Result c → Program I β}
    {Q : Except I.Error β → S → Prop} {s : S}
    (h : ∀ i, A s c i → G s c i ∧ ∃ a s', b c i s = (.ok a, s') ∧ (f a).wp b A G Q s') :
    (perform c >>= f).wp b A G Q s := by
  intro i hi
  obtain ⟨hG, a, s', hanswer, hrest⟩ := h i hi
  refine ⟨hG, ?_⟩
  rw [hanswer]
  exact hrest

theorem wp_perform {c : I.Command} {J : S → Prop} {s : S}
    (h : ∀ i, A s c i → G s c i ∧ J (b c i s).2) :
    (perform c).wp b A G (fun _ s' => J s') s := by
  intro i hi
  obtain ⟨hG, hJ⟩ := h i hi
  refine ⟨hG, ?_⟩
  cases hanswer : (b c i s).1 with
  | ok a => exact hJ
  | error e => exact hJ

theorem wp_throwIf_bind {p : Prop} [Decidable p] {e : I.Error}
    {f : Unit → Program I β} {Q : Except I.Error β → S → Prop} {s : S}
    (hthrow : p → Q (.error e) s) (hcontinue : ¬p → (f ()).wp b A G Q s) :
    (throwIf p e >>= f).wp b A G Q s := by
  unfold throwIf
  by_cases hp : p
  · rw [if_pos hp]
    exact hthrow hp
  · rw [if_neg hp]
    exact hcontinue hp

theorem wp_ofExcept_bind {x : Except I.Error α} {f : α → Program I β}
    {Q : Except I.Error β → S → Prop} {s : S}
    (hok : ∀ a, x = .ok a → (f a).wp b A G Q s)
    (herr : ∀ e, x = .error e → Q (.error e) s) : (ofExcept x >>= f).wp b A G Q s := by
  cases x with
  | ok a => exact hok a rfl
  | error e => exact herr e rfl

theorem wp_tryCatch {Q Q' : Except I.Error α → S → Prop} {p : Program I α}
    {handler : I.Error → Program I α} {s : S} (h : p.wp b A G Q s)
    (hok : ∀ a s', Q (.ok a) s' → Q' (.ok a) s')
    (herr : ∀ e s', Q (.error e) s' → (handler e).wp b A G Q' s') :
    (p.tryCatch handler).wp b A G Q' s := by
  induction p generalizing s with
  | pure a => exact hok a s h
  | throw e => exact herr e s h
  | call c k ih => exact fun i hi => ⟨(h i hi).1, ih _ (h i hi).2⟩

/-- A store property kept by every command the program issues is kept by the
program. -/
theorem wp_of_issues {J : S → Prop} {P : I.Command → Prop} {p : Program I α}
    (hp : p.Issues P)
    (hP : ∀ c, P c → ∀ i s, J s → A s c i → G s c i ∧ J (b c i s).2) :
    ∀ s, J s → p.wp b A G (fun _ s' => J s') s := by
  induction p with
  | pure a => exact fun _ h => h
  | throw e => exact fun _ h => h
  | call c k ih =>
      intro s hs i hi
      have hc := hP c hp.1 i s hs hi
      exact ⟨hc.1, ih _ (hp.2 _) _ hc.2⟩

theorem wp_true (p : Program I α) (s : S) :
    p.wp b A (fun _ _ _ => True) (fun _ _ => True) s :=
  wp_of_issues (J := fun _ => True) p.issues_true
    (fun _ _ _ _ _ _ => ⟨trivial, trivial⟩) s trivial

theorem wp_run {Q : Except I.Error α → S → Prop} {p : Program I α}
    {ω : ℕ → Input} {s : S} (h : p.wp b A G Q s) (hA : p.Along b A ω s) :
    Q (p.run b ω s).1 (p.run b ω s).2 := by
  induction p generalizing ω s with
  | pure a => exact h
  | throw e => exact h
  | call c k ih => exact ih _ (h _ hA.1).2 hA.2

theorem wp_along {Q : Except I.Error α → S → Prop} {p : Program I α}
    {ω : ℕ → Input} {s : S} (h : p.wp b A G Q s) (hA : p.Along b A ω s) :
    p.Along b G ω s := by
  induction p generalizing ω s with
  | pure a => trivial
  | throw e => trivial
  | call c k ih => exact ⟨(h _ hA.1).1, ih _ (h _ hA.1).2 hA.2⟩

theorem run_of_along {J : S → Prop} (hkeep : ∀ s c i, J s → G s c i → J (b c i s).2)
    {p : Program I α} {ω : ℕ → Input} {s : S} (hs : J s) (hG : p.Along b G ω s) :
    J (p.run b ω s).2 := by
  induction p generalizing ω s with
  | pure a => exact hs
  | throw e => exact hs
  | call c k ih => exact ih _ (hkeep s c _ hs hG.1) hG.2

/-! What a run does with the first answer. -/

theorem run_perform (c : I.Command) (ω : ℕ → Input) (s : S) :
    (perform c).run b ω s = b c (ω 0) s := by
  rw [perform_eq, run]
  cases b c (ω 0) s with
  | mk answer s' => cases answer <;> rfl

theorem run_perform_bind_ok {c : I.Command} {f : I.Result c → Program I β} {ω : ℕ → Input}
    {s s' : S} {a : I.Result c} (h : b c (ω 0) s = (.ok a, s')) :
    (perform c >>= f).run b ω s = (f a).run b (fun n => ω (n + 1)) s' := by
  rw [perform_eq, call_bind, run, h]
  rfl

theorem run_perform_bind_error {c : I.Command} {f : I.Result c → Program I β} {ω : ℕ → Input}
    {s s' : S} {e : I.Error} (h : b c (ω 0) s = (.error e, s')) :
    (perform c >>= f).run b ω s = (.error e, s') := by
  rw [perform_eq, call_bind, run, h]
  rfl

theorem along_perform_bind_ok {G : S → I.Command → Input → Prop} {c : I.Command}
    {f : I.Result c → Program I β} {ω : ℕ → Input} {s s' : S} {a : I.Result c}
    (h : b c (ω 0) s = (.ok a, s')) :
    (perform c >>= f).Along b G ω s ↔
      G s c (ω 0) ∧ (f a).Along b G (fun n => ω (n + 1)) s' := by
  change _ ∧ _ ↔ _
  rw [h]
  rfl

theorem run_map (f : α → β) (p : Program I α) (ω : ℕ → Input) (s : S) :
    (f <$> p).run b ω s = ((p.run b ω s).1.map f, (p.run b ω s).2) := by
  rw [map_eq_pure_bind]
  induction p generalizing ω s with
  | pure a => rfl
  | throw e => rfl
  | call c k ih => exact ih _ _ _

theorem run_bind_fst {p : Program I α} {f : α → Program I α}
    (hf : ∀ a ω s, ((f a).run b ω s).1 = .ok a) (ω : ℕ → Input) (s : S) :
    ((p >>= f).run b ω s).1 = (p.run b ω s).1 := by
  induction p generalizing ω s with
  | pure a => exact hf a ω s
  | throw e => rfl
  | call c k ih => exact ih _ _ _

theorem exists_run_bind_ok {p : Program I α} {f : α → Program I β} {ω : ℕ → Input} {s s' : S}
    {a : α} (h : p.run b ω s = (.ok a, s')) :
    ∃ ω', (p >>= f).run b ω s = (f a).run b ω' s' := by
  induction p generalizing ω s with
  | pure a' =>
      obtain ⟨ha, rfl⟩ := Prod.mk.inj h
      rw [← Except.ok.inj ha]
      exact ⟨ω, rfl⟩
  | throw e => cases h
  | call c k ih => exact ih _ h

/-- Within one instant the inputs are the same at every call. -/
theorem run_bind_of_run {p : Program I α} {f : α → Program I β} {i : Input} {s s' : S} {a : α}
    (h : p.run b (fun _ => i) s = (.ok a, s')) :
    (p >>= f).run b (fun _ => i) s = (f a).run b (fun _ => i) s' := by
  induction p generalizing s with
  | pure a' =>
      obtain ⟨ha, rfl⟩ := Prod.mk.inj h
      rw [pure_bind, Except.ok.inj ha]
  | throw e => cases h
  | call c k ih => exact ih _ h

/-! A run that ends well, read backwards. -/

theorem exists_of_run_bind_ok {p : Program I α} {f : α → Program I β} {ω : ℕ → Input} {s s' : S}
    {a : β} (h : (p >>= f).run b ω s = (.ok a, s')) :
    ∃ x ω' s₁, p.run b ω s = (.ok x, s₁) ∧ (f x).run b ω' s₁ = (.ok a, s') := by
  induction p generalizing ω s with
  | pure x => exact ⟨x, ω, s, rfl, h⟩
  | throw e => cases (Prod.mk.inj h).1
  | call c k ih => exact ih _ h

theorem exists_of_run_map_isOk {p : Program I α} {f : α → β} {ω : ℕ → Input} {s : S}
    (h : ((f <$> p).run b ω s).1.isOk = true) :
    ∃ a, p.run b ω s = (.ok a, ((f <$> p).run b ω s).2) := by
  rw [run_map] at h ⊢
  cases hrun : p.run b ω s with
  | mk outcome s' =>
      rw [hrun] at h
      cases outcome with
      | ok a => exact ⟨a, rfl⟩
      | error error => cases h

theorem run_perform_bind_eq_ok_iff {c : I.Command} {f : I.Result c → Program I β} {ω : ℕ → Input}
    {s s' : S} {a : β} :
    (perform c >>= f).run b ω s = (.ok a, s') ↔ ∃ x s₁, b c (ω 0) s = (.ok x, s₁) ∧
      (f x).run b (fun n => ω (n + 1)) s₁ = (.ok a, s') := by
  constructor
  · intro h
    cases hanswer : b c (ω 0) s with
    | mk answer s₁ =>
        cases answer with
        | ok x => exact ⟨x, s₁, rfl, (run_perform_bind_ok hanswer).symm.trans h⟩
        | error e =>
            rw [perform_eq, call_bind, run, hanswer] at h
            cases h
  · rintro ⟨x, s₁, hanswer, h⟩
    exact (run_perform_bind_ok hanswer).trans h

theorem run_throwIf_bind_eq_ok_iff {p : Prop} [Decidable p] {e : I.Error}
    {f : Unit → Program I β} {ω : ℕ → Input} {s s' : S} {a : β} :
    (throwIf p e >>= f).run b ω s = (.ok a, s') ↔ ¬p ∧ (f ()).run b ω s = (.ok a, s') := by
  unfold throwIf
  by_cases hp : p
  · simp [hp, run]
  · simp [hp]

theorem run_ofExcept_bind_eq_ok_iff {x : Except I.Error α} {f : α → Program I β}
    {ω : ℕ → Input} {s s' : S} {a : β} :
    (ofExcept x >>= f).run b ω s = (.ok a, s') ↔
      ∃ y, x = .ok y ∧ (f y).run b ω s = (.ok a, s') := by
  cases x <;> simp [ofExcept, run]

theorem run_tryCatch_ok {p : Program I α} {handler : I.Error → Program I α} {ω : ℕ → Input}
    {s s' : S} {a : α} (h : p.run b ω s = (.ok a, s')) :
    (p.tryCatch handler).run b ω s = (.ok a, s') := by
  induction p generalizing ω s with
  | pure a => exact h
  | throw e => cases h
  | call c k ih => exact ih _ h

theorem run_tryCatch_error {p : Program I α} {handler : I.Error → Program I α} {ω : ℕ → Input}
    {s s' : S} {e : I.Error} (h : p.run b ω s = (.error e, s')) :
    ∃ ω', (p.tryCatch handler).run b ω s = (handler e).run b ω' s' := by
  induction p generalizing ω s with
  | pure a => cases h
  | throw e' =>
      obtain ⟨he, rfl⟩ := Prod.mk.inj h
      rw [← Except.error.inj he]
      exact ⟨ω, rfl⟩
  | call c k ih => exact ih _ h

theorem run_tryCatch_perform_bind_error {c : I.Command} {f : I.Result c → Program I β}
    {handler : I.Error → Program I β} {ω : ℕ → Input} {s s' : S} {e : I.Error}
    (h : b c (ω 0) s = (.error e, s')) :
    ((perform c >>= f).tryCatch handler).run b ω s =
      (handler e).run b (fun n => ω (n + 1)) s' := by
  rw [perform_eq, call_bind, tryCatch_call, run, h]
  rfl

theorem run_tryCatch_perform_bind {c : I.Command} {handler : I.Error → Program I (I.Result c)}
    {f : I.Result c → Program I β} (ω : ℕ → Input) (s : S) :
    ((perform c).tryCatch handler >>= f).run b ω s =
      (match (b c (ω 0) s).1 with
        | .ok a => f a
        | .error e => handler e >>= f).run b (fun n => ω (n + 1)) (b c (ω 0) s).2 := by
  rw [perform_eq, tryCatch_call, call_bind, run]
  cases (b c (ω 0) s).1 with
  | ok a => rfl
  | error e => rfl

theorem along_true (p : Program I α) (ω : ℕ → Input) (s : S) :
    p.Along b (fun _ _ _ => True) ω s := by
  induction p generalizing ω s with
  | pure a => trivial
  | throw e => trivial
  | call c k ih => exact ⟨trivial, ih _ _ _⟩

theorem Along.mono {G' : S → I.Command → Input → Prop} {p : Program I α} {ω : ℕ → Input} {s : S}
    (h : p.Along b G ω s) (hG : ∀ s c i, G s c i → G' s c i) : p.Along b G' ω s := by
  induction p generalizing ω s with
  | pure a => trivial
  | throw e => trivial
  | call c k ih => exact ⟨hG _ _ _ h.1, ih _ h.2⟩

theorem Along.and {G' : S → I.Command → Input → Prop} {p : Program I α} {ω : ℕ → Input} {s : S}
    (h : p.Along b G ω s) (h' : p.Along b G' ω s) :
    p.Along b (fun s c i => G s c i ∧ G' s c i) ω s := by
  induction p generalizing ω s with
  | pure a => trivial
  | throw e => trivial
  | call c k ih => exact ⟨⟨h.1, h'.1⟩, ih _ h.2 h'.2⟩

end Rules

end Program

/-! ## Calls that remember -/

/-- A call that was made, with the store it was made on. -/
structure Step (I : Interface) (Input S : Type) where
  store : S
  command : I.Command
  input : Input

section Traced

variable {I : Interface} {α Input S : Type}

/-- The calls answered as before, over the store together with the calls made
so far. A condition over it may look back. -/
def traced (b : Backend I Input S) : Backend I Input (S × List (Step I Input S)) :=
  fun c i x => ((b c i x.1).1, (b c i x.1).2, x.2 ++ [⟨x.1, c, i⟩])

variable {b : Backend I Input S} {A G : S → I.Command → Input → Prop}

/-- What does not look back is the same on both. -/
theorem along_traced_iff {p : Program I α} {ω : ℕ → Input} {s : S}
    {past : List (Step I Input S)} :
    p.Along (traced b) (fun x => G x.1) ω (s, past) ↔ p.Along b G ω s := by
  induction p generalizing ω s past with
  | pure a => exact Iff.rfl
  | throw e => exact Iff.rfl
  | call c k ih => exact and_congr Iff.rfl (ih _)

theorem wp_traced {Q : Except I.Error α → S → Prop} {p : Program I α} {s : S}
    {past : List (Step I Input S)} (h : p.wp b A G Q s) :
    p.wp (traced b) (fun x => A x.1) (fun x => G x.1) (fun r x => Q r x.1) (s, past) := by
  induction p generalizing s past with
  | pure a => exact h
  | throw e => exact h
  | call c k ih => exact fun i hi => ⟨(h i hi).1, ih _ (h i hi).2⟩

end Traced

/-! ## Requests run one after the other -/

/-- A system: how requests are handled and how calls are answered. -/
structure System (I : Interface) (R α Input S : Type) where
  backend : Backend I Input S
  handle : R → Program I α

/-- The store after running each request to its end, in order. -/
def System.runCalls {I : Interface} {R α Input S : Type}
    (sys : System I R α Input S) : List (R × (ℕ → Input)) → S → S
  | [], s => s
  | (r, ω) :: rest, s =>
      sys.runCalls rest ((sys.handle r).run sys.backend ω s).2

/-- Every call made by the requests satisfies `G`. -/
def System.AlongCalls {I : Interface} {R α Input S : Type}
    (sys : System I R α Input S) (G : S → I.Command → Input → Prop) :
    List (R × (ℕ → Input)) → S → Prop
  | [], _ => True
  | (r, ω) :: rest, s =>
      (sys.handle r).Along sys.backend G ω s ∧
        sys.AlongCalls G rest ((sys.handle r).run sys.backend ω s).2

instance System.decidableAlongCalls {I : Interface} {R α Input S : Type}
    (sys : System I R α Input S) (G : S → I.Command → Input → Prop)
    [∀ s c i, Decidable (G s c i)] : ∀ calls s, Decidable (sys.AlongCalls G calls s)
  | [], _ => isTrue trivial
  | (r, ω) :: rest, s =>
      have := decidableAlongCalls sys G rest ((sys.handle r).run sys.backend ω s).2
      inferInstanceAs (Decidable (_ ∧ _))

/-- Every request meets the condition at the store it is made on. -/
def System.AlongRequests {I : Interface} {R α Input S : Type}
    (sys : System I R α Input S) (C : R → S → Prop) : List (R × (ℕ → Input)) → S → Prop
  | [], _ => True
  | (r, ω) :: rest, s =>
      C r s ∧ sys.AlongRequests C rest ((sys.handle r).run sys.backend ω s).2

instance System.decidableAlongRequests {I : Interface} {R α Input S : Type}
    (sys : System I R α Input S) (C : R → S → Prop) [∀ r s, Decidable (C r s)] :
    ∀ calls s, Decidable (sys.AlongRequests C calls s)
  | [], _ => isTrue trivial
  | (r, ω) :: rest, s =>
      have := decidableAlongRequests sys C rest ((sys.handle r).run sys.backend ω s).2
      inferInstanceAs (Decidable (_ ∧ _))

/-- Every request, run on its inputs, meets the condition at the store it is made on. -/
def System.AlongRuns {I : Interface} {R α Input S : Type}
    (sys : System I R α Input S) (C : R → (ℕ → Input) → S → Prop) :
    List (R × (ℕ → Input)) → S → Prop
  | [], _ => True
  | (r, ω) :: rest, s =>
      C r ω s ∧ sys.AlongRuns C rest ((sys.handle r).run sys.backend ω s).2

/-- The outcomes of the requests, in order. -/
def System.outcomes {I : Interface} {R α Input S : Type} (sys : System I R α Input S) :
    List (R × (ℕ → Input)) → S → List (Except I.Error α)
  | [], _ => []
  | (r, ω) :: rest, s =>
      ((sys.handle r).run sys.backend ω s).1 ::
        sys.outcomes rest ((sys.handle r).run sys.backend ω s).2

section RunCalls

variable {I : Interface} {R α Input S : Type} {sys : System I R α Input S}
  {A G : S → I.Command → Input → Prop} {J : S → Prop}

theorem System.runCalls_append (xs ys : List (R × (ℕ → Input))) (s : S) :
    sys.runCalls (xs ++ ys) s = sys.runCalls ys (sys.runCalls xs s) := by
  induction xs generalizing s with
  | nil => rfl
  | cons x xs ih => exact ih _

theorem System.alongCalls_append (xs ys : List (R × (ℕ → Input))) (s : S) :
    sys.AlongCalls G (xs ++ ys) s ↔
      sys.AlongCalls G xs s ∧ sys.AlongCalls G ys (sys.runCalls xs s) := by
  induction xs generalizing s with
  | nil => simp [AlongCalls, runCalls]
  | cons x xs ih => simp only [List.cons_append, AlongCalls, runCalls, ih, and_assoc]

theorem System.alongRequests_append {C : R → S → Prop} (xs ys : List (R × (ℕ → Input))) (s : S) :
    sys.AlongRequests C (xs ++ ys) s ↔
      sys.AlongRequests C xs s ∧ sys.AlongRequests C ys (sys.runCalls xs s) := by
  induction xs generalizing s with
  | nil => simp [AlongRequests, runCalls]
  | cons x xs ih => simp only [List.cons_append, AlongRequests, runCalls, ih, and_assoc]

/-- What follows of each run from an invariant and a condition under which the run
keeps the invariant holds of every run of a list that meets the condition. -/
theorem System.alongRuns_of_invariant {C D : R → (ℕ → Input) → S → Prop}
    (hkeep : ∀ r ω s, J s → C r ω s → J ((sys.handle r).run sys.backend ω s).2)
    (hstep : ∀ r ω s, J s → C r ω s → D r ω s) :
    ∀ (calls : List (R × (ℕ → Input))) (s : S), J s → sys.AlongRuns C calls s →
      sys.AlongRuns D calls s
  | [], _, _, _ => trivial
  | (r, ω) :: rest, s, hs, hC =>
      ⟨hstep r ω s hs hC.1,
        alongRuns_of_invariant hkeep hstep rest _ (hkeep r ω s hs hC.1) hC.2⟩

/-- An invariant that every request keeps, on inputs meeting the assumption,
holds after every list of requests meeting it. -/
theorem System.runCalls_invariant
    (hkeep : ∀ r s, J s → (sys.handle r).wp sys.backend A G (fun _ s' => J s') s) :
    ∀ (calls : List (R × (ℕ → Input))) (s : S), J s → sys.AlongCalls A calls s →
      J (sys.runCalls calls s)
  | [], _, hs, _ => hs
  | (r, _) :: rest, s, hs, hA =>
      runCalls_invariant hkeep rest _ (Program.wp_run (hkeep r s hs) hA.1) hA.2

/-- Along the same runs every call satisfies the guarantee. -/
theorem System.alongCalls_of_invariant
    (hkeep : ∀ r s, J s → (sys.handle r).wp sys.backend A G (fun _ s' => J s') s) :
    ∀ (calls : List (R × (ℕ → Input))) (s : S), J s → sys.AlongCalls A calls s →
      sys.AlongCalls G calls s
  | [], _, _, _ => trivial
  | (r, _) :: rest, s, hs, hA =>
      ⟨Program.wp_along (hkeep r s hs) hA.1,
        alongCalls_of_invariant hkeep rest _
          (Program.wp_run (hkeep r s hs) hA.1) hA.2⟩

theorem System.alongCalls_and {G' : S → I.Command → Input → Prop} :
    ∀ (calls : List (R × (ℕ → Input))) (s : S), sys.AlongCalls G calls s →
      sys.AlongCalls G' calls s → sys.AlongCalls (fun s c i => G s c i ∧ G' s c i) calls s
  | [], _, _, _ => trivial
  | (_, _) :: rest, _, hG, hG' => ⟨hG.1.and hG'.1, alongCalls_and rest _ hG.2 hG'.2⟩

theorem System.runCalls_of_along (hkeep : ∀ s c i, J s → G s c i → J (sys.backend c i s).2) :
    ∀ (calls : List (R × (ℕ → Input))) (s : S), J s → sys.AlongCalls G calls s →
      J (sys.runCalls calls s)
  | [], _, hs, _ => hs
  | (_, _) :: rest, _, hs, hG =>
      runCalls_of_along hkeep rest _ (Program.run_of_along hkeep hs hG.1) hG.2

/-- What every request of a kind does at all its calls. -/
theorem System.alongCalls_of_mem {C : R → Prop}
    (hkeep : ∀ r, C r → ∀ s ω, (sys.handle r).Along sys.backend G ω s) :
    ∀ (calls : List (R × (ℕ → Input))) (s : S), (∀ call ∈ calls, C call.1) →
      sys.AlongCalls G calls s
  | [], _, _ => trivial
  | (r, ω) :: rest, s, hC =>
      ⟨hkeep r (hC (r, ω) List.mem_cons_self) s ω,
        alongCalls_of_mem hkeep rest _ fun call hcall => hC call (List.mem_cons_of_mem _ hcall)⟩

theorem System.alongCalls_true :
    ∀ (calls : List (R × (ℕ → Input))) (s : S),
      sys.AlongCalls (fun _ _ _ => True) calls s
  | [], _ => trivial
  | (_, _) :: rest, _ => ⟨Program.along_true _ _ _, alongCalls_true rest _⟩

end RunCalls

end Logistics.Library
