import Mathlib.Algebra.GroupWithZero.Nat
import Mathlib.Data.List.Basic
import Logistics.Library.Sequential

/-!
# Interleaved programs

Any number of requests run at once over one store. Each started request is a
thread: what it was asked, the calls it has made with the answers it received,
and the program it still has to run. An action starts a request or lets one
thread make its next call, which is atomic. A run is a list of actions, so a
statement about every list of actions is a statement about every interleaving.

Seven proof rules are kept here. `System.run_invariant` is the induction over
runs. `Program.Obeys` is a property of one program and its own calls, under
arbitrary answers; it passes to every thread of every run (`System.obeying_run`).
`Config.Knowing` is what the answers of past calls still say about the store, and
`System.lawful_run` an invariant of the store that rests on both.
`Config.Issuing` is what is known of the calls by the requests that were started,
and `Program.Throughout` of what follows each call.
`System.eventCount_run_le_one` is for what may be done once: doing it leaves a
mark on the store that no call takes away and that keeps it from being done.
-/

namespace Logistics.Library

/-- A call together with its answer. -/
abbrev Event (I : Interface) : Type := Σ c : I.Command, Response I c

/-- One of the answered calls is of this command, and succeeded. -/
def Succeeded {I : Interface} (c : I.Command) (h : List (Event I)) : Prop :=
  ∃ e ∈ h, e.1 = c ∧ e.2.isOk = true

theorem Succeeded.append {I : Interface} {c : I.Command} {h : List (Event I)}
    (hc : Succeeded c h) (e : Event I) : Succeeded c (h ++ [e]) := by
  obtain ⟨e', he', hrest⟩ := hc
  exact ⟨e', List.mem_append_left _ he', hrest⟩

theorem succeeded_append_singleton {I : Interface} {c : I.Command} {h : List (Event I)}
    {x : Response I c} (hx : x.isOk = true) : Succeeded c (h ++ [⟨c, x⟩]) :=
  ⟨⟨c, x⟩, by simp, rfl, hx⟩

/-- An event of an interface as one of an extended interface. -/
def extendEvent {I : Interface} {C : Type} {Result : C → Type} (e : Event I) :
    Event (I.extend C Result) :=
  ⟨.inl e.1, e.2⟩

/-- A started request: its own past calls and the rest of its program. -/
structure Thread (I : Interface) (R α : Type) where
  request : R
  history : List (Event I)
  program : Program I α

/-- A store with the requests started on it. -/
structure Config (I : Interface) (R α S : Type) where
  store : S
  threads : List (Thread I R α)

/-- Start a request, or let the thread of this number make its next call. -/
inductive Action (R Input : Type)
  | start (r : R)
  | step (i : ℕ) (input : Input)

/-- The thread after its pending call was answered. -/
def Thread.resume {I : Interface} {R α : Type} (r : R) (h : List (Event I))
    (c : I.Command) (k : Response I c → Program I α) (x : Response I c) :
    Thread I R α :=
  ⟨r, h ++ [⟨c, x⟩], k x⟩

def Config.nextCall {I : Interface} {R α Input S : Type}
    (c : Config I R α S) : Action R Input → Option (I.Command × Input)
  | .start _ => none
  | .step i input =>
      match c.threads[i]? with
      | some ⟨_, _, .call cmd _⟩ => some (cmd, input)
      | _ => none

section Runs

variable {I : Interface} {R α Input S : Type}

/-- One action. A step of a thread that is finished or unknown does nothing. -/
def System.next (sys : System I R α Input S) (c : Config I R α S) :
    Action R Input → Config I R α S
  | .start r => { c with threads := c.threads ++ [⟨r, [], sys.handle r⟩] }
  | .step i input =>
      match c.threads[i]? with
      | some ⟨r, h, .call cmd k⟩ =>
          let answer := sys.backend cmd input c.store
          { store := answer.2
            threads := c.threads.set i (Thread.resume r h cmd k answer.1) }
      | _ => c

/-- The configuration after a list of actions. -/
def System.runActions (sys : System I R α Input S) (c : Config I R α S)
    (acts : List (Action R Input)) : Config I R α S :=
  acts.foldl sys.next c

/-- Every action of the run satisfies `P` where it is taken. -/
def System.AlongActions (sys : System I R α Input S)
    (P : Config I R α S → Action R Input → Prop) :
    Config I R α S → List (Action R Input) → Prop
  | _, [] => True
  | c, a :: rest => P c a ∧ sys.AlongActions P (sys.next c a) rest

instance System.decidableAlongActions (sys : System I R α Input S)
    (P : Config I R α S → Action R Input → Prop) [∀ c a, Decidable (P c a)] :
    ∀ c acts, Decidable (sys.AlongActions P c acts)
  | _, [] => isTrue trivial
  | c, a :: rest =>
      have := decidableAlongActions sys P (sys.next c a) rest
      inferInstanceAs (Decidable (_ ∧ _))

/-- A condition on the call an action makes. -/
def CallCondition (P : S → I.Command → Input → Prop)
    (c : Config I R α S) (a : Action R Input) : Prop :=
  match c.nextCall a with
  | some (cmd, input) => P c.store cmd input
  | none => True

instance (P : S → I.Command → Input → Prop) [∀ s c i, Decidable (P s c i)]
    (c : Config I R α S) (a : Action R Input) :
    Decidable (CallCondition P c a) := by
  unfold CallCondition
  split <;> infer_instance

/-- A condition on the call an action makes and on the earlier calls of its
thread. -/
def HistoryCondition (P : S → List (Event I) → I.Command → Input → Prop)
    (c : Config I R α S) : Action R Input → Prop
  | .start _ => True
  | .step i input =>
      match c.threads[i]? with
      | some ⟨_, h, .call cmd _⟩ => P c.store h cmd input
      | _ => True

instance (P : S → List (Event I) → I.Command → Input → Prop)
    [∀ s h c i, Decidable (P s h c i)] (c : Config I R α S) :
    ∀ a : Action R Input, Decidable (HistoryCondition P c a)
  | .start _ => isTrue trivial
  | .step i input => by
      unfold HistoryCondition
      dsimp only
      split <;> infer_instance

/-- The action makes a call that satisfies `P` at the store it is made with. -/
def MakesCall (P : S → I.Command → Input → Prop)
    (c : Config I R α S) (a : Action R Input) : Prop :=
  match c.nextCall a with
  | some (cmd, input) => P c.store cmd input
  | none => False

instance (P : S → I.Command → Input → Prop) [∀ s c i, Decidable (P s c i)]
    (c : Config I R α S) (a : Action R Input) :
    Decidable (MakesCall P c a) := by
  unfold MakesCall
  split <;> infer_instance

/-- How many actions of the run satisfy `P` where they are taken. -/
def System.countActions (sys : System I R α Input S)
    (P : Config I R α S → Action R Input → Prop) [∀ c a, Decidable (P c a)] :
    Config I R α S → List (Action R Input) → ℕ
  | _, [] => 0
  | c, a :: rest => (if P c a then 1 else 0) + sys.countActions P (sys.next c a) rest

def Config.initial (s : S) : Config I R α S := ⟨s, []⟩

variable {sys : System I R α Input S}

@[simp] theorem System.runActions_nil (c : Config I R α S) :
    sys.runActions c [] = c := rfl

@[simp] theorem System.runActions_cons (c : Config I R α S)
    (a : Action R Input) (acts : List (Action R Input)) :
    sys.runActions c (a :: acts) = sys.runActions (sys.next c a) acts := rfl

theorem System.runActions_append (c : Config I R α S)
    (xs ys : List (Action R Input)) :
    sys.runActions c (xs ++ ys) = sys.runActions (sys.runActions c xs) ys :=
  List.foldl_append

theorem System.alongActions_append {P : Config I R α S → Action R Input → Prop}
    (c : Config I R α S) (xs ys : List (Action R Input)) :
    sys.AlongActions P c (xs ++ ys) ↔
      sys.AlongActions P c xs ∧ sys.AlongActions P (sys.runActions c xs) ys := by
  induction xs generalizing c with
  | nil => simp [AlongActions]
  | cons a xs ih => simp only [List.cons_append, AlongActions, runActions_cons, ih, and_assoc]

/-- What an action can do: start a request, answer the pending call of one
thread, or nothing. -/
theorem System.next_cases (c : Config I R α S) (a : Action R Input) :
    (∃ r, a = .start r ∧
      sys.next c a = { c with threads := c.threads ++ [⟨r, [], sys.handle r⟩] }) ∨
    (∃ i input r h cmd k, a = .step i input ∧
      c.threads[i]? = some ⟨r, h, .call cmd k⟩ ∧
      c.nextCall a = some (cmd, input) ∧
      sys.next c a =
        { store := (sys.backend cmd input c.store).2
          threads := c.threads.set i
            (Thread.resume r h cmd k (sys.backend cmd input c.store).1) }) ∨
    (sys.next c a = c ∧ c.nextCall a = none) := by
  cases a with
  | start r => exact .inl ⟨r, rfl, rfl⟩
  | step i input =>
      cases ht : c.threads[i]? with
      | none => exact .inr (.inr (by simp [System.next, Config.nextCall, ht]))
      | some t =>
          obtain ⟨r, h, p⟩ := t
          cases p with
          | pure a => exact .inr (.inr (by simp [System.next, Config.nextCall, ht]))
          | throw e => exact .inr (.inr (by simp [System.next, Config.nextCall, ht]))
          | call cmd k =>
              exact .inr (.inl ⟨i, input, r, h, cmd, k, rfl, ht,
                by simp [Config.nextCall, ht], by simp [System.next, ht]⟩)

/-- An invariant that every action meeting the condition keeps holds after
every run meeting it. -/
theorem System.run_invariant {J : Config I R α S → Prop}
    {P : Config I R α S → Action R Input → Prop}
    (hkeep : ∀ c a, J c → P c a → J (sys.next c a)) :
    ∀ (acts : List (Action R Input)) (c : Config I R α S), J c →
      sys.AlongActions P c acts → J (sys.runActions c acts)
  | [], _, hc, _ => hc
  | a :: rest, c, hc, hP =>
      run_invariant hkeep rest (sys.next c a) (hkeep c a hc hP.1) hP.2

/-- A property that follows at each action from the invariant and the condition
holds of every action of the run. -/
theorem System.along_of_invariant {J : Config I R α S → Prop}
    {P Q : Config I R α S → Action R Input → Prop}
    (hkeep : ∀ c a, J c → P c a → J (sys.next c a))
    (hstep : ∀ c a, J c → P c a → Q c a) :
    ∀ (acts : List (Action R Input)) (c : Config I R α S), J c →
      sys.AlongActions P c acts → sys.AlongActions Q c acts
  | [], _, _, _ => trivial
  | a :: rest, c, hc, hP =>
      ⟨hstep c a hc hP.1,
        along_of_invariant hkeep hstep rest _ (hkeep c a hc hP.1) hP.2⟩

/-- Two conditions that mean the same at each action as long as the invariant holds,
and keep it, mean the same of runs. -/
theorem System.alongActions_iff {J : Config I R α S → Prop}
    {P Q : Config I R α S → Action R Input → Prop}
    (hkeep : ∀ c a, J c → P c a → J (sys.next c a)) (hiff : ∀ c a, J c → (P c a ↔ Q c a)) :
    ∀ (acts : List (Action R Input)) (c : Config I R α S), J c →
      (sys.AlongActions P c acts ↔ sys.AlongActions Q c acts)
  | [], _, _ => Iff.rfl
  | a :: rest, c, hc =>
      ⟨fun hP => ⟨(hiff c a hc).mp hP.1, (alongActions_iff hkeep hiff rest _
          (hkeep c a hc hP.1)).mp hP.2⟩,
        fun hQ => ⟨(hiff c a hc).mpr hQ.1, (alongActions_iff hkeep hiff rest _
          (hkeep c a hc ((hiff c a hc).mpr hQ.1))).mpr hQ.2⟩⟩

theorem System.alongActions_mono {P Q : Config I R α S → Action R Input → Prop}
    (hPQ : ∀ c a, P c a → Q c a) (acts : List (Action R Input)) (c : Config I R α S)
    (hP : sys.AlongActions P c acts) : sys.AlongActions Q c acts :=
  along_of_invariant (J := fun _ => True) (fun _ _ _ _ => trivial) (fun c a _ h => hPQ c a h) acts
    c trivial hP

/-- A quantity that no action lowers and every counted action raises bounds the
count from above. -/
theorem System.countActions_add_le {P : Config I R α S → Action R Input → Prop}
    [∀ c a, Decidable (P c a)] {quantity : S → ℕ}
    (hstep : ∀ c a, (if P c a then 1 else 0) + quantity c.store ≤
      quantity (sys.next c a).store) :
    ∀ (acts : List (Action R Input)) (c : Config I R α S),
      sys.countActions P c acts + quantity c.store ≤ quantity (sys.runActions c acts).store
  | [], c => by simp [countActions]
  | a :: rest, c => by
      have hrest := countActions_add_le hstep rest (sys.next c a)
      have hfirst := hstep c a
      simp only [countActions, runActions_cons]
      omega

/-- A store property kept by every call that meets the condition is kept by
every action whose call meets it. -/
theorem System.store_next {J : S → Prop} {P : S → I.Command → Input → Prop}
    (hkeep : ∀ s cmd i, J s → P s cmd i → J (sys.backend cmd i s).2)
    (c : Config I R α S) (a : Action R Input) (hc : J c.store) (hP : CallCondition P c a) :
    J (sys.next c a).store := by
  obtain ⟨r, rfl, hn⟩ | ⟨i, input, r, h, cmd, k, rfl, -, hcall, hn⟩ | ⟨hn, -⟩ :=
    sys.next_cases c a
  · rw [hn]
    exact hc
  · rw [CallCondition, hcall] at hP
    rw [hn]
    exact hkeep _ cmd input hc hP
  · rw [hn]
    exact hc

theorem System.store_run {J : S → Prop} {P : S → I.Command → Input → Prop}
    (hkeep : ∀ s cmd i, J s → P s cmd i → J (sys.backend cmd i s).2)
    (acts : List (Action R Input)) (c : Config I R α S) (hc : J c.store)
    (hP : sys.AlongActions (CallCondition P) c acts) : J (sys.runActions c acts).store :=
  sys.run_invariant (fun c a hc hP => sys.store_next hkeep c a hc hP) acts c hc hP

theorem System.alongActions_and {P Q : Config I R α S → Action R Input → Prop} :
    ∀ (acts : List (Action R Input)) (c : Config I R α S), sys.AlongActions P c acts →
      sys.AlongActions Q c acts → sys.AlongActions (fun c a => P c a ∧ Q c a) c acts
  | [], _, _, _ => trivial
  | _ :: rest, _, hP, hQ => ⟨⟨hP.1, hQ.1⟩, alongActions_and rest _ hP.2 hQ.2⟩

theorem System.alongActions_of_mem {P : Action R Input → Prop} :
    ∀ (acts : List (Action R Input)) (c : Config I R α S), (∀ a ∈ acts, P a) →
      sys.AlongActions (fun _ a => P a) c acts
  | [], _, _ => trivial
  | a :: rest, _, h =>
      ⟨h a List.mem_cons_self,
        alongActions_of_mem rest _ fun b hb => h b (List.mem_cons_of_mem a hb)⟩

theorem System.alongActions_true :
    ∀ (acts : List (Action R Input)) (c : Config I R α S),
      sys.AlongActions (fun _ _ => True) c acts
  | [], _ => trivial
  | _ :: rest, _ => ⟨trivial, alongActions_true rest _⟩

theorem System.alongActions_taken (acts : List (Action R Input)) (c : Config I R α S) :
    sys.AlongActions (fun c' a => ∃ n, acts[n]? = some a ∧ c' = sys.runActions c (acts.take n))
      c acts := by
  induction acts generalizing c with
  | nil => trivial
  | cons a rest ih =>
      refine ⟨⟨0, rfl, rfl⟩, ?_⟩
      refine sys.alongActions_mono ?_ rest (sys.next c a) (ih (sys.next c a))
      rintro c' a' ⟨n, ha, hn⟩
      exact ⟨n + 1, ha, hn⟩

theorem callCondition_true (c : Config I R α S) (a : Action R Input) :
    CallCondition (fun _ _ _ => True) c a := by
  unfold CallCondition
  split <;> trivial

theorem callCondition_and {P Q : S → I.Command → Input → Prop} {c : Config I R α S}
    {a : Action R Input} (hP : CallCondition P c a) (hQ : CallCondition Q c a) :
    CallCondition (fun s cmd i => P s cmd i ∧ Q s cmd i) c a := by
  unfold CallCondition at hP hQ ⊢
  split
  · next cmd input hcall =>
    rw [hcall] at hP hQ
    exact ⟨hP, hQ⟩
  · trivial

/-- Along such a run every call is made on a store with the property. -/
theorem System.store_along {J : S → Prop} {P : S → I.Command → Input → Prop}
    (hkeep : ∀ s cmd i, J s → P s cmd i → J (sys.backend cmd i s).2)
    (acts : List (Action R Input)) (c : Config I R α S) (hc : J c.store)
    (hP : sys.AlongActions (CallCondition P) c acts) :
    sys.AlongActions (CallCondition fun s cmd i => J s ∧ P s cmd i) c acts := by
  apply sys.along_of_invariant (J := fun c => J c.store)
    (fun c a hc hP => sys.store_next hkeep c a hc hP) ?_ acts c hc hP
  intro c a hc hP
  refine callCondition_and ?_ hP
  unfold CallCondition
  split
  · exact hc
  · trivial

theorem System.alongActions_callAnd {P Q : S → I.Command → Input → Prop}
    (acts : List (Action R Input)) (c : Config I R α S)
    (hP : sys.AlongActions (CallCondition P) c acts)
    (hQ : sys.AlongActions (CallCondition Q) c acts) :
    sys.AlongActions (CallCondition fun s cmd i => P s cmd i ∧ Q s cmd i) c acts :=
  sys.along_of_invariant (J := fun _ => True) (fun _ _ _ _ => trivial)
    (fun _ _ _ h => callCondition_and h.1 h.2) acts c trivial (sys.alongActions_and acts c hP hQ)

theorem System.alongActions_callTrue (acts : List (Action R Input)) (c : Config I R α S) :
    sys.AlongActions (CallCondition fun _ _ _ => True) c acts :=
  sys.along_of_invariant (J := fun _ => True) (P := fun _ _ => True) (fun _ _ _ _ => trivial)
    (fun c a _ _ => callCondition_true c a) acts c trivial (sys.alongActions_true acts c)

end Runs

/-! ## Properties of one program and its own calls -/

namespace Program

/-- Under every answer to its calls, each call satisfies `P` after the calls
made before it, and the outcome satisfies `Q` after all of them. -/
def Obeys {I : Interface} {α : Type} (P : List (Event I) → I.Command → Prop)
    (Q : List (Event I) → Except I.Error α → Prop) :
    List (Event I) → Program I α → Prop
  | h, .pure a => Q h (.ok a)
  | h, .throw e => Q h (.error e)
  | h, .call c k => P h c ∧ ∀ x, (k x).Obeys P Q (h ++ [⟨c, x⟩])

theorem Obeys.bind {I : Interface} {α β : Type}
    {P : List (Event I) → I.Command → Prop}
    {Q : List (Event I) → Except I.Error α → Prop}
    {Q' : List (Event I) → Except I.Error β → Prop} {p : Program I α}
    {f : α → Program I β} {h : List (Event I)} (hp : p.Obeys P Q h)
    (hok : ∀ h' a, Q h' (.ok a) → (f a).Obeys P Q' h')
    (herr : ∀ h' e, Q h' (.error e) → Q' h' (.error e)) :
    (p >>= f).Obeys P Q' h := by
  induction p generalizing h with
  | pure a => exact hok h a hp
  | throw e => exact herr h e hp
  | call c k ih => exact ⟨hp.1, fun x => ih x (hp.2 x)⟩

theorem Obeys.map {I : Interface} {α β : Type}
    {P : List (Event I) → I.Command → Prop}
    {Q : List (Event I) → Except I.Error α → Prop}
    {Q' : List (Event I) → Except I.Error β → Prop} {p : Program I α}
    {f : α → β} {h : List (Event I)} (hp : p.Obeys P Q h)
    (hok : ∀ h' a, Q h' (.ok a) → Q' h' (.ok (f a)))
    (herr : ∀ h' e, Q h' (.error e) → Q' h' (.error e)) :
    (f <$> p).Obeys P Q' h := by
  rw [map_eq_pure_bind]
  exact hp.bind hok herr

theorem Obeys.perform_bind {I : Interface} {β : Type}
    {P : List (Event I) → I.Command → Prop}
    {Q : List (Event I) → Except I.Error β → Prop} {c : I.Command}
    {f : I.Result c → Program I β} {h : List (Event I)} (hcall : P h c)
    (hok : ∀ a, (f a).Obeys P Q (h ++ [⟨c, .ok a⟩]))
    (herr : ∀ e, Q (h ++ [⟨c, .error e⟩]) (.error e)) :
    (perform c >>= f).Obeys P Q h := by
  refine ⟨hcall, fun x => ?_⟩
  cases x with
  | ok a => exact hok a
  | error e => exact herr e

theorem Obeys.throwIf_bind {I : Interface} {β : Type}
    {P : List (Event I) → I.Command → Prop}
    {Q : List (Event I) → Except I.Error β → Prop} {p : Prop} [Decidable p]
    {e : I.Error} {f : Unit → Program I β} {h : List (Event I)}
    (hthrow : p → Q h (.error e)) (hcontinue : ¬p → (f ()).Obeys P Q h) :
    (throwIf p e >>= f).Obeys P Q h := by
  unfold throwIf
  by_cases hp : p
  · rw [if_pos hp]
    exact hthrow hp
  · rw [if_neg hp]
    exact hcontinue hp

theorem Obeys.ofExcept_bind {I : Interface} {α β : Type}
    {P : List (Event I) → I.Command → Prop}
    {Q : List (Event I) → Except I.Error β → Prop} {x : Except I.Error α}
    {f : α → Program I β} {h : List (Event I)} (hok : ∀ a, x = .ok a → (f a).Obeys P Q h)
    (herr : ∀ e, x = .error e → Q h (.error e)) : (ofExcept x >>= f).Obeys P Q h := by
  cases x with
  | ok a => exact hok a rfl
  | error e => exact herr e rfl

theorem Obeys.tryCatch {I : Interface} {α : Type}
    {P : List (Event I) → I.Command → Prop}
    {Q Q' : List (Event I) → Except I.Error α → Prop} {p : Program I α}
    {handler : I.Error → Program I α} {h : List (Event I)} (hp : p.Obeys P Q h)
    (hok : ∀ h' a, Q h' (.ok a) → Q' h' (.ok a))
    (herr : ∀ h' e, Q h' (.error e) → (handler e).Obeys P Q' h') :
    (p.tryCatch handler).Obeys P Q' h := by
  induction p generalizing h with
  | pure a => exact hok h a hp
  | throw e => exact herr h e hp
  | call c k ih => exact ⟨hp.1, fun x => ih x (hp.2 x)⟩

theorem Obeys.mono {I : Interface} {α : Type}
    {P P' : List (Event I) → I.Command → Prop}
    {Q Q' : List (Event I) → Except I.Error α → Prop} {p : Program I α}
    {h : List (Event I)} (hp : p.Obeys P Q h) (hP : ∀ h c, P h c → P' h c)
    (hQ : ∀ h x, Q h x → Q' h x) : p.Obeys P' Q' h := by
  induction p generalizing h with
  | pure a => exact hQ _ _ hp
  | throw e => exact hQ _ _ hp
  | call c k ih => exact ⟨hP _ _ hp.1, fun x => ih x (hp.2 x)⟩

theorem Issues.obeys_growing {I : Interface} {α : Type} {C : I.Command → Prop}
    {P : List (Event I) → I.Command → Prop} {J : List (Event I) → Prop} {p : Program I α}
    (hp : p.Issues C) (hC : ∀ c, C c → ∀ h, J h → P h c)
    (hgrow : ∀ h e, C e.1 → J h → J (h ++ [e])) {h : List (Event I)} (hJ : J h) :
    p.Obeys P (fun h' _ => J h') h := by
  induction p generalizing h with
  | pure a => exact hJ
  | throw e => exact hJ
  | call c k ih => exact ⟨hC c hp.1 h hJ, fun x => ih x (hp.2 x) (hgrow h _ hp.1 hJ)⟩

/-- What holds of the history and is kept as it grows is obeyed. -/
theorem Issues.obeys {I : Interface} {α : Type} {C : I.Command → Prop}
    {P : List (Event I) → I.Command → Prop} {J : List (Event I) → Prop} {p : Program I α}
    (hp : p.Issues C) (hC : ∀ c, C c → ∀ h, J h → P h c)
    (hgrow : ∀ h e, J h → J (h ++ [e])) {h : List (Event I)} (hJ : J h) :
    p.Obeys P (fun h' _ => J h') h :=
  hp.obeys_growing hC (fun h e _ => hgrow h e) hJ

theorem Issues.obeys_each {I : Interface} {α : Type} {C : I.Command → Prop}
    {P : List (Event I) → I.Command → Prop} {p : Program I α} (hp : p.Issues C)
    (hC : ∀ c, C c → ∀ h, P h c) (h : List (Event I)) : p.Obeys P (fun _ _ => True) h :=
  hp.obeys (J := fun _ => True) (fun c hc h _ => hC c hc h) (fun _ _ _ => trivial) trivial

theorem Obeys.issues {I : Interface} {α : Type} {C : I.Command → Prop}
    {Q : List (Event I) → Except I.Error α → Prop} {p : Program I α} {h : List (Event I)}
    (hp : p.Obeys (fun _ c => C c) Q h) : p.Issues C := by
  induction p generalizing h with
  | pure a => trivial
  | throw e => trivial
  | call c k ih => exact ⟨hp.1, fun x => ih x (hp.2 x)⟩

theorem Obeys.and {I : Interface} {α : Type}
    {P P' : List (Event I) → I.Command → Prop}
    {Q Q' : List (Event I) → Except I.Error α → Prop} {p : Program I α}
    {h : List (Event I)} (hp : p.Obeys P Q h) (hp' : p.Obeys P' Q' h) :
    p.Obeys (fun h c => P h c ∧ P' h c) (fun h x => Q h x ∧ Q' h x) h := by
  induction p generalizing h with
  | pure a => exact ⟨hp, hp'⟩
  | throw e => exact ⟨hp, hp'⟩
  | call c k ih => exact ⟨⟨hp.1, hp'.1⟩, fun x => ih x (hp.2 x) (hp'.2 x)⟩

/-- A program taken to a larger interface obeys there what it obeys here. -/
theorem Obeys.lift {I : Interface} {C : Type} {Result : C → Type} {α : Type}
    {P : List (Event (I.extend C Result)) → (I.extend C Result).Command → Prop}
    {Q : List (Event (I.extend C Result)) → Except I.Error α → Prop} {p : Program I α}
    {h : List (Event I)}
    (hp : p.Obeys (fun h c => P (h.map extendEvent) (.inl c)) (fun h x => Q (h.map extendEvent) x)
      h) :
    (p.lift : Program (I.extend C Result) α).Obeys P Q (h.map extendEvent) := by
  induction p generalizing h with
  | pure a => exact hp
  | throw e => exact hp
  | call c k ih =>
      refine ⟨hp.1, fun x => ?_⟩
      have hrest := ih x (hp.2 x)
      rw [List.map_append] at hrest
      exact hrest

def CallsAtMost {I : Interface} {α : Type} (E : I.Command → Bool) : ℕ → Program I α → Prop
  | _, .pure _ => True
  | _, .throw _ => True
  | n, .call c k => (E c = true → 0 < n) ∧ ∀ x, (k x).CallsAtMost E (if E c then n - 1 else n)

theorem Issues.callsAtMost {I : Interface} {α : Type} {E : I.Command → Bool}
    {p : Program I α} (hp : p.Issues fun c => E c = false) (n : ℕ) : p.CallsAtMost E n := by
  induction p generalizing n with
  | pure a => trivial
  | throw e => trivial
  | call c k ih =>
      refine ⟨fun hE => ?_, fun x => ih x (hp.2 x) _⟩
      rw [hp.1] at hE
      cases hE

theorem Issues.callsAtMost_bind {I : Interface} {α β : Type} {E : I.Command → Bool}
    {p : Program I α} {f : α → Program I β} {n : ℕ} (hp : p.Issues fun c => E c = false)
    (hf : ∀ a, (f a).CallsAtMost E n) : (p >>= f).CallsAtMost E n := by
  induction p with
  | pure a => exact hf a
  | throw e => trivial
  | call c k ih =>
      refine ⟨fun hE => ?_, fun x => ?_⟩
      · rw [hp.1] at hE
        cases hE
      · rw [hp.1]
        exact ih x (hp.2 x)

theorem CallsAtMost.bind_issues {I : Interface} {α β : Type} {E : I.Command → Bool}
    {p : Program I α} {f : α → Program I β} {n : ℕ} (hp : p.CallsAtMost E n)
    (hf : ∀ a, (f a).Issues fun c => E c = false) : (p >>= f).CallsAtMost E n := by
  induction p generalizing n with
  | pure a => exact (hf a).callsAtMost n
  | throw e => trivial
  | call c k ih => exact ⟨hp.1, fun x => ih x (hp.2 x)⟩

theorem CallsAtMost.obeys {I : Interface} {α : Type} {E : I.Command → Bool} {n m : ℕ}
    {p : Program I α} {h : List (Event I)} (hp : p.CallsAtMost E m)
    (hcount : h.countP (fun e => E e.1) + m ≤ n) :
    p.Obeys (fun h c => E c = true → h.countP (fun e => E e.1) < n) (fun _ _ => True) h := by
  induction p generalizing h m with
  | pure a => trivial
  | throw e => trivial
  | call c k ih =>
      refine ⟨fun hE => ?_, fun x => ih x (hp.2 x) ?_⟩
      · have hpos := hp.1 hE
        omega
      · rw [List.countP_append, List.countP_singleton]
        by_cases hE : E c = true
        · have hpos := hp.1 hE
          simp only [hE, if_true]
          omega
        · simp only [hE, Bool.false_eq_true, if_false]
          omega

end Program

section Threads

variable {I : Interface} {R α Input S : Type} {sys : System I R α Input S}

/-- Every thread obeys what the program of its request was shown to obey. -/
def Config.Obeying (P : R → List (Event I) → I.Command → Prop)
    (Q : R → List (Event I) → Except I.Error α → Prop)
    (c : Config I R α S) : Prop :=
  ∀ t ∈ c.threads, t.program.Obeys (P t.request) (Q t.request) t.history

theorem Config.obeying_initial (P : R → List (Event I) → I.Command → Prop)
    (Q : R → List (Event I) → Except I.Error α → Prop) (s : S) :
    (Config.initial s : Config I R α S).Obeying P Q := by
  simp [Config.Obeying, Config.initial]

theorem System.obeying_next {P : R → List (Event I) → I.Command → Prop}
    {Q : R → List (Event I) → Except I.Error α → Prop}
    (hhandle : ∀ r, (sys.handle r).Obeys (P r) (Q r) [])
    (c : Config I R α S) (a : Action R Input) (hc : c.Obeying P Q) :
    (sys.next c a).Obeying P Q := by
  intro t ht
  obtain ⟨r, rfl, hn⟩ | ⟨i, input, r, h, cmd, k, rfl, hi, -, hn⟩ | ⟨hn, -⟩ :=
    sys.next_cases c a
  · rw [hn] at ht
    rcases List.mem_append.mp ht with ht | ht
    · exact hc t ht
    · obtain rfl := List.mem_singleton.mp ht
      exact hhandle r
  · rw [hn] at ht
    rcases List.mem_or_eq_of_mem_set ht with ht | rfl
    · exact hc t ht
    · exact (hc _ (List.mem_of_getElem? hi)).2 _
  · exact hc t (hn ▸ ht)

theorem System.obeying_run {P : R → List (Event I) → I.Command → Prop}
    {Q : R → List (Event I) → Except I.Error α → Prop}
    (hhandle : ∀ r, (sys.handle r).Obeys (P r) (Q r) [])
    (acts : List (Action R Input)) (c : Config I R α S) (hc : c.Obeying P Q) :
    (sys.runActions c acts).Obeying P Q :=
  sys.run_invariant (fun c a h _ => sys.obeying_next hhandle c a h) acts c hc
    (sys.alongActions_true acts c)

theorem Config.obeying_call {P : R → List (Event I) → I.Command → Prop}
    {Q : R → List (Event I) → Except I.Error α → Prop} {c : Config I R α S}
    (hc : c.Obeying P Q) {i : ℕ} {r : R} {h : List (Event I)} {cmd : I.Command}
    {k : Response I cmd → Program I α}
    (hi : c.threads[i]? = some ⟨r, h, .call cmd k⟩) : P r h cmd :=
  (hc _ (List.mem_of_getElem? hi)).1

/-- Every answered call, after the calls of its thread before it, satisfies `T`. -/
def Config.Recounts (T : R → List (Event I) → Event I → Prop) (c : Config I R α S) : Prop :=
  ∀ t ∈ c.threads, ∀ before e after, t.history = before ++ e :: after → T t.request before e

theorem Config.recounts_initial (T : R → List (Event I) → Event I → Prop) (s : S) :
    (Config.initial s : Config I R α S).Recounts T := by
  simp [Config.initial, Config.Recounts]

theorem System.recounts_next {T : R → List (Event I) → Event I → Prop} (c : Config I R α S)
    (a : Action R Input) (hc : c.Recounts T)
    (hanswer : ∀ i input r h cmd k, a = .step i input →
      c.threads[i]? = some ⟨r, h, .call cmd k⟩ → T r h ⟨cmd, (sys.backend cmd input c.store).1⟩) :
    (sys.next c a).Recounts T := by
  intro t ht before e after hhistory
  obtain ⟨r, rfl, hn⟩ | ⟨i, input, r, h, cmd, k, rfl, hi, -, hn⟩ | ⟨hn, -⟩ :=
    sys.next_cases c a
  · rw [hn] at ht
    rcases List.mem_append.mp ht with ht | ht
    · exact hc t ht before e after hhistory
    · obtain rfl := List.mem_singleton.mp ht
      simp at hhistory
  · rw [hn] at ht
    rcases List.mem_or_eq_of_mem_set ht with ht | rfl
    · exact hc t ht before e after hhistory
    · -- the last event is the call just answered, the others were there
      rcases List.eq_nil_or_concat after with rfl | ⟨after, last, rfl⟩
      · obtain ⟨rfl, hlast⟩ := List.append_inj' hhistory rfl
        obtain rfl := (List.singleton_inj.mp hlast).symm
        exact hanswer i input r _ cmd k rfl hi
      · rw [List.concat_eq_append, ← List.cons_append, ← List.append_assoc] at hhistory
        obtain ⟨rfl, -⟩ := List.append_inj' hhistory rfl
        exact hc _ (List.mem_of_getElem? hi) before e after rfl
  · exact hc t (hn ▸ ht) before e after hhistory

/-- Every answered call satisfied `P` after the calls of its thread before it. -/
def Config.ObeyedBefore (P : R → List (Event I) → I.Command → Prop) (c : Config I R α S) : Prop :=
  ∀ t ∈ c.threads, ∀ before e after, t.history = before ++ e :: after → P t.request before e.1

theorem System.obeyedBefore_next {P : R → List (Event I) → I.Command → Prop}
    {Q : R → List (Event I) → Except I.Error α → Prop} (c : Config I R α S) (a : Action R Input)
    (hobeys : c.Obeying P Q) (hbefore : c.ObeyedBefore P) : (sys.next c a).ObeyedBefore P :=
  sys.recounts_next (T := fun r h e => P r h e.1) c a hbefore
    fun _ _ _ _ _ _ _ hi => Config.obeying_call hobeys hi

theorem Config.obeyedBefore_initial (P : R → List (Event I) → I.Command → Prop) (s : S) :
    (Config.initial s : Config I R α S).ObeyedBefore P := by
  simp [Config.initial, Config.ObeyedBefore]

theorem System.obeyedBefore_run {P : R → List (Event I) → I.Command → Prop}
    {Q : R → List (Event I) → Except I.Error α → Prop}
    (hhandle : ∀ r, (sys.handle r).Obeys (P r) (Q r) []) (acts : List (Action R Input)) (s : S) :
    (sys.runActions (Config.initial s) acts).ObeyedBefore P :=
  (sys.run_invariant (J := fun c => c.Obeying P Q ∧ c.ObeyedBefore P) (P := fun _ _ => True)
    (fun c a h _ => ⟨sys.obeying_next hhandle c a h.1, sys.obeyedBefore_next c a h.1 h.2⟩) acts _
    ⟨Config.obeying_initial P Q s, Config.obeyedBefore_initial P s⟩
    (sys.alongActions_true acts _)).2

/-- The same at a place of the history. -/
theorem Config.ObeyedBefore.take {P : R → List (Event I) → I.Command → Prop} {c : Config I R α S}
    (hc : c.ObeyedBefore P) {t : Thread I R α} (ht : t ∈ c.threads) {n : ℕ} {e : Event I}
    (he : t.history[n]? = some e) : P t.request (t.history.take n) e.1 := by
  obtain ⟨hn, hget⟩ := List.getElem?_eq_some_iff.mp he
  have hsplit := List.take_append_drop n t.history
  rw [List.drop_eq_getElem_cons hn, hget] at hsplit
  exact hc t ht _ e _ hsplit.symm

/-- Every answer a thread has received still says `K` about the store. -/
def Config.Knowing (K : S → Event I → Prop) (c : Config I R α S) : Prop :=
  ∀ t ∈ c.threads, ∀ e ∈ t.history, K c.store e

theorem Config.knowing_initial (K : S → Event I → Prop) (s : S) :
    (Config.initial s : Config I R α S).Knowing K := by
  simp [Config.Knowing, Config.initial]

/-- What an answer says when it is given, by a call meeting the condition, and
no such call takes back, is known. -/
theorem System.knowing_next {K : S → Event I → Prop} {P : S → I.Command → Input → Prop}
    (hgive : ∀ cmd i s, P s cmd i →
      K (sys.backend cmd i s).2 ⟨cmd, (sys.backend cmd i s).1⟩)
    (hkeep : ∀ cmd i s e, P s cmd i → K s e → K (sys.backend cmd i s).2 e)
    (c : Config I R α S) (a : Action R Input) (hc : c.Knowing K)
    (hP : CallCondition P c a) : (sys.next c a).Knowing K := by
  intro t ht e he
  obtain ⟨r, rfl, hn⟩ | ⟨i, input, r, h, cmd, k, rfl, hi, hcall, hn⟩ | ⟨hn, -⟩ :=
    sys.next_cases c a
  · rw [hn] at ht ⊢
    rcases List.mem_append.mp ht with ht | ht
    · exact hc t ht e he
    · obtain rfl := List.mem_singleton.mp ht
      cases he
  · rw [CallCondition, hcall] at hP
    rw [hn] at ht ⊢
    rcases List.mem_or_eq_of_mem_set ht with ht | rfl
    · exact hkeep _ _ _ _ hP (hc t ht e he)
    · rcases List.mem_append.mp he with he | he
      · exact hkeep _ _ _ _ hP (hc _ (List.mem_of_getElem? hi) e he)
      · obtain rfl := List.mem_singleton.mp he
        exact hgive _ _ _ hP
  · rw [hn] at ht ⊢
    exact hc t ht e he

theorem System.knowing_run {K : S → Event I → Prop} {P : S → I.Command → Input → Prop}
    (hgive : ∀ cmd i s, P s cmd i →
      K (sys.backend cmd i s).2 ⟨cmd, (sys.backend cmd i s).1⟩)
    (hkeep : ∀ cmd i s e, P s cmd i → K s e → K (sys.backend cmd i s).2 e)
    (acts : List (Action R Input)) (c : Config I R α S) (hc : c.Knowing K)
    (hP : sys.AlongActions (CallCondition P) c acts) : (sys.runActions c acts).Knowing K :=
  sys.run_invariant (fun c a h hP => sys.knowing_next hgive hkeep c a h hP) acts c hc hP

/-- The store has a property, the requests are of a kind and go on as they obey, and
what they were answered is known. -/
structure Config.Lawful (J : S → Prop) (K : S → Event I → Prop) (D : R → Prop)
    (P : R → List (Event I) → I.Command → Prop)
    (Q : R → List (Event I) → Except I.Error α → Prop) (c : Config I R α S) : Prop where
  store : J c.store
  requests : ∀ t ∈ c.threads, D t.request
  obeying : c.Obeying P Q
  knowing : c.Knowing K

section Lawful

variable {J : S → Prop} {K : S → Event I → Prop} {D : R → Prop}
  {P : R → List (Event I) → I.Command → Prop}
  {Q : R → List (Event I) → Except I.Error α → Prop}

theorem System.lawful_next (hhandle : ∀ r, (sys.handle r).Obeys (P r) (Q r) [])
    (hanswer : ∀ r h cmd input s, D r → J s → (∀ e ∈ h, K s e) → P r h cmd →
      J (sys.backend cmd input s).2 ∧ K (sys.backend cmd input s).2
        ⟨cmd, (sys.backend cmd input s).1⟩)
    (hkeep : ∀ r h cmd input s e, D r → J s → (∀ e ∈ h, K s e) → P r h cmd → K s e →
      K (sys.backend cmd input s).2 e)
    (c : Config I R α S) (a : Action R Input) (hstart : ∀ r, a = .start r → D r)
    (hc : c.Lawful J K D P Q) : (sys.next c a).Lawful J K D P Q := by
  have hobeying := sys.obeying_next hhandle c a hc.obeying
  obtain ⟨r, rfl, hn⟩ | ⟨i, input, r, h, cmd, k, rfl, hi, -, hn⟩ | ⟨hn, -⟩ :=
    sys.next_cases c a
  · rw [hn] at hobeying ⊢
    refine ⟨hc.store, fun t ht => ?_, hobeying, fun t ht e he => ?_⟩
    · rcases List.mem_append.mp ht with ht | ht
      · exact hc.requests t ht
      · rw [List.mem_singleton.mp ht]
        exact hstart r rfl
    · rcases List.mem_append.mp ht with ht | ht
      · exact hc.knowing t ht e he
      · obtain rfl := List.mem_singleton.mp ht
        cases he
  · have hthread := List.mem_of_getElem? hi
    have hr := hc.requests _ hthread
    have hcall := Config.obeying_call hc.obeying hi
    have hknown := hc.knowing _ hthread
    obtain ⟨hstore, hanswered⟩ := hanswer r h cmd input c.store hr hc.store hknown hcall
    have hkeeps : ∀ e, K c.store e → K (sys.backend cmd input c.store).2 e :=
      fun e => hkeep r h cmd input c.store e hr hc.store hknown hcall
    rw [hn] at hobeying ⊢
    refine ⟨hstore, fun t ht => ?_, hobeying, fun t ht e he => ?_⟩
    · rcases List.mem_or_eq_of_mem_set ht with ht | rfl
      · exact hc.requests t ht
      · exact hr
    · rcases List.mem_or_eq_of_mem_set ht with ht | rfl
      · exact hkeeps e (hc.knowing t ht e he)
      · rcases List.mem_append.mp he with he | he
        · exact hkeeps e (hknown e he)
        · obtain rfl := List.mem_singleton.mp he
          exact hanswered
  · rw [hn]
    exact hc

/-- What every call keeps that is made as its request obeys and knows holds in every
run of such requests. -/
theorem System.lawful_run (hhandle : ∀ r, (sys.handle r).Obeys (P r) (Q r) [])
    (hanswer : ∀ r h cmd input s, D r → J s → (∀ e ∈ h, K s e) → P r h cmd →
      J (sys.backend cmd input s).2 ∧ K (sys.backend cmd input s).2
        ⟨cmd, (sys.backend cmd input s).1⟩)
    (hkeep : ∀ r h cmd input s e, D r → J s → (∀ e ∈ h, K s e) → P r h cmd → K s e →
      K (sys.backend cmd input s).2 e)
    (acts : List (Action R Input)) (s : S) (hs : J s) (hacts : ∀ r, .start r ∈ acts → D r) :
    (sys.runActions (Config.initial s) acts).Lawful J K D P Q := by
  refine sys.run_invariant (J := fun c => c.Lawful J K D P Q)
    (P := fun _ a => ∀ r, a = .start r → D r)
    (fun c a hc hstart => sys.lawful_next hhandle hanswer hkeep c a hstart hc) acts _ ?_
    (sys.alongActions_of_mem acts _ fun a ha r hr => hacts r (hr ▸ ha))
  exact ⟨hs, fun t ht => (nomatch ht), Config.obeying_initial P Q s, Config.knowing_initial K s⟩

end Lawful

/-- The threads issue only calls of a kind. -/
def Config.Issuing (C : I.Command → Prop) (c : Config I R α S) : Prop :=
  ∀ t ∈ c.threads, t.program.Issues C

theorem System.issuing_next {C : I.Command → Prop} (c : Config I R α S) (a : Action R Input)
    (hstart : ∀ r, a = .start r → (sys.handle r).Issues C) (hc : c.Issuing C) :
    (sys.next c a).Issuing C := by
  intro t ht
  obtain ⟨r, rfl, hn⟩ | ⟨i, input, r, h, cmd, k, rfl, hi, -, hn⟩ | ⟨hn, -⟩ :=
    sys.next_cases c a
  · rw [hn] at ht
    rcases List.mem_append.mp ht with ht | ht
    · exact hc t ht
    · obtain rfl := List.mem_singleton.mp ht
      exact hstart r rfl
  · rw [hn] at ht
    rcases List.mem_or_eq_of_mem_set ht with ht | rfl
    · exact hc t ht
    · exact (hc _ (List.mem_of_getElem? hi)).2 _
  · exact hc t (hn ▸ ht)

theorem System.issuing_call (sys : System I R α Input S) {C : I.Command → Prop}
    (c : Config I R α S) (a : Action R Input) (hc : c.Issuing C) :
    CallCondition (fun _ cmd _ => C cmd) c a := by
  obtain ⟨r, rfl, -⟩ | ⟨i, input, r, h, cmd, k, rfl, hi, hcall, -⟩ | ⟨-, hcall⟩ :=
    sys.next_cases c a
  · trivial
  · rw [CallCondition, hcall]
    exact (hc _ (List.mem_of_getElem? hi)).1
  · rw [CallCondition, hcall]
    trivial

/-- When every request of the run issues only calls of a kind, so does the run. -/
theorem System.along_issuing {C : I.Command → Prop} (acts : List (Action R Input))
    (s : S) (hacts : ∀ r, .start r ∈ acts → (sys.handle r).Issues C) :
    sys.AlongActions (CallCondition fun _ cmd _ => C cmd) (Config.initial s) acts :=
  sys.along_of_invariant (J := fun c => c.Issuing C)
    (P := fun _ a => ∀ r, a = .start r → (sys.handle r).Issues C)
    (fun c a hc hstart => sys.issuing_next c a hstart hc) (fun c a hc _ => sys.issuing_call c a hc)
    acts _ (by simp [Config.initial, Config.Issuing])
    (sys.alongActions_of_mem acts _ fun a ha r hr => hacts r (hr ▸ ha))

end Threads

/-! ## What a program leads to -/

namespace Program

/-- At every call the program may come to, `L` holds of the call and of what
follows it. -/
def Throughout {I : Interface} {α : Type}
    (L : (c : I.Command) → (Response I c → Program I α) → Prop) : Program I α → Prop
  | .pure _ => True
  | .throw _ => True
  | .call c k => L c k ∧ ∀ x, (k x).Throughout L

theorem Throughout.bind {I : Interface} {α β : Type}
    {L : (c : I.Command) → (Response I c → Program I α) → Prop}
    {L' : (c : I.Command) → (Response I c → Program I β) → Prop} {p : Program I α}
    {f : α → Program I β} (hp : p.Throughout L)
    (hL : ∀ c k, L c k → L' c fun x => k x >>= f) (hf : ∀ a, (f a).Throughout L') :
    (p >>= f).Throughout L' := by
  induction p with
  | pure a => exact hf a
  | throw e => trivial
  | call c k ih => exact ⟨hL c k hp.1, fun x => ih x (hp.2 x)⟩

theorem Throughout.map {I : Interface} {α β : Type}
    {L : (c : I.Command) → (Response I c → Program I α) → Prop}
    {L' : (c : I.Command) → (Response I c → Program I β) → Prop} {p : Program I α}
    {f : α → β} (hp : p.Throughout L) (hL : ∀ c k, L c k → L' c fun x => f <$> k x) :
    (f <$> p).Throughout L' := by
  simp only [map_eq_pure_bind] at hL ⊢
  exact hp.bind hL fun _ => trivial

theorem Issues.throughout {I : Interface} {α : Type} {C : I.Command → Prop}
    {L : (c : I.Command) → (Response I c → Program I α) → Prop} {p : Program I α}
    (hp : p.Issues C) (hL : ∀ c k, C c → L c k) : p.Throughout L := by
  induction p with
  | pure a => trivial
  | throw e => trivial
  | call c k ih => exact ⟨hL c k hp.1, fun x => ih x (hp.2 x)⟩

theorem Issues.throughout_bind {I : Interface} {α β : Type} {C : I.Command → Prop}
    {L : (c : I.Command) → (Response I c → Program I β) → Prop} {p : Program I α}
    {f : α → Program I β} (hp : p.Issues C) (hL : ∀ c k, C c → L c k)
    (hf : ∀ a, (f a).Throughout L) : (p >>= f).Throughout L :=
  (hp.throughout (L := fun c _ => C c) fun _ _ hc => hc).bind (fun c _ hc => hL c _ hc) hf

theorem Throughout.tryCatch {I : Interface} {α : Type}
    {L L' : (c : I.Command) → (Response I c → Program I α) → Prop} {p : Program I α}
    {handler : I.Error → Program I α} (hp : p.Throughout L)
    (hL : ∀ c k, L c k → L' c fun x => (k x).tryCatch handler)
    (hhandler : ∀ e, (handler e).Throughout L') : (p.tryCatch handler).Throughout L' := by
  induction p with
  | pure a => trivial
  | throw e => exact hhandler e
  | call c k ih => exact ⟨hL c k hp.1, fun x => ih x (hp.2 x)⟩

theorem Throughout.lift {I : Interface} {C : Type} {Result : C → Type} {α : Type}
    {L : (c : I.Command) → (Response I c → Program I α) → Prop}
    {L' : (c : (I.extend C Result).Command) →
      (Response (I.extend C Result) c → Program (I.extend C Result) α) → Prop}
    {p : Program I α} (hp : p.Throughout L)
    (hL : ∀ c k, L c k → L' (.inl c) fun x => (k x).lift) :
    (p.lift : Program (I.extend C Result) α).Throughout L' := by
  induction p with
  | pure a => trivial
  | throw e => trivial
  | call c k ih => exact ⟨hL c k hp.1, fun x => ih x (hp.2 x)⟩

theorem Throughout.perform_bind {I : Interface} {β : Type}
    {L : (c : I.Command) → (Response I c → Program I β) → Prop} {c : I.Command}
    {f : I.Result c → Program I β}
    (hcall : L c fun x => match x with
      | .ok a => f a
      | .error e => .throw e)
    (hok : ∀ a, (f a).Throughout L) : (perform c >>= f).Throughout L := by
  have hcont : (perform c >>= f) = .call c fun x => match x with
      | .ok a => f a
      | .error e => .throw e := by
    rw [perform_eq, call_bind]
    congr 1
    funext x
    cases x <;> rfl
  rw [hcont]
  refine ⟨hcall, fun x => ?_⟩
  cases x with
  | ok a => exact hok a
  | error e => trivial

end Program

section Leading

variable {I : Interface} {R α Input S : Type} {sys : System I R α Input S}

theorem eq_or_mem_set {threads : List (Thread I R α)} {i : ℕ} {t u : Thread I R α}
    (hi : threads[i]? = some t) (hu : u ∈ threads) (v : Thread I R α) :
    u = t ∨ u ∈ threads.set i v := by
  obtain ⟨j, hj⟩ := List.mem_iff_getElem?.mp hu
  by_cases hij : i = j
  · subst hij
    rw [hi] at hj
    exact .inl (Option.some.inj hj).symm
  · refine .inr (List.mem_of_getElem? (i := j) ?_)
    rw [List.getElem?_set_ne hij, hj]

theorem getElem?_set_cases {threads : List (Thread I R α)} {i j : ℕ} {t u v : Thread I R α}
    (hi : threads[i]? = some t) (hj : (threads.set i v)[j]? = some u) :
    i = j ∧ u = v ∨ i ≠ j ∧ threads[j]? = some u := by
  by_cases hij : i = j
  · subst hij
    obtain ⟨hlt, -⟩ := List.getElem?_eq_some_iff.mp hi
    rw [List.getElem?_set_self hlt] at hj
    exact .inl ⟨rfl, (Option.some.inj hj).symm⟩
  · rw [List.getElem?_set_ne hij] at hj
    exact .inr ⟨hij, hj⟩

theorem System.throughout_next {L : (c : I.Command) → (Response I c → Program I α) → Prop}
    (hhandle : ∀ r, (sys.handle r).Throughout L) (c : Config I R α S) (a : Action R Input)
    (hc : ∀ t ∈ c.threads, t.program.Throughout L) :
    ∀ t ∈ (sys.next c a).threads, t.program.Throughout L := by
  intro t ht
  obtain ⟨r, rfl, hn⟩ | ⟨i, input, r, h, cmd, k, rfl, hi, -, hn⟩ | ⟨hn, -⟩ :=
    sys.next_cases c a
  · rw [hn] at ht
    rcases List.mem_append.mp ht with ht | ht
    · exact hc t ht
    · obtain rfl := List.mem_singleton.mp ht
      exact hhandle r
  · rw [hn] at ht
    rcases List.mem_or_eq_of_mem_set ht with ht | rfl
    · exact hc t ht
    · exact (hc _ (List.mem_of_getElem? hi)).2 _
  · exact hc t (hn ▸ ht)

theorem System.throughout_run {L : (c : I.Command) → (Response I c → Program I α) → Prop}
    (hhandle : ∀ r, (sys.handle r).Throughout L) (acts : List (Action R Input))
    (c : Config I R α S) (hc : ∀ t ∈ c.threads, t.program.Throughout L) :
    ∀ t ∈ (sys.runActions c acts).threads, t.program.Throughout L :=
  sys.run_invariant (J := fun c => ∀ t ∈ c.threads, t.program.Throughout L)
    (fun c a hc _ => sys.throughout_next hhandle c a hc) acts c hc (sys.alongActions_true acts c)

end Leading

/-! ## Events that happen at most once -/

section Once

variable {I : Interface} {R α Input S : Type} {sys : System I R α Input S}

/-- How many of the answered calls satisfy `E`. -/
def Config.eventCount (E : Event I → Bool) (c : Config I R α S) : ℕ :=
  (c.threads.map fun t => t.history.countP E).sum

theorem Config.eventCount_initial (E : Event I → Bool) (s : S) :
    (Config.initial s : Config I R α S).eventCount E = 0 := rfl

theorem System.eventCount_next (E : Event I → Bool) (c : Config I R α S) (a : Action R Input) :
    (sys.next c a).eventCount E = c.eventCount E +
      match c.nextCall a with
      | some (cmd, i) => if E ⟨cmd, (sys.backend cmd i c.store).1⟩ then 1 else 0
      | none => 0 := by
  obtain ⟨r, rfl, hn⟩ | ⟨j, i, r, h, cmd, k, rfl, hj, hcall, hn⟩ | ⟨hn, hcall⟩ :=
    sys.next_cases c a
  · simp [hn, Config.eventCount, Config.nextCall]
  · obtain ⟨hlt, hget⟩ := List.getElem?_eq_some_iff.mp hj
    -- only the history of this thread grows, by one event
    have hsplit := List.take_append_drop j c.threads
    rw [List.drop_eq_getElem_cons hlt, hget] at hsplit
    rw [hn, hcall]
    unfold Config.eventCount
    rw [List.set_eq_take_append_cons_drop, if_pos hlt]
    conv_rhs => rw [← hsplit]
    simp only [List.map_append, List.map_cons, List.sum_append, List.sum_cons, Thread.resume,
      List.countP_append, List.countP_singleton]
    omega
  · simp [hn, hcall]

theorem Config.eventCount_eq_zero_iff {E : Event I → Bool} {c : Config I R α S} :
    c.eventCount E = 0 ↔ ∀ t ∈ c.threads, ∀ e ∈ t.history, E e = false := by
  simp [Config.eventCount, List.sum_eq_zero_iff_forall_eq_nat]

/-- What happens once happens in one thread. -/
theorem Config.eq_of_eventCount_le_one {E : Event I → Bool} {c : Config I R α S}
    (hcount : c.eventCount E ≤ 1) {i j : ℕ} {t u : Thread I R α}
    (ht : c.threads[i]? = some t) (hu : c.threads[j]? = some u)
    (het : ∃ e ∈ t.history, E e = true) (heu : ∃ e ∈ u.history, E e = true) : i = j := by
  by_contra hne
  wlog hlt : i < j generalizing i j t u
  · exact this hu ht heu het (fun h => hne h.symm) (by omega)
  obtain ⟨hj, hget⟩ := List.getElem?_eq_some_iff.mp hu
  have hbefore : t ∈ c.threads.take j := by
    obtain ⟨hi, hget⟩ := List.getElem?_eq_some_iff.mp ht
    exact List.mem_take_iff_getElem.mpr ⟨i, by omega, hget⟩
  have hpt : 0 < ((c.threads.take j).map fun t => t.history.countP E).sum :=
    List.sum_pos_iff_exists_pos_nat.mpr
      ⟨_, List.mem_map_of_mem hbefore, List.countP_pos_iff.mpr het⟩
  have hpu : 0 < u.history.countP E := List.countP_pos_iff.mpr heu
  have hsplit := List.take_append_drop j c.threads
  rw [List.drop_eq_getElem_cons hj, hget] at hsplit
  unfold Config.eventCount at hcount
  rw [← hsplit] at hcount
  simp only [List.map_append, List.map_cons, List.sum_append, List.sum_cons] at hcount
  omega

/-- An event that leaves the store `Dead`, which nothing undoes and no such event
happens on, happens at most once. -/
theorem System.eventCount_run_le_one {E : Event I → Bool} (Dead : S → Prop)
    {P : Config I R α S → Action R Input → Prop}
    (hkeep : ∀ c a cmd i, P c a → c.nextCall a = some (cmd, i) →
      (∃ t ∈ c.threads, ∃ e ∈ t.history, E e = true) → Dead c.store →
      Dead (sys.backend cmd i c.store).2)
    (hgive : ∀ c a cmd i, P c a → c.nextCall a = some (cmd, i) →
      E ⟨cmd, (sys.backend cmd i c.store).1⟩ = true →
      ¬Dead c.store ∧ Dead (sys.backend cmd i c.store).2)
    (acts : List (Action R Input)) (s : S)
    (hP : sys.AlongActions P (Config.initial s) acts) :
    (sys.runActions (Config.initial s) acts).eventCount E ≤ 1 := by
  have hinv : ∀ c a, (c.eventCount E = 0 ∨ c.eventCount E = 1 ∧ Dead c.store) → P c a →
      ((sys.next c a).eventCount E = 0 ∨
        (sys.next c a).eventCount E = 1 ∧ Dead (sys.next c a).store) := by
    intro c a hc ha
    rw [sys.eventCount_next E c a]
    obtain ⟨r, rfl, hn⟩ | ⟨j, i, r, h, cmd, k, rfl, hj, hcall, hn⟩ | ⟨hn, hcall⟩ :=
      sys.next_cases c a
    · simpa [Config.nextCall, hn] using hc
    · rw [hcall]
      dsimp only
      by_cases hE : E ⟨cmd, (sys.backend cmd i c.store).1⟩ = true
      · obtain ⟨halive, hdead⟩ := hgive c _ cmd i ha hcall hE
        rcases hc with hc | ⟨-, hc⟩
        · rw [hc, if_pos hE, hn]
          exact .inr ⟨rfl, hdead⟩
        · exact absurd hc halive
      · rw [if_neg hE, Nat.add_zero]
        refine hc.imp_right fun ⟨hone, hdead⟩ => ⟨hone, ?_⟩
        rw [hn]
        refine hkeep c _ cmd i ha hcall ?_ hdead
        by_contra hnone
        have hzero := Config.eventCount_eq_zero_iff.mpr fun t ht e he =>
          Bool.eq_false_iff.mpr fun hEe => hnone ⟨t, ht, e, he, hEe⟩
        omega
    · simpa [hcall, hn] using hc
  rcases sys.run_invariant hinv acts _ (.inl (Config.eventCount_initial E s)) hP with h | ⟨h, -⟩
  · omega
  · omega

end Once

end Logistics.Library
