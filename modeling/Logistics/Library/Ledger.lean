import Mathlib.Data.List.Perm.Basic
import Logistics.Library.Interleaving

/-!
# Ledgers

A ledger is a part of the store that calls only ever add to. Whatever the interleaving,
it holds in the end what it held at the start and what the threads have entered, each
entry as often as it was made. A request that makes its entry with its last call has
made it exactly when it is answered (`System.entered_run`).
-/

namespace Logistics.Library

section Ledger

variable {I : Interface} {R α Input S A : Type} {sys : System I R α Input S}
  (entry : Event I → List A)

def Thread.entered (t : Thread I R α) : List A := t.history.flatMap entry

def Config.entered (c : Config I R α S) : List A := c.threads.flatMap (Thread.entered entry)

theorem flatMap_set_perm {β : Type} {f : β → List A} {xs : List β} {i : ℕ} {x y : β}
    {added : List A} (hi : xs[i]? = some x) (hy : f y = f x ++ added) :
    ((xs.set i y).flatMap f).Perm (xs.flatMap f ++ added) := by
  induction xs generalizing i with
  | nil => cases hi
  | cons first rest ih =>
      cases i with
      | zero =>
          obtain rfl := Option.some.inj hi
          rw [List.set_cons_zero, List.flatMap_cons, List.flatMap_cons, hy, List.append_assoc,
            List.append_assoc]
          exact (List.perm_append_comm).append_left (f first)
      | succ i =>
          rw [List.set_cons_succ, List.flatMap_cons, List.flatMap_cons, List.append_assoc]
          exact (ih hi).append_left (f first)

theorem System.ledger_next {log : S → List A}
    (hlog : ∀ cmd i s, log (sys.backend cmd i s).2 =
      log s ++ entry ⟨cmd, (sys.backend cmd i s).1⟩) {start : List A}
    (c : Config I R α S) (a : Action R Input) (hc : (log c.store).Perm (start ++ c.entered entry)) :
    (log (sys.next c a).store).Perm (start ++ (sys.next c a).entered entry) := by
  obtain ⟨r, rfl, hn⟩ | ⟨i, input, r, h, cmd, k, rfl, hi, -, hn⟩ | ⟨hn, -⟩ :=
    sys.next_cases c a
  · rw [hn, Config.entered, List.flatMap_append, List.flatMap_singleton]
    exact hc.trans (by rw [Thread.entered, List.flatMap_nil, List.append_nil, Config.entered])
  · rw [hn, Config.entered]
    dsimp only
    rw [hlog]
    have hthread : Thread.entered entry
        (Thread.resume r h cmd k (sys.backend cmd input c.store).1) =
        Thread.entered entry ⟨r, h, .call cmd k⟩ ++
          entry ⟨cmd, (sys.backend cmd input c.store).1⟩ := by
      rw [Thread.entered, Thread.resume, List.flatMap_append, List.flatMap_singleton,
        Thread.entered]
    refine (hc.append_right _).trans ?_
    rw [List.append_assoc]
    exact (flatMap_set_perm hi hthread).symm.append_left start
  · rw [hn]
    exact hc

/-- Every entry in a ledger was made, and every entry that was made is in it. -/
theorem System.ledger_run {log : S → List A}
    (hlog : ∀ cmd i s, log (sys.backend cmd i s).2 =
      log s ++ entry ⟨cmd, (sys.backend cmd i s).1⟩)
    (acts : List (Action R Input)) (s : S) :
    (log (sys.runActions (Config.initial s) acts).store).Perm
      (log s ++ (sys.runActions (Config.initial s) acts).entered entry) := by
  refine sys.run_invariant (J := fun c => (log c.store).Perm (log s ++ c.entered entry))
    (P := fun _ _ => True) (fun c a hc _ => sys.ledger_next entry hlog c a hc) acts _ ?_
    (sys.alongActions_true acts _)
  rw [Config.entered, Config.initial, List.flatMap_nil, List.append_nil]

/-! Entries that are made last. -/

def NothingYet (h : List (Event I)) (_ : I.Command) : Prop := h.flatMap entry = []

/-- An answered request has made the entries that belong to its reply, a failed one has
made none. -/
def EnteredLast (T : α → List A → Prop) (h : List (Event I)) : Except I.Error α → Prop
  | .ok reply => T reply (h.flatMap entry)
  | .error _ => h.flatMap entry = []

/-- The same of a thread, which has entered nothing as long as it runs. -/
def Thread.Accounted (T : α → List A → Prop) (t : Thread I R α) : Prop :=
  match t.program with
  | .pure reply => T reply (t.entered entry)
  | _ => t.entered entry = []

def Silent (c : I.Command) : Prop := ∀ x, entry ⟨c, x⟩ = []

variable {entry} {T : α → List A → Prop}

theorem entered_append {h : List (Event I)} {e : Event I} (hh : h.flatMap entry = [])
    (he : entry e = []) : (h ++ [e]).flatMap entry = [] := by
  rw [List.flatMap_append, hh, List.flatMap_singleton, he]
  rfl

theorem silent_obeys {p : Program I α} (hp : p.Issues (Silent entry)) {h : List (Event I)}
    (hh : h.flatMap entry = []) :
    p.Obeys (NothingYet entry) (fun h' _ => h'.flatMap entry = []) h :=
  hp.obeys_growing (J := fun h' => h'.flatMap entry = []) (fun _ _ _ hh' => hh')
    (fun _ e hc hh' => entered_append hh' (hc e.2)) hh

theorem quiet_obeys {p : Program I α} (hp : p.Issues (Silent entry)) (hquiet : ∀ x, T x [])
    {h : List (Event I)} (hh : h.flatMap entry = []) :
    p.Obeys (NothingYet entry) (EnteredLast entry T) h := by
  refine (silent_obeys hp hh).mono (fun _ _ h => h) fun h' x hh' => ?_
  cases x with
  | ok x =>
      rw [EnteredLast, hh']
      exact hquiet x
  | error e => exact hh'

theorem silent_bind_obeys {β : Type} {p : Program I β} {f : β → Program I α}
    (hp : p.Issues (Silent entry)) {h : List (Event I)} (hh : h.flatMap entry = [])
    (hf : ∀ x h', h'.flatMap entry = [] →
      (f x).Obeys (NothingYet entry) (EnteredLast entry T) h') :
    (p >>= f).Obeys (NothingYet entry) (EnteredLast entry T) h :=
  (silent_obeys hp hh).bind (fun h' x hh' => hf x h' hh') fun _ _ hh' => hh'

theorem entersLast_obeys {c : I.Command} {f : I.Result c → α}
    (hok : ∀ x, T (f x) (entry ⟨c, .ok x⟩)) (herror : ∀ e, entry ⟨c, .error e⟩ = [])
    {h : List (Event I)} (hh : h.flatMap entry = []) :
    (Program.perform c >>= fun x => (pure (f x) : Program I α)).Obeys (NothingYet entry)
      (EnteredLast entry T) h := by
  refine Program.Obeys.perform_bind hh (fun x => ?_) fun e => ?_
  · change T (f x) _
    rw [List.flatMap_append, hh, List.flatMap_singleton, List.nil_append]
    exact hok x
  · exact entered_append hh (herror e)

theorem enteredLast_map {β : Type} {p : Program I β} {f : β → α} {h : List (Event I)}
    (hp : p.Obeys (NothingYet entry) (EnteredLast entry fun x => T (f x)) h) :
    (f <$> p).Obeys (NothingYet entry) (EnteredLast entry T) h :=
  hp.map (fun _ _ hh => hh) fun _ _ hh => hh

/-- What the threads of a run have entered. -/
theorem System.entered_run {T : R → α → List A → Prop}
    (hhandle : ∀ r, (sys.handle r).Obeys (NothingYet entry) (EnteredLast entry (T r)) [])
    (acts : List (Action R Input)) (s : S) :
    ∀ t ∈ (sys.runActions (Config.initial s) acts).threads, t.Accounted entry (T t.request) := by
  intro t ht
  have hobeys := sys.obeying_run hhandle acts _ (Config.obeying_initial _ _ s) t ht
  obtain ⟨r, h, p⟩ := t
  cases p with
  | pure reply => exact hobeys
  | throw e => exact hobeys
  | call c k => exact hobeys.1

end Ledger

end Logistics.Library
