import Logistics.Auth.Rotation

/-!
# Completing a registration

Completing checks the token alone, not the status of its user, and a user may be given
several tokens. What keeps it from touching other users is the column of the mode: it
holds twenty characters and the mode of a completion token has twenty-one, so no such
token is ever stored, and a completion never finds one.
-/

namespace Logistics.Auth

open Logistics.Library

variable [Collation]

def FindsToken : Event authInterface → Prop
  | ⟨.query (.findCompletionState _), .ok (some _)⟩ => True
  | _ => False

/-- No mode that the column holds is that of a completion token. -/
theorem findCompletionState_eq_none (s : AuthStore) (now : Time) (stateHash : String) :
    (Query.findCompletionState stateHash).answer s now = none := by
  apply List.find?_eq_none.mpr
  intro state _ hselected
  simp only [Bool.and_eq_true, beq_iff_eq] at hselected
  have hlength := state.mode.property
  rw [hselected.1.1] at hlength
  exact absurd hlength (by decide)

theorem not_findsToken_execute (c : Command) (input : AuthInput) (s : AuthStore) :
    ¬FindsToken ⟨c, (execute c input s).1⟩ := by
  intro hfinds
  unfold FindsToken at hfinds
  split at hfinds
  · next stateHash state heq =>
      obtain ⟨rfl, hanswer⟩ := Sigma.mk.inj heq
      have hfound := eq_of_heq hanswer
      simp only [execute, findCompletionState_eq_none] at hfound
      split at hfound
      · cases hfound
      · cases hfound
  · exact hfinds

/-! ## What a completion calls -/

def Request.completes : Request → Bool
  | .completeOAuthRegistration .. => true
  | _ => false

/-- Before its token is found, a completion only reads. -/
def WritesFound (r : Request) (h : List (Event authInterface)) (c : Command) : Prop :=
  r.completes = true → c.Within [] ∨ ∃ e ∈ h, FindsToken e

section Calls

variable (P : Platform)

omit [Collation] in
theorem completeOAuthRegistration_writes (token tenantSlug : String) :
    (completeOAuthRegistration P token tenantSlug).Obeys
      (WritesFound (.completeOAuthRegistration token tenantSlug)) (fun _ _ => True) [] := by
  refine Program.Obeys.perform_bind (fun _ => .inl trivial) (fun found => ?_) fun _ => trivial
  cases found with
  | none => trivial
  | some state =>
      have hcalls : ∀ {p : Program authInterface Unit} {h}, (∃ e ∈ h, FindsToken e) →
          p.Obeys (WritesFound (.completeOAuthRegistration token tenantSlug)) (fun _ _ => True) h :=
        fun hfound => ((Program.issues_true _).obeys (fun _ _ _ h _ => .inr h)
          (fun h e ⟨found, hmem, hfinds⟩ => ⟨found, List.mem_append_left [e] hmem, hfinds⟩)
          hfound).mono (fun _ _ h => h) fun _ _ _ => trivial
      exact hcalls ⟨_, List.mem_singleton_self _, trivial⟩

omit [Collation] in
theorem handle_writesFound (r : Request) :
    (handle P r).Obeys (WritesFound r) (fun _ _ => True) [] := by
  cases r with
  | completeOAuthRegistration token tenantSlug =>
      exact (completeOAuthRegistration_writes P token tenantSlug).map (fun _ _ _ => trivial)
        fun _ _ _ => trivial
  | _ =>
      exact (Program.issues_true _).obeys_each (fun _ _ _ hcompletes => by cases hcompletes) []

/-! ## Runs -/

/-- If the action is a step of a completion, it leaves every user who is not incomplete. -/
def SparesOthers (c : AuthConfig) (a : AuthAction) : Prop :=
  ∀ i input t, a = .step i input → c.threads[i]? = some t → t.request.completes = true →
    ∀ user ∈ c.store.users.rows, user.status ≠ .incomplete →
      user ∈ ((authSystem P).next c a).store.users.rows

theorem sparesOthers_of_unfound {c : AuthConfig}
    (hobeying : c.Obeying WritesFound fun _ _ _ => True)
    (hunfound : c.Knowing fun _ e => ¬FindsToken e) (a : AuthAction) : SparesOthers P c a := by
  rintro i input ⟨r, h, p⟩ rfl hi hcompletes user huser -
  cases p with
  | pure _ => simpa [System.next, hi] using huser
  | throw _ => simpa [System.next, hi] using huser
  | call cmd k =>
      rcases Config.obeying_call hobeying hi hcompletes with hreads | ⟨e, he, hfinds⟩
      · have hstore : ((authSystem P).next c (.step i input)).store = c.store := by
          simp only [System.next, hi]
          exact execute_of_within_nil hreads input c.store
        rw [hstore]
        exact huser
      · exact absurd hfinds (hunfound _ (List.mem_of_getElem? hi) e he)

/-- In every interleaving of requests, a completion leaves the rows of all users who are not
incomplete when it takes its step. -/
theorem completion_onboards_incomplete (s : AuthStore) (acts : List AuthAction) :
    (authSystem P).AlongActions (SparesOthers P) (Config.initial s) acts := by
  refine System.along_of_invariant (P := fun _ _ => True)
    (J := fun c => c.Obeying WritesFound (fun _ _ _ => True) ∧ c.Knowing fun _ e => ¬FindsToken e)
    (fun c a hc _ => ?_) (fun c a hc _ => sparesOthers_of_unfound P hc.1 hc.2 a) acts _ ?_
    (System.alongActions_true acts _)
  · refine ⟨System.obeying_next (handle_writesFound P) c a hc.1, ?_⟩
    exact System.knowing_next (P := fun _ _ _ => True)
      (fun cmd i s _ => not_findsToken_execute cmd i s) (fun _ _ _ _ _ h => h) c a hc.2
      (callCondition_true c a)
  · exact ⟨Config.obeying_initial _ _ s, Config.knowing_initial _ s⟩

end Calls

end Logistics.Auth
