import Logistics.Auth.Accounts
import Logistics.Auth.Discipline
import Logistics.Auth.Rotation

/-!
# Ways to sign in

A user signs in with a password or with an account of a provider. No call takes a password
away, and only the deletion of `unlinkProvider` takes accounts away. Its guard is evaluated
on what the call has read of the user; what it has found is still there when the deletion
is made as long as the calls of one user do not cross: `UnlinksInTurn`.
-/

namespace Logistics.Auth

open Logistics.Library

section

variable [Collation]

def HasPassword (userId : Id) (s : AuthStore) : Prop :=
  ∃ user ∈ s.users.rows, user.id = userId ∧ user.passwordHash.isSome = true

def HasProvider (userId : Id) (s : AuthStore) : Prop :=
  ∃ account ∈ s.oauthAccounts.rows, account.userId = userId

def CanSignIn (userId : Id) (s : AuthStore) : Prop :=
  HasPassword userId s ∨ HasProvider userId s

/-- The user that a thread is about to unlink from a provider: the guard of its
`unlinkProvider` has let it pass, and the deletion is its next call. -/
def unlinking (t : Thread authInterface Request Reply) : Option (Id × OAuthProvider) :=
  match t.program with
  | .call (.write (.unlinkAccounts userId _ provider)) _ => some (userId, provider)
  | _ => none

/-- When a provider of a user without a password is unlinked, no other call is about to
unlink the user from another provider. -/
def UnlinksInTurn (userId : Id) (c : AuthConfig) : AuthAction → Prop
  | .start _ => True
  | .step i input =>
      ∀ own ∈ c.threads[i]?.bind unlinking, own.1 = userId → input.fault = false →
        HasPassword userId c.store ∨
          ∀ t ∈ c.threads.eraseIdx i, ∀ other ∈ unlinking t, other.1 = userId → other.2 = own.2

instance (userId : Id) (s : AuthStore) : Decidable (HasPassword userId s) :=
  inferInstanceAs (Decidable (∃ user ∈ s.users.rows, _))

instance (userId : Id) (s : AuthStore) : Decidable (CanSignIn userId s) :=
  inferInstanceAs (Decidable (_ ∨ ∃ account ∈ s.oauthAccounts.rows, _))

instance (userId : Id) (c : AuthConfig) :
    ∀ a : AuthAction, Decidable (UnlinksInTurn userId c a)
  | .start _ => isTrue trivial
  | .step i _ => inferInstanceAs (Decidable (∀ own ∈ c.threads[i]?.bind unlinking, _))

/-! ## Passwords and accounts under the calls -/

omit [Collation] in
theorem rewrite_passwordHash (w : Write) (now : Time) {row : User}
    (h : row.passwordHash.isSome = true) : (w.rewrite now row).passwordHash.isSome = true := by
  cases w with
  | updateUser id change => cases change <;> exact h
  | changePassword => rfl
  | resetPassword => rfl
  | _ => exact h

theorem HasPassword.execute {userId : Id} {s : AuthStore} (h : HasPassword userId s)
    (c : Command) (input : AuthInput) : HasPassword userId (execute c input s).2 := by
  rcases h with ⟨user, huser, hid, hpassword⟩
  rcases exists_user_execute huser c input with ⟨user', huser', hid', rfl | ⟨w, -, -, -, rfl⟩⟩
  · exact ⟨user', huser', hid, hpassword⟩
  · exact ⟨_, huser', hid'.trans hid, rewrite_passwordHash w input.now hpassword⟩

def Unlinks (userId : Id) (provider : OAuthProvider) (c : Command) (input : AuthInput) : Prop :=
  input.fault = false ∧ ∃ tenantId, c = .write (.unlinkAccounts userId tenantId provider)

def HasAccount (userId : Id) (provider : OAuthProvider) (s : AuthStore) : Prop :=
  ∃ account ∈ s.oauthAccounts.rows, account.userId = userId ∧ account.provider = provider

theorem hasAccount_of_map {s s' : AuthStore} {f : OAuthAccount → OAuthAccount}
    (hf : ∀ row, (f row).userId = row.userId ∧ (f row).provider = row.provider)
    (h : s'.oauthAccounts.rows = s.oauthAccounts.rows.map f) {userId : Id}
    {provider : OAuthProvider} (haccount : HasAccount userId provider s) :
    HasAccount userId provider s' := by
  rcases haccount with ⟨account, haccount, huser, hprovider⟩
  refine ⟨f account, ?_, (hf account).1.trans huser, (hf account).2.trans hprovider⟩
  rw [h]
  exact List.mem_map_of_mem haccount

theorem hasAccount_of_insert {s s' : AuthStore} {row : OAuthAccount}
    (h : s.oauthAccounts.tryInsert row = some s'.oauthAccounts) {userId : Id}
    {provider : OAuthProvider} (haccount : HasAccount userId provider s) :
    HasAccount userId provider s' := by
  rcases haccount with ⟨account, haccount, hof⟩
  refine ⟨account, ?_, hof⟩
  rw [Table.tryInsert_rows h]
  exact List.mem_append_left _ haccount

/-- Accounts are moved and linked anew, but no write takes one away apart from the deletion
of those at its provider. -/
theorem apply_accounts (w : Write) (s : AuthStore) (input : AuthInput) {userId : Id}
    {provider : OAuthProvider} (haccount : HasAccount userId provider s)
    (hw : ∀ tenantId, w ≠ .unlinkAccounts userId tenantId provider) :
    Leaves (HasAccount userId provider) (w.apply s input) := by
  cases w with
  | unlinkAccounts unlinked tenantId removed =>
      rcases haccount with ⟨account, hmem, huser, hprovider⟩
      refine ⟨account, List.mem_filter.mpr ⟨hmem, ?_⟩, huser, hprovider⟩
      rw [Bool.not_eq_true', Bool.eq_false_iff]
      intro hselected
      simp only [Bool.and_eq_true, beq_iff_eq] at hselected
      apply hw tenantId
      rw [← huser, ← hprovider, hselected.1.2, hselected.2]
  | completeRegistration stateId userId tenantId =>
      simp only [Write.apply, completeRegistrationRows, moveAccounts, leaves_bind_iff, leaves_pure,
        orViolation_eq_ok]
      intro _ _ _ _ accounts haccounts _ _
      refine hasAccount_of_map (fun row => ?_) (Table.tryUpdate_rows haccounts) haccount
      split <;> exact ⟨rfl, rfl⟩
  | createIncompleteUser identity state =>
      simp only [Write.apply, createIncompleteRows, leaves_bind_iff, leaves_pure, orViolation_eq_ok]
      intro _ _ accounts haccounts _ _ _ _
      exact hasAccount_of_insert haccounts haccount
  | linkAccount userId tenantId identity =>
      simp only [Write.apply, linkAccountRows]
      split
      · simp only [leaves_bind_iff, leaves_pure, orViolation_eq_ok]
        intro accounts haccounts
        refine hasAccount_of_map (fun row => ?_) (Table.tryUpdate_rows haccounts) haccount
        split <;> exact ⟨rfl, rfl⟩
      · simp only [leaves_bind_iff, leaves_pure, orViolation_eq_ok]
        intro accounts haccounts
        exact hasAccount_of_insert haccounts haccount
  | updateUser id change =>
      simp only [Write.apply]
      split
      · exact leaves_error _
      · exact haccount
  | upsertOnboarding | completeOnboardingSettings | upsertInvitation =>
      simp only [Write.apply, upsertInvitationRows]
      split <;> simp only [leaves_bind_iff, leaves_pure, leaves_ok] <;> intros <;>
        exact haccount
  | _ =>
      simp only [Write.apply, registerTenantRows, acceptInvitationRows, confirmMfaRows,
        leaves_bind_iff, leaves_pure, leaves_ok]
      intros
      exact haccount

theorem HasAccount.execute {userId : Id} {provider : OAuthProvider} {s : AuthStore}
    (h : HasAccount userId provider s) {c : Command} {input : AuthInput}
    (hc : ¬Unlinks userId provider c input) :
    HasAccount userId provider (execute c input s).2 := by
  cases hfault : input.fault with
  | true =>
      have hsame : (Auth.execute c input s).2 = s := by
        cases c <;> simp [Auth.execute, hfault]
      rw [hsame]
      exact h
  | false =>
      refine execute_of_leaves (Q := HasAccount userId provider) h ?_
      rintro w rfl
      exact apply_accounts w s input h fun tenantId hw => hc ⟨hfault, tenantId, by rw [hw]⟩

/-! ## The guard -/

/-- The user has a password, or an account at another provider. -/
def SurvivesUnlinking (userId : Id) (provider : OAuthProvider) (s : AuthStore) : Prop :=
  HasPassword userId s ∨ ∃ other, other ≠ provider ∧ HasAccount userId other s

/-- A deletion follows a read of the user that has passed the guard. -/
def GuardsUnlinking (h : List (Event authInterface)) : Command → Prop
  | .write (.unlinkAccounts userId tenantId provider) =>
      ∃ before, ∃ found : AuthUserRecord, h = before ++ [⟨.query (.findUser {
          id := some userId, tenantId := some tenantId }), .ok (some found)⟩] ∧
        (found.user.passwordHash.isSome = true ∨
          ∃ account ∈ found.oauthAccounts, account.provider ≠ provider)
  | _ => True

omit [Collation] in
theorem guardsUnlinking_of_within {kinds : List WriteKind} (hkinds : .unlinkAccounts ∉ kinds)
    (h : List (Event authInterface)) {c : Command} (hc : c.Within kinds) :
    GuardsUnlinking h c := by
  cases c with
  | write w =>
      cases w with
      | unlinkAccounts => exact absurd hc hkinds
      | _ => trivial
  | _ => trivial

omit [Collation] in
theorem unlinkProvider_guards (userId tenantId : Id) (provider : OAuthProvider) :
    (unlinkProvider userId tenantId provider).Obeys GuardsUnlinking (fun _ _ => True) [] := by
  refine Program.Obeys.perform_bind trivial (fun found => ?_) fun _ => trivial
  cases found with
  | none => trivial
  | some found =>
      refine Program.Obeys.throwIf_bind (fun _ => trivial) fun hpasses => ?_
      refine Program.Obeys.perform_bind ⟨[], found, rfl, ?_⟩ (fun _ => ?_) fun _ => trivial
      · rw [not_and_or] at hpasses
        rcases hpasses with hpassword | hremaining
        · left
          cases hhash : found.user.passwordHash with
          | none =>
              rw [hhash] at hpassword
              exact absurd rfl hpassword
          | some _ => rfl
        · right
          obtain ⟨account, haccount⟩ := List.exists_mem_of_ne_nil _ hremaining
          rw [List.mem_filter, decide_eq_true_eq] at haccount
          exact ⟨account, haccount⟩
      · exact Program.Issues.obeys_each (C := Command.Within [.audit]) (by simp)
          (fun c hc h => guardsUnlinking_of_within (by simp) h hc) _

omit [Collation] in
theorem handle_guardsUnlinking (P : Platform) (r : Request) :
    (handle P r).Obeys GuardsUnlinking (fun _ _ => True) [] := by
  cases r with
  | unlinkProvider userId tenantId provider =>
      exact (unlinkProvider_guards userId tenantId provider).map (fun _ _ _ => trivial)
        fun _ _ _ => trivial
  | _ =>
      exact (handle_within P _).obeys_each
        (fun c hc h => guardsUnlinking_of_within (by simp [Request.footprint]) h hc) []

theorem survivesUnlinking_of_read {userId tenantId : Id} {provider : OAuthProvider}
    {s : AuthStore} {input : AuthInput} {found : AuthUserRecord}
    (hread : (execute (.query (.findUser { id := some userId, tenantId := some tenantId })) input
      s).1 = .ok (some found))
    (hguard : found.user.passwordHash.isSome = true ∨
      ∃ account ∈ found.oauthAccounts, account.provider ≠ provider) :
    SurvivesUnlinking userId provider s := by
  cases hfault : input.fault with
  | true => simp [execute, hfault] at hread
  | false =>
      have hanswer : (Query.findUser { id := some userId, tenantId := some tenantId }).answer s
          input.now = some found := by
        simpa [execute, hfault] using hread
      obtain ⟨user, huser, rfl⟩ := Option.map_eq_some_iff.mp hanswer
      have hselected := List.find?_some huser
      have hid : user.id = userId := by
        simp only [UserFilter.selects, Bool.and_eq_true, Option.all_some, beq_iff_eq] at hselected
        exact hselected.1.1.1.1.1.1.1
      rcases hguard with hpassword | ⟨account, haccount, hprovider⟩
      · exact .inl ⟨user, List.mem_of_find?_eq_some huser, hid, hpassword⟩
      · obtain ⟨hmem, hof⟩ := List.mem_filter.mp haccount
        exact .inr ⟨account.provider, hprovider, account, hmem, (beq_iff_eq.mp hof).trans hid, rfl⟩

theorem SurvivesUnlinking.execute {userId : Id} {provider : OAuthProvider} {s : AuthStore}
    (h : SurvivesUnlinking userId provider s) {c : Command} {input : AuthInput}
    (hc : HasPassword userId s ∨ ∀ other, other ≠ provider → ¬Unlinks userId other c input) :
    SurvivesUnlinking userId provider (execute c input s).2 := by
  rcases h with hpassword | ⟨other, hother, haccount⟩
  · exact .inl (hpassword.execute c input)
  · rcases hc with hpassword | hc
    · exact .inl (hpassword.execute c input)
    · exact .inr ⟨other, hother, haccount.execute (hc other hother)⟩

theorem SurvivesUnlinking.canSignIn {userId : Id} {provider : OAuthProvider} {s : AuthStore}
    (h : SurvivesUnlinking userId provider s) {tenantId : Id} (input : AuthInput) :
    CanSignIn userId
      (Auth.execute (.write (.unlinkAccounts userId tenantId provider)) input s).2 := by
  rcases h with hpassword | ⟨other, hother, haccount⟩
  · exact .inl (hpassword.execute _ input)
  · have hspared : ¬Unlinks userId other (.write (.unlinkAccounts userId tenantId provider))
        input := by
      rintro ⟨-, tenantId', heq⟩
      obtain ⟨-, -, hsame⟩ := Write.unlinkAccounts.inj (Command.write.inj heq)
      exact hother hsame.symm
    obtain ⟨account, hmem, hof, -⟩ := haccount.execute hspared
    exact .inr ⟨account, hmem, hof⟩

theorem canSignIn_execute {userId : Id} {s : AuthStore} (h : CanSignIn userId s) {c : Command}
    {input : AuthInput} (hc : ∀ provider, ¬Unlinks userId provider c input) :
    CanSignIn userId (execute c input s).2 := by
  rcases h with hpassword | ⟨account, haccount, hof⟩
  · exact .inl (hpassword.execute c input)
  · have hkept : HasAccount userId account.provider s := ⟨account, haccount, hof, rfl⟩
    obtain ⟨account', hmem, hof', -⟩ := hkept.execute (hc account.provider)
    exact .inr ⟨account', hmem, hof'⟩

/-! ## Runs -/

/-- What the guard of a thread has found is there as long as the deletion is ahead. -/
def GuardHolds (userId : Id) (c : AuthConfig) : Prop :=
  ∀ t ∈ c.threads, ∀ own ∈ unlinking t, own.1 = userId → SurvivesUnlinking userId own.2 c.store

omit [Collation] in
/-- A thread that is about to unlink its user has just read it, and the guard has passed. -/
theorem guard_of_unlinking {t : Thread authInterface Request Reply}
    (hobeys : t.program.Obeys GuardsUnlinking (fun _ _ => True) t.history)
    {own : Id × OAuthProvider} (hown : own ∈ unlinking t) :
    ∃ tenantId before, ∃ found : AuthUserRecord,
      t.history = before ++ [⟨.query (.findUser {
        id := some own.1, tenantId := some tenantId }), .ok (some found)⟩] ∧
      (found.user.passwordHash.isSome = true ∨
        ∃ account ∈ found.oauthAccounts, account.provider ≠ own.2) := by
  obtain ⟨r, h, program⟩ := t
  cases program with
  | call cmd k =>
      cases cmd with
      | write w =>
          cases w with
          | unlinkAccounts userId tenantId provider =>
              obtain rfl := Option.some.inj hown
              exact ⟨tenantId, hobeys.1⟩
          | _ => cases hown
      | _ => cases hown
  | _ => cases hown

omit [Collation] in
theorem mem_set_or_eraseIdx {α : Type*} {l : List α} {i : ℕ} {a b : α} (h : a ∈ l.set i b) :
    a = b ∨ a ∈ l.eraseIdx i := by
  induction l generalizing i with
  | nil => cases h
  | cons x l ih =>
      cases i with
      | zero =>
          rcases List.mem_cons.mp h with rfl | h
          · exact .inl rfl
          · exact .inr h
      | succ i =>
          rcases List.mem_cons.mp h with rfl | h
          · exact .inr List.mem_cons_self
          · exact (ih h).imp_right (List.mem_cons_of_mem x)

/-- What the run keeps. -/
structure UnlinksGuarded (userId : Id) (c : AuthConfig) : Prop where
  obeying : c.Obeying (fun _ => GuardsUnlinking) fun _ _ _ => True
  guarded : GuardHolds userId c

theorem UnlinksGuarded.next {P : Platform} {userId : Id} {c : AuthConfig} {a : AuthAction}
    (hc : UnlinksGuarded userId c) (hturn : UnlinksInTurn userId c a) :
    UnlinksGuarded userId ((authSystem P).next c a) := by
  have hobeying := (authSystem P).obeying_next (handle_guardsUnlinking P) c a hc.obeying
  refine ⟨hobeying, fun t ht own hown huser => ?_⟩
  obtain ⟨tenantId, before, found, hhistory, hguard⟩ := guard_of_unlinking (hobeying t ht) hown
  rcases (authSystem P).next_cases c a with
    ⟨r, rfl, hnext⟩ | ⟨i, input, r, h, cmd, k, rfl, hi, -, hnext⟩ | ⟨hnext, -⟩
  · rw [hnext] at ht ⊢
    rcases List.mem_append.mp ht with ht | ht
    · exact hc.guarded t ht own hown huser
    · -- a request that was just started has read nothing
      obtain rfl := List.mem_singleton.mp ht
      simp at hhistory
  · rw [hnext] at ht ⊢
    rcases mem_set_or_eraseIdx ht with rfl | hother
    · obtain ⟨-, hevent⟩ := List.append_inj' hhistory rfl
      obtain ⟨rfl, hanswer⟩ := Sigma.mk.inj (List.cons.inj hevent).1
      rw [huser] at hanswer
      exact survivesUnlinking_of_read (eq_of_heq hanswer) hguard
    · refine (hc.guarded t (List.mem_of_mem_eraseIdx hother) own hown huser).execute ?_
      by_cases hunlinks : ∃ provider, Unlinks userId provider cmd input
      · obtain ⟨provider, hfault, tenantId', rfl⟩ := hunlinks
        have hpending : (userId, provider) ∈ c.threads[i]?.bind unlinking := by
          rw [hi]
          rfl
        refine (hturn (userId, provider) hpending rfl hfault).imp_right fun halone => ?_
        rintro other hne ⟨-, tenantId'', heq⟩
        obtain ⟨-, -, rfl⟩ := Write.unlinkAccounts.inj (Command.write.inj heq)
        exact hne (halone t hother own hown huser).symm
      · exact .inr fun other _ h => hunlinks ⟨other, h⟩
  · rw [hnext] at ht ⊢
    exact hc.guarded t ht own hown huser

theorem UnlinksGuarded.canSignIn_next {P : Platform} {userId : Id} {c : AuthConfig}
    {a : AuthAction} (hc : UnlinksGuarded userId c) (hcan : CanSignIn userId c.store) :
    CanSignIn userId ((authSystem P).next c a).store := by
  rcases (authSystem P).next_cases c a with
    ⟨r, rfl, hnext⟩ | ⟨i, input, r, h, cmd, k, rfl, hi, -, hnext⟩ | ⟨hnext, -⟩
  · rw [hnext]
    exact hcan
  · rw [hnext]
    by_cases hunlinks : ∃ provider, Unlinks userId provider cmd input
    · obtain ⟨provider, -, tenantId, rfl⟩ := hunlinks
      exact (hc.guarded _ (List.mem_of_getElem? hi) (userId, provider) rfl rfl).canSignIn input
    · exact canSignIn_execute hcan fun provider h => hunlinks ⟨provider, h⟩
  · rw [hnext]
    exact hcan

/-- In any interleaving in which the calls of `unlinkProvider` for a user do not cross (when
one deletes while the user has no password, no other is between its read of the user and its
deletion at another provider), a user who can sign in can do so in every later state. -/
theorem users_keep_a_way_to_sign_in (P : Platform) (userId : Id) (s : AuthStore)
    (before after : List AuthAction)
    (hturns : (authSystem P).AlongActions (UnlinksInTurn userId) (Config.initial s)
      (before ++ after))
    (h : CanSignIn userId ((authSystem P).runActions (Config.initial s) before).store) :
    CanSignIn userId ((authSystem P).runActions (Config.initial s) (before ++ after)).store := by
  rw [System.alongActions_append] at hturns
  rw [System.runActions_append]
  have hstart : UnlinksGuarded userId (Config.initial s) :=
    ⟨Config.obeying_initial _ _ s, fun _ ht => nomatch ht⟩
  have hguarded : UnlinksGuarded userId ((authSystem P).runActions (Config.initial s) before) :=
    (authSystem P).run_invariant (fun c a hc hturn => hc.next hturn) before _ hstart hturns.1
  exact ((authSystem P).run_invariant
    (J := fun c => UnlinksGuarded userId c ∧ CanSignIn userId c.store)
    (fun c a hc hturn => ⟨hc.1.next hturn, hc.1.canSignIn_next hc.2⟩) after _ ⟨hguarded, h⟩
    hturns.2).2

end

/-! ## Two providers of one user -/

attribute [local instance] foldCase

def twoProviders : AuthStore :=
  { oneUser with
    users := oneUser.users.modify (fun _ => true) (fun row => { row with passwordHash := none })
      fun _ => rfl
    oauthAccounts := ⟨[⟨"a", some "tenant", "ana", .google, "1", "ana@acme"⟩,
      ⟨"b", some "tenant", "ana", .github, "2", "ana@acme"⟩], by decide⟩ }

/-- She unlinks both at once: the accounts are read twice before they are deleted. -/
def unlinkedAtOnce : List AuthAction :=
  [.start (.unlinkProvider "ana" "tenant" .google), .start (.unlinkProvider "ana" "tenant" .github),
    .step 0 (drawn 1 0), .step 1 (drawn 2 0), .step 0 (drawn 3 0), .step 1 (drawn 4 0)]

def unlinkedInOrder : List AuthAction :=
  [.start (.unlinkProvider "ana" "tenant" .google), .start (.unlinkProvider "ana" "tenant" .github),
    .step 0 (drawn 1 0), .step 0 (drawn 2 0), .step 1 (drawn 3 0), .step 1 (drawn 4 0)]

/-- Both are deleted. -/
theorem unlinking_at_once_locks_out :
    CanSignIn "ana" twoProviders ∧ ¬CanSignIn "ana" ((authSystem plainPlatform).runActions
      (Config.initial twoProviders) unlinkedAtOnce).store := by
  decide +kernel

/-- The second is refused. -/
theorem unlinking_in_order_keeps_one :
    CanSignIn "ana" ((authSystem plainPlatform).runActions (Config.initial twoProviders)
      ([] ++ unlinkedInOrder)).store :=
  users_keep_a_way_to_sign_in plainPlatform "ana" twoProviders [] unlinkedInOrder
    (by decide +kernel) (by decide +kernel)

end Logistics.Auth
