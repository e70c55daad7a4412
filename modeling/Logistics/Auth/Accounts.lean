import Logistics.Auth.Sessions

/-!
# Users under the calls

`execute_users` says all of what a call does to the users: it leaves them,
rewrites the one a write targets, or adds one. No call removes a user or
changes its identifier.
-/

namespace Logistics.Auth

open Logistics.Library

variable [Collation]

def Write.target : Write → Option Id
  | .changePassword userId .. | .resetPassword userId .. | .confirmMfa userId ..
  | .disableMfa userId _ | .resetMfa userId _ | .updateUser userId _
  | .completeRegistration _ userId _ => some userId
  | _ => none

def joinTenant (tenantId : Id) (row : User) : User :=
  { row with role := .operator, status := .pending, tenantId := some tenantId }

/-- What a write makes of the user that it targets. -/
def Write.rewrite (now : Time) : Write → User → User
  | .changePassword _ _ passwordHash | .resetPassword _ _ passwordHash => setPassword passwordHash
  | .confirmMfa .. => enableMfa
  | .disableMfa .. | .resetMfa .. => clearMfa
  | .updateUser _ change => fun row => change.apply now row
  | .completeRegistration _ _ tenantId => joinTenant tenantId
  | _ => id

def WriteKind.addsUser : WriteKind → Bool
  | .registerTenant | .createUser | .createIncompleteUser | .acceptInvitation => true
  | _ => false

/-- What a call does to the users. -/
inductive UserStep (c : Command) (input : AuthInput) (s s' : AuthStore) : Prop
  | same (h : s'.users.rows = s.users.rows)
  | rewritten (w : Write) (hw : c = .write w) (hfault : input.fault = false) (id : Id)
      (htarget : w.target = some id)
      (h : s'.users.rows =
        s.users.rows.map fun row => if row.id == id then w.rewrite input.now row else row)
  | added (w : Write) (hw : c = .write w) (hkind : w.kind.addsUser = true) (user : User)
      (h : s'.users.rows = s.users.rows ++ [user])

/-- What a write that succeeds does to the users. -/
def RewritesUsers (w : Write) (input : AuthInput) (s s' : AuthStore) : Prop :=
  match w.target with
  | some id => s'.users.rows =
      s.users.rows.map fun row => if row.id == id then w.rewrite input.now row else row
  | none => if w.kind.addsUser = true then ∃ user, s'.users.rows = s.users.rows ++ [user]
      else s'.users.rows = s.users.rows

theorem exists_added {s : AuthStore} {user : User} {users : Table User UserKey User.keys}
    (h : s.users.tryInsert user = some users) :
    ∃ user, users.rows = s.users.rows ++ [user] :=
  ⟨user, Table.tryInsert_rows h⟩

theorem apply_users (w : Write) (s : AuthStore) (input : AuthInput) :
    Leaves (RewritesUsers w input s) (w.apply s input) := by
  cases w with
  | updateUser id change =>
      simp only [Write.apply]
      split
      · exact leaves_error _
      · rfl
  | completeRegistration stateId userId tenantId =>
      simp only [Write.apply, completeRegistrationRows, leaves_bind_iff, leaves_pure,
        orViolation_eq_ok]
      intro _ _ users husers _ _ _ _
      exact Table.tryUpdate_rows husers
  | registerTenant | createUser | createIncompleteUser | acceptInvitation =>
      simp only [Write.apply, registerTenantRows, createIncompleteRows, acceptInvitationRows,
        leaves_bind_iff, leaves_pure, orViolation_eq_ok]
      intros
      exact exists_added (by assumption)
  | linkAccount | upsertOnboarding | completeOnboardingSettings | upsertInvitation =>
      simp only [Write.apply, linkAccountRows, upsertInvitationRows]
      split <;> simp only [leaves_bind_iff, leaves_pure, leaves_ok] <;> intros <;> rfl
  | _ =>
      simp only [Write.apply, confirmMfaRows, leaves_bind_iff, leaves_pure, leaves_ok]
      intros
      rfl

/-- What a call does to the users, all of it. -/
theorem execute_users (c : Command) (input : AuthInput) (s : AuthStore) :
    UserStep c input s (execute c input s).2 := by
  cases c with
  | query q => exact .same rfl
  | external e => exact .same rfl
  | write w =>
      by_cases hfault : input.fault = true
      · exact .same (by simp [execute, hfault])
      · rw [Bool.not_eq_true] at hfault
        cases happly : w.apply s input with
        | error error => exact .same (by simp [execute, hfault, happly])
        | ok answer =>
            have hleaves := apply_users w s input
            rw [happly] at hleaves
            rw [execute_write_eq hfault happly]
            change RewritesUsers w input s answer.2 at hleaves
            unfold RewritesUsers at hleaves
            cases htarget : w.target with
            | some id =>
                rw [htarget] at hleaves
                exact .rewritten w rfl hfault id htarget hleaves
            | none =>
                rw [htarget] at hleaves
                dsimp only at hleaves
                split at hleaves
                · next hkind =>
                    obtain ⟨user, huser⟩ := hleaves
                    exact .added w rfl hkind user huser
                · exact .same hleaves

omit [Collation] in
theorem rewrite_id (w : Write) (now : Time) (row : User) : (w.rewrite now row).id = row.id := by
  cases w with
  | updateUser id change => cases change <;> rfl
  | _ => rfl

theorem user_eq_of_id {s : AuthStore} {a b : User} (ha : a ∈ s.users.rows)
    (hb : b ∈ s.users.rows) (hid : a.id = b.id) : a = b := by
  apply s.users.eq_of_key ha hb (k := .id a.id)
  · simp [User.keys]
  · simp [User.keys, hid]

theorem exists_user_execute {s : AuthStore} {user : User} (h : user ∈ s.users.rows) (c : Command)
    (input : AuthInput) :
    ∃ user' ∈ (execute c input s).2.users.rows, user'.id = user.id ∧
      (user' = user ∨ ∃ w : Write, c = .write w ∧ input.fault = false ∧
        w.target = some user.id ∧ user' = w.rewrite input.now user) := by
  cases execute_users c input s with
  | same hrows => exact ⟨user, hrows ▸ h, rfl, .inl rfl⟩
  | added w _ _ new hrows => exact ⟨user, hrows ▸ List.mem_append_left _ h, rfl, .inl rfl⟩
  | rewritten w hw hfault id htarget hrows =>
      refine ⟨_, hrows ▸ List.mem_map_of_mem h, ?_, ?_⟩
      · split
        · exact rewrite_id w input.now user
        · rfl
      · split
        · next hid =>
            rw [beq_iff_eq] at hid
            exact .inr ⟨w, hw, hfault, hid ▸ htarget, rfl⟩
        · exact .inl rfl

end Logistics.Auth
