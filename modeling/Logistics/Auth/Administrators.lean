import Logistics.Auth.Rotation

/-!
# The last administrator

`UsersService.update` counts the active administrators before it demotes one,
and writes later. What the write relies on is what the same call has read:
`handle_checks` collects it. A tenant keeps an administrator as long as every
write that takes one away still finds what its call has read, and completing a
registration takes none away.
-/

namespace Logistics.Auth

open Logistics.Library

section

variable [Collation]

def User.administers (user : User) : Option Id :=
  if user.role = .admin ∧ user.status = .active then user.tenantId else none

def HasAdministrator (tenantId : Id) (s : AuthStore) : Prop :=
  ∃ user ∈ s.users.rows, user.administers = some tenantId

instance (tenantId : Id) (s : AuthStore) : Decidable (HasAdministrator tenantId s) := by
  unfold HasAdministrator
  infer_instance

/-- The active administrators of a tenant, as `assertLastAdminSafe` counts them. -/
def administrators (tenantId : Id) : UserFilter :=
  { tenantId := some tenantId, role := some .admin, status := some .active }

/-- The write takes an active administrator away from a tenant. -/
def Write.demotes (s : AuthStore) (now : Time) (w : Write) : Bool :=
  s.users.rows.any fun row =>
    w.target == some row.id && row.administers.isSome &&
      (w.rewrite now row).administers != row.administers

/-- What was read of the user, and how many users were counted, is still so. -/
def StillAnswered (s : AuthStore) (id : Id) : Event authInterface → Prop
  | ⟨.query (.findUser _), .ok (some found)⟩ =>
      found.user.id = id → ∀ row ∈ s.users.rows, row.id = id →
        row.role = found.user.role ∧ row.status = found.user.status ∧
          row.tenantId = found.user.tenantId
  | ⟨.query (.countUsers filter), .ok n⟩ => (Query.countUsers filter).answer s 0 = n
  | _ => True

instance (s : AuthStore) (id : Id) (e : Event authInterface) :
    Decidable (StillAnswered s id e) := by
  unfold StillAnswered
  split <;> infer_instance

/-- A write that takes an administrator away is an administrator's, and finds
what its call has read. -/
def DemotesAsRead (s : AuthStore) (h : List (Event authInterface)) :
    authInterface.Command → AuthInput → Prop
  | .write (.completeRegistration stateId userId tenantId), input =>
      input.fault = false →
        (Write.completeRegistration stateId userId tenantId).demotes s input.now = false
  | .write (.updateUser id change), input =>
      input.fault = false → (Write.updateUser id change).demotes s input.now = true →
        ∀ e ∈ h, StillAnswered s id e
  | _, _ => True

instance (s : AuthStore) (h : List (Event authInterface)) (c : Command) (input : AuthInput) :
    Decidable (DemotesAsRead s h c input) := by
  unfold DemotesAsRead
  split <;> infer_instance

/-! ## What the calls check -/

def ReadUser (h : List (Event authInterface)) (tenantId id : Id) (user : User) : Prop :=
  ∃ found : AuthUserRecord, found.user = user ∧
    (⟨.query (.findUser { id := some id, tenantId := some tenantId }), .ok (some found)⟩ :
      Event authInterface) ∈ h

/-- A change of the role or the status follows a read of the user, and a count
of the administrators when it demotes the one that was read. -/
def ChecksAdministrators (h : List (Event authInterface)) : Command → Prop
  | .write (.updateUser id (.admin _ role status)) =>
      ∃ tenantId user, ReadUser h tenantId id user ∧
        (user.role = .admin → user.status = .active →
          role.any (· ≠ .admin) = true ∨ status.any (· ≠ .active) = true →
          ∃ n, 2 ≤ n ∧ (⟨.query (.countUsers (administrators tenantId)), .ok n⟩ :
            Event authInterface) ∈ h)
  | .write (.updateUser id (.approve _)) =>
      ∃ tenantId user, ReadUser h tenantId id user ∧ user.status ≠ .active
  | _ => True

omit [Collation] in
theorem ReadUser.append {h : List (Event authInterface)} {tenantId id : Id} {user : User}
    (hread : ReadUser h tenantId id user) (e : Event authInterface) :
    ReadUser (h ++ [e]) tenantId id user := by
  obtain ⟨found, hfound, hmem⟩ := hread
  exact ⟨found, hfound, List.mem_append_left _ hmem⟩

omit [Collation] in
theorem checks_of_within {kinds : List WriteKind} (hkinds : .administerUser ∉ kinds)
    (h : List (Event authInterface)) {c : Command} (hc : c.Within kinds) :
    ChecksAdministrators h c := by
  cases c with
  | query q => trivial
  | external e => trivial
  | write w =>
      cases w with
      | updateUser id change =>
          cases change with
          | admin name role status => exact absurd hc hkinds
          | approve role => exact absurd hc hkinds
          | _ => trivial
      | _ => trivial

omit [Collation] in
/-- The guard lets a change pass that leaves an administrator, or one counted
beside another. -/
theorem assertChangeSafe_checks {tenantId id : Id} {user : User} {dto : UpdateAdminUserDto}
    {h : List (Event authInterface)} (hread : ReadUser h tenantId id user) :
    (Users.assertChangeSafe tenantId user dto).Obeys ChecksAdministrators
      (fun h' outcome => ReadUser h' tenantId id user ∧ (outcome = .ok () →
        user.role = .admin → user.status = .active →
        dto.role.any (· ≠ .admin) = true ∨ dto.status.any (· ≠ .active) = true →
        ∃ n, 2 ≤ n ∧ (⟨.query (.countUsers (administrators tenantId)), .ok n⟩ :
          Event authInterface) ∈ h')) h := by
  unfold Users.assertChangeSafe
  split
  · unfold Users.assertLastAdminSafe
    dsimp only
    split
    · next hsafe =>
        refine ⟨hread, fun _ hrole hstatus hchange => ?_⟩
        exfalso
        rcases hsafe with hsafe | hsafe | ⟨hsafeRole, hsafeStatus⟩
        · exact hsafe hrole
        · exact hsafe hstatus
        · rcases hchange with hchange | hchange
          · obtain ⟨role, hsome, hne⟩ := (Option.any_eq_true _ _).mp hchange
            exact hsafeRole ⟨by simp [hsome], by simpa [hsome] using hne⟩
          · obtain ⟨status, hsome, hne⟩ := (Option.any_eq_true _ _).mp hchange
            exact hsafeStatus ⟨by simp [hsome], by simpa [hsome] using hne⟩
    · refine Program.Obeys.perform_bind trivial (fun n => ?_)
        fun error => ⟨hread.append _, fun hok => by cases hok⟩
      unfold Program.throwIf
      split
      · exact ⟨hread.append _, fun hok => by cases hok⟩
      · next hmany =>
          refine ⟨hread.append _, fun _ _ _ _ => ⟨n, Nat.lt_of_not_le hmany, ?_⟩⟩
          exact List.mem_append_right _ (List.mem_singleton_self _)
  · next hkeeps =>
      refine ⟨hread, fun _ hrole hstatus hchange => absurd ?_ hkeeps⟩
      rw [hrole, hstatus]
      exact hchange

omit [Collation] in
theorem updateUser_checks (tenantId actorId targetUserId : Id) (dto : UpdateAdminUserDto) :
    (Users.update tenantId actorId targetUserId dto).Obeys ChecksAdministrators
      (fun _ _ => True) [] := by
  refine Program.Obeys.perform_bind trivial (fun found => ?_) fun _ => trivial
  cases found with
  | none => trivial
  | some found =>
      have hread : ReadUser ([] ++ [⟨.query (.findUser {
          id := some targetUserId, tenantId := some tenantId }), .ok (some found)⟩])
          tenantId targetUserId found.user :=
        ⟨found, rfl, List.mem_singleton_self _⟩
      have hgrow : ∀ h (e : Event authInterface),
          ReadUser h tenantId targetUserId found.user →
          ReadUser (h ++ [e]) tenantId targetUserId found.user := fun h e hread => hread.append e
      refine Program.Obeys.bind ((assertMayAssign_within (K := []) tenantId actorId
        dto.role).obeys (fun c hc h _ => checks_of_within (by simp) h hc) hgrow hread)
        (fun h₁ _ hread => ?_) fun _ _ _ => trivial
      refine Program.Obeys.bind (assertChangeSafe_checks hread) (fun h₂ _ hsafe => ?_)
        fun _ _ _ => trivial
      refine Program.Obeys.perform_bind ⟨tenantId, found.user, hsafe.1, hsafe.2 rfl⟩
        (fun user => ?_) fun _ => trivial
      refine Program.Issues.obeys_each (C := Command.Within [.revokeTokens, .audit]) ?_
        (fun c hc h => checks_of_within (by simp) h hc) _
      refine (revokeUnlessActive_within _ _ _ (by simp)).bind fun _ => ?_
      simp

omit [Collation] in
theorem approveUser_checks (tenantId actorId targetUserId : Id) (role : UserRole) :
    (Users.approve tenantId actorId targetUserId role).Obeys ChecksAdministrators
      (fun _ _ => True) [] := by
  refine Program.Obeys.perform_bind trivial (fun found => ?_) fun _ => trivial
  cases found with
  | none => trivial
  | some found =>
      refine Program.Obeys.throwIf_bind (fun _ => trivial) fun hwaiting => ?_
      refine Program.Obeys.perform_bind ⟨tenantId, found.user,
        ⟨found, rfl, List.mem_singleton_self _⟩, fun hactive => ?_⟩ (fun user => ?_)
        fun _ => trivial
      · rw [hactive] at hwaiting
        exact hwaiting ⟨by decide, by decide⟩
      · exact Program.Obeys.perform_bind trivial (fun _ => trivial) fun _ => trivial

omit [Collation] in
/-- Whatever it is answered, a request changes the role or the status of a user
only after these reads. -/
theorem handle_checks (P : Platform) (r : Request) :
    (handle P r).Obeys ChecksAdministrators (fun _ _ => True) [] := by
  cases r with
  | updateUser tenantId actorId targetUserId dto =>
      exact (updateUser_checks tenantId actorId targetUserId dto).map (fun _ _ _ => trivial)
        fun _ _ _ => trivial
  | approveUser tenantId actorId targetUserId role =>
      exact (approveUser_checks tenantId actorId targetUserId role).map (fun _ _ _ => trivial)
        fun _ _ _ => trivial
  | _ =>
      exact (handle_within P _).obeys_each
        (fun c hc h => checks_of_within (by simp [Request.footprint]) h hc) []

/-! ## One call -/

/-- What a read of a user by identifier and tenant answers is of that user. -/
def KnownUser : Event authInterface → Prop
  | ⟨.query (.findUser filter), .ok (some found)⟩ =>
      filter.id.all (found.user.id == ·) = true ∧
        filter.tenantId.all (fun tenantId => found.user.tenantId == some tenantId) = true
  | _ => True

theorem knownUser_execute (c : Command) (input : AuthInput) (s : AuthStore) :
    KnownUser ⟨c, (execute c input s).1⟩ := by
  cases c with
  | query q =>
      cases q with
      | findUser filter =>
          by_cases hfault : input.fault = true
          · simp [KnownUser, execute, hfault]
          · rw [Bool.not_eq_true] at hfault
            cases hanswer : (Query.findUser filter).answer s input.now with
            | none => simp [KnownUser, execute, hfault, hanswer]
            | some found =>
                simp only [execute, hfault, hanswer, Bool.false_eq_true, if_false]
                obtain ⟨user, huser, rfl⟩ := Option.map_eq_some_iff.mp hanswer
                have hselected := List.find?_some huser
                simp only [UserFilter.selects, Bool.and_eq_true] at hselected
                obtain ⟨⟨⟨⟨⟨⟨⟨hid, htenant⟩, -⟩, -⟩, -⟩, -⟩, -⟩, -⟩ := hselected
                exact ⟨hid, htenant⟩
      | _ => trivial
  | write w => trivial
  | external e => trivial

omit [Collation] in
/-- Only an administrator's change and a completed registration make or unmake
an administrator of a user. -/
theorem Write.administers_cases (w : Write) :
    (∃ id name role status, w = .updateUser id (.admin name role status)) ∨
      (∃ id role, w = .updateUser id (.approve role)) ∨
      (∃ stateId userId tenantId, w = .completeRegistration stateId userId tenantId) ∨
      ∀ now row, (w.rewrite now row).administers = row.administers := by
  cases w with
  | updateUser id change =>
      cases change with
      | admin name role status => exact .inl ⟨id, name, role, status, rfl⟩
      | approve role => exact .inr (.inl ⟨id, role, rfl⟩)
      | _ => exact .inr (.inr (.inr fun _ _ => rfl))
  | completeRegistration stateId userId tenantId =>
      exact .inr (.inr (.inl ⟨stateId, userId, tenantId, rfl⟩))
  | _ => exact .inr (.inr (.inr fun _ _ => rfl))

omit [Collation] in
theorem administers_eq_some_iff {user : User} {tenantId : Id} :
    user.administers = some tenantId ↔
      user.role = .admin ∧ user.status = .active ∧ user.tenantId = some tenantId := by
  unfold User.administers
  split
  · next h => simp [h.1, h.2]
  · next h =>
      constructor
      · intro hnone
        cases hnone
      · rintro ⟨hrole, hstatus, -⟩
        exact absurd ⟨hrole, hstatus⟩ h

theorem exists_other_administrator {s : AuthStore} {tenantId : Id}
    (hcount : 2 ≤ (Query.countUsers (administrators tenantId)).answer s 0) (id : Id) :
    ∃ user ∈ s.users.rows, user.administers = some tenantId ∧ user.id ≠ id := by
  by_contra hnone
  have honly : ∀ user ∈ s.users.rows, (administrators tenantId).selects s user = true →
      UserKey.id id ∈ user.keys := by
    intro user huser hselected
    simp only [UserFilter.selects, administrators, Bool.and_eq_true, Option.all_some,
      Option.all_none, beq_iff_eq] at hselected
    obtain ⟨⟨⟨⟨⟨⟨⟨-, htenant⟩, -⟩, hstatus⟩, -⟩, hrole⟩, -⟩, -⟩ := hselected
    by_contra hkey
    refine hnone ⟨user, huser, administers_eq_some_iff.mpr ⟨hrole, hstatus, htenant⟩, ?_⟩
    rintro rfl
    simp [User.keys] at hkey
  have hle : (Query.countUsers (administrators tenantId)).answer s 0 ≤ 1 :=
    s.users.length_filter_le_one (.id id) _ honly
  exact absurd hcount (Nat.not_le_of_lt (Nat.lt_succ_of_le hle))

theorem hasAdministrator_execute {s : AuthStore} {tenantId : Id}
    (hadmin : HasAdministrator tenantId s) {h : List (Event authInterface)} {c : Command}
    {input : AuthInput} (hchecks : ChecksAdministrators h c)
    (hknown : ∀ e ∈ h, KnownUser e) (hread : DemotesAsRead s h c input) :
    HasAdministrator tenantId (execute c input s).2 := by
  obtain ⟨row, hrow, hadmin⟩ := hadmin
  cases execute_users c input s with
  | same hrows => exact ⟨row, hrows ▸ hrow, hadmin⟩
  | added w _ _ new hrows => exact ⟨row, hrows ▸ List.mem_append_left _ hrow, hadmin⟩
  | rewritten w hw hfault id htarget hrows =>
      subst hw
      -- an administrator whom the write does not target stays
      have hother : ∀ user ∈ s.users.rows, user.administers = some tenantId → user.id ≠ id →
          HasAdministrator tenantId (execute (.write w) input s).2 := by
        intro user huser hadmin hne
        refine ⟨user, ?_, hadmin⟩
        rw [hrows]
        refine List.mem_map.mpr ⟨user, huser, if_neg ?_⟩
        simpa using hne
      by_cases hid : row.id = id
      · subst hid
        by_cases hkeeps : (w.rewrite input.now row).administers = row.administers
        · refine ⟨w.rewrite input.now row, ?_, hkeeps.trans hadmin⟩
          rw [hrows]
          exact List.mem_map.mpr ⟨row, hrow, by simp⟩
        · have hdemotes : w.demotes s input.now = true := by
            refine List.any_eq_true.mpr ⟨row, hrow, ?_⟩
            rw [htarget, hadmin]
            rw [hadmin] at hkeeps
            simpa using hkeeps
          obtain ⟨hrole, hstatus, htenant⟩ := administers_eq_some_iff.mp hadmin
          -- what the call has read of the user is what is stored
          have huser : ∀ id change tenantId' user, w = .updateUser id change →
              ReadUser h tenantId' id user →
              user.role = .admin ∧ user.status = .active ∧ tenantId' = tenantId := by
            rintro id change tenantId' user rfl ⟨found, rfl, hmem⟩
            obtain rfl := Option.some.inj htarget
            have hfound : KnownUser ⟨.query (.findUser {
                id := some row.id, tenantId := some tenantId' }), .ok (some found)⟩ :=
              hknown _ hmem
            simp only [KnownUser, Option.all_some, beq_iff_eq] at hfound
            have hsame := hread hfault hdemotes _ hmem hfound.1 row hrow rfl
            refine ⟨hsame.1.symm.trans hrole, hsame.2.1.symm.trans hstatus, ?_⟩
            have htenants := hsame.2.2
            rw [htenant, hfound.2] at htenants
            exact (Option.some.inj htenants).symm
          obtain ⟨id, name, role, status, rfl⟩ | ⟨id, role, rfl⟩ |
              ⟨stateId, userId, tenantId', rfl⟩ |
            hstays := w.administers_cases
          · obtain ⟨tenantId', user, hreadUser, hcounted⟩ := hchecks
            obtain ⟨huserRole, huserStatus, rfl⟩ := huser _ _ tenantId' user rfl hreadUser
            have hchanges : role.any (· ≠ .admin) = true ∨ status.any (· ≠ .active) = true := by
              by_contra hnone
              rw [not_or] at hnone
              refine hkeeps ?_
              rw [hadmin, administers_eq_some_iff]
              refine ⟨?_, ?_, htenant⟩
              · cases role with
                | none => exact hrole
                | some role =>
                    change role = .admin
                    simpa using hnone.1
              · cases status with
                | none => exact hstatus
                | some status =>
                    change status = .active
                    simpa using hnone.2
            obtain ⟨n, hn, hmem⟩ := hcounted huserRole huserStatus hchanges
            have hcount : (Query.countUsers (administrators tenantId')).answer s 0 = n :=
              hread hfault hdemotes _ hmem
            obtain ⟨other, hstored, hadmin', hne⟩ :=
              exists_other_administrator (hcount ▸ hn) row.id
            exact hother other hstored hadmin' hne
          · obtain ⟨tenantId', user, hreadUser, hwaiting⟩ := hchecks
            exact absurd (huser _ _ tenantId' user rfl hreadUser).2.1 hwaiting
          · have hnot := hread hfault
            rw [hdemotes] at hnot
            cases hnot
          · exact absurd (hstays input.now row) hkeeps
      · exact hother row hrow hadmin hid

/-! ## Runs -/

/-- Whatever the interleaving of requests: when every write that takes an
administrator away, unless the database breaks it off, still finds what its call
has read, and no completed registration takes one away, a tenant that has an
active administrator keeps one. -/
theorem administrator_stays (P : Platform) (s : AuthStore) (acts : List AuthAction)
    (hread : (authSystem P).AlongActions (HistoryCondition DemotesAsRead) (Config.initial s) acts)
    (tenantId : Id) (pre post : List AuthAction) (hacts : acts = pre ++ post)
    (hadmin : HasAdministrator tenantId
      ((authSystem P).runActions (Config.initial s) pre).store) :
    HasAdministrator tenantId ((authSystem P).runActions (Config.initial s) acts).store := by
  subst hacts
  rw [(authSystem P).alongActions_append] at hread
  rw [(authSystem P).runActions_append]
  have hpre : ((authSystem P).runActions (Config.initial s) pre).Obeying
      (fun _ => ChecksAdministrators) (fun _ _ _ => True) :=
    (authSystem P).obeying_run (handle_checks P) pre _ (Config.obeying_initial _ _ s)
  have hknown : ((authSystem P).runActions (Config.initial s) pre).Knowing fun _ => KnownUser :=
    (authSystem P).knowing_run (P := fun _ _ _ => True)
      (fun cmd i s _ => knownUser_execute cmd i s) (fun _ _ _ _ _ h => h) pre _
      (Config.knowing_initial _ s) ((authSystem P).alongActions_callTrue pre _)
  refine ((authSystem P).run_invariant (J := fun c => c.Obeying (fun _ => ChecksAdministrators)
    (fun _ _ _ => True) ∧ c.Knowing (fun _ => KnownUser) ∧ HasAdministrator tenantId c.store)
    ?_ post _ ⟨hpre, hknown, hadmin⟩ hread.2).2.2
  rintro c a ⟨hobeys, hknown, hadmin⟩ hread
  refine ⟨(authSystem P).obeying_next (handle_checks P) c a hobeys,
    (authSystem P).knowing_next (P := fun _ _ _ => True)
      (fun cmd i s _ => knownUser_execute cmd i s) (fun _ _ _ _ _ h => h) c a hknown
      (callCondition_true c a), ?_⟩
  obtain ⟨r, rfl, hn⟩ | ⟨i, input, r, h, cmd, k, rfl, hi, -, hn⟩ | ⟨hn, -⟩ :=
    (authSystem P).next_cases c a
  · rw [hn]
    exact hadmin
  · rw [hn]
    simp only [HistoryCondition, hi] at hread
    exact hasAdministrator_execute hadmin (Config.obeying_call hobeys hi)
      (hknown _ (List.mem_of_getElem? hi)) hread
  · rw [hn]
    exact hadmin

end

/-! ## Two administrators -/

attribute [local instance] foldCase

/-- An administrator has registered a tenant and created a second one. -/
def twoAdministrators : AuthStore :=
  (authSystem plainPlatform).runCalls
    [(.registerTenant ⟨"Ana", "acme", "ana@acme", "Segredo-12", "Segredo-12", true, true⟩
        noMetadata, drawn 1),
      (.createUser "131" "130" ⟨"Bia", "bia@acme", .admin, some "Segredo-34", none⟩, drawn 2)]
    .empty

def demotion : UpdateAdminUserDto := ⟨none, some .operator, none⟩

/-- Each demotes the other, the second after the first has ended. -/
def orderedDemotions : List AuthAction :=
  [.start (.updateUser "131" "130" "220" demotion), .start (.updateUser "131" "220" "130" demotion),
    .step 0 (drawn 3 0), .step 0 (drawn 3 1), .step 0 (drawn 3 2), .step 0 (drawn 3 3),
    .step 1 (drawn 4 0), .step 1 (drawn 4 1), .step 1 (drawn 4 2)]

theorem orderedDemotions_keep_one :
    HasAdministrator "131" ((authSystem plainPlatform).runActions
      (Config.initial twoAdministrators) orderedDemotions).store :=
  administrator_stays plainPlatform twoAdministrators orderedDemotions (by decide +kernel) "131" []
    orderedDemotions rfl (by decide +kernel)

/-- Each demotes the other, and both have counted two administrators. -/
def crossedDemotions : List AuthAction :=
  [.start (.updateUser "131" "130" "220" demotion), .start (.updateUser "131" "220" "130" demotion),
    .step 0 (drawn 3 0), .step 0 (drawn 3 1), .step 1 (drawn 4 0), .step 1 (drawn 4 1),
    .step 0 (drawn 3 2), .step 1 (drawn 4 2)]

/-- No administrator is left. -/
theorem crossedDemotions_leave_none :
    HasAdministrator "131" twoAdministrators ∧
      ¬HasAdministrator "131" ((authSystem plainPlatform).runActions
        (Config.initial twoAdministrators) crossedDemotions).store := by
  decide +kernel

end Logistics.Auth
