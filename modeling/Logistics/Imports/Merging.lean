import Mathlib.Data.List.Find
import Logistics.Imports.Passes
import Logistics.Library.Merging

/-!
# An import of customers as a merge

What an import of customers is for: the register of the customers of every tenant,
which says of a document who has it, takes in the rows of the file. A row that
passes the checks is an entry for its document, and of each document only the first
entry counts. The runs of the handler, interrupted or not and however often they are
started over, do this to the register and nothing else; and each row gets the status
that can be foretold from the register before the run and the rows before it.
-/

namespace Logistics.Imports

open Logistics.Library Handlers

variable [Collation]

/-! ## The register -/

/-- What is kept of a customer beside its document. -/
structure CustomerContact where
  active : Bool
  name : String
  email : Option String
  phone : Option String
  deriving DecidableEq

def CustomerRow.contact (row : CustomerRow) : CustomerContact :=
  ⟨row.active, row.name, row.email, row.phone⟩

def CustomerData.contact (data : CustomerData) : CustomerContact :=
  ⟨true, data.name, orNull data.email, orNull data.phone⟩

/-- Who has a document in a tenant. -/
def register (s : HandlerStore) (key : Id × String) : Option CustomerContact :=
  (findCustomer s key.2 key.1).map CustomerRow.contact

/-- What a row puts into the register, if it passes the checks. -/
def customerEntry (P : HandlerPlatform) (settings : ImportSettings) (row : ParsedImportRow) :
    Option ((Id × String) × CustomerData) :=
  let data := CustomerImportHandler.readData P (settings.input row)
  if CustomerImportHandler.validateCustomer data = none then
    some ((settings.tenantId, data.document), data)
  else none

/-- A known customer is rewritten only where duplicates are to be updated. -/
def settle (strategy : ImportDuplicateStrategy) :
    Option CustomerContact → CustomerData → CustomerContact
  | none, data => data.contact
  | some contact, data => if strategy = .update then data.contact else contact

omit [Collation] in
theorem settle_settle (strategy : ImportDuplicateStrategy) (held : Option CustomerContact)
    (data : CustomerData) :
    settle strategy (some (settle strategy held data)) data = settle strategy held data := by
  cases held with
  | none => simp [settle]
  | some contact => by_cases h : strategy = .update <;> simp [settle, h]

/-- The register with some rows taken in. -/
def mergeCustomers (P : HandlerPlatform) (settings : ImportSettings) (rows : List ParsedImportRow)
    (held : Id × String → Option CustomerContact) : Id × String → Option CustomerContact :=
  merge (customerEntry P settings) (settle settings.duplicateStrategy) rows [] held

def statusFor (strategy : ImportDuplicateStrategy) : Option CustomerContact → ImportRowStatus
  | none => .success
  | some _ =>
      match strategy with
      | .fail => .error
      | .skip => .skipped
      | .update => .success

/-- The status that a row is to get, when the documents `seen` came before it. -/
def foretold (P : HandlerPlatform) (settings : ImportSettings) (seen : List (Id × String))
    (held : Id × String → Option CustomerContact) (row : ParsedImportRow) : ImportRowStatus :=
  match customerEntry P settings row with
  | none => .error
  | some (key, _) =>
      if key ∈ seen then .error else statusFor settings.duplicateStrategy (held key)

def documentsOf (P : HandlerPlatform) (settings : ImportSettings) (rows : List ParsedImportRow) :
    List (Id × String) :=
  (rows.filterMap (customerEntry P settings)).map Prod.fst

/-! ## What a write does to the register -/

section Register

variable {s : HandlerStore}

theorem key_eq_of_findCustomer {document : String} {tenantId : Id} {row other : CustomerRow}
    (hrow : findCustomer s document tenantId = some row) {document' : String} {tenantId' : Id}
    (hother : findCustomer s document' tenantId' = some other) (hid : other.id = row.id) :
    (tenantId', document') = (tenantId, document) := by
  have hfound := mem_of_findCustomer hrow
  have hmem := mem_of_findCustomer hother
  have hsame := (find?_customer hfound.1).symm
  rw [← hid, find?_customer hmem.1] at hsame
  obtain rfl := Option.some.inj hsame
  rw [← hfound.2.1, ← hmem.2.1, Option.some.inj (hfound.2.2.symm.trans hmem.2.2)]

theorem register_updated {document : String} {tenantId : Id} {row : CustomerRow}
    (hrow : findCustomer s document tenantId = some row) (now : Time) (data : CustomerData) :
    register (CustomerImportHandler.updated s now row.id data) =
      Function.update (register s) (tenantId, document) (some data.contact) := by
  have hfind : ∀ key : Id × String,
      findCustomer (CustomerImportHandler.updated s now row.id data) key.2 key.1 =
        (findCustomer s key.2 key.1).map fun other =>
          if other.id == row.id then
            (CustomerImportHandler.updateInput data).apply now other
          else other := by
    intro key
    change List.find? _ (s.customers.rows.map fun other => if other.id == row.id then
      (CustomerImportHandler.updateInput data).apply now other else other) = _
    rw [List.find?_map, findCustomer]
    congr 1
    apply List.find?_congr
    intro other _
    dsimp only [Function.comp_apply]
    split <;> rfl
  funext key
  by_cases hkey : key = (tenantId, document)
  · rw [hkey, Function.update_self, register, hfind, hrow, Option.map_some, beq_self_eq_true,
      if_pos rfl]
    rfl
  · rw [Function.update_of_ne hkey, register, hfind, register]
    cases hother : findCustomer s key.2 key.1 with
    | none => rfl
    | some other =>
        have hid : other.id ≠ row.id := fun h => hkey (key_eq_of_findCustomer hrow hother h)
        rw [Option.map_some, beq_eq_false_iff_ne.mpr hid, if_neg Bool.false_ne_true]

theorem register_created {tenantId : Id} {data : CustomerData}
    (hnone : findCustomer s data.document tenantId = none) {id : Id} {now : Time}
    {customers : Table CustomerRow CustomerKey CustomerRow.keys}
    (hinsert : s.customers.tryInsert
      ((CustomerImportHandler.createInput tenantId data).row id now) = some customers)
    (s' : HandlerStore) (hs' : s'.customers = customers) :
    register s' = Function.update (register s) (tenantId, data.document) (some data.contact) := by
  have hrows := Table.tryInsert_rows hinsert
  funext key
  have hfind : findCustomer s' key.2 key.1 = (findCustomer s key.2 key.1).or
      (if key = (tenantId, data.document) then
        some ((CustomerImportHandler.createInput tenantId data).row id now) else none) := by
    unfold findCustomer
    rw [hs', hrows, List.find?_append]
    congr 1
    rw [List.find?_singleton]
    have hcond :
      (((CustomerImportHandler.createInput tenantId data).row id now).tenantId == key.1 &&
        ((CustomerImportHandler.createInput tenantId data).row id now).document == some key.2) =
          true ↔ key = (tenantId, data.document) := by
      rw [Bool.and_eq_true, beq_iff_eq, beq_iff_eq, Prod.ext_iff]
      exact and_congr eq_comm (Option.some_inj.trans eq_comm)
    simp only [hcond]
  by_cases hkey : key = (tenantId, data.document)
  · rw [register, hfind, hkey, hnone, Option.none_or, if_pos rfl, Function.update_self]
    rfl
  · rw [register, hfind, if_neg hkey, Option.or_none, Function.update_of_ne hkey, register]

end Register

/-! ## Rows and passes -/

namespace CustomerImportHandler

def taken (input : ImportRowProcessInput) (data : CustomerData) (s : HandlerStore) :
    Id × String → Option CustomerContact :=
  Function.update (register s) (input.tenantId, data.document)
    (some (settle input.duplicateStrategy (register s (input.tenantId, data.document)) data))

theorem register_of_findCustomer {s : HandlerStore} {document : String} {tenantId : Id}
    {row : CustomerRow} (h : findCustomer s document tenantId = some row) :
    register s (tenantId, document) = some row.contact := by
  rw [register, h, Option.map_some]

theorem taken_of_none {input : ImportRowProcessInput} {data : CustomerData} {s : HandlerStore}
    (h : findCustomer s data.document input.tenantId = none) :
    taken input data s = Function.update (register s) (input.tenantId, data.document)
      (some data.contact) := by
  rw [taken, register, h]
  rfl

theorem taken_of_kept {input : ImportRowProcessInput} {data : CustomerData} {s : HandlerStore}
    {row : CustomerRow} (h : findCustomer s data.document input.tenantId = some row)
    (hstrategy : input.duplicateStrategy ≠ .update) : taken input data s = register s := by
  rw [taken, register_of_findCustomer h, settle, if_neg hstrategy, ← register_of_findCustomer h,
    Function.update_eq_self]

/-- A row that is not admitted changes nothing, one that is admitted is taken in; only
a row that is admitted can fail, and then it may have been taken in or not. -/
theorem register_of_effect {input : ImportRowProcessInput} {data : CustomerData}
    {seen : List String} {ω : ℕ → Input} {s s' : HandlerStore}
    {outcome : Except ServiceError (ImportRowProcessResult × List String)}
    (h : Effect input data seen ω s outcome s') :
    (∃ e, outcome = .error e ∧ Admitted data seen ∧
      (register s' = register s ∨ register s' = taken input data s)) ∨
    (∃ result, outcome = .ok (result, seen) ∧ ¬Admitted data seen ∧ result.status = .error ∧
      register s' = register s) ∨
    ∃ result, outcome = .ok (result, data.document :: seen) ∧ Admitted data seen ∧
      result.status = statusFor input.duplicateStrategy
        (register s (input.tenantId, data.document)) ∧ register s' = taken input data s := by
  cases h with
  | refused code message hnot hknown => exact .inr (.inl ⟨_, rfl, hnot, rfl, rfl⟩)
  | unread hadmitted hfault => exact .inl ⟨_, rfl, hadmitted, .inl rfl⟩
  | failed hadmitted row hfound hstrategy =>
      have hkept : input.duplicateStrategy ≠ .update := by
        rw [hstrategy]
        decide
      refine .inr (.inr ⟨_, rfl, hadmitted, ?_, (taken_of_kept hfound hkept).symm⟩)
      rw [register_of_findCustomer hfound, hstrategy]
      rfl
  | skipped hadmitted row hfound hstrategy =>
      have hkept : input.duplicateStrategy ≠ .update := by
        rw [hstrategy]
        decide
      refine .inr (.inr ⟨_, rfl, hadmitted, ?_, (taken_of_kept hfound hkept).symm⟩)
      rw [register_of_findCustomer hfound, hstrategy]
      rfl
  | updated hadmitted row hfound hstrategy hfits =>
      refine .inr (.inr ⟨_, rfl, hadmitted, ?_, ?_⟩)
      · rw [register_of_findCustomer hfound, hstrategy]
        rfl
      · rw [register_updated hfound, taken, register_of_findCustomer hfound, settle,
          if_pos hstrategy]
  | notUpdated hadmitted row hfound hstrategy hfails => exact .inl ⟨_, rfl, hadmitted, .inl rfl⟩
  | notCreated hadmitted hnone e hfails => exact .inl ⟨_, rfl, hadmitted, .inl rfl⟩
  | created hadmitted hnone hfits customers hinsert hplain =>
      refine .inr (.inr ⟨_, rfl, hadmitted, ?_, ?_⟩)
      · rw [register, hnone]
        rfl
      · rw [taken_of_none hnone]
        exact register_created hnone hinsert _ rfl
  | createdWithAddress hadmitted hnone hfits customers hinsert =>
      refine .inr (.inr ⟨_, rfl, hadmitted, ?_, ?_⟩)
      · rw [register, hnone]
        rfl
      · rw [taken_of_none hnone]
        exact register_created hnone hinsert _ rfl
  | addressFailed hadmitted hnone hfits customers hinsert haddress e =>
      refine .inl ⟨_, rfl, hadmitted, .inr ?_⟩
      rw [taken_of_none hnone]
      exact register_created hnone hinsert _ rfl

end CustomerImportHandler

section Passes

open CustomerImportHandler

variable {P : HandlerPlatform} {settings : ImportSettings}

omit [Collation] in
theorem customerEntry_of_admitted {row : ParsedImportRow} {seen : List String}
    (h : Admitted (readData P (settings.input row)) seen) :
    customerEntry P settings row = some ((settings.tenantId,
      (readData P (settings.input row)).document), readData P (settings.input row)) :=
  if_pos h.1

omit [Collation] in
theorem customerEntry_of_not_admitted {row : ParsedImportRow} {seen : List String}
    (h : ¬Admitted (readData P (settings.input row)) seen) :
    customerEntry P settings row = none ∨ ∃ key data, customerEntry P settings row =
      some (key, data) ∧ key ∈ seen.map (Prod.mk settings.tenantId) := by
  unfold customerEntry
  dsimp only
  by_cases hvalid : validateCustomer (readData P (settings.input row)) = none
  · rw [if_pos hvalid]
    have hseen : (readData P (settings.input row)).document ∈ seen :=
      by_contra fun hnot => h ⟨hvalid, hnot⟩
    exact .inr ⟨_, _, rfl, List.mem_map_of_mem hseen⟩
  · exact .inl (if_neg hvalid)

omit [Collation] in
theorem not_mem_seen {document : String} {seen : List String} {tenantId : Id}
    (h : document ∉ seen) : (tenantId, document) ∉ seen.map (Prod.mk tenantId) := by
  intro hmem
  obtain ⟨other, hother, heq⟩ := List.mem_map.mp hmem
  exact h ((Prod.mk.inj heq).2 ▸ hother)

/-- The rows that a pass has taken in are those with results and, where the pass has
been stopped, perhaps the one at which it was. -/
theorem register_of_pass (htype : settings.type = .customers) {rows : List ParsedImportRow}
    {seen : List String} {s s' : HandlerStore} {results : List ImportRowProcessResult}
    (h : Pass P settings rows seen s results s') :
    ∃ n ≤ rows.length, results.length ≤ n ∧ n ≤ results.length + 1 ∧
      register s' = merge (customerEntry P settings) (settle settings.duplicateStrategy)
        (rows.take n) (seen.map (Prod.mk settings.tenantId)) (register s) := by
  induction h with
  | nil seen s => exact ⟨0, le_rfl, le_rfl, Nat.zero_le _, rfl⟩
  | stopped row rest seen ω s s' e h =>
      rcases register_of_effect (effect_of_run htype h) with
        ⟨e', -, hadmitted, hsame | htaken⟩ | ⟨result, hok, -⟩ | ⟨result, hok, -⟩
      · exact ⟨0, Nat.zero_le _, le_rfl, Nat.zero_le _, hsame⟩
      · refine ⟨1, Nat.succ_le_succ (Nat.zero_le _), Nat.zero_le _, le_rfl, ?_⟩
        rw [htaken, List.take_succ_cons, List.take_zero, merge, customerEntry_of_admitted hadmitted]
        dsimp only
        rw [if_neg (not_mem_seen hadmitted.2)]
        rfl
      · cases hok
      · cases hok
  | next row rest seen seen' ω s s₁ s' result results h hrest ih =>
      obtain ⟨n, hn, hlower, hupper, hregister⟩ := ih
      refine ⟨n + 1, Nat.succ_le_succ hn, Nat.succ_le_succ hlower, Nat.succ_le_succ hupper, ?_⟩
      rw [hregister, List.take_succ_cons, merge]
      rcases register_of_effect (effect_of_run htype h) with
        ⟨e', hfailed, -⟩ | ⟨result', hok, hnot, -, hsame⟩ | ⟨result', hok, hadmitted, -, htaken⟩
      · cases hfailed
      · obtain ⟨rfl, rfl⟩ := Prod.mk.inj (Except.ok.inj hok)
        rw [hsame]
        rcases customerEntry_of_not_admitted (P := P) hnot with hnone | ⟨key, data, hsome, hseen⟩
        · rw [hnone]
        · rw [hsome]
          exact (if_pos hseen).symm
      · obtain ⟨rfl, rfl⟩ := Prod.mk.inj (Except.ok.inj hok)
        rw [htaken, customerEntry_of_admitted hadmitted]
        exact (if_neg (not_mem_seen hadmitted.2)).symm

omit [Collation] in
theorem mem_documentsOf_cons {row : ParsedImportRow} {rest : List ParsedImportRow}
    {key : Id × String} : key ∈ documentsOf P settings (row :: rest) ↔
      (∃ data, customerEntry P settings row = some (key, data)) ∨
        key ∈ documentsOf P settings rest := by
  unfold documentsOf
  cases hentry : customerEntry P settings row with
  | none => simp [List.filterMap_cons_none hentry]
  | some entry =>
      rw [List.filterMap_cons_some hentry, List.map_cons, List.mem_cons]
      apply or_congr_left
      constructor
      · rintro rfl
        exact ⟨entry.2, rfl⟩
      · rintro ⟨data, hdata⟩
        rw [Option.some.inj hdata]

omit [Collation] in
/-- Who has a document counts only where it was not seen. -/
theorem foretold_congr {seen seen' : List (Id × String)}
    {held held' : Id × String → Option CustomerContact} (hseen : ∀ key, key ∈ seen ↔ key ∈ seen')
    (hheld : ∀ key, key ∉ seen → held key = held' key) (row : ParsedImportRow) :
    foretold P settings seen held row = foretold P settings seen' held' row := by
  unfold foretold
  cases customerEntry P settings row with
  | none => rfl
  | some entry =>
      dsimp only
      by_cases hkey : entry.1 ∈ seen
      · rw [if_pos hkey, if_pos ((hseen _).mp hkey)]
      · rw [if_neg hkey, if_neg fun h => hkey ((hseen _).mpr h), hheld _ hkey]

theorem status_of_run (htype : settings.type = .customers) {row : ParsedImportRow}
    {seen seen' : List String} {ω : ℕ → Input} {s s' : HandlerStore}
    {result : ImportRowProcessResult}
    (h : (processRow P settings.type (settings.input row) seen).run executeQuery ω s =
      (.ok (result, seen'), s')) :
    result.status =
      foretold P settings (seen.map (Prod.mk settings.tenantId)) (register s) row := by
  rcases register_of_effect (effect_of_run htype h) with
    ⟨e', hfailed, -⟩ | ⟨result', hok, hnot, hstatus, -⟩ | ⟨result', hok, hadmitted, hstatus, -⟩
  · cases hfailed
  · rw [(Prod.mk.inj (Except.ok.inj hok)).1, hstatus, foretold]
    rcases customerEntry_of_not_admitted (P := P) hnot with hnone | ⟨key, data, hsome, hseen⟩
    · rw [hnone]
    · rw [hsome]
      exact (if_pos hseen).symm
  · rw [(Prod.mk.inj (Except.ok.inj hok)).1, hstatus, foretold, customerEntry_of_admitted hadmitted]
    exact (if_neg (not_mem_seen hadmitted.2)).symm

/-- What a row leaves behind makes no difference to what is foretold, once the row is
among those that came before. -/
theorem foretold_of_run (htype : settings.type = .customers) {row : ParsedImportRow}
    {seen seen' : List String} {ω : ℕ → Input} {s s' : HandlerStore}
    {result : ImportRowProcessResult}
    (h : (processRow P settings.type (settings.input row) seen).run executeQuery ω s =
      (.ok (result, seen'), s')) (rest : List ParsedImportRow) (other : ParsedImportRow) :
    foretold P settings (seen'.map (Prod.mk settings.tenantId) ++ documentsOf P settings rest)
        (register s') other =
      foretold P settings
        (seen.map (Prod.mk settings.tenantId) ++ documentsOf P settings (row :: rest))
        (register s) other := by
  rcases register_of_effect (effect_of_run htype h) with
    ⟨e', hfailed, -⟩ | ⟨result', hok, hnot, -, hsame⟩ | ⟨result', hok, hadmitted, -, htaken⟩
  · cases hfailed
  · rw [(Prod.mk.inj (Except.ok.inj hok)).2, hsame]
    apply foretold_congr ?_ fun _ _ => rfl
    intro key
    rw [List.mem_append, List.mem_append, mem_documentsOf_cons]
    rcases customerEntry_of_not_admitted (P := P) hnot with hnone | ⟨key', data, hsome, hseen⟩
    · rw [hnone]
      simp
    · rw [hsome]
      constructor
      · rintro (hkey | hkey)
        · exact .inl hkey
        · exact .inr (.inr hkey)
      · rintro (hkey | ⟨data', hkey⟩ | hkey)
        · exact .inl hkey
        · rw [← (Prod.mk.inj (Option.some.inj hkey)).1]
          exact .inl hseen
        · exact .inr hkey
  · rw [(Prod.mk.inj (Except.ok.inj hok)).2, htaken]
    have hentry := customerEntry_of_admitted hadmitted
    apply foretold_congr
    · intro key
      rw [List.mem_append, List.mem_append, mem_documentsOf_cons, hentry, List.map_cons,
        List.mem_cons]
      constructor
      · rintro ((rfl | hkey) | hkey)
        · exact .inr (.inl ⟨_, rfl⟩)
        · exact .inl hkey
        · exact .inr (.inr hkey)
      · rintro (hkey | ⟨data', hkey⟩ | hkey)
        · exact .inl (.inr hkey)
        · exact .inl (.inl (Prod.mk.inj (Option.some.inj hkey)).1.symm)
        · exact .inr hkey
    · intro key hkey
      apply Function.update_of_ne
      rintro rfl
      exact hkey (List.mem_append_left _ List.mem_cons_self)

theorem status_of_pass (htype : settings.type = .customers) {rows : List ParsedImportRow}
    {seen : List String} {s s' : HandlerStore} {results : List ImportRowProcessResult}
    (h : Pass P settings rows seen s results s') {i : ℕ} {result : ImportRowProcessResult}
    (hi : results[i]? = some result) :
    ∃ row, rows[i]? = some row ∧ result.status = foretold P settings
      (seen.map (Prod.mk settings.tenantId) ++ documentsOf P settings (rows.take i))
      (register s) row := by
  induction h generalizing i with
  | nil seen s => cases hi
  | stopped row rest seen ω s s' e h => cases hi
  | next row rest seen seen' ω s s₁ s' first results h hrest ih =>
      cases i with
      | zero =>
          refine ⟨row, rfl, ?_⟩
          rw [← Option.some.inj hi, status_of_run htype h, List.take_zero]
          exact foretold_congr (fun key => by simp [documentsOf]) (fun _ _ => rfl) row
      | succ i =>
          obtain ⟨other, hother, hstatus⟩ := ih hi
          refine ⟨other, hother, hstatus.trans ?_⟩
          rw [List.take_succ_cons]
          exact foretold_of_run htype h (rest.take i) other

end Passes

/-! ## Runs -/

section Runs

variable (P : HandlerPlatform) (tenantId : Id) (strategy : ImportDuplicateStrategy)
  (mapping : List (String × String)) (rows : List ParsedImportRow)

/-- What stays the same in an import of customers. -/
def customerSettings : ImportSettings := ⟨.customers, tenantId, strategy, mapping⟩

omit [Collation] in
theorem mergeCustomers_apply (held : Id × String → Option CustomerContact) (key : Id × String) :
    mergeCustomers P (customerSettings tenantId strategy mapping) rows held key =
      match firstEntry (customerEntry P (customerSettings tenantId strategy mapping)) rows key with
      | none => held key
      | some data => some (settle strategy (held key) data) := by
  rw [mergeCustomers, merge_nil_apply]
  cases firstEntry (customerEntry P (customerSettings tenantId strategy mapping)) rows key with
  | none => rfl
  | some data => rfl

/-- Whatever fails on the way, the rows up to some point have been taken into the
register: of each document in them the first row that passes the checks, over what
the register held. -/
theorem importRows_register (ω : ℕ → Input) (s : HandlerStore) :
    ∃ results s', (importRows P (customerSettings tenantId strategy mapping) rows []).run
        executeQuery ω s = (.ok results, s') ∧
      ∃ n ≤ rows.length, results.length ≤ n ∧ n ≤ results.length + 1 ∧
        ∀ key, register s' key =
          match firstEntry (customerEntry P (customerSettings tenantId strategy mapping))
            (rows.take n) key with
          | none => register s key
          | some data => some (settle strategy (register s key) data) := by
  obtain ⟨results, s', hrun, hpass⟩ := importRows_pass P
    (customerSettings tenantId strategy mapping) rows [] ω s
  obtain ⟨n, hn, hlower, hupper, hregister⟩ := register_of_pass rfl hpass
  refine ⟨results, s', hrun, n, hn, hlower, hupper, fun key => ?_⟩
  rw [hregister]
  exact mergeCustomers_apply P tenantId strategy mapping (rows.take n) (register s) key

/-- The status of each row is settled before the run: by the register at its start and
the rows before it in the file. -/
theorem importRows_statuses (ω : ℕ → Input) (s : HandlerStore) :
    ∃ results s', (importRows P (customerSettings tenantId strategy mapping) rows []).run
        executeQuery ω s = (.ok results, s') ∧
      ∀ i result, results[i]? = some result → ∃ row, rows[i]? = some row ∧
        result.status = foretold P (customerSettings tenantId strategy mapping)
          (documentsOf P (customerSettings tenantId strategy mapping) (rows.take i))
          (register s) row := by
  obtain ⟨results, s', hrun, hpass⟩ := importRows_pass P
    (customerSettings tenantId strategy mapping) rows [] ω s
  exact ⟨results, s', hrun, fun i result hi => status_of_pass rfl hpass hi⟩

/-- The rows imported over and over, with the results of each time. -/
def importAgain : List (ℕ → Input) → HandlerStore →
    List (List ImportRowProcessResult) × HandlerStore
  | [], s => ([], s)
  | ω :: rest, s =>
      let first := (importRows P (customerSettings tenantId strategy mapping) rows []).run
        executeQuery ω s
      let again := importAgain rest first.2
      (first.1.toOption.toList ++ again.1, again.2)

theorem importAgain_merge (runs : List (ℕ → Input)) (s : HandlerStore) :
    ∃ n ≤ rows.length,
      (∀ results ∈ (importAgain P tenantId strategy mapping rows runs s).1, results.length ≤ n) ∧
      (n = 0 ∨ ∃ results ∈ (importAgain P tenantId strategy mapping rows runs s).1,
        n ≤ results.length + 1) ∧
      register (importAgain P tenantId strategy mapping rows runs s).2 =
        mergeCustomers P (customerSettings tenantId strategy mapping) (rows.take n)
          (register s) := by
  induction runs generalizing s with
  | nil => exact ⟨0, Nat.zero_le _, fun _ h => absurd h List.not_mem_nil, .inl rfl, rfl⟩
  | cons ω rest ih =>
      obtain ⟨results, s', hrun, hpass⟩ := importRows_pass P
        (customerSettings tenantId strategy mapping) rows [] ω s
      obtain ⟨n, hn, hlower, hupper, hregister⟩ := register_of_pass rfl hpass
      obtain ⟨m, hm, hbound, hreached, hagain⟩ := ih s'
      unfold importAgain
      dsimp only
      rw [hrun]
      refine ⟨max n m, max_le hn hm, ?_, ?_, ?_⟩
      · intro other hother
        rcases List.mem_append.mp hother with hfirst | hrest
        · obtain rfl := List.mem_singleton.mp hfirst
          exact hlower.trans (le_max_left n m)
        · exact (hbound other hrest).trans (le_max_right n m)
      · -- the first run reaches the rows it adds, some later run those it does not
        right
        rcases le_total m n with hmn | hnm
        · rw [max_eq_left hmn]
          exact ⟨results, List.mem_append_left _ List.mem_cons_self, hupper⟩
        · rw [max_eq_right hnm]
          rcases hreached with rfl | ⟨other, hother, hle⟩
          · exact ⟨results, List.mem_append_left _ List.mem_cons_self, Nat.zero_le _⟩
          · exact ⟨other, List.mem_append_right _ hother, hle⟩
      · rw [hagain, hregister]
        exact merge_take_take _ _ (settle_settle strategy) rows n m (register s)

/-- An import that is started over does no more than one that gets through: however
often the rows are imported and wherever the runs break off, the register is as after
one run over the first rows, as many as some run has had results for or one more, the
row it broke off at. These are all rows as soon as one of the runs has had a result for
each. -/
theorem importAgain_register (runs : List (ℕ → Input)) (s : HandlerStore) :
    ∃ n ≤ rows.length,
      (∀ results ∈ (importAgain P tenantId strategy mapping rows runs s).1, results.length ≤ n) ∧
      (n = 0 ∨ ∃ results ∈ (importAgain P tenantId strategy mapping rows runs s).1,
        n ≤ results.length + 1) ∧
      ∀ key, register (importAgain P tenantId strategy mapping rows runs s).2 key =
        match firstEntry (customerEntry P (customerSettings tenantId strategy mapping))
          (rows.take n) key with
        | none => register s key
        | some data => some (settle strategy (register s key) data) := by
  obtain ⟨n, hn, hbound, hreached, hregister⟩ :=
    importAgain_merge P tenantId strategy mapping rows runs s
  refine ⟨n, hn, hbound, hreached, fun key => ?_⟩
  rw [hregister]
  exact mergeCustomers_apply P tenantId strategy mapping (rows.take n) (register s) key

end Runs

end Logistics.Imports
