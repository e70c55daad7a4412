import Logistics.Customers.Documents
import Logistics.Quoting.Listing

/-!
# The search for customers

`list` of the customers service: one page of the customers of a tenant, by name. A
search term is looked for in the names, and its digits in the documents. A term
without digits leaves the empty text, which every document contains.
-/

namespace Logistics.Customers

open Logistics.Library
open Logistics.Quoting (PaginatedResult truthy hasLength)

structure CustomerRow extends Customer where
  document : Option String
  email : Option String
  phone : Option String
  createdAt : Time
  updatedAt : Time
  deriving DecidableEq

structure CustomerDto where
  active : Bool
  createdAt : Time
  document : Option String
  email : Option String
  id : Id
  name : String
  phone : Option String
  updatedAt : Time
  deriving DecidableEq

def presentCustomer (customer : CustomerRow) : CustomerDto where
  active := customer.active
  createdAt := customer.createdAt
  document := customer.document
  email := customer.email
  id := customer.id
  name := customer.name
  phone := customer.phone
  updatedAt := customer.updatedAt

structure ListCustomersDto where
  page : ℕ
  perPage : ℕ
  search : Option String
  active : Option Bool

def ListCustomersDto.isValid (query : ListCustomersDto) : Bool :=
  1 ≤ query.page && 1 ≤ query.perPage && query.perPage ≤ 100 &&
    query.search.all (hasLength 0 120)

/-! ## The database -/

/-- How the database compares texts: in what order, and which characters are one letter. -/
structure Collation where
  le : String → String → Bool
  fold : Char → Char

/-- `contains` -/
def Collation.contains (C : Collation) (text term : String) : Bool :=
  term.toList.map C.fold <:+: text.toList.map C.fold

/-- `OR: [{ name: { contains } }, { document: { contains } }]` -/
structure CustomerSearch where
  name : String
  document : String

structure CustomerWhereInput where
  tenantId : Id
  active : Option Bool
  search : Option CustomerSearch

section Database

variable (C : Collation)

def CustomerWhereInput.holds (filter : CustomerWhereInput) (row : CustomerRow) : Bool :=
  row.tenantId == filter.tenantId && filter.active.all (fun active => row.active == active) &&
    filter.search.all fun search =>
      C.contains row.name search.name ||
        row.document.any fun document => C.contains document search.document

/-- `orderBy: [{ name: 'asc' }, { id: 'asc' }]` -/
def byNameLE (a b : CustomerRow) : Bool :=
  if C.le a.name b.name && C.le b.name a.name then C.le a.id b.id else C.le a.name b.name

/-- The transaction of `list`: one page of the customers and their number. -/
inductive ListCommand
  | findPage (filter : CustomerWhereInput) (skip take : ℕ)

@[reducible] def ListCommand.Result : ListCommand → Type
  | .findPage .. => List CustomerRow × ℕ

@[reducible] def listInterface : Interface := ⟨ListCommand, ListCommand.Result, ServiceError⟩

def matching (filter : CustomerWhereInput) (rows : List CustomerRow) : List CustomerRow :=
  (rows.filter (filter.holds C)).insertionSort fun a b => byNameLE C a b

def findPage (filter : CustomerWhereInput) (skip take : ℕ) (rows : List CustomerRow) :
    List CustomerRow × ℕ :=
  (((matching C filter rows).drop skip).take take, (matching C filter rows).length)

def execute : (c : ListCommand) → Input → List CustomerRow →
    Response listInterface c × List CustomerRow
  | .findPage filter skip take, input, rows =>
      if input.fault then (.error .fault, rows) else (.ok (findPage C filter skip take rows), rows)

end Database

/-! ## The operation -/

def whereInput (tenantId : Id) (query : ListCustomersDto) : CustomerWhereInput where
  tenantId := tenantId
  active := query.active
  search := (truthy (query.search.map trim)).map fun term => ⟨term, onlyDigits query.search⟩

def presentPage (query : ListCustomersDto) (page : List CustomerRow × ℕ) :
    PaginatedResult CustomerDto where
  data := page.1.map presentCustomer
  paginationMeta := {
    page := query.page
    perPage := query.perPage
    total := page.2
    totalPages := (page.2 + query.perPage - 1) / query.perPage }

def list (tenantId : Id) (query : ListCustomersDto) :
    Program listInterface (PaginatedResult CustomerDto) := do
  let page ← @Program.perform listInterface
    (.findPage (whereInput tenantId query) ((query.page - 1) * query.perPage) query.perPage)
  pure (presentPage query page)

/-! ## What is found -/

section Found

variable (C : Collation) (term : String)

/-- The name contains the term, or the document its digits, of which there are some. -/
def Matches (customer : CustomerDto) : Prop :=
  C.contains customer.name (trim term) = true ∨
    (onlyDigits (some term) ≠ "" ∧
      customer.document.any (C.contains · (onlyDigits (some term))) = true)

/-- Every customer that the term finds, on any page, matches it. -/
def FindsMatches (tenantId : Id) (active : Option Bool) (rows : List CustomerRow) : Prop :=
  ∀ query : ListCustomersDto, query.isValid = true → query.search = some term →
    query.active = active → ∀ (ω : ℕ → Input) (result : PaginatedResult CustomerDto),
      ((list tenantId query).run (execute C) ω rows).1 = .ok result →
        ∀ customer ∈ result.data, Matches C term customer

/-- Every customer that is asked for and has a document has a name with the term. -/
def DocumentsNamed (tenantId : Id) (active : Option Bool) (rows : List CustomerRow) : Prop :=
  ∀ row ∈ rows, row.tenantId = tenantId → active.all (fun active => row.active == active) = true →
    row.document.isSome = true → C.contains row.name (trim term) = true

variable {C term}

theorem contains_empty (text : String) : C.contains text "" = true :=
  decide_eq_true List.nil_infix

theorem run_list (tenantId : Id) (query : ListCustomersDto) (ω : ℕ → Input)
    (rows : List CustomerRow) :
    ((list tenantId query).run (execute C) ω rows).1 =
      if (ω 0).fault then .error .fault
      else .ok (presentPage query (findPage C (whereInput tenantId query)
        ((query.page - 1) * query.perPage) query.perPage rows)) := by
  unfold list
  cases hfault : (ω 0).fault with
  | true =>
      rw [Program.run_perform_bind_error (by simp only [execute, hfault]; rfl)]
      rfl
  | false =>
      rw [Program.run_perform_bind_ok (by simp only [execute, hfault]; rfl)]
      rfl

theorem mem_matching_iff {filter : CustomerWhereInput} {rows : List CustomerRow}
    {row : CustomerRow} :
    row ∈ matching C filter rows ↔ row ∈ rows ∧ filter.holds C row = true := by
  rw [matching, List.mem_insertionSort, List.mem_filter]

theorem getElem_mem_page {α : Type} {xs : List α} {place : ℕ} (h : place < xs.length) :
    xs[place] ∈ (xs.drop place).take 1 := by
  rw [List.drop_eq_getElem_cons h]
  exact List.mem_cons_self

theorem whereInput_search {tenantId : Id} {query : ListCustomersDto}
    (hsearch : query.search = some term) (hterm : trim term ≠ "") :
    (whereInput tenantId query).search = some ⟨trim term, onlyDigits (some term)⟩ := by
  simp [whereInput, hsearch, truthy, Option.filter, hterm]

theorem holds_whereInput_iff {tenantId : Id} {query : ListCustomersDto}
    (hsearch : query.search = some term) (hterm : trim term ≠ "") {row : CustomerRow} :
    (whereInput tenantId query).holds C row = true ↔
      row.tenantId = tenantId ∧ query.active.all (fun active => row.active == active) = true ∧
        (C.contains row.name (trim term) = true ∨
          row.document.any (C.contains · (onlyDigits (some term))) = true) := by
  rw [CustomerWhereInput.holds, whereInput_search hsearch hterm]
  simp [whereInput, and_assoc]

/-- A search finds only what matches the term exactly when the term has a digit, or
every customer that has a document has the term in the name too. -/
theorem findsMatches_iff (tenantId : Id) (active : Option Bool) (rows : List CustomerRow)
    (hlength : hasLength 0 120 term = true) (hterm : trim term ≠ "") :
    FindsMatches C term tenantId active rows ↔
      onlyDigits (some term) ≠ "" ∨ DocumentsNamed C term tenantId active rows := by
  constructor
  · intro h
    by_cases hdigits : onlyDigits (some term) = ""
    · refine .inr fun row hrow htenant hactive hdocument => ?_
      -- the customer is the only one of its page
      have hholds : ∀ page, (whereInput tenantId ⟨page, 1, some term, active⟩).holds C row = true :=
        fun page => (holds_whereInput_iff rfl hterm).mpr ⟨htenant, hactive, .inr (by
          obtain ⟨document, hsome⟩ := Option.isSome_iff_exists.mp hdocument
          rw [hsome, hdigits]
          exact contains_empty document)⟩
      have hmem : ∀ page,
          row ∈ matching C (whereInput tenantId ⟨page, 1, some term, active⟩) rows :=
        fun page => mem_matching_iff.mpr ⟨hrow, hholds page⟩
      obtain ⟨place, hplace, hget⟩ := List.mem_iff_getElem.mp (hmem 0)
      have hvalid : (ListCustomersDto.mk (place + 1) 1 (some term) active).isValid = true := by
        simp [ListCustomersDto.isValid, hlength]
      have hmatches := h _ hvalid rfl rfl (fun _ => ⟨0, fun _ => "", false, fun _ => 0⟩) _
        (run_list tenantId _ _ rows) (presentCustomer row) (List.mem_map_of_mem (by
          rw [← hget, findPage, Nat.add_sub_cancel, Nat.mul_one]
          exact getElem_mem_page hplace))
      rcases hmatches with hname | ⟨hsome, -⟩
      · exact hname
      · exact absurd hdigits hsome
    · exact .inl hdigits
  · rintro h query - hsearch rfl ω result hresult customer hcustomer
    rw [run_list] at hresult
    split at hresult
    · cases hresult
    · cases hresult
      obtain ⟨row, hpage, rfl⟩ := List.mem_map.mp hcustomer
      obtain ⟨hrow, hholds⟩ :=
        mem_matching_iff.mp (List.mem_of_mem_drop (List.mem_of_mem_take hpage))
      obtain ⟨htenant, hactive, hfound⟩ := (holds_whereInput_iff hsearch hterm).mp hholds
      rcases hfound with hname | hdocument
      · exact .inl hname
      · rcases h with hdigits | hnamed
        · exact .inr ⟨hdigits, hdocument⟩
        · exact .inl (hnamed row hrow htenant hactive (Option.isSome_of_any hdocument))

/-- Letters are the same in both cases. -/
def plainCollation : Collation := ⟨fun a b => a ≤ b, Char.toLower⟩

def registered (id : Id) (name document : String) : CustomerRow where
  id := id
  tenantId := "tenant"
  name := name
  active := true
  document := some document
  email := none
  phone := none
  createdAt := 0
  updatedAt := 0

/-- A term of letters and digits finds what has these digits. -/
theorem findsMatches_of_digits :
    FindsMatches plainCollation "cpf 529" "tenant" none
      [registered "a" "Ana" "52998224725", registered "b" "Beto" "11144477735"] :=
  (findsMatches_iff "tenant" none _ (by decide +kernel) (by decide +kernel)).mpr
    (.inl (by decide +kernel))

/-- A name that nobody has finds everybody with a document. -/
theorem zeca_finds_ana :
    ¬∀ (term : String) (tenantId : Id) (active : Option Bool) (rows : List CustomerRow),
      hasLength 0 120 term = true → trim term ≠ "" →
        FindsMatches plainCollation term tenantId active rows := by
  intro h
  have hzeca := h "Zeca" "tenant" none [registered "a" "Ana" "52998224725"] (by decide +kernel)
    (by decide +kernel) ⟨1, 20, some "Zeca", none⟩ (by decide +kernel) rfl rfl
    (fun _ => ⟨0, fun _ => "", false, fun _ => 0⟩) _ (run_list "tenant" _ _ _)
    (presentCustomer (registered "a" "Ana" "52998224725")) (by decide +kernel)
  rcases hzeca with hname | ⟨hdigits, -⟩
  · exact absurd hname (by decide +kernel)
  · exact hdigits (by decide +kernel)

end Found

end Logistics.Customers
