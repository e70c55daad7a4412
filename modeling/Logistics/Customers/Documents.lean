import Logistics.Library.CheckDigits
import Logistics.Schema.Errors

/-!
# Documents of customers

A document is a CPF of 11 digits or a CNPJ of 14, each with two check digits modulo
11 at the end, and not one digit repeated. This is the check of the customers
service, which works on the text of the digits, and the rule it is to follow.
-/

namespace Logistics.Customers

open Logistics.Library

/-! ## The rule -/

def cpfFirst : List ℕ := [10, 9, 8, 7, 6, 5, 4, 3, 2]

def cpfSecond : List ℕ := [11, 10, 9, 8, 7, 6, 5, 4, 3, 2]

def cnpjFirst : List ℕ := [5, 4, 3, 2, 9, 8, 7, 6, 5, 4, 3, 2]

def cnpjSecond : List ℕ := [6, 5, 4, 3, 2, 9, 8, 7, 6, 5, 4, 3, 2]

def IsDocument (digits : List ℕ) : Prop :=
  (HasCheckDigits cpfFirst cpfSecond digits ∨ HasCheckDigits cnpjFirst cnpjSecond digits) ∧
    ¬AllEqual digits

/-! ## The check of the service -/

def onlyDigits (value : Option String) : String :=
  String.ofList ((value.getD "").toList.filter Char.isDigit)

def normalizeDocument (value : String) : Option String :=
  if (onlyDigits (some value)).length > 0 then some (onlyDigits (some value)) else none

/-- `value.slice(0, count)` -/
def slice (value : String) (count : ℕ) : String := String.ofList (value.toList.take count)

def calculateCpfDigit (input : String) : ℕ :=
  let sum := input.toList.zipIdx.foldl (fun total entry =>
    total + digitValue entry.1 * (input.toList.length + 1 - entry.2)) 0
  let remainder := sum * 10 % 11
  if remainder = 10 then 0 else remainder

def isValidCpf (document : String) : Bool :=
  if repeatsOneDigit document then false
  else
    let firstDigit := calculateCpfDigit (slice document 9)
    let secondDigit := calculateCpfDigit (slice document 9 ++ toString firstDigit)
    document == slice document 9 ++ toString firstDigit ++ toString secondDigit

def calculateCnpjDigit (input : String) (weights : List ℕ) : ℕ :=
  let sum := input.toList.zipIdx.foldl (fun total entry =>
    total + digitValue entry.1 * weights.getD entry.2 0) 0
  let remainder := sum % 11
  if remainder < 2 then 0 else 11 - remainder

def isValidCnpj (document : String) : Bool :=
  if repeatsOneDigit document then false
  else
    let firstDigit := calculateCnpjDigit (slice document 12) [5, 4, 3, 2, 9, 8, 7, 6, 5, 4, 3, 2]
    let secondDigit := calculateCnpjDigit (slice document 12 ++ toString firstDigit)
      [6, 5, 4, 3, 2, 9, 8, 7, 6, 5, 4, 3, 2]
    document == slice document 12 ++ toString firstDigit ++ toString secondDigit

/-- A document that is not given, or has no digits, is not looked at. -/
def validateDocument : Option String → Except ServiceError Unit
  | none => .ok ()
  | some document =>
      if utf16Length document = 11 ∧ isValidCpf document then .ok ()
      else if utf16Length document = 14 ∧ isValidCnpj document then .ok ()
      else .error (.badRequest "Customer document must be a valid CPF or CNPJ.")

/-! ## The check follows the rule -/

def digitsOf (document : String) : List ℕ := document.toList.map digitValue

theorem foldl_digits (input : String) (weight : ℕ → ℕ) :
    input.toList.zipIdx.foldl (fun total entry => total + digitValue entry.1 * weight entry.2) 0 =
      weightedSum ((List.range' 0 (digitsOf input).length).map weight) (digitsOf input) := by
  have hzip := foldl_zipIdx_eq_weightedSum weight (digitsOf input) 0 0
  rw [digitsOf, List.zipIdx_map, List.foldl_map, Nat.zero_add] at hzip
  exact hzip

theorem calculateCpfDigit_eq {input : String} {weights : List ℕ}
    (h : (List.range' 0 (digitsOf input).length).map (fun place =>
      (digitsOf input).length + 1 - place) = weights) :
    calculateCpfDigit input = checkDigit (weightedSum weights (digitsOf input)) := by
  have hlength : input.toList.length = (digitsOf input).length := (List.length_map _).symm
  unfold calculateCpfDigit
  rw [hlength, foldl_digits, h]
  exact checkDigit_eq_tenfold _

theorem calculateCnpjDigit_eq {input : String} {weights : List ℕ}
    (h : (digitsOf input).length = weights.length) :
    calculateCnpjDigit input weights = checkDigit (weightedSum weights (digitsOf input)) := by
  have hsum := foldl_digits input fun place => weights.getD place 0
  rw [h, map_getD_range'] at hsum
  rw [calculateCnpjDigit, hsum]
  rfl

section Texts

variable {document : String}

theorem split_digits (hdigits : ∀ c ∈ document.toList, c.isDigit = true) {count : ℕ}
    (hlength : document.toList.length = count + 2) :
    ∃ body x y, document = String.ofList (body ++ [x, y]) ∧ body.length = count ∧
      slice document count = String.ofList body ∧ (x.isDigit = true ∧ y.isDigit = true) ∧
      digitsOf document = body.map digitValue ++ [digitValue x, digitValue y] := by
  have hsplit := (List.take_append_drop count document.toList).symm
  have hrest : (document.toList.drop count).length = 2 := by
    rw [List.length_drop, hlength, Nat.add_sub_cancel_left]
  obtain ⟨x, y, hxy⟩ := List.length_eq_two.mp hrest
  rw [hxy] at hsplit
  have hx : x ∈ document.toList.drop count := by simp [hxy]
  have hy : y ∈ document.toList.drop count := by simp [hxy]
  refine ⟨document.toList.take count, x, y, ?_, ?_, rfl,
    ⟨hdigits x (List.mem_of_mem_drop hx), hdigits y (List.mem_of_mem_drop hy)⟩, ?_⟩
  · rw [← hsplit, String.ofList_toList]
  · rw [List.length_take, hlength]
    omega
  · rw [digitsOf]
    conv_lhs => rw [hsplit]
    rw [List.map_append]
    rfl

/-- A text is its digits with two check digits behind them exactly when it has these
check digits. -/
theorem eq_slice_append_iff (hdigits : ∀ c ∈ document.toList, c.isDigit = true)
    (first second : List ℕ) (hlength : document.toList.length = first.length + 2)
    (hsecond : second.length = first.length + 1) (calculateFirst calculateSecond : String → ℕ)
    (hfirst : ∀ input, (digitsOf input).length = first.length →
      calculateFirst input = checkDigit (weightedSum first (digitsOf input)))
    (hsecondDigit : ∀ input, (digitsOf input).length = second.length →
      calculateSecond input = checkDigit (weightedSum second (digitsOf input))) :
    document = slice document first.length ++
        toString (calculateFirst (slice document first.length)) ++
        toString (calculateSecond (slice document first.length ++
          toString (calculateFirst (slice document first.length)))) ↔
      HasCheckDigits first second (digitsOf document) := by
  obtain ⟨body, x, y, hdocument, hbody, hslice, ⟨hx, hy⟩, hvalues⟩ := split_digits hdigits hlength
  have hbodyDigits : digitsOf (String.ofList body) = body.map digitValue := by
    rw [digitsOf, String.toList_ofList]
  have hbodyLength : (body.map digitValue).length = first.length := by rw [List.length_map, hbody]
  have ha : calculateFirst (String.ofList body) =
      checkDigit (weightedSum first (body.map digitValue)) := by
    rw [hfirst _ (by rw [hbodyDigits, hbodyLength]), hbodyDigits]
  have hlt := checkDigit_lt (weightedSum first (body.map digitValue))
  have hextended : digitsOf (String.ofList body ++
      toString (checkDigit (weightedSum first (body.map digitValue)))) =
        body.map digitValue ++ [checkDigit (weightedSum first (body.map digitValue))] := by
    obtain ⟨c, hc, -, hvalue⟩ := digitValue_toString hlt
    rw [digitsOf, String.toList_append, String.toList_ofList, hc, List.map_append, ← hvalue]
    rfl
  rw [hslice, ha, hsecondDigit _ (by rw [hextended, List.length_append, hbodyLength, hsecond]; rfl),
    hextended, hvalues, hasCheckDigits_append_iff hbodyLength hsecond]
  conv_lhs => rw [hdocument]
  rw [eq_append_toString_iff hx hy hlt (checkDigit_lt _)]
  constructor
  · rintro ⟨hxa, hyb⟩
    exact ⟨hxa, by rw [hxa]; exact hyb⟩
  · rintro ⟨hxa, hyb⟩
    rw [hxa] at hyb
    exact ⟨hxa, hyb⟩

theorem isValidCpf_iff (hdigits : ∀ c ∈ document.toList, c.isDigit = true)
    (hlength : document.toList.length = 11) : isValidCpf document = true ↔
      HasCheckDigits cpfFirst cpfSecond (digitsOf document) ∧ ¬AllEqual (digitsOf document) := by
  have hrepeats := repeatsOneDigit_iff hdigits (by omega)
  have hcheck := eq_slice_append_iff hdigits cpfFirst cpfSecond hlength rfl calculateCpfDigit
    calculateCpfDigit (fun input h => calculateCpfDigit_eq (by rw [h]; rfl))
    fun input h => calculateCpfDigit_eq (by rw [h]; rfl)
  unfold isValidCpf
  split
  · next hall => exact iff_of_false Bool.false_ne_true fun h => h.2 (hrepeats.mp hall)
  · next hall =>
    rw [beq_iff_eq]
    exact hcheck.trans (and_iff_left (mt hrepeats.mpr hall)).symm

theorem isValidCnpj_iff (hdigits : ∀ c ∈ document.toList, c.isDigit = true)
    (hlength : document.toList.length = 14) : isValidCnpj document = true ↔
      HasCheckDigits cnpjFirst cnpjSecond (digitsOf document) ∧ ¬AllEqual (digitsOf document) := by
  have hrepeats := repeatsOneDigit_iff hdigits (by omega)
  have hcheck := eq_slice_append_iff hdigits cnpjFirst cnpjSecond hlength rfl
    (fun input => calculateCnpjDigit input cnpjFirst)
    (fun input => calculateCnpjDigit input cnpjSecond) (fun _ h => calculateCnpjDigit_eq h)
    fun _ h => calculateCnpjDigit_eq h
  unfold isValidCnpj
  split
  · next hall => exact iff_of_false Bool.false_ne_true fun h => h.2 (hrepeats.mp hall)
  · next hall =>
    rw [beq_iff_eq]
    exact hcheck.trans (and_iff_left (mt hrepeats.mpr hall)).symm

/-- The kinds of documents differ in their lengths, so only one check can accept. -/
theorem isDocument_iff (hdigits : ∀ c ∈ document.toList, c.isDigit = true)
    {validCpf validCnpj : Prop}
    (hcpf : document.toList.length = 11 → (validCpf ↔
      HasCheckDigits cpfFirst cpfSecond (digitsOf document) ∧ ¬AllEqual (digitsOf document)))
    (hcnpj : document.toList.length = 14 → (validCnpj ↔
      HasCheckDigits cnpjFirst cnpjSecond (digitsOf document) ∧ ¬AllEqual (digitsOf document))) :
    IsDocument (digitsOf document) ↔ utf16Length document = 11 ∧ validCpf ∨
      utf16Length document = 14 ∧ validCnpj := by
  have hlength : (digitsOf document).length = document.toList.length := List.length_map _
  rw [IsDocument, utf16Length_of_digits hdigits]
  constructor
  · rintro ⟨hdocument | hdocument, hequal⟩
    · have heleven := hlength.symm.trans hdocument.1
      exact .inl ⟨heleven, (hcpf heleven).mpr ⟨hdocument, hequal⟩⟩
    · have hfourteen := hlength.symm.trans hdocument.1
      exact .inr ⟨hfourteen, (hcnpj hfourteen).mpr ⟨hdocument, hequal⟩⟩
  · rintro (⟨heleven, hvalid⟩ | ⟨hfourteen, hvalid⟩)
    · obtain ⟨hdocument, hequal⟩ := (hcpf heleven).mp hvalid
      exact ⟨.inl hdocument, hequal⟩
    · obtain ⟨hdocument, hequal⟩ := (hcnpj hfourteen).mp hvalid
      exact ⟨.inr hdocument, hequal⟩

theorem validateDocument_iff (hdigits : ∀ c ∈ document.toList, c.isDigit = true) :
    validateDocument (some document) = .ok () ↔ IsDocument (digitsOf document) := by
  rw [isDocument_iff hdigits (isValidCpf_iff hdigits) (isValidCnpj_iff hdigits), validateDocument]
  split
  · next hcpf => simp [hcpf]
  · next hcpf =>
    split
    · next hcnpj => simp [hcnpj]
    · next hcnpj => simp [hcpf, hcnpj]

end Texts

theorem isDigit_of_mem_onlyDigits (value : Option String) :
    ∀ c ∈ (onlyDigits value).toList, c.isDigit = true := by
  intro c hc
  rw [onlyDigits, String.toList_ofList] at hc
  exact (List.mem_filter.mp hc).2

/-- What `create` and `update` accept as a document: a text without digits, which is
no document, or the digits of one. -/
theorem validateDocument_normalizeDocument_iff (value : String) :
    validateDocument (normalizeDocument value) = .ok () ↔
      onlyDigits (some value) = "" ∨ IsDocument (digitsOf (onlyDigits (some value))) := by
  unfold normalizeDocument
  split
  · next hlength =>
    have hne : onlyDigits (some value) ≠ "" := by
      intro hempty
      rw [hempty] at hlength
      exact absurd hlength (by decide)
    rw [validateDocument_iff (isDigit_of_mem_onlyDigits _)]
    exact (or_iff_right hne).symm
  · next hlength =>
    have hempty : onlyDigits (some value) = "" := by
      rw [← String.length_eq_zero_iff]
      exact Nat.eq_zero_of_not_pos hlength
    exact iff_of_true rfl (.inl hempty)

end Logistics.Customers
