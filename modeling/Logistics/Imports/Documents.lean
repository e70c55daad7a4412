import Logistics.Customers.Documents

/-!
# Documents of imported customers

The check that the customer import makes of a document. It works on the list of the
digits where the customers service works on their text, and follows the same rule.
-/

namespace Logistics.Imports

open Logistics.Library Customers

def onlyDigits (valueToNormalize : String) : String :=
  String.ofList (valueToNormalize.toList.filter Char.isDigit)

def checksum (numbers : List ℕ) (factor : ℕ) : ℕ :=
  let sum := numbers.zipIdx.foldl (fun total entry => total + entry.1 * (factor - entry.2)) 0
  let result := sum * 10 % 11
  if result = 10 then 0 else result

def cnpjChecksum (numbers weights : List ℕ) : ℕ :=
  let sum := numbers.zipIdx.foldl (fun total entry => total + entry.1 * weights.getD entry.2 0) 0
  let result := sum % 11
  if result < 2 then 0 else 11 - result

def isValidCpf (cpf : String) : Bool :=
  if repeatsOneDigit cpf then false
  else
    let digits := cpf.toList.map digitValue
    let first := checksum (digits.take 9) 10
    let second := checksum (digits.take 9 ++ [first]) 11
    digits[9]? == some first && digits[10]? == some second

def isValidCnpj (cnpj : String) : Bool :=
  if repeatsOneDigit cnpj then false
  else
    let digits := cnpj.toList.map digitValue
    let first := cnpjChecksum (digits.take 12) [5, 4, 3, 2, 9, 8, 7, 6, 5, 4, 3, 2]
    let second := cnpjChecksum (digits.take 12 ++ [first]) [6, 5, 4, 3, 2, 9, 8, 7, 6, 5, 4, 3, 2]
    digits[12]? == some first && digits[13]? == some second

def isValidDocument (document : String) : Bool :=
  if utf16Length document = 11 then isValidCpf document
  else if utf16Length document = 14 then isValidCnpj document
  else false

/-! ## The check follows the rule -/

theorem checksum_eq {numbers weights : List ℕ} {factor : ℕ}
    (h : (List.range' 0 numbers.length).map (fun place => factor - place) = weights) :
    checksum numbers factor = checkDigit (weightedSum weights numbers) := by
  unfold checksum
  rw [foldl_zipIdx_eq_weightedSum fun place => factor - place, h, Nat.zero_add]
  exact checkDigit_eq_tenfold _

theorem cnpjChecksum_eq {numbers weights : List ℕ} (h : numbers.length = weights.length) :
    cnpjChecksum numbers weights = checkDigit (weightedSum weights numbers) := by
  have hsum := foldl_zipIdx_eq_weightedSum (fun place => weights.getD place 0) numbers 0 0
  rw [h, map_getD_range', Nat.zero_add] at hsum
  rw [cnpjChecksum, hsum]
  rfl

section Texts

variable {document : String}

/-- Two check digits that are computed as the rule has it are those of the document
exactly when it follows the rule. -/
theorem checks_iff (hdigits : ∀ c ∈ document.toList, c.isDigit = true) (first second : List ℕ)
    (hlength : document.toList.length = first.length + 2)
    (hsecond : second.length = first.length + 1) (checkFirst checkSecond : List ℕ → ℕ)
    (hcheckFirst : ∀ numbers, numbers.length = first.length →
      checkFirst numbers = checkDigit (weightedSum first numbers))
    (hcheckSecond : ∀ numbers, numbers.length = second.length →
      checkSecond numbers = checkDigit (weightedSum second numbers)) :
    (if repeatsOneDigit document then false
      else
        (digitsOf document)[first.length]? ==
            some (checkFirst ((digitsOf document).take first.length)) &&
          (digitsOf document)[first.length + 1]? ==
            some (checkSecond ((digitsOf document).take first.length ++
              [checkFirst ((digitsOf document).take first.length)]))) = true ↔
      HasCheckDigits first second (digitsOf document) ∧ ¬AllEqual (digitsOf document) := by
  have hrepeats : repeatsOneDigit document = true ↔ AllEqual (digitsOf document) :=
    repeatsOneDigit_iff hdigits (by omega)
  have hcount : (digitsOf document).length = first.length + 2 := (List.length_map _).trans hlength
  have hbody : ((digitsOf document).take first.length).length = first.length := by
    rw [List.length_take, hcount]
    omega
  split
  · next hall => exact iff_of_false Bool.false_ne_true fun h => h.2 (hrepeats.mp hall)
  · next hall =>
    rw [and_iff_left (mt hrepeats.mpr hall), hasCheckDigits_iff_take first second hcount hsecond,
      Bool.and_eq_true, beq_iff_eq, beq_iff_eq, hcheckFirst _ hbody, hcheckSecond]
    rw [List.length_append, hbody, hsecond]
    rfl

theorem isValidCpf_iff (hdigits : ∀ c ∈ document.toList, c.isDigit = true)
    (hlength : document.toList.length = 11) : isValidCpf document = true ↔
      HasCheckDigits cpfFirst cpfSecond (digitsOf document) ∧ ¬AllEqual (digitsOf document) := by
  apply checks_iff hdigits cpfFirst cpfSecond hlength rfl (fun numbers => checksum numbers 10)
    fun numbers => checksum numbers 11
  · intro numbers hcount
    apply checksum_eq
    rw [hcount]
    rfl
  · intro numbers hcount
    apply checksum_eq
    rw [hcount]
    rfl

theorem isValidCnpj_iff (hdigits : ∀ c ∈ document.toList, c.isDigit = true)
    (hlength : document.toList.length = 14) : isValidCnpj document = true ↔
      HasCheckDigits cnpjFirst cnpjSecond (digitsOf document) ∧ ¬AllEqual (digitsOf document) :=
  checks_iff hdigits cnpjFirst cnpjSecond hlength rfl
    (fun numbers => cnpjChecksum numbers cnpjFirst)
    (fun numbers => cnpjChecksum numbers cnpjSecond) (fun _ => cnpjChecksum_eq)
    fun _ => cnpjChecksum_eq

theorem isValidDocument_iff (hdigits : ∀ c ∈ document.toList, c.isDigit = true) :
    isValidDocument document = true ↔ IsDocument (digitsOf document) := by
  rw [isDocument_iff hdigits (isValidCpf_iff hdigits) (isValidCnpj_iff hdigits), isValidDocument]
  split
  · next hlength => simp [hlength]
  · next hlength =>
    split
    · next hlength' => simp [hlength']
    · next hlength' => simp [hlength, hlength']

end Texts

theorem isDigit_of_mem_onlyDigits (value : String) :
    ∀ c ∈ (onlyDigits value).toList, c.isDigit = true := by
  intro c hc
  rw [onlyDigits, String.toList_ofList] at hc
  exact (List.mem_filter.mp hc).2

/-- The two checks accept the same texts, by their digits, and of all texts of digits
exactly those that the rule admits. -/
theorem document_checks_agree :
    (∀ value, validateDocument (some (Customers.onlyDigits (some value))) = .ok () ↔
      isValidDocument (onlyDigits value) = true) ∧
    ∀ document : String, (∀ c ∈ document.toList, c.isDigit = true) →
      (validateDocument (some document) = .ok () ↔ IsDocument (digitsOf document)) ∧
        (isValidDocument document = true ↔ IsDocument (digitsOf document)) := by
  refine ⟨fun value => ?_, fun document hdigits =>
    ⟨validateDocument_iff hdigits, isValidDocument_iff hdigits⟩⟩
  have hdigits := isDigit_of_mem_onlyDigits value
  exact (validateDocument_iff hdigits).trans (isValidDocument_iff hdigits).symm

theorem document_checks_agree_sample :
    validateDocument (some "11222333000181") = .ok () ∧ isValidDocument "11222333000181" = true ∧
      IsDocument (digitsOf "11222333000181") := by
  have hdigits : ∀ c ∈ "11222333000181".toList, c.isDigit = true :=
    List.all_eq_true.mp (by decide +kernel)
  have hvalid : isValidDocument "11222333000181" = true := by decide +kernel
  obtain ⟨hservice, himport⟩ := document_checks_agree.2 "11222333000181" hdigits
  exact ⟨hservice.mpr (himport.mp hvalid), hvalid, himport.mp hvalid⟩

end Logistics.Imports
