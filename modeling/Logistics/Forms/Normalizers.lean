import Logistics.Library.Decimals

/-!
# Numbers in the forms

The forms take the comma for the decimal separator, and a point too unless exactly
three digits stand behind it. Such a point is taken for one that groups thousands,
whether or not what stands before it can be a group.
-/

namespace Logistics.Forms

open Logistics.Library

/-- `string | number | null | undefined`; a number that is not finite has no value. -/
inductive FieldInput
  | text (value : Option String)
  | number (value : Option ℚ)

def cleanText (value : Option String) : String := trim (value.getD "")

def isNumeric (c : Char) : Bool := c.isDigit || c == ',' || c == '.' || c == '-'

/-- `(?=\d{3}(?:\D|$))` -/
def beforeGroup : List Char → Bool
  | a :: b :: c :: rest => a.isDigit && b.isDigit && c.isDigit && !rest.head?.any Char.isDigit
  | _ => false

/-- `replace(/\.(?=\d{3}(?:\D|$))/g, '')` -/
def dropGroupPoints : List Char → List Char
  | [] => []
  | c :: rest =>
      if c = '.' ∧ beforeGroup rest = true then dropGroupPoints rest
      else c :: dropGroupPoints rest

/-- `replace(old, new)` -/
def replaceFirst (old new : Char) : List Char → List Char
  | [] => []
  | c :: rest => if c = old then new :: rest else c :: replaceFirst old new rest

def normalizeNumber (raw : List Char) : List Char :=
  replaceFirst ',' '.' (dropGroupPoints (raw.filter isNumeric))

def parseLocaleNumber : FieldInput → ℚ
  | .number value => value.getD 0
  | .text value =>
      let raw := cleanText value
      if raw = "" then 0 else (number (normalizeNumber raw.toList)).getD 0

/-- The text of a number has no percent sign. -/
def FieldInput.hasPercent : FieldInput → Bool
  | .number _ => false
  | .text value => (cleanText value).toList.contains '%'

def parsePercent (value : FieldInput) : ℚ :=
  if value.hasPercent then parseLocaleNumber value / 100 else parseLocaleNumber value

/-- The text that `NumberField` shows. -/
def displayText (value : DecimalValue) : List Char := replaceFirst '.' ',' value.text

/-- Both ways to parse the text give this value. -/
def Reads (text : List Char) (value : ℚ) : Prop :=
  parseLocaleNumber (.text (some (String.ofList text))) = value ∧
    parsePercent (.text (some (String.ofList text))) = value

/-! ## Texts without white space -/

/-- Neither white space nor a percent sign. -/
def IsPlainChar (c : Char) : Prop := isWhiteSpace c = false ∧ c ≠ '%'

theorem isPlainChar_of_isDigit {c : Char} (h : c.isDigit = true) : IsPlainChar c :=
  ⟨isWhiteSpace_of_isDigit h, by rintro rfl; exact absurd h (by decide)⟩

theorem reads_iff {cs : List Char} (h : ∀ c ∈ cs, IsPlainChar c) (value : ℚ) :
    Reads cs value ↔ (number (normalizeNumber cs)).getD 0 = value := by
  have htrim : cleanText (some (String.ofList cs)) = String.ofList cs :=
    trim_of_visible fun c hc => (h c hc).1
  have hlocale : parseLocaleNumber (.text (some (String.ofList cs))) =
      (number (normalizeNumber cs)).getD 0 := by
    unfold parseLocaleNumber
    simp only [htrim, String.toList_ofList]
    split
    · next hempty =>
      have hnil : cs = [] := by
        rw [← String.toList_ofList (l := cs), hempty]
        rfl
      rw [hnil]
      rfl
    · rfl
  have hpercent : (FieldInput.text (some (String.ofList cs))).hasPercent = false := by
    rw [FieldInput.hasPercent, htrim, String.toList_ofList, List.contains_eq_mem,
      decide_eq_false_iff_not]
    exact fun hmem => (h '%' hmem).2 rfl
  rw [Reads, parsePercent, hpercent, hlocale]
  simp

/-! ## Groups -/

theorem dropGroupPoints_append {cs : List Char} (h : '.' ∉ cs) (rest : List Char) :
    dropGroupPoints (cs ++ rest) = cs ++ dropGroupPoints rest := by
  induction cs with
  | nil => rfl
  | cons c cs ih =>
      have hc : c ≠ '.' := fun heq => h (heq ▸ List.mem_cons_self)
      rw [List.cons_append, dropGroupPoints, if_neg fun hp => hc hp.1,
        ih fun hmem => h (List.mem_cons_of_mem _ hmem), List.cons_append]

theorem replaceFirst_append {old : Char} (new : Char) {cs : List Char} (h : old ∉ cs)
    (rest : List Char) :
    replaceFirst old new (cs ++ rest) = cs ++ replaceFirst old new rest := by
  induction cs with
  | nil => rfl
  | cons c cs ih =>
      have hc : c ≠ old := fun heq => h (heq ▸ List.mem_cons_self)
      rw [List.cons_append, replaceFirst, if_neg hc,
        ih fun hmem => h (List.mem_cons_of_mem _ hmem), List.cons_append]

theorem not_mem_digits {c : Char} (hc : c.isDigit = false) {cs : List Char}
    (h : ∀ d ∈ cs, d.isDigit = true) : c ∉ cs := by
  intro hmem
  rw [h c hmem] at hc
  cases hc

theorem dropGroupPoints_digits {cs : List Char} (h : ∀ c ∈ cs, c.isDigit = true) :
    dropGroupPoints cs = cs := by
  have happend := dropGroupPoints_append (not_mem_digits not_isDigit_point h) []
  simpa [dropGroupPoints] using happend

/-- A point is dropped exactly when three digits stand behind it. -/
theorem beforeGroup_digits {cs : List Char} (h : ∀ c ∈ cs, c.isDigit = true) :
    beforeGroup cs = true ↔ cs.length = 3 := by
  match cs, h with
  | [], _ => simp [beforeGroup]
  | [_], _ => simp [beforeGroup]
  | [_, _], _ => simp [beforeGroup]
  | [a, b, c], h => simp_all [beforeGroup]
  | a :: b :: c :: d :: rest, h => simp_all [beforeGroup]

theorem beforeGroup_append {cs : List Char} (h : ∀ c ∈ cs, c.isDigit = true)
    (hlength : cs.length = 3) {rest : List Char} (hrest : rest.head?.any Char.isDigit = false) :
    beforeGroup (cs ++ rest) = true := by
  obtain ⟨a, b, c, rfl⟩ := List.length_eq_three.mp hlength
  simp_all [beforeGroup]

/-- One to three digits, the first of them not zero, and groups of three behind points. -/
structure Grouping where
  first : Digits
  groups : List Digits
  short : first.val.length ≤ 3
  leading : ∃ c, first.val.head? = some c ∧ c ≠ '0'
  three : ∀ group ∈ groups, group.val.length = 3
  grouped : groups ≠ []

namespace Grouping

def groupTexts (groups : List Digits) : List Char :=
  groups.flatMap fun group => '.' :: group.val

def text (g : Grouping) : List Char := g.first.val ++ groupTexts g.groups

def digits (g : Grouping) : List Char := g.first.val ++ g.groups.flatMap Subtype.val

def value (g : Grouping) : ℚ := (Nat.ofDigitChars 10 g.digits 0 : ℕ)

theorem dropGroupPoints_groupTexts {groups : List Digits}
    (h : ∀ group ∈ groups, group.val.length = 3) :
    dropGroupPoints (groupTexts groups) = groups.flatMap Subtype.val := by
  induction groups with
  | nil => rfl
  | cons group groups ih =>
      have hrest : (groupTexts groups).head?.any Char.isDigit = false := by
        cases groups <;> simp [groupTexts, not_isDigit_point]
      have hdropped := beforeGroup_append group.property (h group List.mem_cons_self) hrest
      have hsplit : groupTexts (group :: groups) = '.' :: (group.val ++ groupTexts groups) := rfl
      rw [hsplit, dropGroupPoints, if_pos ⟨rfl, hdropped⟩,
        dropGroupPoints_append (not_mem_digits not_isDigit_point group.property),
        ih fun g hg => h g (List.mem_cons_of_mem _ hg), List.flatMap_cons]

theorem dropGroupPoints_text (g : Grouping) : dropGroupPoints g.text = g.digits := by
  rw [text, dropGroupPoints_append (not_mem_digits not_isDigit_point g.first.property),
    dropGroupPoints_groupTexts g.three, digits]

theorem isDigit_of_mem_digits (g : Grouping) : ∀ c ∈ g.digits, c.isDigit = true := by
  intro c hc
  rcases List.mem_append.mp hc with hfirst | hgroup
  · exact g.first.property c hfirst
  · obtain ⟨group, -, hmem⟩ := List.mem_flatMap.mp hgroup
    exact group.property c hmem

end Grouping

/-! ## What is read -/

theorem replaceFirst_digits {cs : List Char} (h : ∀ c ∈ cs, c.isDigit = true) :
    replaceFirst ',' '.' cs = cs := by
  have happend := replaceFirst_append '.' (not_mem_digits (c := ',') (by decide) h) []
  simpa [replaceFirst] using happend

theorem number_digits {cs : List Char} (h : ∀ c ∈ cs, c.isDigit = true) :
    (number cs).getD 0 = (Nat.ofDigitChars 10 cs 0 : ℕ) := by
  have htext := number_text ⟨⟨cs, h⟩, none⟩
  simpa [Numeral.text, Numeral.value, Numeral.fractionDigits] using htext

theorem mem_text {n : Numeral} {separator c : Char} (h : c ∈ n.text separator) :
    c.isDigit = true ∨ c = separator := by
  rcases List.mem_append.mp h with hinteger | hfraction
  · exact .inl (n.integer.property c hinteger)
  · cases hn : n.fraction with
    | none => simp [hn] at hfraction
    | some digits =>
        rw [hn] at hfraction
        rcases List.mem_cons.mp hfraction with hseparator | hdigit
        · exact .inr hseparator
        · exact .inl (digits.property c hdigit)

theorem isNumeric_of_isDigit {c : Char} (h : c.isDigit = true) : isNumeric c = true := by
  simp [isNumeric, h]

theorem isNumeric_of_mem_text {n : Numeral} {separator : Char} (h : isNumeric separator = true) :
    ∀ c ∈ n.text separator, isNumeric c = true := by
  intro c hc
  rcases mem_text hc with hdigit | rfl
  · exact isNumeric_of_isDigit hdigit
  · exact h

theorem normalizeNumber_of_numeric {cs : List Char} (h : ∀ c ∈ cs, isNumeric c = true) :
    normalizeNumber cs = replaceFirst ',' '.' (dropGroupPoints cs) := by
  rw [normalizeNumber, List.filter_eq_self.mpr h]

theorem isPlainChar_of_mem_text {n : Numeral} {separator : Char} (h : IsPlainChar separator) :
    ∀ c ∈ n.text separator, IsPlainChar c := by
  intro c hc
  rcases mem_text hc with hdigit | rfl
  · exact isPlainChar_of_isDigit hdigit
  · exact h

theorem isNumeric_comma : isNumeric ',' = true := by decide

theorem isNumeric_point : isNumeric '.' = true := by decide

theorem isPlainChar_comma : IsPlainChar ',' := ⟨by decide, by decide⟩

theorem isPlainChar_point : IsPlainChar '.' := ⟨by decide, by decide⟩

theorem normalizeNumber_comma (n : Numeral) : normalizeNumber (n.text ',') = n.text '.' := by
  have hpoint : '.' ∉ n.text ',' := by
    intro hmem
    rcases mem_text hmem with hdigit | hcomma
    · exact absurd hdigit (by decide)
    · exact absurd hcomma (by decide)
  have hkept := dropGroupPoints_append hpoint []
  rw [List.append_nil, dropGroupPoints, List.append_nil] at hkept
  rw [normalizeNumber_of_numeric (isNumeric_of_mem_text isNumeric_comma), hkept, Numeral.text,
    replaceFirst_append _ (not_mem_digits (by decide) n.integer.property), Numeral.text]
  cases n.fraction <;> rfl

theorem reads_comma (n : Numeral) : Reads (n.text ',') n.value := by
  rw [reads_iff (isPlainChar_of_mem_text isPlainChar_comma), normalizeNumber_comma]
  exact number_text n

theorem reads_grouping (g : Grouping) : Reads g.text g.value := by
  have hchar : ∀ c ∈ g.text, c.isDigit = true ∨ c = '.' := by
    intro c hc
    rcases List.mem_append.mp hc with hfirst | hgroup
    · exact .inl (g.first.property c hfirst)
    · obtain ⟨group, -, hmem⟩ := List.mem_flatMap.mp hgroup
      rcases List.mem_cons.mp hmem with hpoint | hdigit
      · exact .inr hpoint
      · exact .inl (group.property c hdigit)
  have hplain : ∀ c ∈ g.text, IsPlainChar c := by
    intro c hc
    rcases hchar c hc with hdigit | rfl
    · exact isPlainChar_of_isDigit hdigit
    · exact isPlainChar_point
  have hnumeric : ∀ c ∈ g.text, isNumeric c = true := by
    intro c hc
    rcases hchar c hc with hdigit | rfl
    · exact isNumeric_of_isDigit hdigit
    · decide
  rw [reads_iff hplain, normalizeNumber_of_numeric hnumeric, g.dropGroupPoints_text,
    replaceFirst_digits g.isDigit_of_mem_digits, number_digits g.isDigit_of_mem_digits,
    Grouping.value]

/-- What stands before the point can be the first group. -/
def Groupable (n : Numeral) : Prop :=
  n.integer.val.length ≤ 3 ∧ ∃ c, n.integer.val.head? = some c ∧ c ≠ '0'

theorem dropGroupPoints_point (n : Numeral) :
    dropGroupPoints (n.text '.') =
      if n.fractionDigits.length = 3 then n.integer.val ++ n.fractionDigits else n.text '.' := by
  have hinteger := dropGroupPoints_append (not_mem_digits not_isDigit_point n.integer.property)
  unfold Numeral.text
  rw [hinteger]
  cases hfraction : n.fraction with
  | none => simp [Numeral.fractionDigits, hfraction, dropGroupPoints]
  | some digits =>
      have hdigits := dropGroupPoints_digits digits.property
      have hgroup := beforeGroup_digits digits.property
      by_cases hlength : digits.val.length = 3
      · simp [Numeral.fractionDigits, hfraction, dropGroupPoints, hgroup, hlength, hdigits]
      · simp [Numeral.fractionDigits, hfraction, dropGroupPoints, hgroup, hlength, hdigits]

/-- A grouping with the text of a numeral begins with its integer digits. -/
theorem groupable_of_text_eq {n : Numeral} {g : Grouping} (h : g.text = n.text '.') :
    Groupable n := by
  have hgroups : ∀ rest, (Grouping.groupTexts g.groups ++ rest).takeWhile Char.isDigit = [] := by
    intro rest
    obtain ⟨group, groups, hsplit⟩ := List.exists_cons_of_ne_nil g.grouped
    rw [hsplit]
    exact List.takeWhile_cons_of_neg (by decide)
  have hinteger : g.first.val = n.integer.val := by
    have htake := congrArg (List.takeWhile Char.isDigit) h
    have hfirst := (takeWhile_digits g.first.property (Grouping.groupTexts g.groups)).1
    have hnumeral := (takeWhile_digits n.integer.property
      (n.fraction.elim [] fun digits => '.' :: digits.val)).1
    have hempty := hgroups []
    rw [List.append_nil] at hempty
    rw [Grouping.text, Numeral.text, hfirst, hnumeral, hempty, List.append_nil] at htake
    rw [htake]
    cases n.fraction with
    | none => simp
    | some digits => simp [not_isDigit_point]
  rw [Groupable, ← hinteger]
  exact ⟨g.short, g.leading⟩

/-- A groupable numeral with three fraction digits, as a grouping. -/
def Groupable.grouping {n : Numeral} (h : Groupable n) (hlength : n.fractionDigits.length = 3) :
    Grouping where
  first := n.integer
  groups := [⟨n.fractionDigits, fun _ => Numeral.isDigit_of_mem_fractionDigits⟩]
  short := h.1
  leading := h.2
  three := by simpa using hlength
  grouped := List.cons_ne_nil _ _

theorem text_grouping {n : Numeral} (hlength : n.fractionDigits.length = 3) (h : Groupable n) :
    (h.grouping hlength).text = n.text '.' := by
  have hgroups : (h.grouping hlength).text = n.integer.val ++ '.' :: n.fractionDigits := by
    simp [Grouping.text, Grouping.groupTexts, Groupable.grouping]
  rw [hgroups, Numeral.text]
  cases hfraction : n.fraction with
  | none => simp [Numeral.fractionDigits, hfraction] at hlength
  | some digits => simp [Numeral.fractionDigits, hfraction]

/-- With a point, a numeral that is no grouping is read as its value. -/
def ReadsDotted (n : Numeral) : Prop :=
  (∀ g : Grouping, g.text ≠ n.text '.') → Reads (n.text '.') n.value

theorem readsDotted_iff (n : Numeral) :
    ReadsDotted n ↔ n.fractionDigits.length ≠ 3 ∨ n.value = 0 ∨ Groupable n := by
  have hcomma : ',' ∉ n.text '.' := by
    intro hmem
    rcases mem_text hmem with hdigit | hpoint
    · exact absurd hdigit (by decide)
    · exact absurd hpoint (by decide)
  have hnormal := normalizeNumber_of_numeric (isNumeric_of_mem_text (n := n) isNumeric_point)
  unfold ReadsDotted
  rw [reads_iff (isPlainChar_of_mem_text isPlainChar_point), hnormal, dropGroupPoints_point]
  by_cases hlength : n.fractionDigits.length = 3
  · rw [if_pos hlength]
    have hdigits : ∀ c ∈ n.integer.val ++ n.fractionDigits, c.isDigit = true := by
      intro c hc
      rcases List.mem_append.mp hc with hinteger | hfraction
      · exact n.integer.property c hinteger
      · exact Numeral.isDigit_of_mem_fractionDigits hfraction
    -- the integer that is read is a thousand times the value
    have hthousand : ((Nat.ofDigitChars 10 (n.integer.val ++ n.fractionDigits) 0 : ℕ) : ℚ) =
        1000 * n.value := by
      rw [Numeral.value, hlength]
      norm_num
      ring
    rw [replaceFirst_digits hdigits, number_digits hdigits, hthousand]
    constructor
    · intro h
      by_cases hgroupable : Groupable n
      · exact .inr (.inr hgroupable)
      · have hvalue := h fun g hg => hgroupable (groupable_of_text_eq hg)
        exact .inr (.inl (by linarith))
    · rintro (hne | hzero | hgroupable) hnone
      · exact absurd hlength hne
      · rw [hzero]
        norm_num
      · exact absurd (text_grouping hlength hgroupable) (hnone _)
  · rw [if_neg hlength]
    have hkept := replaceFirst_append '.' hcomma []
    rw [List.append_nil, replaceFirst, List.append_nil] at hkept
    rw [hkept, number_text]
    simp [hlength]

/-! ## What is shown -/

theorem replaceFirst_point (n : Numeral) : replaceFirst '.' ',' (n.text '.') = n.text ',' := by
  rw [Numeral.text, replaceFirst_append _ (not_mem_digits not_isDigit_point n.integer.property),
    Numeral.text]
  cases n.fraction <;> rfl

section Display

variable {d : DecimalValue}

theorem reads_displayText (h : d.IsPlain) : Reads (displayText d) d.value := by
  obtain ⟨n, htext, hvalue⟩ := d.exists_numeral h
  rw [displayText, htext, replaceFirst_point, ← hvalue]
  exact reads_comma n

def exponentDigits (d : DecimalValue) : List Char := Nat.toDigits 10 (d.place - 1).natAbs

theorem isDigit_of_mem_exponentDigits : ∀ c ∈ exponentDigits d, c.isDigit = true :=
  fun _ => Nat.isDigit_of_mem_toDigits (by decide) (by decide)

/-- Of the sign of an exponent only the minus is kept. -/
def keptSign (d : DecimalValue) : List Char := if 0 < d.place then [] else ['-']

theorem not_mem_exponent {c : Char} (hdigit : c.isDigit = false) (hminus : c ≠ '-') :
    c ∉ keptSign d ++ exponentDigits d := by
  intro hmem
  rcases List.mem_append.mp hmem with hmem | hmem
  · unfold keptSign at hmem
    split at hmem
    · cases hmem
    · exact hminus (List.mem_singleton.mp hmem)
  · rw [isDigit_of_mem_exponentDigits c hmem] at hdigit
    cases hdigit

theorem normalizeNumber_exponent {mantissa : List Char}
    (hmantissa : ∀ c ∈ mantissa, c.isDigit = true ∨ c = ',') :
    normalizeNumber (mantissa ++ 'e' :: (if 0 < d.place then '+' else '-') :: exponentDigits d) =
      replaceFirst ',' '.' (mantissa ++ (keptSign d ++ exponentDigits d)) := by
  have hnumeric : ∀ c ∈ mantissa, isNumeric c = true := by
    intro c hc
    rcases hmantissa c hc with hdigit | rfl
    · exact isNumeric_of_isDigit hdigit
    · exact isNumeric_comma
  have hexponent : ∀ c ∈ exponentDigits d, isNumeric c = true := fun c hc =>
    isNumeric_of_isDigit (isDigit_of_mem_exponentDigits c hc)
  have hpoint : '.' ∉ mantissa ++ (keptSign d ++ exponentDigits d) := by
    intro hmem
    rcases List.mem_append.mp hmem with hmem | hmem
    · rcases hmantissa _ hmem with hdigit | hcomma
      · exact absurd hdigit (by decide)
      · exact absurd hcomma (by decide)
    · exact not_mem_exponent (by decide) (by decide) hmem
  have hfilter : (mantissa ++ 'e' :: (if 0 < d.place then '+' else '-') ::
      exponentDigits d).filter isNumeric = mantissa ++ (keptSign d ++ exponentDigits d) := by
    rw [List.filter_append, List.filter_eq_self.mpr hnumeric, List.filter_cons_of_neg (by decide)]
    unfold keptSign
    split
    · rw [List.filter_cons_of_neg (by decide), List.filter_eq_self.mpr hexponent, List.nil_append]
    · rw [List.filter_cons_of_pos (by decide), List.filter_eq_self.mpr hexponent]
      rfl
  have hkept := dropGroupPoints_append hpoint []
  rw [List.append_nil, dropGroupPoints, List.append_nil] at hkept
  rw [normalizeNumber, hfilter, hkept]

theorem lt_pow_pred {m : ℕ} (h : 2 ≤ m) : m < 10 ^ (m - 1) := by
  obtain ⟨k, rfl⟩ := Nat.exists_eq_add_of_le' h
  have hlt : k < 10 ^ k := Nat.lt_pow_self (by decide)
  have hsplit : 10 ^ (k + 2 - 1) = 10 * 10 ^ k := by
    rw [show k + 2 - 1 = k + 1 from rfl, Nat.pow_succ, Nat.mul_comm]
  omega

theorem isDigit_first {first : Char} {rest : List Char} (h : d.digits = first :: rest) :
    first.isDigit = true ∧ ∀ c ∈ rest, c.isDigit = true := by
  constructor
  · exact d.isDigit_of_mem_digits (h ▸ List.mem_cons_self)
  · exact fun c hc => d.isDigit_of_mem_digits (h ▸ List.mem_cons_of_mem _ hc)

theorem normalizeNumber_single (h : ¬d.IsPlain) {first : Char} (hdigits : d.digits = [first]) :
    normalizeNumber (displayText d) = first :: (keptSign d ++ exponentDigits d) := by
  have hfirst := (isDigit_first hdigits).1
  have hexponent := isDigit_of_mem_exponentDigits (d := d)
  have hpoint : '.' ∉ [first] ++ 'e' :: (if 0 < d.place then '+' else '-') :: exponentDigits d := by
    intro hmem
    rcases List.mem_cons.mp hmem with rfl | hmem
    · exact absurd hfirst (by decide)
    · rcases List.mem_cons.mp hmem with hmem | hmem
      · exact absurd hmem (by decide)
      · rcases List.mem_cons.mp hmem with hmem | hmem
        · split at hmem <;> exact absurd hmem (by decide)
        · exact absurd (hexponent _ hmem) (by decide)
  have hcomma : ',' ∉ [first] ++ (keptSign d ++ exponentDigits d) := by
    rw [List.singleton_append, List.mem_cons, not_or]
    refine ⟨?_, not_mem_exponent (by decide) (by decide)⟩
    rintro rfl
    exact absurd hfirst (by decide)
  have hshown := replaceFirst_append ',' hpoint []
  have hread := replaceFirst_append '.' hcomma []
  rw [List.append_nil, replaceFirst, List.append_nil] at hshown hread
  rw [displayText, d.text_of_not_isPlain h, hdigits]
  change normalizeNumber (replaceFirst '.' ',' ([first] ++ _)) = _
  rw [← exponentDigits, hshown, normalizeNumber_exponent (by simp [hfirst]), hread,
    List.singleton_append]

theorem normalizeNumber_several (h : ¬d.IsPlain) {first second : Char} {rest : List Char}
    (hdigits : d.digits = first :: second :: rest) :
    normalizeNumber (displayText d) =
      first :: '.' :: (second :: rest ++ (keptSign d ++ exponentDigits d)) := by
  obtain ⟨hfirst, hrest⟩ := isDigit_first hdigits
  have hpoint : first ≠ '.' := by
    rintro rfl
    exact absurd hfirst (by decide)
  have hcomma : first ≠ ',' := by
    rintro rfl
    exact absurd hfirst (by decide)
  have hmantissa : ∀ c ∈ first :: ',' :: second :: rest, c.isDigit = true ∨ c = ',' := by
    intro c hc
    rcases List.mem_cons.mp hc with rfl | hc
    · exact .inl hfirst
    · rcases List.mem_cons.mp hc with rfl | hc
      · exact .inr rfl
      · exact .inl (hrest c hc)
  have hshown : displayText d = (first :: ',' :: second :: rest) ++
      'e' :: (if 0 < d.place then '+' else '-') :: exponentDigits d := by
    rw [displayText, d.text_of_not_isPlain h, hdigits]
    simp [DecimalValue.pointAfterFirst, replaceFirst, hpoint, exponentDigits]
  rw [hshown, normalizeNumber_exponent hmantissa]
  simp [replaceFirst, hcomma]

theorem number_large (h : 21 < d.place) (hvalue : d.significand ≠ 0) :
    (number (normalizeNumber (displayText d))).getD 0 < d.value := by
  have hplain : ¬d.IsPlain := fun hp => not_le.mpr h hp.2
  have hsign : keptSign d = [] := if_pos (by omega)
  have hexponent := isDigit_of_mem_exponentDigits (d := d)
  obtain ⟨exponent, hplace⟩ : ∃ exponent : ℕ, d.place - 1 = exponent :=
    Int.eq_ofNat_of_zero_le (by omega)
  have hlow := (d.value_bounds hvalue).1
  rw [hplace, zpow_natCast] at hlow
  refine lt_of_lt_of_le ?_ hlow
  obtain ⟨first, rest, hdigits⟩ := List.exists_cons_of_ne_nil d.digits_ne_nil
  obtain ⟨hfirst, hrest⟩ := isDigit_first hdigits
  cases rest with
  | nil =>
      have hall : ∀ c ∈ first :: exponentDigits d, c.isDigit = true :=
        List.forall_mem_cons.mpr ⟨hfirst, hexponent⟩
      have hshort : (exponentDigits d).length ≤ exponent - 1 := by
        rw [exponentDigits, hplace, Int.natAbs_natCast]
        exact (Nat.length_toDigits_le_iff (by decide) (by omega)).mpr (lt_pow_pred (by omega))
      have hlt := ofDigitChars_lt hall
      have hle : 10 ^ (first :: exponentDigits d).length ≤ 10 ^ exponent :=
        Nat.pow_le_pow_right (by decide) (by rw [List.length_cons]; omega)
      rw [normalizeNumber_single hplain hdigits, hsign, List.nil_append, number_digits hall]
      exact_mod_cast hlt.trans_le hle
  | cons second rest =>
      have hfraction : ∀ c ∈ second :: rest ++ exponentDigits d, c.isDigit = true := by
        intro c hc
        rcases List.mem_append.mp hc with hc | hc
        · exact hrest c hc
        · exact hexponent c hc
      have hread := number_text ⟨⟨[first], by simpa using hfirst⟩, some ⟨_, hfraction⟩⟩
      have hlt := ofDigitChars_lt (List.forall_mem_cons.mpr ⟨hfirst, hfraction⟩)
      rw [normalizeNumber_several hplain hdigits, hsign, List.nil_append]
      refine hread.trans_lt ?_
      simp only [Numeral.value, Numeral.fractionDigits, Option.elim_some, List.singleton_append]
      rw [div_lt_iff₀ (by positivity)]
      have hten : (10 : ℚ) ≤ 10 ^ exponent := by
        exact_mod_cast Nat.le_self_pow (by omega : exponent ≠ 0) 10
      have hdigit :
          ((Nat.ofDigitChars 10 (first :: (second :: rest ++ exponentDigits d)) 0 : ℕ) : ℚ) <
          10 * 10 ^ (second :: rest ++ exponentDigits d).length := by
        rw [← pow_succ', ← List.length_cons (a := first)]
        exact_mod_cast hlt
      exact hdigit.trans_le (by gcongr)

theorem number_small (h : d.place ≤ -6) : number (normalizeNumber (displayText d)) = none := by
  have hplain : ¬d.IsPlain := fun hp => not_le.mpr hp.1 h
  have hsign : keptSign d = ['-'] := if_neg (by omega)
  obtain ⟨first, rest, hdigits⟩ := List.exists_cons_of_ne_nil d.digits_ne_nil
  have hfirst : ∀ c ∈ [first], c.isDigit = true := by simpa using (isDigit_first hdigits).1
  cases rest with
  | nil =>
      rw [normalizeNumber_single hplain hdigits, hsign]
      exact number_minus_eq_none hfirst (List.cons_ne_nil _ _) _
  | cons second rest =>
      rw [normalizeNumber_several hplain hdigits, hsign]
      exact number_point_minus_eq_none hfirst (List.cons_ne_nil _ _) _ _

theorem mem_replaceFirst {old new c : Char} {cs : List Char} (h : c ∈ replaceFirst old new cs) :
    c ∈ cs ∨ c = new := by
  induction cs with
  | nil => cases h
  | cons first rest ih =>
      rw [replaceFirst] at h
      split at h
      · rcases List.mem_cons.mp h with hnew | hmem
        · exact .inr hnew
        · exact .inl (List.mem_cons_of_mem _ hmem)
      · rcases List.mem_cons.mp h with rfl | hmem
        · exact .inl List.mem_cons_self
        · exact (ih hmem).imp_left (List.mem_cons_of_mem _)

theorem mem_pointAfterFirst {c : Char} {cs : List Char}
    (h : c ∈ DecimalValue.pointAfterFirst cs) : c ∈ cs ∨ c = '.' := by
  unfold DecimalValue.pointAfterFirst at h
  split at h
  · rcases List.mem_cons.mp h with rfl | h
    · exact .inl List.mem_cons_self
    · rcases List.mem_cons.mp h with hpoint | hmem
      · exact .inr hpoint
      · exact .inl (List.mem_cons_of_mem _ hmem)
  · exact .inl h

theorem isPlainChar_of_mem_displayText (h : ¬d.IsPlain) : ∀ c ∈ displayText d, IsPlainChar c := by
  intro c hc
  rw [displayText, d.text_of_not_isPlain h] at hc
  rcases mem_replaceFirst hc with hc | rfl
  · rcases List.mem_append.mp hc with hc | hc
    · rcases mem_pointAfterFirst hc with hdigit | rfl
      · exact isPlainChar_of_isDigit (d.isDigit_of_mem_digits hdigit)
      · exact isPlainChar_point
    · rcases List.mem_cons.mp hc with rfl | hc
      · exact ⟨by decide, by decide⟩
      · rcases List.mem_cons.mp hc with rfl | hc
        · split <;> exact ⟨by decide, by decide⟩
        · exact isPlainChar_of_isDigit (isDigit_of_mem_exponentDigits c hc)
  · exact isPlainChar_comma

/-- The text of a field gives its value back exactly when it has no exponent. -/
theorem reads_displayText_iff (d : DecimalValue) :
    Reads (displayText d) d.value ↔
      d.value = 0 ∨ 1 / 10 ^ 6 ≤ d.value ∧ d.value < 10 ^ 21 := by
  by_cases hzero : d.significand = 0
  · have hvalue := d.value_eq_zero_iff.mpr hzero
    exact iff_of_true (reads_displayText (d.isPlain_zero hzero)) (.inl hvalue)
  · have hvalue := mt d.value_eq_zero_iff.mp hzero
    rw [or_iff_right hvalue, ← d.isPlain_iff hzero]
    refine ⟨fun h => ?_, reads_displayText⟩
    by_contra hplain
    rw [reads_iff (isPlainChar_of_mem_displayText hplain)] at h
    rcases lt_or_ge 21 d.place with hlarge | hplace
    · exact absurd h (ne_of_lt (number_large hlarge hzero))
    · have hsmall : d.place ≤ -6 := by
        by_contra hnot
        exact hplain ⟨not_le.mp hnot, hplace⟩
      rw [number_small hsmall, Option.getD_none] at h
      exact hvalue h.symm

end Display

/-- A comma always separates the decimals and groups of three are always taken together.
A point separates them unless exactly three digits stand behind it, and a field that
shows a value takes it back unless it shows an exponent. -/
theorem localeNumbers_kept (n : Numeral) (g : Grouping) (d : DecimalValue) :
    Reads (n.text ',') n.value ∧ Reads g.text g.value ∧
      (ReadsDotted n ↔ n.fractionDigits.length ≠ 3 ∨ n.value = 0 ∨ Groupable n) ∧
      (Reads (displayText d) d.value ↔
        d.value = 0 ∨ 1 / 10 ^ 6 ≤ d.value ∧ d.value < 10 ^ 21) :=
  ⟨reads_comma n, reads_grouping g, readsDotted_iff n, reads_displayText_iff d⟩

def dottedRate : Numeral :=
  ⟨⟨['0'], List.all_eq_true.mp rfl⟩, some ⟨['1', '2', '3'], List.all_eq_true.mp rfl⟩⟩

/-- The text 0.123 is no grouping, and it is read as 123. -/
theorem dottedRate_is_misread : ¬ReadsDotted dottedRate := by
  intro h
  have hgroup : ∀ g : Grouping, g.text ≠ dottedRate.text '.' := by
    intro g hg
    obtain ⟨-, c, hc, hzero⟩ := groupable_of_text_eq hg
    exact hzero (Option.some.inj hc).symm
  exact absurd (h hgroup).1 (by decide +kernel)

end Logistics.Forms
