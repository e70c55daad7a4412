import Logistics.Imports.Columns
import Logistics.Imports.Filenames

/-!
# Header names

What is left of a header when it is normalized is a name: letters and digits in
pieces, with single underscores between them. A name is its own normal form, so
normalizing twice changes nothing, and a header that was read from a file may be
normalized again at any later place. The white space around a header is lost with
the rest.
-/

namespace Logistics.Imports

open Logistics.Library

/-! ## Names -/

def IsNameChar (c : Char) : Prop := isHeaderChar c = true ∨ c = '_'

theorem IsNameChar.ranges {c : Char} (h : IsNameChar c) :
    (97 ≤ c.toNat ∧ c.toNat ≤ 122) ∨ (48 ≤ c.toNat ∧ c.toNat ≤ 57) ∨ c.toNat = 95 := by
  rcases h with h | rfl
  · simp only [isHeaderChar, Bool.or_eq_true, Bool.and_eq_true, decide_eq_true_eq, Char.le_def,
      UInt32.le_iff_toNat_le] at h
    exact h.imp_right .inl
  · decide

theorem IsNameChar.visible {c : Char} (h : IsNameChar c) : isWhiteSpace c = false := by
  have hranges := h.ranges
  unfold isWhiteSpace
  simp only [Bool.or_eq_false_iff, Bool.and_eq_false_iff, decide_eq_false_iff_not,
    beq_eq_false_iff_ne]
  omega

theorem IsNameChar.not_combiningMark {c : Char} (h : IsNameChar c) :
    isCombiningMark c = false := by
  have hranges := h.ranges
  unfold isCombiningMark
  simp only [Bool.and_eq_false_iff, decide_eq_false_iff_not]
  omega

theorem IsNameChar.toLower_eq {c : Char} (h : IsNameChar c) : c.toLower = c := by
  refine (isUpper_or_toLower_eq c).resolve_left fun hupper => ?_
  have hranges := h.ranges
  simp only [Char.isUpper, decide_eq_true_eq, ge_iff_le, UInt32.le_iff_toNat_le] at hupper
  have hletters : 65 ≤ c.toNat ∧ c.toNat ≤ 90 := hupper
  omega

/-- Letters and digits, with single underscores between them. -/
structure IsHeaderName (cs : List Char) : Prop where
  chars : ∀ c ∈ cs, IsNameChar c
  single : cs.IsChain fun a b => ¬(a = '_' ∧ b = '_')
  first : ∀ c ∈ cs.head?, c ≠ '_'
  last : ∀ c ∈ cs.getLast?, c ≠ '_'

theorem isNameChar_of_mem_underscoreRuns {inRun : Bool} {cs : List Char} {c : Char}
    (h : c ∈ underscoreRuns inRun cs) : IsNameChar c := by
  induction cs generalizing inRun with
  | nil => cases h
  | cons d cs ih =>
      rw [underscoreRuns] at h
      split at h
      · next hkept =>
        rcases List.mem_cons.mp h with rfl | h
        · exact .inl hkept
        · exact ih h
      · split at h
        · exact ih h
        · rcases List.mem_cons.mp h with rfl | h
          · exact .inr rfl
          · exact ih h

theorem head?_underscoreRuns_true (cs : List Char) :
    ∀ c ∈ (underscoreRuns true cs).head?, c ≠ '_' := by
  induction cs with
  | nil =>
      intro c hc
      cases hc
  | cons d cs ih =>
      rw [underscoreRuns]
      split
      · next hkept =>
        intro c hc
        obtain rfl := Option.some.inj hc
        rintro rfl
        exact absurd hkept (by decide)
      · exact ih

theorem underscoreRuns_isChain (inRun : Bool) (cs : List Char) :
    (underscoreRuns inRun cs).IsChain fun a b => ¬(a = '_' ∧ b = '_') := by
  induction cs generalizing inRun with
  | nil => exact List.isChain_nil
  | cons d cs ih =>
      rw [underscoreRuns]
      split
      · next hkept =>
        refine List.isChain_cons.mpr ⟨?_, ih false⟩
        rintro c _ ⟨rfl, -⟩
        exact absurd hkept (by decide)
      · split
        · exact ih true
        · refine List.isChain_cons.mpr ⟨fun c hc hboth => ?_, ih true⟩
          exact head?_underscoreRuns_true cs c hc hboth.2

/-- Single underscores are replaced by themselves. -/
theorem underscoreRuns_eq_self {cs : List Char} (hchars : ∀ c ∈ cs, IsNameChar c)
    (hsingle : cs.IsChain fun a b => ¬(a = '_' ∧ b = '_')) (inRun : Bool)
    (hfirst : inRun = true → ∀ c ∈ cs.head?, c ≠ '_') : underscoreRuns inRun cs = cs := by
  induction cs generalizing inRun with
  | nil => rfl
  | cons c cs ih =>
      obtain ⟨hnext, hrest⟩ := List.isChain_cons.mp hsingle
      have htail := ih (fun d hd => hchars d (List.mem_cons_of_mem _ hd)) hrest
      rw [underscoreRuns]
      split
      · rw [htail false (fun h => nomatch h)]
      · next hother =>
        obtain rfl := (hchars c List.mem_cons_self).resolve_left hother
        rw [if_neg fun hrun => hfirst hrun '_' rfl rfl,
          htail true fun _ d hd heq => hnext d hd ⟨rfl, heq⟩]

theorem stripUnderscores_eq (cs : List Char) : stripUnderscores cs = strip (· == '_') cs := rfl

theorem normalizeHeader_isHeaderName (P : ImportPlatform) (value : String) :
    IsHeaderName (normalizeHeader P value).toList := by
  rw [normalizeHeader, String.toList_ofList, stripUnderscores_eq]
  constructor
  · exact fun c hc => isNameChar_of_mem_underscoreRuns ((strip_isInfix _).subset hc)
  · exact List.IsChain.infix (underscoreRuns_isChain false _) (strip_isInfix _)
  · exact fun c hc => beq_eq_false_iff_ne.mp (head?_strip _ c hc)
  · exact fun c hc => beq_eq_false_iff_ne.mp (getLast?_strip _ c hc)

/-! ## Normalizing again -/

/-- What headers take from Unicode. Canonical decomposition leaves ASCII as it is, and
white space around a text stays white space around the decomposed text. Small letters,
digits and underscores are in lower case. -/
structure HeaderText (P : ImportPlatform) : Prop where
  nfd_ascii : ∀ text, (∀ c ∈ text.toList, c.toNat < 0x80) → P.nfd text = text
  nfd_surrounded : ∀ left text right, isBlank left = true → isBlank right = true →
    ∃ left' right', isBlank left' = true ∧ isBlank right' = true ∧
      P.nfd (left ++ text ++ right) = left' ++ P.nfd text ++ right'
  lower_name : ∀ text, (∀ c ∈ text.toList, IsNameChar c) → P.toLowerCase text = text

variable {P : ImportPlatform}

theorem normalizeHeader_eq_self (hP : HeaderText P) {name : String}
    (h : IsHeaderName name.toList) : normalizeHeader P name = name := by
  have hnfd : P.nfd name = name :=
    hP.nfd_ascii name fun c hc => by
      have hranges := (h.chars c hc).ranges
      omega
  have hmarks : (name.toList.filter fun c => !isCombiningMark c) = name.toList :=
    List.filter_eq_self.mpr fun c hc => by rw [(h.chars c hc).not_combiningMark]; rfl
  have htrim : trim name = name := by
    have hvisible := trim_of_visible fun c hc => (h.chars c hc).visible
    rwa [String.ofList_toList] at hvisible
  have hruns := underscoreRuns_eq_self h.chars h.single false (fun hrun => nomatch hrun)
  have hends : strip (· == '_') name.toList = name.toList :=
    strip_eq_self (fun c hc => beq_eq_false_iff_ne.mpr (h.first c hc))
      fun c hc => beq_eq_false_iff_ne.mpr (h.last c hc)
  rw [normalizeHeader, hnfd, hmarks, String.ofList_toList, htrim, hP.lower_name name h.chars,
    hruns, stripUnderscores_eq, hends, String.ofList_toList]

theorem normalizeHeader_idempotent (hP : HeaderText P) (value : String) :
    normalizeHeader P (normalizeHeader P value) = normalizeHeader P value :=
  normalizeHeader_eq_self hP (normalizeHeader_isHeaderName P value)

/-! ## White space around a header -/

/-- A header has the same name with and without the white space around it. -/
theorem normalizeHeader_normalizeCell (hP : HeaderText P) (cell : String) :
    normalizeHeader P (normalizeCell cell) = normalizeHeader P cell := by
  obtain ⟨left, right, hleft, hright, hcell⟩ := exists_surrounded cell
  obtain ⟨left', right', hleft', hright', hnfd⟩ :=
    hP.nfd_surrounded left (trim cell) right hleft hright
  have hblank : ∀ text, isBlank text = true →
      isBlank (String.ofList (text.toList.filter fun c => !isCombiningMark c)) = true := by
    intro text htext
    rw [isBlank, String.toList_ofList, List.all_eq_true]
    exact fun c hc => List.all_eq_true.mp htext c (List.mem_of_mem_filter hc)
  have hsame : trim (String.ofList ((P.nfd cell).toList.filter fun c => !isCombiningMark c)) =
      trim (String.ofList ((P.nfd (trim cell)).toList.filter fun c => !isCombiningMark c)) := by
    conv_lhs => rw [hcell, hnfd]
    rw [String.toList_append, String.toList_append, List.filter_append, List.filter_append,
      String.ofList_append, String.ofList_append]
    exact trim_surrounded (hblank left' hleft') (hblank right' hright') _
  rw [normalizeHeader, normalizeHeader, normalizeCell, hsame]

theorem isBlank_of_normalizeHeader_ne (hP : HeaderText P) {value : String}
    (h : normalizeHeader P value ≠ "") : isBlank value = false := by
  rw [← Bool.not_eq_true]
  intro hblank
  have hempty : normalizeHeader P "" = "" :=
    normalizeHeader_eq_self hP ⟨by simp, List.isChain_nil, by simp, by simp⟩
  apply h
  rw [← normalizeHeader_normalizeCell hP value, normalizeCell, (trim_eq_empty_iff value).mpr hblank,
    hempty]

theorem plainPlatform_headerText : HeaderText plainPlatform where
  nfd_ascii _ _ := rfl
  nfd_surrounded left _ right hleft hright := ⟨left, right, hleft, hright, rfl⟩
  lower_name text h := by
    have hlower : text.toList.map Char.toLower = text.toList := by
      calc text.toList.map Char.toLower = text.toList.map id :=
            List.map_congr_left fun c hc => (h c hc).toLower_eq
        _ = text.toList := List.map_id _
    change String.ofList (text.toList.map Char.toLower) = text
    rw [hlower, String.ofList_toList]

end Logistics.Imports
