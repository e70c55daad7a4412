import Mathlib
import Logistics.Imports.Service

/-!
# File names

An upload is checked under the name it came with; its job keeps a name made of
letters, digits and a few marks, cut to 255 characters, and by that name the worker
chooses the parser. What is replaced never touches an accepted extension, but the
cut may.
-/

namespace Logistics.Imports

open Logistics.Library

/-! ## Extensions -/

def ImportFormat.text : ImportFormat → String
  | .csv => "csv"
  | .xlsx => "xlsx"

def lastPiece (cs : List Char) : List Char := (cs.splitOn '.').getLastD []

theorem lastPiece_of_not_mem {cs : List Char} (h : '.' ∉ cs) : lastPiece cs = cs := by
  rw [lastPiece, List.splitOn_eq_singleton h]
  rfl

theorem lastPiece_append_dot (before after : List Char) :
    lastPiece (before ++ '.' :: after) = lastPiece after := by
  rw [lastPiece, List.splitOn_append_cons_self, List.getLastD_eq_getLast?,
    List.getLast?_append_of_ne_nil _ (List.splitOn_ne_nil _ _), ← List.getLastD_eq_getLast?]
  rfl

/-- A text ends with what stands behind its last dot. -/
theorem eq_or_dot_lastPiece (cs : List Char) :
    '.' ∉ lastPiece cs ∧ (cs = lastPiece cs ∨ ∃ before, cs = before ++ '.' :: lastPiece cs) := by
  induction cs with
  | nil => exact ⟨by decide, .inl rfl⟩
  | cons c cs ih =>
      obtain ⟨hnot, hcs⟩ := ih
      rcases hcs with hcs | ⟨before, hcs⟩
      · by_cases hdot : c = '.'
        · subst hdot
          have hpiece : lastPiece ('.' :: cs) = lastPiece cs := lastPiece_append_dot [] cs
          rw [hpiece]
          exact ⟨hnot, .inr ⟨[], by rw [← hcs]; rfl⟩⟩
        · have hnone : '.' ∉ c :: cs := by
            rw [List.mem_cons, not_or]
            exact ⟨fun heq => hdot heq.symm, hcs ▸ hnot⟩
          rw [lastPiece_of_not_mem hnone]
          exact ⟨hnone, .inl rfl⟩
      · have hpiece : lastPiece (c :: cs) = lastPiece cs := by
          conv_lhs => rw [hcs, ← List.cons_append, lastPiece_append_dot]
          exact lastPiece_of_not_mem hnot
        rw [hpiece]
        exact ⟨hnot, .inr ⟨c :: before, by rw [List.cons_append, ← hcs]⟩⟩

theorem fileExtension_eq (P : ImportPlatform) (filename : String) :
    fileExtension P filename = P.toLowerCase (String.ofList (lastPiece filename.toList)) := by
  rw [fileExtension, split, lastPiece, List.getLastD_eq_getLast?, List.getLastD_eq_getLast?,
    List.getLast?_map]
  cases (filename.toList.splitOn '.').getLast? <;> rfl

theorem extensionOf_eq_ok_iff (P : ImportPlatform) (filename : String) (format : ImportFormat) :
    extensionOf P filename = .ok format ↔ fileExtension P filename = format.text := by
  unfold extensionOf
  cases format with
  | csv =>
      split
      · next h => simp [h, ImportFormat.text]
      · next h =>
        refine ⟨fun hok => ?_, fun heq => absurd heq h⟩
        split at hok <;> cases hok
  | xlsx =>
      split
      · next h =>
        refine ⟨fun hok => (nomatch hok), fun heq => ?_⟩
        rw [h] at heq
        exact absurd heq (by decide)
      · split
        · next h => simp [h, ImportFormat.text]
        · next h => exact ⟨fun hok => (nomatch hok), fun heq => absurd heq h⟩

/-- Of all texts only "csv" and "xlsx" themselves, in any case of their letters,
become an extension in lower case. -/
def LowersExtensions (P : ImportPlatform) : Prop :=
  ∀ (format : ImportFormat) (text : String),
    P.toLowerCase text = format.text ↔ text.toList.map Char.toLower = format.text.toList

theorem extensionOf_iff {P : ImportPlatform} (hP : LowersExtensions P) (filename : String)
    (format : ImportFormat) : extensionOf P filename = .ok format ↔
      (lastPiece filename.toList).map Char.toLower = format.text.toList := by
  rw [extensionOf_eq_ok_iff, fileExtension_eq, hP, String.toList_ofList]

/-! ## Sanitized names -/

theorem replaceRuns_of_all {cs : List Char} (h : ∀ c ∈ cs, isFilenameChar c = true)
    (inRun : Bool) : replaceRuns inRun cs = cs := by
  induction cs generalizing inRun with
  | nil => rfl
  | cons c cs ih =>
      rw [replaceRuns, if_pos (h c List.mem_cons_self),
        ih fun d hd => h d (List.mem_cons_of_mem _ hd)]

theorem replaceRuns_append_cons {c : Char} (hc : isFilenameChar c = true) (xs ys : List Char)
    (inRun : Bool) :
    replaceRuns inRun (xs ++ c :: ys) = replaceRuns inRun xs ++ c :: replaceRuns false ys := by
  induction xs generalizing inRun with
  | nil =>
      have hkept : replaceRuns inRun (c :: ys) = c :: replaceRuns false ys := by
        rw [replaceRuns, if_pos hc]
      exact hkept
  | cons x xs ih =>
      rw [List.cons_append, replaceRuns, replaceRuns]
      split
      · rw [ih]
        rfl
      · split
        · rw [ih]
        · rw [ih]
          rfl

theorem isFilenameChar_of_isAlpha {c : Char} (h : c.isAlpha = true) : isFilenameChar c = true := by
  simp only [Char.isAlpha, Char.isUpper, Char.isLower, Bool.or_eq_true, Bool.and_eq_true,
    decide_eq_true_eq] at h
  simp only [isFilenameChar, Bool.or_eq_true, Bool.and_eq_true, decide_eq_true_eq, Char.le_def]
  rcases h with h | h
  · exact .inl (.inl (.inl (.inl (.inl (.inr h)))))
  · exact .inl (.inl (.inl (.inl (.inl (.inl h)))))

theorem isUpper_or_toLower_eq (c : Char) : c.isUpper = true ∨ c.toLower = c := by
  by_cases hupper : c.isUpper = true
  · exact .inl hupper
  · right
    unfold Char.toLower
    rw [dif_neg]
    simpa [Char.isUpper] using hupper

theorem isAlpha_of_extension {format : ImportFormat} {cs : List Char}
    (h : cs.map Char.toLower = format.text.toList) : ∀ c ∈ cs, c.isAlpha = true := by
  have hletters : ∀ c ∈ format.text.toList, c.isAlpha = true := by
    cases format with
    | csv => exact List.all_eq_true.mp (by decide +kernel)
    | xlsx => exact List.all_eq_true.mp (by decide +kernel)
  intro c hc
  rcases isUpper_or_toLower_eq c with hupper | hsame
  · rw [Char.isAlpha, hupper, Bool.true_or]
  · rw [← hsame]
    exact hletters _ (h ▸ List.mem_map_of_mem hc)

theorem eq_dot_of_toLower {c : Char} (h : c.toLower = '.') : c = '.' := by
  rcases isUpper_or_toLower_eq c with hupper | hsame
  · have hlower : 'a'.toNat ≤ c.toLower.toNat := by
      simp only [Char.isUpper, decide_eq_true_eq, ge_iff_le] at hupper
      unfold Char.toLower
      rw [dif_pos hupper]
      change 97 ≤ (c.val + 32).toNat
      simp only [UInt32.le_iff_toNat_le] at hupper
      obtain ⟨hlow, hhigh⟩ := hupper
      change 65 ≤ c.val.toNat at hlow
      change c.val.toNat ≤ 90 at hhigh
      have hsum : (c.val + 32).toNat = (c.val.toNat + 32) % 2 ^ 32 := UInt32.toNat_add _ _
      omega
    rw [h] at hlower
    exact absurd hlower (by decide)
  · rw [← hsame, h]

/-- Replacing characters leaves an accepted extension at its place. -/
theorem lastPiece_replaceRuns {format : ImportFormat} {cs : List Char}
    (h : (lastPiece cs).map Char.toLower = format.text.toList) :
    lastPiece (replaceRuns false cs) = lastPiece cs := by
  have hletters := isAlpha_of_extension h
  have hkept : replaceRuns false (lastPiece cs) = lastPiece cs :=
    replaceRuns_of_all (fun c hc => isFilenameChar_of_isAlpha (hletters c hc)) false
  obtain ⟨hnot, hcs | ⟨before, hcs⟩⟩ := eq_or_dot_lastPiece cs
  · conv_lhs => rw [hcs, hkept]
    exact lastPiece_of_not_mem hnot
  · conv_lhs => rw [hcs, replaceRuns_append_cons rfl, hkept, lastPiece_append_dot]
    exact lastPiece_of_not_mem hnot

/-- A text that is longer than an extension has it after its last dot exactly when it
ends with a dot and the extension. -/
theorem lastPiece_iff_suffix {format : ImportFormat} {cs : List Char} (hlong : 4 < cs.length) :
    (lastPiece cs).map Char.toLower = format.text.toList ↔
      ('.' :: format.text.toList) <:+ cs.map Char.toLower := by
  constructor
  · intro h
    obtain ⟨-, hcs | ⟨before, hcs⟩⟩ := eq_or_dot_lastPiece cs
    · have hlength := congrArg List.length h
      rw [List.length_map, ← hcs] at hlength
      have hshort : format.text.toList.length ≤ 4 := by cases format <;> decide
      omega
    · refine ⟨before.map Char.toLower, ?_⟩
      conv_rhs => rw [hcs]
      rw [List.map_append, List.map_cons, h]
      rfl
  · rintro ⟨start, h⟩
    obtain ⟨before, after, hcs, -, hafter⟩ := List.map_eq_append_iff.mp h.symm
    obtain ⟨dot, piece, rfl, hdot, hpiece⟩ := List.map_eq_cons_iff.mp hafter
    obtain rfl := eq_dot_of_toLower hdot
    have hnot : '.' ∉ piece := fun hmem =>
      absurd (isAlpha_of_extension hpiece _ hmem) (by decide)
    rw [hcs, lastPiece_append_dot, lastPiece_of_not_mem hnot, hpiece]

theorem toList_sanitizeFilename {filename : String}
    (h : (replaceRuns false filename.toList).take 255 ≠ []) :
    (sanitizeFilename filename).toList = (replaceRuns false filename.toList).take 255 := by
  unfold sanitizeFilename
  split
  · next hnil => exact absurd hnil h
  · rw [String.toList_ofList]

/-- An accepted upload is parsed by the worker in the format it was accepted in
exactly when its sanitized name is not cut, or is cut right behind a dot and the same
extension. -/
theorem worker_format_iff (P : ImportPlatform) (hP : LowersExtensions P) (filename : String)
    (format : ImportFormat) (h : extensionOf P filename = .ok format) :
    extensionOf P (sanitizeFilename filename) = .ok format ↔
      (replaceRuns false filename.toList).length ≤ 255 ∨
        ('.' :: format.text.toList) <:+
          ((replaceRuns false filename.toList).take 255).map Char.toLower := by
  rw [extensionOf_iff hP] at h ⊢
  have hpiece := lastPiece_replaceRuns h
  rw [← hpiece] at h
  have hne : replaceRuns false filename.toList ≠ [] := by
    intro hnil
    rw [hnil] at h
    cases format <;> cases h
  rw [toList_sanitizeFilename (by simpa using hne)]
  by_cases hshort : (replaceRuns false filename.toList).length ≤ 255
  · rw [List.take_of_length_le hshort]
    exact iff_of_true h (.inl hshort)
  · rw [lastPiece_iff_suffix (by rw [List.length_take]; omega)]
    exact (or_iff_right hshort).symm

theorem plainPlatform_lowersExtensions : LowersExtensions plainPlatform := by
  intro format text
  have hlower : plainPlatform.toLowerCase text = String.ofList (text.toList.map Char.toLower) := rfl
  rw [hlower, ← String.toList_inj, String.toList_ofList]

theorem worker_format_iff_plain :
    LowersExtensions plainPlatform ∧ extensionOf plainPlatform "Clientes (1).CSV" = .ok .csv ∧
      (extensionOf plainPlatform (sanitizeFilename "Clientes (1).CSV") = .ok .csv ↔
        (replaceRuns false "Clientes (1).CSV".toList).length ≤ 255 ∨
          ('.' :: ImportFormat.csv.text.toList) <:+
            ((replaceRuns false "Clientes (1).CSV".toList).take 255).map Char.toLower) := by
  have haccepted : extensionOf plainPlatform "Clientes (1).CSV" = .ok .csv := by decide +kernel
  exact ⟨plainPlatform_lowersExtensions, haccepted,
    worker_format_iff plainPlatform plainPlatform_lowersExtensions _ _ haccepted⟩

/-- A name of 256 characters loses the last letter of its extension. -/
theorem a_cut_name_has_no_format :
    ¬∀ (P : ImportPlatform), LowersExtensions P → ∀ (filename : String) (format : ImportFormat),
      extensionOf P filename = .ok format →
        extensionOf P (sanitizeFilename filename) = .ok format := by
  intro h
  have hname := h plainPlatform plainPlatform_lowersExtensions
    (String.ofList (List.replicate 252 'a' ++ ['.', 'c', 's', 'v'])) .csv
  have hkept : replaceRuns false (List.replicate 252 'a' ++ ['.', 'c', 's', 'v']) =
      List.replicate 252 'a' ++ ['.', 'c', 's', 'v'] := by
    refine replaceRuns_of_all (fun c hc => ?_) false
    rcases List.mem_append.mp hc with hc | hc
    · rw [List.eq_of_mem_replicate hc]
      rfl
    · have hall : ∀ c ∈ ['.', 'c', 's', 'v'], isFilenameChar c = true :=
        List.all_eq_true.mp (by decide +kernel)
      exact hall c hc
  have hcut : (List.replicate 252 'a' ++ ['.', 'c', 's', 'v']).take 255 =
      List.replicate 252 'a' ++ ['.', 'c', 's'] := by
    rw [List.take_append, List.take_of_length_le (by rw [List.length_replicate]; omega),
      List.length_replicate]
    rfl
  rw [extensionOf_iff plainPlatform_lowersExtensions,
    extensionOf_iff plainPlatform_lowersExtensions, toList_sanitizeFilename, String.toList_ofList,
    hkept, hcut, lastPiece_append_dot, lastPiece_append_dot] at hname
  · exact absurd (hname (by decide)) (by decide)
  · rw [String.toList_ofList, hkept, hcut]
    exact List.append_ne_nil_of_right_ne_nil _ (List.cons_ne_nil _ _)

end Logistics.Imports
