import Mathlib.Data.List.Basic
import Mathlib.Tactic.Common

/-!
# Labelled texts

A record of figures is written as one text, each figure after its label. Two records
with the same labels that are cut at the same place may be written alike although
their figures differ. As long as no figure but the last holds the character that the
next label begins with, they are alike exactly when the figures agree as far as the
text reaches.
-/

namespace Logistics.Library

variable {α : Type}

/-- Each figure after its label. -/
def labelled : List (List α × List α) → List α
  | [] => []
  | (label, figure) :: rest => label ++ (figure ++ labelled rest)

theorem labelled_append (x y : List (List α × List α)) :
    labelled (x ++ y) = labelled x ++ labelled y := by
  induction x with
  | nil => rfl
  | cons entry x ih =>
      rw [List.cons_append, labelled, labelled, ih, List.append_assoc, List.append_assoc]

/-- The figures agree within so many characters of the text. -/
def AgreeUpTo : ℕ → List (List α × List α) → List (List α × List α) → Prop
  | room, (label, figure) :: rest, (_, figure') :: rest' =>
      figure.take (room - label.length) = figure'.take (room - label.length) ∧
        AgreeUpTo (room - label.length - figure.length) rest rest'
  | _, [], [] => True
  | _, _, _ => False

instance decidableAgreeUpTo [DecidableEq α] :
    ∀ room (x y : List (List α × List α)), Decidable (AgreeUpTo room x y)
  | room, (label, figure) :: rest, (_, _) :: rest' =>
      have := decidableAgreeUpTo (room - label.length - figure.length) rest rest'
      inferInstanceAs (Decidable (_ ∧ _))
  | _, [], [] => isTrue trivial
  | _, _ :: _, [] => isFalse id
  | _, [], _ :: _ => isFalse id

/-- The same labels, and no figure but the last holds the character that the next
label begins with. -/
inductive SameLabels : List (List α × List α) → List (List α × List α) → Prop
  | last (label figure figure' : List α) : SameLabels [(label, figure)] [(label, figure')]
  | cons {label figure figure' next nextFigure nextFigure' : List α} {a : α}
      {rest rest' : List (List α × List α)} (hnext : next.head? = some a) (hfigure : a ∉ figure)
      (hfigure' : a ∉ figure')
      (hrest : SameLabels ((next, nextFigure) :: rest) ((next, nextFigure') :: rest')) :
      SameLabels ((label, figure) :: (next, nextFigure) :: rest)
        ((label, figure') :: (next, nextFigure') :: rest')

theorem take_label_append_eq_iff {room : ℕ} {label x y : List α} :
    (label ++ x).take room = (label ++ y).take room ↔
      x.take (room - label.length) = y.take (room - label.length) := by
  rw [List.take_append, List.take_append, List.append_cancel_left_eq]

/-- A figure ends where the character stands that it cannot hold. -/
theorem take_figure_append_eq_iff {a : α} {room : ℕ} {figure figure' x y : List α}
    (hfigure : a ∉ figure) (hfigure' : a ∉ figure') :
    (figure ++ a :: x).take room = (figure' ++ a :: y).take room ↔
      figure.take room = figure'.take room ∧
        (a :: x).take (room - figure.length) = (a :: y).take (room - figure.length) := by
  induction figure generalizing room figure' with
  | nil =>
      cases figure' with
      | nil => simp
      | cons b figure' =>
          obtain ⟨hab, -⟩ := not_or.mp (List.mem_cons.not.mp hfigure')
          cases room with
          | zero => simp
          | succ room => simp [hab]
  | cons b figure ih =>
      obtain ⟨hab, hfigure⟩ := not_or.mp (List.mem_cons.not.mp hfigure)
      cases room with
      | zero => simp
      | succ room =>
          cases figure' with
          | nil => simp [Ne.symm hab]
          | cons c figure' =>
              obtain ⟨-, hfigure'⟩ := not_or.mp (List.mem_cons.not.mp hfigure')
              simp only [List.cons_append, List.take_succ_cons, List.cons.injEq,
                List.length_cons, Nat.add_sub_add_right, ih hfigure hfigure', and_assoc]

/-- Cut texts are alike exactly when the figures agree as far as the text reaches. -/
theorem take_labelled_eq_iff {room : ℕ} {x y : List (List α × List α)} (h : SameLabels x y) :
    (labelled x).take room = (labelled y).take room ↔ AgreeUpTo room x y := by
  induction h generalizing room with
  | last label figure figure' =>
      simp only [labelled, AgreeUpTo, List.append_nil, and_true, take_label_append_eq_iff]
  | @cons label figure figure' next nextFigure nextFigure' a rest rest' hnext hfigure hfigure' _
      ih =>
      obtain ⟨next, rfl⟩ := List.head?_eq_some_iff.mp hnext
      have hx : labelled ((label, figure) :: (a :: next, nextFigure) :: rest) =
          label ++ (figure ++ a :: (next ++ (nextFigure ++ labelled rest))) := rfl
      have hy : labelled ((label, figure') :: (a :: next, nextFigure') :: rest') =
          label ++ (figure' ++ a :: (next ++ (nextFigure' ++ labelled rest'))) := rfl
      rw [hx, hy, take_label_append_eq_iff, AgreeUpTo, ← ih]
      exact take_figure_append_eq_iff hfigure hfigure'

theorem agreeUpTo_append {room : ℕ} {x y x' y' : List (List α × List α)}
    (h : x.length = y.length) :
    AgreeUpTo room (x ++ x') (y ++ y') ↔
      AgreeUpTo room x y ∧ AgreeUpTo (room - (labelled x).length) x' y' := by
  induction x generalizing room y with
  | nil =>
      obtain rfl := List.length_eq_zero_iff.mp h.symm
      simp [AgreeUpTo, labelled]
  | cons entry x ih =>
      cases y with
      | nil => cases h
      | cons entry' y =>
          have hroom : room - (labelled (entry :: x)).length =
              room - entry.1.length - entry.2.length - (labelled x).length := by
            rw [labelled, List.length_append, List.length_append]
            omega
          rw [List.cons_append, List.cons_append, AgreeUpTo, AgreeUpTo, ih (Nat.succ.inj h),
            hroom, and_assoc]

end Logistics.Library
