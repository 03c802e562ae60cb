import Mathlib.Data.List.Basic
import Gazette.Text.Parts

/-!
# Cutting and joining

What is known of the parts of a text from the places where its separators stand, and how a joined
text begins with its first part.
-/

set_option autoImplicit false

namespace Gazette.Parts

variable {separator : Char} {text front : List Char}

/-- A text has one part more than it has separators. -/
theorem length_all (separator : Char) (text : List Char) :
    (all separator text).length = text.count separator + 1 := by
  induction text with
  | nil => rfl
  | cons c text ih =>
    unfold all
    by_cases cut : c = separator
    · rw [if_pos cut, List.length_cons, ih, cut, List.count_cons_self]
    · rw [if_neg cut, List.count_cons_of_ne cut, ← ih]
      cases parts : all separator text with
      | nil =>
        rw [parts] at ih
        cases ih
      | cons part parts => rfl

/-- Where no separator stands there is one part. -/
theorem all_of_free (free : separator ∉ text) : all separator text = [text] := by
  induction text with
  | nil => rfl
  | cons c text ih =>
    obtain ⟨other, rest⟩ := not_or.mp (mt List.mem_cons.mpr free)
    rw [all, if_neg (Ne.symm other), ih rest]

/-- The first separator ends the first part. -/
theorem all_append_cons (free : separator ∉ front) (back : List Char) :
    all separator (front ++ separator :: back) = front :: all separator back := by
  induction front with
  | nil => rw [List.nil_append, all, if_pos rfl]
  | cons c front ih =>
    obtain ⟨other, rest⟩ := not_or.mp (mt List.mem_cons.mpr free)
    rw [List.cons_append, all, if_neg (Ne.symm other), ih rest]

/-- Joining puts the separator in front of every part but the first. -/
theorem intercalate_cons (between first : List Char) (others : List (List Char)) :
    between.intercalate (first :: others) = first ++ others.flatMap (between ++ ·) := by
  induction others generalizing first with
  | nil => simp
  | cons next others ih => simp [List.intercalate_cons_cons, ih, List.append_assoc]

end Gazette.Parts
