import Mathlib.Data.List.Basic
import Mathlib.Tactic.Common

/-!
The lines of a text that arrives symbol by symbol. A line is complete once its end has
arrived; what came after the last end is the line in progress.
-/

namespace Text

variable {α : Type*} [BEq α] (sep : α)

/-- The lines whose end has arrived. -/
def complete (text : List α) : List (List α) := (text.splitOn sep).dropLast

/-- The line in progress. -/
def pending (text : List α) : List α := (text.splitOn sep).getLastD []

variable {sep} (text : List α)

/-- What a text gives up to its lines, read from the way it splits. -/
theorem of_splitOn {lines : List (List α)} {line : List α}
    (split : text.splitOn sep = lines ++ [line]) :
    complete sep text = lines ∧ pending sep text = line := by
  simp [complete, pending, split]

theorem splitOn_eq : text.splitOn sep = complete sep text ++ [pending sep text] := by
  have some := List.splitOn_ne_nil sep text
  rw [complete, pending, List.getLastD_eq_getLast?, List.getLast?_eq_some_getLast some]
  exact (List.dropLast_concat_getLast some).symm

@[simp] theorem complete_nil : complete sep [] = [] := rfl

section Symbols

variable [LawfulBEq α]

theorem splitOn_concat_sep : (text ++ [sep]).splitOn sep = text.splitOn sep ++ [[]] := by
  rw [List.splitOn_append_cons_self, List.splitOn_nil]

/-- Another symbol than the separator goes to the line in progress. -/
theorem splitOn_concat {b : α} (other : b ≠ sep) :
    (text ++ [b]).splitOn sep = complete sep text ++ [pending sep text ++ [b]] := by
  induction text with
  | nil => exact List.splitOn_eq_singleton (by simp [Ne.symm other])
  | cons a rest ih =>
    have extend (lines : List (List α)) (line : List α)
        (split : (a :: rest).splitOn sep = lines ++ [line]) :
        lines ++ [line ++ [b]] =
          complete sep (a :: rest) ++ [pending sep (a :: rest) ++ [b]] := by
      obtain ⟨ended, going⟩ := of_splitOn (a :: rest) split
      rw [ended, going]
    have next : (a :: rest).splitOn sep =
        if (a == sep) = true then [] :: (complete sep rest ++ [pending sep rest])
        else (complete sep rest ++ [pending sep rest]).modifyHead (a :: ·) := by
      rw [← splitOn_eq]
      exact List.splitOn_cons_eq_if_modifyHead ..
    rw [List.cons_append, List.splitOn_cons_eq_if_modifyHead, ih]
    split_ifs at next ⊢
    · exact extend ([] :: complete sep rest) (pending sep rest) next
    · cases first : complete sep rest with
      | nil =>
        rw [first] at next
        exact extend [] (a :: pending sep rest) next
      | cons line lines =>
        rw [first] at next
        exact extend ((a :: line) :: lines) (pending sep rest) next

theorem complete_concat_sep :
    complete sep (text ++ [sep]) = complete sep text ++ [pending sep text] := by
  rw [← splitOn_eq]
  exact (of_splitOn _ (splitOn_concat_sep text)).1

theorem pending_concat_sep : pending sep (text ++ [sep]) = [] :=
  (of_splitOn _ (splitOn_concat_sep text)).2

theorem complete_concat {b : α} (other : b ≠ sep) :
    complete sep (text ++ [b]) = complete sep text :=
  (of_splitOn _ (splitOn_concat text other)).1

theorem pending_concat {b : α} (other : b ≠ sep) :
    pending sep (text ++ [b]) = pending sep text ++ [b] :=
  (of_splitOn _ (splitOn_concat text other)).2

theorem complete_line {line : List α} (inside : sep ∉ line) :
    complete sep (line ++ sep :: text) = line :: complete sep text := by
  have split : (line ++ sep :: text).splitOn sep =
      (line :: complete sep text) ++ [pending sep text] := by
    rw [List.splitOn_append_cons_self_of_not_mem inside, splitOn_eq]
    rfl
  exact (of_splitOn _ split).1

/-- Whole lines in front of a text are lines of it. -/
theorem complete_lines (lines : List (List α)) (inside : ∀ line ∈ lines, sep ∉ line) :
    complete sep (lines.flatMap (· ++ [sep]) ++ text) = lines ++ complete sep text := by
  induction lines with
  | nil => rfl
  | cons line rest ih =>
    have first : sep ∉ line := inside line List.mem_cons_self
    calc complete sep ((line :: rest).flatMap (· ++ [sep]) ++ text)
      _ = complete sep (line ++ sep :: (rest.flatMap (· ++ [sep]) ++ text)) := by simp
      _ = line :: complete sep (rest.flatMap (· ++ [sep]) ++ text) := complete_line _ first
      _ = line :: (rest ++ complete sep text) := by
        rw [ih fun other member => inside other (List.mem_cons_of_mem line member)]

end Symbols

end Text
