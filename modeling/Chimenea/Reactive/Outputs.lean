import Mathlib.Data.List.Infix
import Mathlib.Tactic.Common

/-!
Output logs, newest entry first. Some entries write a level to an output, the
level of an output is what the last write to it left there, and an ordering
property of the writes is a property of the log and of all its older parts.
-/

namespace Reactive

variable {ε π ν : Type*} [DecidableEq π] (write : ε → Option (π × ν)) (rest : ν)

/-- The level of an output after a log; `rest` before the first write to it. -/
def level (p : π) : List ε → ν
  | [] => rest
  | entry :: log =>
    match write entry with
    | some (q, v) => if q = p then v else level p log
    | none => level p log

variable {rest}

theorem level_write {entry : ε} {q : π} {v : ν} (writes : write entry = some (q, v)) (p : π)
    (log : List ε) :
    level write rest p (entry :: log) = if q = p then v else level write rest p log := by
  simp only [level, writes]

theorem level_silent {entry : ε} (silent : write entry = none) (p : π) (log : List ε) :
    level write rest p (entry :: log) = level write rest p log := by
  simp only [level, silent]

/-- `P` holds of the log and of every log it grew from. -/
def Throughout (P : List ε → Prop) (log : List ε) : Prop := ∀ older, older <:+ log → P older

theorem throughout_nil (P : List ε → Prop) : Throughout P [] ↔ P [] := by
  simp [Throughout]

theorem Throughout.now {P : List ε → Prop} {log : List ε} (all : Throughout P log) : P log :=
  all log List.suffix_rfl

theorem throughout_cons (P : List ε → Prop) (entry : ε) (log : List ε) :
    Throughout P (entry :: log) ↔ P (entry :: log) ∧ Throughout P log := by
  constructor
  · intro all
    refine ⟨all.now, ?_⟩
    intro older isSuffix
    exact all older (isSuffix.trans (List.suffix_cons ..))
  · intro both older isSuffix
    obtain ⟨last, before⟩ := both
    rcases List.suffix_cons_iff.mp isSuffix with rfl | earlier
    · exact last
    · exact before older earlier

end Reactive
