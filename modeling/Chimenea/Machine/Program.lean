import Mathlib.Logic.Basic
import Mathlib.Data.List.Basic

/-!
Programs that read and write a state, may fail, and loop: rules for what one
program reaches from a state, and for two programs that run side by side.
-/

namespace Chimenea.Machine

/-- A failure `some e` is one of the program. `none` says that a loop was still
running when its bound was used up. -/
abbrev Program (ε σ α : Type) : Type := EStateM (Option ε) σ α

/-- `for (;;)`: the body goes on with `inl` and leaves the loop with `inr`. -/
def loop {ε σ α β : Type} (body : β → Program ε σ (β ⊕ α)) : Nat → β → Program ε σ α
  | 0, _ => throw none
  | bound + 1, b => do
    match ← body b with
    | .inl next => loop body bound next
    | .inr result => return result

section Ends

variable {ε σ α β : Type} {E : Option ε → Prop} {s : σ} {x : Program ε σ α} {Q : α → σ → Prop}

/-- Started in `s` the program ends where `Q` holds, or fails with one of the failures `E`. -/
def Ends (E : Option ε → Prop) (x : Program ε σ α) (s : σ) (Q : α → σ → Prop) : Prop :=
  match x s with
  | .ok a t => Q a t
  | .error e _ => E e

theorem ends_pure {a : α} (after : Q a s) : Ends E (pure a : Program ε σ α) s Q := after

theorem ends_throw {e : Option ε} (failure : E e) : Ends E (throw e : Program ε σ α) s Q :=
  failure

theorem ends_get {Q : σ → σ → Prop} (after : Q s s) : Ends E (get : Program ε σ σ) s Q := after

theorem ends_mono {Q' : α → σ → Prop} (run : Ends E x s Q) (weaker : ∀ a t, Q a t → Q' a t) :
    Ends E x s Q' := by
  unfold Ends at run ⊢
  cases result : x s with
  | ok a t =>
    rw [result] at run
    exact weaker a t run
  | error e t =>
    rw [result] at run
    exact run

theorem ends_and {Q' : α → σ → Prop} (one : Ends E x s Q) (other : Ends E x s Q') :
    Ends E x s fun a t => Q a t ∧ Q' a t := by
  unfold Ends at one other ⊢
  cases result : x s with
  | ok a t =>
    rw [result] at one other
    exact ⟨one, other⟩
  | error e t =>
    rw [result] at one
    exact one

theorem ends_bind {next : α → Program ε σ β} {Q' : β → σ → Prop} (first : Ends E x s Q)
    (second : ∀ a t, Q a t → Ends E (next a) t Q') : Ends E (x >>= next) s Q' := by
  unfold Ends at first ⊢
  change match EStateM.bind x next s with
    | .ok b t => Q' b t
    | .error e _ => E e
  unfold EStateM.bind
  cases result : x s with
  | ok a t =>
    rw [result] at first
    exact second a t first
  | error e t =>
    rw [result] at first
    exact first

theorem ends_ite {c : Prop} [Decidable c] {y : Program ε σ α} (yes : c → Ends E x s Q)
    (no : ¬ c → Ends E y s Q) : Ends E (if c then x else y) s Q := by
  by_cases h : c
  · rw [if_pos h]
    exact yes h
  · rw [if_neg h]
    exact no h

/-- One turn of a loop. -/
theorem ends_turn {body : β → Program ε σ (β ⊕ α)} {bound : Nat} {b : β}
    (turn : Ends E (body b) s fun r t =>
      r.elim (fun next => Ends E (loop body bound next) t Q) (fun a => Q a t)) :
    Ends E (loop body (bound + 1) b) s Q := by
  apply ends_bind turn
  intro r t after
  cases r with
  | inl next => exact after
  | inr a => exact ends_pure after

/-- A loop whose body makes a measure smaller each time it goes on. -/
theorem ends_loop (measure : σ → Nat) (Inv : β → σ → Prop) {body : β → Program ε σ (β ⊕ α)}
    (step : ∀ b t, Inv b t → Ends E (body b) t (fun r u =>
      r.elim (fun next => Inv next u ∧ measure u < measure t) (fun a => Q a u)))
    (bound : Nat) (b : β) (start : Inv b s) (enough : measure s < bound) :
    Ends E (loop body bound b) s Q := by
  induction bound generalizing b s with
  | zero => exact absurd enough (Nat.not_lt_zero _)
  | succ bound ih =>
    apply ends_turn
    apply ends_mono (step b s start)
    intro r t after
    cases r with
    | inl next =>
      have smaller : measure t < measure s := after.2
      exact ih next after.1 (by omega)
    | inr a => exact after

end Ends

section Keeps

variable {ε σ α β : Type} {R : σ → σ → Prop} {x : Program ε σ α}

/-- Wherever the program is started, where it ends is related to it. -/
def Keeps (R : σ → σ → Prop) (x : Program ε σ α) : Prop :=
  ∀ s, Ends (fun _ => True) x s fun _ t => R s t

theorem keeps_pure (refl : ∀ s, R s s) (a : α) : Keeps R (pure a : Program ε σ α) := refl

theorem keeps_throw (e : Option ε) : Keeps R (throw e : Program ε σ α) := fun _ => trivial

theorem keeps_get (refl : ∀ s, R s s) : Keeps R (get : Program ε σ σ) := refl

theorem keeps_bind (trans : ∀ s t u, R s t → R t u → R s u) {next : α → Program ε σ β}
    (first : Keeps R x) (second : ∀ a, Keeps R (next a)) : Keeps R (x >>= next) := by
  intro s
  apply ends_bind (first s)
  intro a t before
  apply ends_mono (second a t)
  intro b u after
  exact trans s t u before after

theorem keeps_ite {c : Prop} [Decidable c] {y : Program ε σ α} (yes : Keeps R x)
    (no : Keeps R y) : Keeps R (if c then x else y) := by
  intro s
  exact ends_ite (fun _ => yes s) (fun _ => no s)

theorem keeps_loop (refl : ∀ s, R s s) (trans : ∀ s t u, R s t → R t u → R s u)
    {body : β → Program ε σ (β ⊕ α)} (turn : ∀ b, Keeps R (body b)) (bound : Nat) (b : β) :
    Keeps R (loop body bound b) := by
  induction bound generalizing b with
  | zero => exact keeps_throw none
  | succ bound ih =>
    apply keeps_bind trans (turn b)
    intro r
    cases r with
    | inl next => exact ih next
    | inr a => exact keeps_pure refl a

end Keeps

section Alike

/-- How two programs that run side by side are compared: `inv` relates their
states, `le` says what a state may become, and `safe` is what of `inv` is left
where the first program has failed. -/
structure Frame (σ τ : Type) where
  inv : σ → τ → Prop
  le : σ → σ → Prop
  safe : σ → Prop
  refl : ∀ s, le s s
  trans : ∀ {s t u}, le s t → le t u → le s u
  safe_of_inv : ∀ {s t}, inv s t → safe s

variable {ε σ τ α α' β β' : Type} {F : Frame σ τ} {s : σ} {t : τ} {x : Program ε σ α}
  {y : Program ε τ α'} {Q : α → α' → σ → τ → Prop}

/-- Started in `s` and `t` both programs end without a failure, in related
states where `Q` holds, or both fail alike. -/
def Alike (F : Frame σ τ) (x : Program ε σ α) (s : σ) (y : Program ε τ α') (t : τ)
    (Q : α → α' → σ → τ → Prop) : Prop :=
  match x s, y t with
  | .ok a s', .ok a' t' => F.inv s' t' ∧ F.le s s' ∧ Q a a' s' t'
  | .error e s', .error e' _ => e = e' ∧ F.safe s'
  | _, _ => False

/-- What the second program does where the first one ends. -/
theorem alike_ok {a : α} {s' : σ} (run : Alike F x s y t Q) (here : x s = .ok a s') :
    ∃ a' t', y t = .ok a' t' ∧ F.inv s' t' ∧ Q a a' s' t' := by
  unfold Alike at run
  rw [here] at run
  cases there : y t with
  | ok a' t' =>
    rw [there] at run
    exact ⟨a', t', rfl, run.1, run.2.2⟩
  | error e' t' =>
    rw [there] at run
    exact run.elim

theorem alike_error {e : Option ε} {s' : σ} (run : Alike F x s y t Q)
    (here : x s = .error e s') : ∃ t', y t = .error e t' ∧ F.safe s' := by
  unfold Alike at run
  rw [here] at run
  cases there : y t with
  | ok a' t' =>
    rw [there] at run
    exact run.elim
  | error e' t' =>
    rw [there] at run
    exact ⟨t', congrArg (EStateM.Result.error · t') run.1.symm, run.2⟩

theorem alike_pure {a : α} {a' : α'} (related : F.inv s t) (after : Q a a' s t) :
    Alike F (pure a : Program ε σ α) s (pure a' : Program ε τ α') t Q :=
  ⟨related, F.refl s, after⟩

theorem alike_throw_of_safe {e : Option ε} (safe : F.safe s) :
    Alike F (throw e : Program ε σ α) s (throw e : Program ε τ α') t Q :=
  ⟨rfl, safe⟩

theorem alike_throw {e : Option ε} (related : F.inv s t) :
    Alike F (throw e : Program ε σ α) s (throw e : Program ε τ α') t Q :=
  alike_throw_of_safe (F.safe_of_inv related)

theorem alike_get {Q : σ → τ → σ → τ → Prop} (related : F.inv s t) (after : Q s t s t) :
    Alike F (get : Program ε σ σ) s (get : Program ε τ τ) t Q :=
  ⟨related, F.refl s, after⟩

theorem alike_mono {Q' : α → α' → σ → τ → Prop} (run : Alike F x s y t Q)
    (weaker : ∀ a a' s' t', F.inv s' t' → F.le s s' → Q a a' s' t' → Q' a a' s' t') :
    Alike F x s y t Q' := by
  unfold Alike at run ⊢
  revert run
  cases x s <;> cases y t <;> intro run
  · exact ⟨run.1, run.2.1, weaker _ _ _ _ run.1 run.2.1 run.2.2⟩
  all_goals exact run

theorem alike_bind {next : α → Program ε σ β} {next' : α' → Program ε τ β'}
    {Q' : β → β' → σ → τ → Prop} (first : Alike F x s y t Q)
    (second : ∀ a a' s' t', F.inv s' t' → F.le s s' → Q a a' s' t' →
      Alike F (next a) s' (next' a') t' Q') :
    Alike F (x >>= next) s (y >>= next') t Q' := by
  unfold Alike at first ⊢
  change match EStateM.bind x next s, EStateM.bind y next' t with
    | .ok b s', .ok b' t' => F.inv s' t' ∧ F.le s s' ∧ Q' b b' s' t'
    | .error e s', .error e' _ => e = e' ∧ F.safe s'
    | _, _ => False
  unfold EStateM.bind
  revert first
  cases x s with
  | ok a s' =>
    cases y t with
    | ok a' t' =>
      intro first
      have rest := second a a' s' t' first.1 first.2.1 first.2.2
      unfold Alike at rest
      revert rest
      dsimp only
      cases next a s' <;> cases next' a' t' <;> intro rest
      · exact ⟨rest.1, F.trans first.2.1 rest.2.1, rest.2.2⟩
      all_goals exact rest
    | error e' t' => exact False.elim
  | error e s' =>
    cases y t with
    | ok a' t' => exact False.elim
    | error e' t' => exact id

theorem alike_ite {c c' : Prop} [Decidable c] [Decidable c'] {x' : Program ε σ α}
    {y' : Program ε τ α'} (same : c ↔ c') (yes : c → Alike F x s y t Q)
    (no : ¬ c → Alike F x' s y' t Q) :
    Alike F (if c then x else x') s (if c' then y else y') t Q := by
  by_cases h : c
  · rw [if_pos h, if_pos (same.1 h)]
    exact yes h
  · rw [if_neg h, if_neg (fun h' => h (same.2 h'))]
    exact no h

/-- Loops with related bodies and one bound. -/
theorem alike_loop (I : β → β' → σ → τ → Prop) {body : β → Program ε σ (β ⊕ α)}
    {body' : β' → Program ε τ (β' ⊕ α')}
    (step : ∀ b b' u v, F.inv u v → F.le s u → I b b' u v →
      Alike F (body b) u (body' b') v (fun r r' u' v' =>
        Sum.LiftRel (fun next next' => I next next' u' v') (fun a a' => Q a a' u' v') r r'))
    (bound : Nat) (b : β) (b' : β') {u : σ} {v : τ} (related : F.inv u v) (later : F.le s u)
    (start : I b b' u v) : Alike F (loop body bound b) u (loop body' bound b') v Q := by
  induction bound generalizing b b' u v with
  | zero => exact alike_throw related
  | succ bound ih =>
    apply alike_bind (step b b' u v related later start)
    intro r r' u' v' related' later' after
    cases after with
    | inl next => exact ih _ _ related' (F.trans later later') next
    | inr result => exact alike_pure related' result

end Alike

end Chimenea.Machine
