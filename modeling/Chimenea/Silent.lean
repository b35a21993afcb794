import Chimenea.Session
import Mathlib.Data.Nat.Find

/-!
The timeout of `web.ino` over the whole time a client stays. The inner loop compares the
clock of the last byte it read with the clock of the connection, so only a byte makes it
notice that time has passed, and a client that sends none keeps it running.
-/

namespace Chimenea.Web
open Arduino

/-- A client for as long as one likes: what each pass finds, and the real milliseconds at
which it checks its condition and reads the clock. -/
structure Conexion where
  remoteIP : IPAddress
  inicio : Nat
  conectado : Nat → Bool
  letra : Nat → Option (BitVec 8)
  chequeo : Nat → Nat
  lectura : Nat → Nat
  empieza : inicio ≤ chequeo 0
  ordenado : ∀ k, chequeo k ≤ lectura k ∧ lectura k ≤ chequeo (k + 1)
  sinFin : ∀ t, ∃ k, t < chequeo k

namespace Conexion

variable (c : Conexion)

def aceptada : BitVec 32 := BitVec.ofNat 32 c.inicio

def pasada (k : Nat) : Pasada := ⟨c.conectado k, c.letra k, BitVec.ofNat 32 (c.lectura k)⟩

def bytes (n : Nat) : Bytes := (List.range n).flatMap fun k => (c.letra k).toList

/-- The client as far as `n` passes of the inner loop see it. -/
def visita (n : Nat) : Visita := ⟨c.remoteIP, c.aceptada, (List.range n).map c.pasada⟩

def tras (s : Placa) (n : Nat) : Sesion := atender s (c.visita n)

/-- Check `n` is made, and the loop goes on. -/
def Continua (s : Placa) (n : Nat) : Prop :=
  (c.tras s n).fase = .leyendo ∧
    sigue (c.tras s n).tiempoActual (c.tras s n).tiempoAnterior (c.pasada n) = true

/-- The byte of pass `k`, if there is one, is read in time as far as the clock can tell. -/
def EnPlazo (k : Nat) : Prop :=
  c.letra k ≠ none → ((c.pasada k).millis - c.aceptada).toNat ≤ TiempoCancelacion

/-- The loop is left at a check no later than the first one after the limit. -/
def SaleATiempo (s : Placa) : Prop :=
  ∃ n, ¬ c.Continua s n ∧ ∀ m, c.inicio + TiempoCancelacion < c.chequeo m → n ≤ m

/-- The first check after the limit. -/
def primera : Nat := Nat.find (c.sinFin (c.inicio + TiempoCancelacion))

section Passes

variable (s : Placa) (n : Nat)

theorem bytes_succ : c.bytes (n + 1) = c.bytes n ++ (c.letra n).toList := by
  rw [bytes, List.range_succ, List.flatMap_append, List.flatMap_singleton]
  rfl

theorem tras_succ : c.tras s (n + 1) = Web.pasada c.remoteIP (c.tras s n) (c.pasada n) := by
  rw [tras, atender, visita, List.range_succ, List.map_append, List.map_singleton,
    Reactive.run_concat]
  rfl

theorem tras_tiempoAnterior : (c.tras s n).tiempoAnterior = c.aceptada := by
  induction n with
  | zero => rfl
  | succ n ih => rw [tras_succ, pasada_tiempoAnterior, ih]

variable {s n}

theorem Continua.of_succ (later : c.Continua s (n + 1)) : c.Continua s n := by
  obtain ⟨reading, _⟩ := later
  rw [tras_succ] at reading
  by_cases before : (c.tras s n).fase = .leyendo
  · refine ⟨before, ?_⟩
    by_contra stop
    rw [pasada_stops _ _ _ before (eq_false_of_ne_true stop)] at reading
    exact Fase.noConfusion reading
  · rw [pasada_left _ _ _ before] at reading
    exact absurd reading before

/-- While the loop goes on, its state is what the bytes so far make of the board. -/
theorem Continua.refleja (going : c.Continua s n) :
    Refleja s c.remoteIP (c.bytes n) (c.tras s n) := by
  induction n with
  | zero => exact Refleja.aceptar s c.remoteIP c.aceptada
  | succ n ih =>
    have before := going.of_succ
    rw [tras_succ, bytes_succ]
    exact (ih before).pasada before.1 before.2

/-- The next check finds the clock within the limit exactly when the byte of this pass, if
there is one, is in time. -/
theorem Continua.enPlazo_iff (going : c.Continua s n) :
    ((c.tras s (n + 1)).tiempoActual - c.aceptada).toNat ≤ TiempoCancelacion ↔
      c.EnPlazo n := by
  obtain ⟨reading, stay⟩ := going
  have clock := (pasada_stays c.remoteIP _ _ reading stay).2
  rw [tras_succ, clock, EnPlazo]
  rw [sigue, tras_tiempoAnterior] at stay
  have short : ((c.tras s n).tiempoActual - c.aceptada).toNat ≤ TiempoCancelacion :=
    of_decide_eq_true (Bool.and_elim_right stay)
  cases byte : c.letra n with
  | none =>
    rw [if_pos (show (c.pasada n).letra = none from byte)]
    exact iff_of_true short fun filled => absurd rfl filled
  | some letra =>
    have filled : (c.pasada n).letra ≠ none := by
      show c.letra n ≠ none
      exact byte ▸ Option.some_ne_none letra
    rw [if_neg filled]
    exact ⟨fun inTime _ => inTime, fun due => due (Option.some_ne_none letra)⟩

/-- A pass ends inside the loop unless its byte completes the request. -/
theorem Continua.reading_iff (going : c.Continua s n) :
    (c.tras s (n + 1)).fase = .leyendo ↔ completa (c.bytes (n + 1)) = false := by
  obtain ⟨reading, stay⟩ := going
  have inside := (pasada_stays c.remoteIP _ _ reading stay).1
  have refleja := (Continua.refleja c ⟨reading, stay⟩).pasada reading stay
  rw [tras_succ, bytes_succ]
  exact refleja.reading_iff inside

/-- A check lets another pass in unless the pass before it has completed the request, or
the check finds the client gone or that the byte of that pass came too late. -/
theorem continua_succ : c.Continua s (n + 1) ↔
    c.Continua s n ∧ completa (c.bytes (n + 1)) = false ∧ c.conectado (n + 1) = true ∧
      c.EnPlazo n := by
  constructor
  · intro later
    have going : c.Continua s n := later.of_succ
    obtain ⟨reading, stay⟩ := later
    rw [sigue, tras_tiempoAnterior, Bool.and_eq_true, decide_eq_true_eq, going.enPlazo_iff] at stay
    exact ⟨going, going.reading_iff.mp reading, stay⟩
  · intro both
    obtain ⟨going, opened, stay⟩ := both
    apply And.intro (going.reading_iff.mpr opened)
    rw [sigue, tras_tiempoAnterior, Bool.and_eq_true, decide_eq_true_eq, going.enPlazo_iff]
    exact stay

/-- The loop goes on at a check exactly when no check found the client gone, the request is
not complete and no byte came late. -/
theorem continua_iff (n : Nat) : c.Continua s n ↔
    (∀ k ≤ n, c.conectado k = true) ∧ completa (c.bytes n) = false ∧ ∀ k < n, c.EnPlazo k := by
  induction n with
  | zero =>
    have start : c.Continua s 0 ↔ c.conectado 0 = true := by
      simp [Continua, tras, atender, visita, aceptar, sigue, pasada, TiempoCancelacion]
    rw [start]
    constructor
    · intro connected
      exact ⟨fun k first => Nat.le_zero.mp first ▸ connected, rfl,
        fun k early => absurd early k.not_lt_zero⟩
    · intro all
      exact all.1 0 le_rfl
  | succ n ih =>
    have opened : completa (c.bytes (n + 1)) = false → completa (c.bytes n) = false := by
      intro later
      by_contra closed
      rw [bytes_succ, (completa_append _ (eq_true_of_ne_false closed) _).1] at later
      exact Bool.noConfusion later
    have connected : (∀ k ≤ n + 1, c.conectado k = true) ↔
        (∀ k ≤ n, c.conectado k = true) ∧ c.conectado (n + 1) = true := by
      simp only [← Nat.lt_succ_iff]
      exact Nat.forall_lt_succ_right
    rw [continua_succ, ih, connected, Nat.forall_lt_succ_right]
    constructor
    · intro both
      obtain ⟨⟨here, _, early⟩, still, next, inTime⟩ := both
      exact ⟨⟨here, next⟩, still, early, inTime⟩
    · intro all
      obtain ⟨⟨here, next⟩, still, early, inTime⟩ := all
      exact ⟨⟨here, opened still, early⟩, still, next, inTime⟩

theorem Continua.earlier {k : Nat} (upTo : k ≤ n) (later : c.Continua s n) :
    c.Continua s k := by
  induction n, upTo using Nat.le_induction with
  | base => exact later
  | succ n _ ih => exact ih later.of_succ

end Passes

theorem inicio_le (k : Nat) : c.inicio ≤ c.lectura k := by
  induction k with
  | zero => exact c.empieza.trans (c.ordenado 0).1
  | succ k ih => exact ih.trans ((c.ordenado k).2.trans (c.ordenado (k + 1)).1)

/-- Before the last pass ahead of the limit no byte is late. -/
theorem enPlazo_of_early {k : Nat} (early : k + 1 < c.primera) : c.EnPlazo k := by
  intro _
  have next : ¬ c.inicio + TiempoCancelacion < c.chequeo (k + 1) := Nat.find_min (c.sinFin _) early
  have read : c.lectura k ≤ c.inicio + TiempoCancelacion :=
    (c.ordenado k).2.trans (Nat.le_of_not_lt next)
  have real := Arduino.elapsed_real (c.inicio_le k) (by rw [TiempoCancelacion] at read; omega)
  change (BitVec.ofNat 32 (c.lectura k) - BitVec.ofNat 32 c.inicio).toNat ≤ TiempoCancelacion
  omega

theorem saleATiempo_iff (s : Placa) : c.SaleATiempo s ↔ ¬ c.Continua s c.primera := by
  constructor
  · intro leaves going
    obtain ⟨n, left, soon⟩ := leaves
    exact left (going.earlier c (soon c.primera (Nat.find_spec (c.sinFin _))))
  · intro left
    exact ⟨c.primera, left, fun m late => Nat.find_min' _ late⟩

end Conexion

/-- The loop is left in time exactly when the client is gone or its request complete by the
first check after the limit, or the pass just before that check reads a byte after it. -/
theorem timeout_in_time_iff (s : Placa) (c : Conexion) : c.SaleATiempo s ↔
    (∃ k ≤ c.primera, c.conectado k = false) ∨ completa (c.bytes c.primera) = true ∨
      ∃ k, k + 1 = c.primera ∧ ¬ c.EnPlazo k := by
  have last : (∀ k < c.primera, c.EnPlazo k) ↔ ∀ k, k + 1 = c.primera → c.EnPlazo k := by
    constructor
    · intro all k next
      exact all k (by omega)
    · intro before k lower
      by_cases next : k + 1 = c.primera
      · exact before k next
      · exact c.enPlazo_of_early (by omega)
  rw [c.saleATiempo_iff, c.continua_iff, last]
  simp only [not_and_or, not_forall, Bool.not_eq_true, Bool.not_eq_false, exists_prop]

/-- A client that connects and never sends a byte; a pass takes two milliseconds. -/
def callado : Conexion where
  remoteIP := localhost
  inicio := 0
  conectado := fun _ => true
  letra := fun _ => none
  chequeo := fun k => 2 * k
  lectura := fun k => 2 * k + 1
  empieza := by omega
  ordenado := by omega
  sinFin := fun t => ⟨t + 1, by omega⟩

theorem silent_client_hangs : ¬ ∀ (s : Placa) (c : Conexion), c.SaleATiempo s := by
  intro leaves
  obtain ⟨n, left, _⟩ := leaves setup callado
  have nothing : callado.bytes n = [] := List.flatMap_eq_nil_iff.mpr fun _ _ => rfl
  apply left
  rw [callado.continua_iff, nothing]
  exact ⟨fun _ _ => rfl, rfl, fun _ _ byte => absurd rfl byte⟩

end Chimenea.Web
