import Chimenea.Session

/-!
The state and the pin of `web.ino` over any sequence of clients. A line moves the state as
soon as it ends and the pin waits for the empty line, so a client that goes between the two
leaves them apart, unless its lines left the state as it was.
-/

namespace Chimenea.Web
open Arduino

def PinSigue (s : Placa) : Prop := s.pinLed = s.estado

/-- The client gets as far as the empty line, or what it has commanded by then is the state
the board is in. -/
def Concluye (s : Placa) : Option Servida → Prop
  | some v => completa v.bytes = true ∨
      ∀ estado, ultimaOrden (cabecera v.bytes) = some estado → estado = s.estado
  | none => True

/-- Whether a client leaves pin and state together. -/
theorem loop_pinSigue_iff (s : Placa) (v : Option Servida) (together : PinSigue s) :
    PinSigue (loop s v) ↔ Concluye s v := by
  cases v with
  | none => exact iff_of_true together trivial
  | some v =>
    have refleja := atender_refleja s v.toVisita
    change (atender s v.toVisita).pinLed = (atender s v.toVisita).estado ↔ _
    rw [refleja.pinLed, Concluye]
    cases completa v.bytes with
    | true => simp
    | false =>
      rw [if_neg Bool.false_ne_true, refleja.estado, together]
      cases ultimaOrden (cabecera v.bytes) with
      | none => simp
      | some estado => simp [eq_comm]

/-- Pin and state agree after every client of a run exactly when each of the clients
concludes. -/
theorem pin_follows_state_iff (clientes : List (Option Servida)) :
    Reactive.Always loop PinSigue setup clientes ↔
      Reactive.Steps loop Concluye setup clientes := by
  have start : PinSigue setup := rfl
  exact Reactive.always_iff_steps (fun _ => True) PinSigue Concluye (fun _ _ _ => trivial)
    (fun s v _ => loop_pinSigue_iff s v) trivial start clientes

def Servida.inmediata (bytes : Bytes) : Servida where
  toVisita := Web.inmediata bytes
  fin := by
    intro s
    rw [atender, Web.inmediata, Reactive.run_concat]
    exact pasada_disconnected _ _ _ rfl

/-- A client that is gone after the request line has switched the state and not the pin. -/
theorem aborted_request_splits :
    ¬ ∀ clientes : List (Option Servida), Reactive.Always loop PinSigue setup clientes := by
  intro always
  let cortado := Servida.inmediata (ascii "GET /encender HTTP/1.1\n")
  have together : PinSigue (loop setup (some cortado)) :=
    always [some cortado] [some cortado] List.prefix_rfl
  have concluded := (loop_pinSigue_iff setup (some cortado) rfl).mp together
  have arrived : cortado.bytes = ascii "GET /encender HTTP/1.1\n" := inmediata_bytes _
  rw [Concluye, arrived] at concluded
  cases concluded with
  | inl closed => exact absurd closed (by decide)
  | inr same => exact absurd (same true (by decide)) (by decide)

end Chimenea.Web
