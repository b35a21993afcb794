import Chimenea.Arduino

/-!
The WiFi manager of `ESP32_WiFi_Manager.ino`. The form's fields go into four variables
and four files, the restart loads the variables from the files. A file is written with
all the bytes of a C string and read up to the first newline.
-/

namespace Chimenea.Wifi
open Arduino

/-- The four settings, each a form field, a variable and a file. -/
inductive Campo where
  | ssid | pass | ip | gateway
  deriving DecidableEq, Repr

def PARAM_INPUT : Campo → Bytes
  | .ssid => ascii "ssid"
  | .pass => ascii "pass"
  | .ip => ascii "ip"
  | .gateway => ascii "gateway"

def path : Campo → String
  | .ssid => "/ssid.txt"
  | .pass => "/pass.txt"
  | .ip => "/ip.txt"
  | .gateway => "/gateway.txt"

inductive File where
  | directory
  | content (bytes : Bytes)

abbrev SPIFFS := String → Option File

def readFile (fs : SPIFFS) (path : String) : Bytes :=
  match fs path with
  | some (.content bytes) => readStringUntil newline bytes
  | _ => []

/-- Opening to write succeeds and empties the file; `print` writes the C string. -/
def writeFile (fs : SPIFFS) (path : String) (message : Bytes) : SPIFFS :=
  Function.update fs path (some (.content (c_str message)))

structure Dispositivo where
  ajustes : Campo → Bytes
  spiffs : SPIFFS

/-- `setup()` loads the four variables. -/
def cargar (fs : SPIFFS) : Dispositivo where
  ajustes := fun campo => readFile fs (path campo)
  spiffs := fs

structure AsyncWebParameter where
  isPost : Bool
  name : Bytes
  value : Bytes
  deriving DecidableEq, Repr

/-- The name is compared with a C string, so as a C string. -/
def nombra (campo : Campo) (p : AsyncWebParameter) : Bool := c_str p.name = PARAM_INPUT campo

/-- One of the four blocks of the POST handler. -/
def recibir (campo : Campo) (s : Dispositivo) (p : AsyncWebParameter) : Dispositivo :=
  if nombra campo p = true then
    let s := { s with ajustes := Function.update s.ajustes campo (c_str p.value) }
    { s with spiffs := writeFile s.spiffs (path campo) (c_str (s.ajustes campo)) }
  else s

def recibirParametro (s : Dispositivo) (p : AsyncWebParameter) : Dispositivo :=
  if p.isPost = true then
    let s := recibir .ssid s p
    let s := recibir .pass s p
    let s := recibir .ip s p
    recibir .gateway s p
  else s

/-- The POST handler, with the text of its answer. -/
def post (s : Dispositivo) (params : List AsyncWebParameter) : Dispositivo × Bytes :=
  let s := params.foldl recibirParametro s
  (s, ascii "Done. ESP will restart, connect to your router and go to IP address: " ++ s.ajustes .ip)

def reiniciar (s : Dispositivo) : Dispositivo := cargar s.spiffs

/-- The value of the last POST parameter with the field's name. -/
def ultimo (campo : Campo) (params : List AsyncWebParameter) : Option Bytes :=
  (params.filter fun p => p.isPost && nombra campo p).getLast?.map AsyncWebParameter.value

section Handler

variable (campo : Campo)

theorem path_injective : Function.Injective path := by
  intro a b same
  cases a <;> cases b <;> first | rfl | exact absurd same (by decide)

/-- The variable and the file of a field after one block. -/
theorem recibir_campo (otro : Campo) (s : Dispositivo) (p : AsyncWebParameter) :
    (recibir otro s p).ajustes campo =
        (if otro = campo ∧ nombra campo p = true then c_str p.value else s.ajustes campo) ∧
      (recibir otro s p).spiffs (path campo) =
        if otro = campo ∧ nombra campo p = true then some (.content (c_str p.value))
        else s.spiffs (path campo) := by
  by_cases own : otro = campo
  · subst own
    by_cases named : nombra otro p = true
    · simp [recibir, named, writeFile, c_str_idem]
    · simp [recibir, named]
  · have apart : path campo ≠ path otro := fun same => own (path_injective same).symm
    by_cases named : nombra otro p = true
    · simp [recibir, named, writeFile, own, Ne.symm own, apart]
    · simp [recibir, named, own]

theorem recibirParametro_campo (s : Dispositivo) (p : AsyncWebParameter) :
    (recibirParametro s p).ajustes campo =
        (if (p.isPost && nombra campo p) = true then c_str p.value else s.ajustes campo) ∧
      (recibirParametro s p).spiffs (path campo) =
        if (p.isPost && nombra campo p) = true then some (.content (c_str p.value))
        else s.spiffs (path campo) := by
  cases posted : p.isPost with
  | false => simp [recibirParametro, posted]
  | true =>
    simp only [recibirParametro, posted, if_true, Bool.true_and, recibir_campo]
    cases campo <;> simp

theorem ultimo_concat (front : List AsyncWebParameter) (p : AsyncWebParameter) :
    ultimo campo (front ++ [p]) =
      if (p.isPost && nombra campo p) = true then some p.value else ultimo campo front := by
  rw [ultimo, List.filter_append]
  split_ifs with taken
  · simp [taken]
  · simp [taken, ultimo]

/-- Whatever the order and the repetitions, a field is in the end what its last parameter
made of it. -/
theorem post_campo (s : Dispositivo) (params : List AsyncWebParameter) :
    (post s params).1.ajustes campo = ((ultimo campo params).map c_str).getD (s.ajustes campo) ∧
      (post s params).1.spiffs (path campo) =
        ((ultimo campo params).map fun v => some (.content (c_str v))).getD
          (s.spiffs (path campo)) := by
  induction params using List.reverseRecOn with
  | nil => exact ⟨rfl, rfl⟩
  | append_singleton front p ih =>
    have step := recibirParametro_campo campo (post s front).1 p
    have last : (post s (front ++ [p])).1 = recibirParametro (post s front).1 p := by
      simp only [post, List.foldl_append, List.foldl_cons, List.foldl_nil]
    rw [last, step.1, step.2, ih.1, ih.2, ultimo_concat]
    split_ifs <;> exact ⟨rfl, rfl⟩

end Handler

/-- After the restart the field is what was posted last, or what it was if nothing was, and
what the handler held. -/
def Sobrevive (fs : SPIFFS) (params : List AsyncWebParameter) (campo : Campo) : Prop :=
  let enviado := (post (cargar fs) params).1
  (reiniciar enviado).ajustes campo = (ultimo campo params).getD ((cargar fs).ajustes campo) ∧
    (reiniciar enviado).ajustes campo = enviado.ajustes campo

theorem reiniciar_campo (fs : SPIFFS) (params : List AsyncWebParameter) (campo : Campo) :
    (reiniciar (post (cargar fs) params).1).ajustes campo =
      ((ultimo campo params).map fun v => readStringUntil newline (c_str v)).getD
        ((cargar fs).ajustes campo) := by
  simp only [reiniciar, cargar, readFile]
  rw [(post_campo campo ⟨_, fs⟩ params).2]
  cases ultimo campo params <;> rfl

theorem readStringUntil_c_str (v : Bytes) :
    readStringUntil newline (c_str v) = v ↔ (0 : BitVec 8) ∉ v ∧ newline ∉ v := by
  rw [readStringUntil, c_str, List.takeWhile_takeWhile, List.takeWhile_eq_self_iff]
  simp only [ne_eq, Bool.decide_and, Bool.and_eq_true, decide_eq_true_eq]
  constructor
  · intro each
    exact ⟨fun null => (each _ null).2 rfl, fun ends => (each _ ends).1 rfl⟩
  · intro clean b member
    obtain ⟨null, ends⟩ := clean
    exact ⟨fun same => ends (same ▸ member), fun same => null (same ▸ member)⟩

/-- A setting survives the restart exactly when the value posted last, if any, has neither
a null byte nor a newline. -/
theorem settings_survive_iff (fs : SPIFFS) (params : List AsyncWebParameter) (campo : Campo) :
    Sobrevive fs params campo ↔
      ∀ v, ultimo campo params = some v → (0 : BitVec 8) ∉ v ∧ newline ∉ v := by
  rw [Sobrevive, reiniciar_campo, (post_campo campo (cargar fs) params).1]
  cases posted : ultimo campo params with
  | none => simp
  | some v =>
    simp only [Option.map_some, Option.getD_some, Option.some.injEq, forall_eq',
      readStringUntil_c_str]
    constructor
    · exact fun both => both.1
    · intro clean
      exact ⟨clean, by rw [(readStringUntil_c_str v).mpr clean, (c_str_eq_self v).mpr clean.1]⟩

/-- A password of two lines comes back as its first line. -/
theorem password_cut_at_newline :
    ¬ ∀ (fs : SPIFFS) (params : List AsyncWebParameter) (campo : Campo),
      Sobrevive fs params campo := by
  intro survives
  obtain ⟨kept, _⟩ := survives (fun _ => none) [⟨true, ascii "pass", ascii "dos\nlineas"⟩] .pass
  rw [reiniciar_campo] at kept
  exact absurd kept (by decide)

end Chimenea.Wifi
