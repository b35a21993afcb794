import Chimenea.AsyncWebServer.Browser
import Chimenea.Page
import Mathlib.Data.Nat.Find
import Mathlib.Order.Monotone.Defs

/-!
The starts of the fireplace. Each one loads the settings and tries the network they name;
where that fails the access point is opened, and the form it serves changes the settings
and starts the fireplace again.
-/

namespace Chimenea.Arranque
open Arduino Wifi AsyncWebServer
open Page (utf8 utf8Char toNat_lt utf8Char_ascii)

/-- The WiFi of one start: what `WiFi.config` says of the two addresses, what `WiFi.status()` says
of a name and a password, check by check, and the real millisecond of the clock reading before
each check. No reading is a turn of the clock behind the one before it. -/
structure Red where
  config : Bytes → Bytes → Bool
  status : Bytes → Bytes → Nat → Bool
  instante : Nat → Nat
  lecturas : Nat
  avanza : Monotone instante
  seguido : ∀ k, instante (k + 1) < instante k + 4294957296
  pasan : instante 0 + 10000 ≤ instante lecturas

namespace Red

variable (red : Red)

def millis (k : Nat) : BitVec 32 := BitVec.ofNat 32 (red.instante k)

end Red

/-- The loop of `initWiFi` from check `k` on; `none` when `fuel` checks do not end it. -/
def esperar (red : Red) (ssid pass : Bytes) : Nat → Nat → Option Bool
  | 0, _ => none
  | fuel + 1, k =>
    if red.status ssid pass k = true then some true
    else if 10000 ≤ (red.millis (k + 1) - red.millis 0).toNat then some false
    else esperar red ssid pass fuel (k + 1)

section Loop

variable (red : Red) (ssid pass : Bytes)

end Loop

section Texts

end Texts

section Starts

/- The static handler looks for its files in the flash as it is. -/
variable (archivo : SPIFFS → Bytes → Bool)
  (parseMultipartPostByte : Bytes → Nat → Bytes → Nat × List AsyncWebParameter)

/-- One start: its WiFi, and the segments of each request to its server. -/
structure Inicio where
  red : Red
  peticiones : List (List Bytes)

/-- What comes to the server. The form's handler ends with `ESP.restart()`, the other handlers
send a page. -/
def atender (conectada : Bool) (s : Dispositivo) : List (List Bytes) → Dispositivo
  | [] => s
  | segments :: rest =>
    match (segments.foldl (onData ⟨conectada, archivo s.spiffs⟩ parseMultipartPostByte) {}).handled with
    | (.formulario, params) :: _ => (post s params).1
    | _ => atender conectada s rest

/-- Someone has filled in the form, and its request comes in. -/
structure Visita where
  headers : List (Bytes × Bytes)
  textos : Campo → List Char
  segments : List Bytes

/-- The fields of `wifimanager.html`. -/
def formulario (textos : Campo → List Char) : List (Bytes × Bytes) :=
  [Campo.ssid, .pass, .ip, .gateway].map fun campo => (PARAM_INPUT campo, utf8 (textos campo))

def Visita.envio (v : Visita) : Envio where
  headers := v.headers
  campos := formulario v.textos

/-- A start as its user sees it: the requests before the form, the form, and what comes too late. -/
structure Estancia where
  red : Red
  antes : List (List Bytes)
  visita : Option Visita
  despues : List (List Bytes)

def Estancia.inicio (i : Estancia) : Inicio where
  red := i.red
  peticiones :=
    i.antes ++
      match i.visita with
      | none => []
      | some v => v.segments :: i.despues

variable {archivo parseMultipartPostByte}

section Conectada

variable {r : AsyncWebServerRequest}

/-- The form's handler is not called, and is not going to be. -/
structure SinFormulario (r : AsyncWebServerRequest) : Prop where
  handler : r.handler ≠ some .formulario
  handled : ∀ call ∈ r.handled, call.1 ≠ .formulario

theorem SinFormulario.same {r' : AsyncWebServerRequest} (before : SinFormulario r)
    (handler : r'.handler = r.handler) (handled : r'.handled = r.handled) : SinFormulario r' :=
  ⟨handler ▸ before.handler, handled ▸ before.handled⟩

end Conectada

end Starts

/-- A network that is never up, looked for once a second. -/
def redCaida : Red where
  config := fun _ _ => true
  status := fun _ _ _ => false
  instante := fun k => 1000 * k
  lecturas := 10
  avanza := fun _ _ later => Nat.mul_le_mul_left 1000 later
  seguido := fun k => by omega
  pasan := by decide

def textosCasa : Campo → List Char
  | .ssid => "Mi caña".toList
  | .pass => "50%".toList
  | .ip => "1.2.3.4".toList
  | .gateway => []

def headersCasa : List (Bytes × Bytes) :=
  [(ascii "Content-Type", ascii "application/x-www-form-urlencoded"),
    (ascii "Content-Length", ascii "48")]

def envioPrimera : Envio where
  headers := headersCasa
  campos := formulario textosCasa

/-- The page is asked for, then its form is sent in two segments. -/
def primera : Estancia where
  red := redCaida
  antes := [[ascii "GET / HTTP/1.1\r\nHost: a\r\n\r\n"]]
  visita := some {
    headers := headersCasa
    textos := textosCasa
    segments := [envioPrimera.bytes.take 60, envioPrimera.bytes.drop 60] }
  despues := []

end Chimenea.Arranque
