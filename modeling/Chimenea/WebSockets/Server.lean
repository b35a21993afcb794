import Chimenea.WebSockets.Client
import Chimenea.WString

/-!
The websocket server (`WebSocketsServer.cpp`): its five clients, the HTTP request each
begins with, and one call of its `loop()`.
-/

namespace Chimenea.WebSockets
open Arduino Machine

def WEBSOCKETS_SERVER_CLIENT_MAX : Nat := 5

abbrev Slot := Fin WEBSOCKETS_SERVER_CLIENT_MAX

/-- The number of a place. -/
def Slot.num (i : Slot) : BitVec 8 := BitVec.ofNat 8 i

/-- The clients after `begin()`. -/
def inicio (i : Slot) : WSclient where
  num := i.num
  status := .notConnected
  tcp := none
  http := {}
  cIsClient := false
  cWsRXsize := 0
  cWsHeader := []
  cWsHeaderDecode := splitHeader 0 0
  pongReceived := false

/-- The server while its `loop()` runs, with the calls of the callback so far. -/
structure Server where
  clients : Slot → WSclient
  eventos : List CbEvent
  looks : List Look

abbrev Serving := Program Empty Server

/-- The library at work on one of the clients. -/
def onClient {α : Type} (i : Slot) (x : Library α) : Serving α := fun s =>
  let back (d : Session) : Server :=
    { clients := Function.update s.clients i d.client, eventos := d.eventos, looks := d.looks }
  match x ⟨s.clients i, s.eventos, s.looks⟩ with
  | .ok a d => .ok a (back d)
  | .error e d => .error e (back d)

/-- A connection that is lost, or that has no client, is dropped on the way. -/
def clientIsConnected : Library Bool := do
  let d ← get
  match d.client.tcp with
  | none => return false
  | some _ => do
    let l ← look
    if l.connected = true ∧ d.client.status ≠ .notConnected then return true
    else do
      dropClient
      return false

/-- `client->tcp->available()`: of what the other end sends, what has arrived. -/
def available : Library Nat := do
  let d ← get
  match d.client.tcp with
  | none => return 0
  | some tcp => do
    let l ← look
    return min l.len tcp.unread.length

/-- A pass of the loop of `readStringUntil('\n')`: a byte, or the stream gives up. -/
def lineTurn (line : Bytes) : Library (Bytes ⊕ Bytes) := do
  let d ← get
  match d.client.tcp with
  | none => return .inr line
  | some tcp => do
    let l ← look
    match tcp.unread.take l.len with
    | [] => if l.late = true then return .inr line else return .inl line
    | c :: _ => do
      setClient fun client => { client with tcp := some { tcp with unread := tcp.unread.drop 1 } }
      if c = newline then return .inr line else return .inl (line ++ [c])

def readLine : Library Bytes := do
  let d ← get
  loop lineTurn (d.looks.length + 1) []

/-- A line of the request that is not empty. There is no function that validates the other
headers, and none of them is mandatory. -/
def handleHeaderLine (http : WSheader) (line : Bytes) : WSheader :=
  if startsWith line (ascii "GET ") = true then
    { http with
      cUrl := substring line 4 (unsigned (indexOfChar line 0x20 4))
      cHttpHeadersValid := true }
  else if 0 ≤ indexOfChar line 0x3A 0 then
    let colon := unsigned (indexOfChar line 0x3A 0)
    let name := substring line 0 colon
    let rest := substring line (colon + 1) line.length
    let value := if rest.head? = some 0x20 then rest.drop 1 else rest
    if equalsIgnoreCase name (ascii "Connection") = true then
      if 0 ≤ indexOf (value.map tolower) (ascii "upgrade") then { http with cIsUpgrade := true }
      else http
    else if equalsIgnoreCase name (ascii "Upgrade") = true then
      if equalsIgnoreCase value (ascii "websocket") = true then { http with cIsWebsocket := true }
      else http
    else if equalsIgnoreCase name (ascii "Sec-WebSocket-Version") = true then
      { http with cVersion := BitVec.ofInt 16 (atoi value) }
    else if equalsIgnoreCase name (ascii "Sec-WebSocket-Key") = true then
      { http with cKey := trim value }
    else if equalsIgnoreCase name (ascii "Sec-WebSocket-Protocol") = true then
      { http with cProtocol := value }
    else http
  else http

/-- Whether the request asks for a websocket. -/
def WSheader.ok (http : WSheader) : Bool :=
  http.cIsUpgrade && http.cIsWebsocket && !http.cUrl.isEmpty && !http.cKey.isEmpty &&
    http.cVersion == 13 && http.cHttpHeadersValid

/-- `tcp->write`. -/
def tcpWrite (out : Bytes) : Library Unit := do
  let d ← get
  match d.client.tcp with
  | none => return
  | some tcp => do
    let l ← look
    setClient fun c => { c with tcp := some { tcp with written := tcp.written ++ out.take l.len } }

def badRequest : Bytes :=
  ascii "HTTP/1.1 400 Bad Request\r\n" ++
  ascii "Server: arduino-WebSocket-Server\r\n" ++
  ascii "Content-Type: text/plain\r\n" ++
  ascii "Content-Length: 32\r\n" ++
  ascii "Connection: close\r\n" ++
  ascii "Sec-WebSocket-Version: 13\r\n" ++
  ascii "\r\n" ++
  ascii "This is a Websocket server only!"

def handleNonWebsocketConnection : Library Unit := do
  tcpWrite badRequest
  dropClient

def headerDone : Library Unit :=
  setClient fun c => { c with status := .connected, cWsRXsize := 0 }

section Upgrade

-- `acceptKey` is the digest of the client's key, which the chip computes.
variable (acceptKey : Bytes → Bytes)

/-- The answer to a request for a websocket. The sketch leaves the origin and the protocol of
the server at their defaults. -/
def handshake (http : WSheader) : Bytes :=
  ascii "HTTP/1.1 101 Switching Protocols\r\n" ++
  ascii "Server: arduino-WebSocketsServer\r\n" ++
  ascii "Upgrade: websocket\r\n" ++
  ascii "Connection: Upgrade\r\n" ++
  ascii "Sec-WebSocket-Version: 13\r\n" ++
  ascii "Sec-WebSocket-Accept: " ++ acceptKey http.cKey ++ ascii "\r\n" ++
  (if http.cProtocol = [] then [] else ascii "Sec-WebSocket-Protocol: arduino\r\n") ++
  ascii "\r\n"

/-- An empty line ends the request. -/
def handleHeader (headerLine : Bytes) : Library Unit :=
  if trim headerLine ≠ [] then
    setClient fun c => { c with http := handleHeaderLine c.http (trim headerLine) }
  else do
    let d ← get
    if d.client.http.ok = true then do
      setClient fun c => { c with status := .connected }
      let _ ← write (handshake acceptKey d.client.http)
      headerDone
      let _ ← sendFrame WSop_ping [] true
      runCbEvent .connected d.client.http.cUrl
    else handleNonWebsocketConnection

/-- What `handleClientData` does for a client. -/
def serveClient : Library Unit := do
  if (← clientIsConnected) = true then
    if 0 < (← available) then do
      let d ← get
      match d.client.status with
      | .header => do
        let headerLine ← readLine
        handleHeader acceptKey headerLine
      | .connected => handleWebsocket
      | .notConnected => clientDisconnect 1002
    else return
  else return

def forSlots (body : Slot → Serving Unit) : List Slot → Serving Unit
  | [] => return
  | i :: rest => do
    body i
    forSlots body rest

def handleClientData : Serving Unit :=
  forSlots (fun i => onClient i (serveClient acceptKey))
    (List.finRange WEBSOCKETS_SERVER_CLIENT_MAX)

/-- The first free place is for the new connection, which is lost if there is none. -/
def newClient (tcp : WiFiClient) : List Slot → Serving Unit
  | [] => return
  | i :: rest => do
    if (← onClient i clientIsConnected) = true then newClient tcp rest
    else
      onClient i (setClient fun c =>
        { c with tcp := some tcp, status := .header, pongReceived := false })

/-- The connections that came in, each with what its other end is going to send. -/
def handleNewClients : List Bytes → Serving Unit
  | [] => return
  | unread :: rest => do
    newClient { unread := unread } (List.finRange WEBSOCKETS_SERVER_CLIENT_MAX)
    handleNewClients rest

/-- `WebSocketsServer::loop`. -/
def serve (connections : List Bytes) : Serving Unit := do
  handleNewClients connections
  handleClientData acceptKey

end Upgrade

/-- What `broadcastTXT` does for a client. -/
def broadcastClient (payload : Bytes) : Library Unit := do
  if (← clientIsConnected) = true then do
    let _ ← sendFrame WSop_text payload true
  else return

/-- `WebSocketsServerCore::broadcastTXT`. -/
def broadcastTXT (payload : Bytes) : Serving Unit :=
  forSlots (fun i => onClient i (broadcastClient payload))
    (List.finRange WEBSOCKETS_SERVER_CLIENT_MAX)

end Chimenea.WebSockets
