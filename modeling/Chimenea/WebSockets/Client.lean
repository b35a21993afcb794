import Chimenea.WebSockets.Frame
import Chimenea.Machine.Program
import Chimenea.Sketch

/-!
The websocket library (`WebSockets.cpp`) on the connection of one client: reading and
writing through TCP, frames out, and frames in.
-/

namespace Chimenea.WebSockets
open Arduino Machine
open Sketch (WStype)

def WEBSOCKETS_TCP_TIMEOUT : Nat := 5000

/-- The states of a client. In `header` its HTTP request is being read. -/
inductive WSclientsStatus where
  | notConnected | header | connected
  deriving DecidableEq, Repr

/-- A connection: what the other end sends on it and has not been read, and what was
written to it. TCP keeps both in order. -/
structure WiFiClient where
  unread : Bytes
  written : Bytes := []

/-- What a client's HTTP request has said so far. -/
structure WSheader where
  cUrl : Bytes := []
  cKey : Bytes := []
  cProtocol : Bytes := []
  cVersion : BitVec 16 := 0
  cIsUpgrade : Bool := false
  cIsWebsocket : Bool := false
  cHttpHeadersValid : Bool := false

/-- `WSclient_t`. `tcp` is null without a connection. -/
structure WSclient where
  num : BitVec 8
  status : WSclientsStatus
  tcp : Option WiFiClient
  http : WSheader
  cIsClient : Bool
  cWsRXsize : Nat
  cWsHeader : Bytes
  cWsHeaderDecode : WSMessageHeader
  pongReceived : Bool

/-- What the code finds each time it turns to the outside: whether the connection
stands, the clock, how many bytes it can read or write at once, whether a `Stream` that
finds nothing gives up, whether there is memory for a payload, and four random numbers. -/
structure Look where
  connected : Bool
  millis : BitVec 32
  len : Nat
  late : Bool
  memory : Bool
  random : MaskKey

/-- A call of the callback. -/
structure CbEvent where
  num : BitVec 8
  type : WStype
  payload : Bytes

/-- The library at work for one client: the calls of the callback so far, and what it
will find outside. -/
structure Session where
  client : WSclient
  eventos : List CbEvent
  looks : List Look

/-- There is no failure but to wait for a look that has not come. -/
abbrev Library := Program Empty Session

def look : Library Look := do
  let d ← get
  match d.looks with
  | [] => throw none
  | l :: looks => do
    set { d with looks := looks }
    return l

def setClient (f : WSclient → WSclient) : Library Unit :=
  modify fun d => { d with client := f d.client }

/-- `client->tcp && client->tcp->connected()`. -/
def connected : Library Bool := do
  let d ← get
  match d.client.tcp with
  | none => return false
  | some _ => return (← look).connected

def expired (t : BitVec 32) (l : Look) : Bool := WEBSOCKETS_TCP_TIMEOUT < (l.millis - t).toNat

/-- A pass of the loop of `readCb`: the time of the last byte, how many are still
wanted, and those that came. -/
def readTurn (turn : BitVec 32 × Nat × Bytes) :
    Library ((BitVec 32 × Nat × Bytes) ⊕ Option Bytes) := do
  let (t, n, out) := turn
  if n = 0 then return .inr (some out)
  else do
    let d ← get
    match d.client.tcp with
    | none => return .inr none
    | some tcp => do
      let l ← look
      if l.connected = false then return .inr none
      else if expired t l = true then return .inr none
      else if tcp.unread.take (min l.len n) = [] then return .inl (t, n, out)
      else do
        let bytes := tcp.unread.take (min l.len n)
        setClient fun c => { c with tcp := some { tcp with unread := tcp.unread.drop bytes.length } }
        let now ← look
        return .inl (now.millis, n - bytes.length, out ++ bytes)

/-- The bytes its callback gets, or none when it is called with `false`. -/
def readCb (n : Nat) : Library (Option Bytes) := do
  let start ← look
  let d ← get
  loop readTurn (d.looks.length + 1) (start.millis, n, [])

def writeTurn (turn : BitVec 32 × Bytes × Nat) : Library ((BitVec 32 × Bytes × Nat) ⊕ Nat) := do
  let (t, out, total) := turn
  if out = [] then return .inr total
  else do
    let d ← get
    match d.client.tcp with
    | none => return .inr total
    | some tcp => do
      let l ← look
      if l.connected = false then return .inr total
      else if expired t l = true then return .inr total
      else if out.take l.len = [] then return .inl (t, out, total)
      else do
        let bytes := out.take l.len
        setClient fun c => { c with tcp := some { tcp with written := tcp.written ++ bytes } }
        let now ← look
        return .inl (now.millis, out.drop bytes.length, total + bytes.length)

/-- How many of the bytes went out. -/
def write (out : Bytes) : Library Nat := do
  let start ← look
  let d ← get
  loop writeTurn (d.looks.length + 1) (start.millis, out, 0)

/-- A short payload goes out in one piece with its header where there is memory for it;
only then a client has a mask that is not zero. -/
def sendFrame (opcode : WSopcode) (payload : Bytes) (fin : Bool) : Library Bool := do
  if (← connected) = false then return false
  else do
    let d ← get
    if d.client.status ≠ .connected then return false
    else do
      let l ← look
      let useInternBuffer : Bool := 0 < payload.length && payload.length < 1400 && l.memory
      let maskKey : MaskKey :=
        if (d.client.cIsClient && useInternBuffer) = true then l.random else fun _ => 0
      let header := createHeader opcode payload.length d.client.cIsClient maskKey fin
      if useInternBuffer = true then do
        let payload := if d.client.cIsClient = true then xorMask maskKey payload else payload
        return (← write (header ++ payload)) == (header ++ payload).length
      else do
        let first ← write header
        let second ← if payload = [] then pure 0 else write payload
        return first == header.length && second == payload.length

def runCbEvent (type : WStype) (payload : Bytes) : Library Unit :=
  modify fun d => { d with eventos := d.eventos ++ [⟨d.client.num, type, payload⟩] }

/-- The request is forgotten, but not whether its headers were valid. -/
def WSheader.reset (http : WSheader) : WSheader := { cHttpHeadersValid := http.cHttpHeadersValid }

/-- `WebSocketsServerCore::clientDisconnect`. -/
def dropClient : Library Unit := do
  setClient fun c =>
    { c with tcp := none, http := c.http.reset, cWsRXsize := 0, status := .notConnected }
  runCbEvent .disconnected []

/-- `WebSockets::clientDisconnect`, with a close frame before it. -/
def clientDisconnect (code : BitVec 16) : Library Unit := do
  let d ← get
  if d.client.status = .connected ∧ code ≠ 0 then do
    let _ ← sendFrame WSop_close [(code >>> 8).setWidth 8, code.setWidth 8] true
    dropClient
  else dropClient

/-- The type the server gives to a message. -/
def messageType (opcode : WSopcode) (fin : Bool) : WStype :=
  if opcode = WSop_text then if fin = true then .text else .fragmentTextStart
  else if opcode = WSop_binary then if fin = true then .bin else .fragmentBinStart
  else if opcode = WSop_continuation then if fin = true then .fragmentFin else .fragment
  else if opcode = WSop_ping then .ping
  else if opcode = WSop_pong then .pong
  else .error

def messageReceived (opcode : WSopcode) (payload : Bytes) (fin : Bool) : Library Unit :=
  runCbEvent (messageType opcode fin) payload

/-- The `switch` over the operation of a frame that is complete. -/
def handleOpCode (header : WSMessageHeader) (payload : Bytes) : Library Unit :=
  if header.opCode = WSop_text ∨ header.opCode = WSop_binary ∨
      header.opCode = WSop_continuation then
    messageReceived header.opCode payload header.fin
  else if header.opCode = WSop_ping then do
    let _ ← sendFrame WSop_pong payload true
    messageReceived header.opCode payload header.fin
  else if header.opCode = WSop_pong then do
    setClient fun c => { c with pongReceived := true }
    messageReceived header.opCode payload header.fin
  else if header.opCode = WSop_close then clientDisconnect 1000
  else clientDisconnect 1002

/-- The payload stands in memory with a null byte behind it, which the mask leaves alone. -/
def handleWebsocketPayloadCb (payload : Option Bytes) : Library Unit := do
  match payload with
  | none => clientDisconnect 1002
  | some payload => do
    let d ← get
    let header := d.client.cWsHeaderDecode
    handleOpCode header (if header.mask = true then xorMask header.maskKey payload else payload)
    setClient fun c => { c with cWsRXsize := 0 }

/-- `cb` is `handleWebsocketCb`, which runs again from its start once the bytes are there. -/
def handleWebsocketWaitFor (cb : Library Unit) (size : Nat) : Library Bool := do
  if (← connected) = false then return false
  else if WEBSOCKETS_MAX_HEADER_SIZE < size then return false
  else do
    let d ← get
    if size ≤ d.client.cWsRXsize then return true
    else do
      match ← readCb (size - d.client.cWsRXsize) with
      | some bytes => do
        setClient fun c =>
          { c with cWsHeader := c.cWsHeader.take c.cWsRXsize ++ bytes, cWsRXsize := size }
        cb
      | none => do
        setClient fun c => { c with cWsRXsize := 0 }
        clientDisconnect 1002
      return false

/-- What `handleWebsocketCb` does with a header that is complete up to the mask. -/
def handlePayload (header : WSMessageHeader) : Library Unit := do
  setClient fun c => { c with cWsHeaderDecode := header }
  if header.payloadLen = 0 then handleWebsocketPayloadCb (some [])
  else do
    let l ← look
    if l.memory = false then clientDisconnect 1011
    else do
      let payload ← readCb header.payloadLen.toNat
      handleWebsocketPayloadCb payload

/-- The wait for a length that does not stand in the second byte. -/
def waitForLength (cb : Library Unit) (extra : Nat) : Library Bool :=
  if extra = 0 then return true else handleWebsocketWaitFor cb (2 + extra)

def maskKeyAt (cWsHeader : Bytes) (offset : Nat) : MaskKey := fun i => cWsHeader.getD (offset + i) 0

def handleWebsocketCb : Nat → Library Unit
  | 0 => throw none
  | depth + 1 => do
    let cb := handleWebsocketCb depth
    if (← connected) = false then return
    else if (← handleWebsocketWaitFor cb 2) = false then return
    else do
      let d ← get
      let header := splitHeader (d.client.cWsHeader.getD 0 0) (d.client.cWsHeader.getD 1 0)
      let extra := extraLength header.payloadLen
      if (← waitForLength cb extra) = false then return
      else do
        let d ← get
        let payloadLen := readLength header.payloadLen (d.client.cWsHeader.drop 2)
        let header := { header with payloadLen := payloadLen }
        if WEBSOCKETS_MAX_DATA_SIZE < payloadLen.toNat then clientDisconnect 1009
        else if header.mask = true then do
          if (← handleWebsocketWaitFor cb (2 + extra + 4)) = false then return
          else do
            let d ← get
            handlePayload { header with maskKey := maskKeyAt d.client.cWsHeader (2 + extra) }
        else handlePayload header

/-- The callback is entered at most once for each part of a header. -/
def handleWebsocket : Library Unit := do
  let d ← get
  if d.client.cWsRXsize = 0 then handleWebsocketCb 4 else return

end Chimenea.WebSockets
