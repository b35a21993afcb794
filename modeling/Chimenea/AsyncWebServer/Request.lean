import Chimenea.WString
import Chimenea.Wifi

/-!
A request to the web server of the access point (`WebRequest.cpp`): what the segments that
TCP delivers make of it, up to the call of its handler.
-/

namespace Chimenea.AsyncWebServer
open Arduino
open Wifi (AsyncWebParameter)

def ch (c : Char) : BitVec 8 := BitVec.ofNat 8 c.toNat

abbrev WebRequestMethodComposite := BitVec 8

def HTTP_GET : WebRequestMethodComposite := 0b00000001
def HTTP_POST : WebRequestMethodComposite := 0b00000010
def HTTP_DELETE : WebRequestMethodComposite := 0b00000100
def HTTP_PUT : WebRequestMethodComposite := 0b00001000
def HTTP_PATCH : WebRequestMethodComposite := 0b00010000
def HTTP_HEAD : WebRequestMethodComposite := 0b00100000
def HTTP_OPTIONS : WebRequestMethodComposite := 0b01000000
def HTTP_ANY : WebRequestMethodComposite := 0b01111111

inductive ParseState where
  | start | headers | body | end_ | fail
  deriving DecidableEq, Repr

inductive RequestedConnectionType where
  | default | http | ws | event
  deriving DecidableEq, Repr

/-- The handlers that `setup()` gives the server, and the one for what they leave. -/
inductive Handler where
  | paginaInicio | estatico | configuracion | formulario | catchAll
  deriving DecidableEq, Repr

/-- The request while it is read. `handled` has the calls of `handleRequest`, with the
parameters the handler finds, and `multipartBody` the bytes of a body in parts so far. -/
structure AsyncWebServerRequest where
  temp : Bytes := []
  parseState : ParseState := .start
  version : Nat := 0
  method : WebRequestMethodComposite := HTTP_ANY
  url : Bytes := []
  host : Bytes := []
  contentType : Bytes := []
  boundary : Bytes := []
  authorization : Bytes := []
  reqconntype : RequestedConnectionType := .http
  isDigest : Bool := false
  headers : List (Bytes × Bytes) := []
  multipartBody : Bytes := []
  isMultipart : Bool := false
  isPlainPost : Bool := false
  expectingContinue : Bool := false
  contentLength : Nat := 0
  parsedLength : Nat := 0
  params : List AsyncWebParameter := []
  handler : Option Handler := none
  handled : List (Handler × List AsyncWebParameter) := []
  deriving DecidableEq

def hexValue (b : BitVec 8) : Option Nat :=
  if 48 ≤ b.toNat ∧ b.toNat ≤ 57 then some (b.toNat - 48)
  else if 65 ≤ b.toNat ∧ b.toNat ≤ 70 then some (b.toNat - 55)
  else if 97 ≤ b.toNat ∧ b.toNat ≤ 102 then some (b.toNat - 87)
  else none

/-- `strtol` of `0x` and two characters: the digits up to the first that is none. -/
def strtolHex (a b : BitVec 8) : Nat :=
  match hexValue a, hexValue b with
  | none, _ => 0
  | some x, none => x
  | some x, some y => 16 * x + y

def plus (c : BitVec 8) : BitVec 8 := if c = ch '+' then ch ' ' else c

/-- A `%` counts where two characters follow it. -/
def urlDecode : Bytes → Bytes
  | [] => []
  | [c] => [plus c]
  | [c, a] => [plus c, plus a]
  | c :: a :: b :: rest =>
    if c = ch '%' then BitVec.ofNat 8 (strtolHex a b) :: urlDecode rest
    else plus c :: urlDecode (a :: b :: rest)

def addParam (r : AsyncWebServerRequest) (p : AsyncWebParameter) : AsyncWebServerRequest :=
  { r with params := r.params ++ [p] }

/-- The loop of `_addGetParams`, which takes at least a character in each turn. -/
def addGetParamsFrom (params : Bytes) :
    Nat → Nat → AsyncWebServerRequest → AsyncWebServerRequest
  | 0, _, r => r
  | bound + 1, start, r =>
    if start < params.length then
      let found := indexOfChar params (ch '&') start
      let end_ : Int := if found < 0 then params.length else found
      let found := indexOfChar params (ch '=') start
      let equal := if found < 0 ∨ end_ < found then end_ else found
      let name := substring params start (unsigned equal)
      let value :=
        if equal + 1 < end_ then substring params (unsigned (equal + 1)) (unsigned end_) else []
      let r := addParam r { isPost := false, name := urlDecode name, value := urlDecode value }
      addGetParamsFrom params bound (unsigned (end_ + 1)) r
    else r

def addGetParams (r : AsyncWebServerRequest) (params : Bytes) : AsyncWebServerRequest :=
  addGetParamsFrom params params.length 0 r

/-- The method named in the request, `HTTP_ANY` if it is none of them. -/
def methodOf (m : Bytes) (method : WebRequestMethodComposite) : WebRequestMethodComposite :=
  if equalsCstr m "GET" = true then HTTP_GET
  else if equalsCstr m "POST" = true then HTTP_POST
  else if equalsCstr m "DELETE" = true then HTTP_DELETE
  else if equalsCstr m "PUT" = true then HTTP_PUT
  else if equalsCstr m "PATCH" = true then HTTP_PATCH
  else if equalsCstr m "HEAD" = true then HTTP_HEAD
  else if equalsCstr m "OPTIONS" = true then HTTP_OPTIONS
  else method

def parseReqHead (r : AsyncWebServerRequest) : AsyncWebServerRequest :=
  let index := indexOfChar r.temp (ch ' ') 0
  let m := substring r.temp 0 (unsigned index)
  let index := indexOfChar r.temp (ch ' ') (unsigned (index + 1))
  let u := substring r.temp (m.length + 1) (unsigned index)
  let protocol := substring r.temp (unsigned (index + 1)) r.temp.length
  let index := indexOfChar u (ch '?') 0
  let g := if 0 < index then substring u (unsigned (index + 1)) u.length else []
  let u := if 0 < index then substring u 0 (unsigned index) else u
  let r := { r with
    method := methodOf m r.method
    url := urlDecode u
    version := if startsWith protocol (ascii "HTTP/1.0") = true then r.version else 1 }
  { addGetParams r g with temp := [] }

/-- `Content-Type` ends at the first `;`. -/
def setContentType (r : AsyncWebServerRequest) (value : Bytes) : AsyncWebServerRequest :=
  let r := { r with contentType := substring value 0 (unsigned (indexOfChar value (ch ';') 0)) }
  if startsWith value (ascii "multipart/") = true then
    let boundary := substring value (unsigned (indexOfChar value (ch '=') 0 + 1)) value.length
    { r with boundary := boundary.filter (· ≠ ch '"'), isMultipart := true }
  else r

def setAuthorization (r : AsyncWebServerRequest) (value : Bytes) : AsyncWebServerRequest :=
  if 5 < value.length ∧ equalsIgnoreCase (substring value 0 5) (ascii "Basic") = true then
    { r with authorization := substring value 6 value.length }
  else if 6 < value.length ∧ equalsIgnoreCase (substring value 0 6) (ascii "Digest") = true then
    { r with isDigest := true, authorization := substring value 7 value.length }
  else r

/-- `strContains` without regard to case. -/
def strContains (src find : Bytes) : Bool :=
  src.tails.any fun later => (find.map tolower).isPrefixOf (later.map tolower)

/-- Of the headers, those the request is read by. -/
def setHeader (r : AsyncWebServerRequest) (name value : Bytes) : AsyncWebServerRequest :=
  if equalsIgnoreCase name (ascii "Host") = true then { r with host := value }
  else if equalsIgnoreCase name (ascii "Content-Type") = true then setContentType r value
  else if equalsIgnoreCase name (ascii "Content-Length") = true then
    { r with contentLength := unsigned (atoi value) }
  else if equalsIgnoreCase name (ascii "Expect") = true ∧
      equalsCstr value "100-continue" = true then
    { r with expectingContinue := true }
  else if equalsIgnoreCase name (ascii "Authorization") = true then setAuthorization r value
  else if equalsIgnoreCase name (ascii "Upgrade") = true ∧
      equalsIgnoreCase value (ascii "websocket") = true then
    { r with reqconntype := .ws }
  else if equalsIgnoreCase name (ascii "Accept") = true ∧
      strContains value (ascii "text/event-stream") = true then
    { r with reqconntype := .event }
  else r

def parseReqHeader (r : AsyncWebServerRequest) : AsyncWebServerRequest :=
  let index := indexOfChar r.temp (ch ':') 0
  if index ≠ 0 then
    let name := substring r.temp 0 (unsigned index)
    let value := substring r.temp (unsigned (index + 2)) r.temp.length
    { setHeader r name value with headers := r.headers ++ [(name, value)], temp := [] }
  else { r with temp := [] }

/-- `AsyncCallbackWebHandler::canHandle`, for a URI without wildcards. -/
def canHandle (uri : Bytes) (method : WebRequestMethodComposite) (r : AsyncWebServerRequest) :
    Bool :=
  method &&& r.method ≠ 0 &&
    (uri = [] || uri = r.url || startsWith r.url (uri ++ [ch '/']))

def isExpectedRequestedConnType (r : AsyncWebServerRequest) (erct1 erct2 : RequestedConnectionType) :
    Bool :=
  r.reqconntype = erct1 || r.reqconntype = erct2

def handleRequest (r : AsyncWebServerRequest) : AsyncWebServerRequest :=
  match r.handler with
  | some handler => { r with handled := r.handled ++ [(handler, r.params)] }
  | none => r

/-- A handler that does nothing on a request has no use for its body. -/
def isRequestHandlerTrivial : Handler → Bool
  | .paginaInicio => false
  | .estatico => true
  | .configuracion => false
  | .formulario => false
  | .catchAll => true

def needParse (r : AsyncWebServerRequest) : Bool :=
  match r.handler with
  | some handler => !isRequestHandlerTrivial handler
  | none => false

def isParamChar (c : BitVec 8) : Bool :=
  c ≠ 0 && c ≠ ch '{' && c ≠ ch '[' && c ≠ ch '&' && c ≠ ch '='

def urlencoded : Bytes := ascii "application/x-www-form-urlencoded"

/-- The macro on `buf[i++]`: each of its comparisons takes a character of its own. Behind the
segment `i` is past its length, and what was read makes no difference. -/
def macroParamChar (last : BitVec 8) : List (BitVec 8) → Bytes → Bool × BitVec 8 × Bytes
  | [], buf => (true, last, buf)
  | _ :: _, [] => (false, last, [])
  | ending :: endings, c :: rest =>
    if c = ending then (false, c, rest) else macroParamChar c endings rest

/-- The loop over a plain text, which counts as a form if it stops behind a `=` and before the
end; each turn takes at least a character. -/
def looksLikeFormFrom : Nat → Bytes → Bool
  | 0, _ => false
  | bound + 1, buf =>
    if buf = [] then false
    else
      let (goesOn, last, rest) := macroParamChar 0 [0, ch '{', ch '[', ch '&', ch '='] buf
      if goesOn = true then looksLikeFormFrom bound rest else rest ≠ [] && last = ch '='

def looksLikeForm (buf : Bytes) : Bool := looksLikeFormFrom buf.length buf

def esPlainPost (r : AsyncWebServerRequest) (buf : Bytes) : Bool :=
  if startsWith r.contentType urlencoded = true then true
  else if equalsCstr r.contentType "text/plain" = true ∧ isParamChar (buf.headD 0) = true then
    looksLikeForm buf || r.isPlainPost
  else r.isPlainPost

/-- The parameter that a piece of a form's body is. -/
def leerParam (temp : Bytes) : AsyncWebParameter :=
  let index := indexOfChar temp (ch '=') 0
  if startsWith temp [ch '{'] = false ∧ startsWith temp [ch '['] = false ∧ 0 < index then
    { isPost := true
      name := urlDecode (substring temp 0 (unsigned index))
      value := urlDecode (substring temp (unsigned (index + 1)) temp.length) }
  else { isPost := true, name := urlDecode (ascii "body"), value := urlDecode temp }

def parsePlainPostChar (r : AsyncWebServerRequest) (data : BitVec 8) : AsyncWebServerRequest :=
  let r := if data ≠ 0 ∧ data ≠ ch '&' then { r with temp := r.temp ++ [data] } else r
  if data = 0 ∨ data = ch '&' ∨ r.parsedLength = r.contentLength then
    { addParam r (leerParam r.temp) with temp := [] }
  else r

/-- The server that a request comes to: whether the fireplace is in its network, and for which
paths the static handler has a file. -/
structure Sitio where
  conectada : Bool
  archivo : Bytes → Bool

/-- The handlers in the order in which `setup()` adds them. -/
def Sitio.handlers (sitio : Sitio) : List Handler :=
  if sitio.conectada = true then [.paginaInicio, .estatico, .configuracion, .estatico]
  else [.paginaInicio, .estatico, .formulario]

def Sitio.canHandle (sitio : Sitio) (r : AsyncWebServerRequest) : Handler → Bool
  | .paginaInicio => AsyncWebServer.canHandle (ascii "/") HTTP_GET r
  | .estatico =>
    r.method = HTTP_GET && isExpectedRequestedConnType r .default .http && sitio.archivo r.url
  | .configuracion => AsyncWebServer.canHandle (ascii "/configuracion") HTTP_GET r
  | .formulario => AsyncWebServer.canHandle (ascii "/") HTTP_POST r
  | .catchAll => true

section Server

/- What the parser of a body in parts makes of its boundary, the length the body was said to
have and its bytes so far: that length, which it may correct, and the parameters that the last
byte adds. It is not read here. -/
variable (sitio : Sitio)
  (parseMultipartPostByte : Bytes → Nat → Bytes → Nat × List AsyncWebParameter)

def attachHandler (r : AsyncWebServerRequest) : Handler :=
  (sitio.handlers.find? (sitio.canHandle r)).getD .catchAll

/-- The static handler is interested in no header, the others in all of them. -/
def removeNotInterestingHeaders (r : AsyncWebServerRequest) : AsyncWebServerRequest :=
  if r.handler = some .estatico then { r with headers := [] } else r

/-- A line without its end, in `temp`. -/
def parseLine (r : AsyncWebServerRequest) : AsyncWebServerRequest :=
  match r.parseState with
  | .start =>
    if r.temp = [] then { r with parseState := .fail }
    else { parseReqHead r with parseState := .headers }
  | .headers =>
    if r.temp = [] then
      let r := removeNotInterestingHeaders { r with handler := some (attachHandler sitio r) }
      if r.contentLength ≠ 0 then { r with parseState := .body }
      else handleRequest { r with parseState := .end_ }
    else parseReqHeader r
  | _ => r

def parseMultipart (r : AsyncWebServerRequest) : Bytes → AsyncWebServerRequest
  | [] => r
  | b :: rest =>
    let body := r.multipartBody ++ [b]
    let (contentLength, params) := parseMultipartPostByte r.boundary r.contentLength body
    parseMultipart { r with
      multipartBody := body
      contentLength := contentLength
      params := r.params ++ params
      parsedLength := r.parsedLength + 1 } rest

def parsePlainPost (r : AsyncWebServerRequest) : Bytes → AsyncWebServerRequest
  | [] => r
  | b :: rest =>
    let r := { r with parsedLength := r.parsedLength + 1 }
    parsePlainPost (parsePlainPostChar r b) rest

/-- What a segment is to a body. The handlers have no use for one that is no form. -/
def readBody (r : AsyncWebServerRequest) (buf : Bytes) : AsyncWebServerRequest :=
  if r.isMultipart = true then
    if needParse r = true then parseMultipart parseMultipartPostByte r buf
    else { r with parsedLength := r.parsedLength + buf.length }
  else
    let r := if r.parsedLength = 0 then { r with isPlainPost := esPlainPost r buf } else r
    if r.isPlainPost = true ∧ needParse r = true then parsePlainPost r buf
    else { r with parsedLength := r.parsedLength + buf.length }

/-- The branch of `_onData` for the body. -/
def onBody (r : AsyncWebServerRequest) (buf : Bytes) : AsyncWebServerRequest :=
  let r := readBody parseMultipartPostByte r buf
  if r.parsedLength = r.contentLength then handleRequest { r with parseState := .end_ } else r

/-- The loop of `_onData`, which takes at least a byte in each turn. -/
def onDataFrom : Nat → AsyncWebServerRequest → Bytes → AsyncWebServerRequest
  | 0, r, _ => r
  | bound + 1, r, buf =>
    match r.parseState with
    | .start | .headers =>
      let str := buf.takeWhile (· ≠ newline)
      if str = buf then { r with temp := r.temp ++ c_str buf.dropLast ++ buf.getLast?.toList }
      else
        let r := parseLine sitio { r with temp := trim (r.temp ++ c_str str) }
        let rest := buf.drop (str.length + 1)
        if rest = [] then r else onDataFrom bound r rest
    | .body => onBody parseMultipartPostByte r buf
    | _ => r

/-- A segment has come in. -/
def onData (r : AsyncWebServerRequest) (buf : Bytes) : AsyncWebServerRequest :=
  onDataFrom sitio parseMultipartPostByte buf.length r buf

end Server

end Chimenea.AsyncWebServer
