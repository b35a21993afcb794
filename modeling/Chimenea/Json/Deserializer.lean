import Chimenea.Json.Document
import Chimenea.Machine.Program
import Chimenea.Sketch

/-!
`JsonDeserializer` of ArduinoJson, over the reader and the string storage it is a
template of. `Text` is the plain instance of both: a text that is read from its
front, and strings that are built apart from it.
-/

namespace Chimenea.Json
open Arduino Machine
open Sketch (DeserializationError)

/-- The latch over the reader, and the string storage. `S` is what the storage
hands out as a string and `bytes` what such a string reads at present. -/
class Storage (σ : Type) (S : outParam Type) where
  current : σ → BitVec 8 × σ
  move : σ → σ
  last : σ → BitVec 8
  startString : σ → σ
  append : BitVec 8 → σ → σ
  str : σ → S × σ
  save : σ → S × σ
  bytes : σ → S → Bytes

structure Deserializer (σ : Type) where
  storage : σ
  foundSomething : Bool
  /-- The slots the memory pool has left. -/
  slots : Nat

abbrev Parser (σ α : Type) : Type := Program DeserializationError (Deserializer σ) α

def isBetween (c min max : BitVec 8) : Bool := min ≤ c && c ≤ max

def canBeInNonQuotedString (c : BitVec 8) : Bool :=
  isBetween c (ch '0') (ch '9') || isBetween c (ch '_') (ch 'z') ||
    isBetween c (ch 'A') (ch 'Z') || c == ch '+' || c == ch '-' || c == ch '.'

def isQuote (c : BitVec 8) : Bool := c == ch '\'' || c == ch '"'

/-- It takes the characters between `9` and `A`, and the back quote, for digits too. -/
def decodeHex (c : BitVec 8) : BitVec 8 :=
  if c < ch 'A' then c - ch '0' else (c &&& ~~~ 0x20) - ch 'A' + 10

def escapeTable : List (Char × Char) :=
  [('/', '/'), ('"', '"'), ('\\', '\\'), ('b', '\x08'), ('f', '\x0c'), ('n', '\n'), ('r', '\r'),
    ('t', '\t')]

/-- Zero for a character that no escape sequence has. -/
def unescapeChar (c : BitVec 8) : BitVec 8 :=
  match escapeTable.find? (fun p => ch p.1 == c) with
  | some p => ch p.2
  | none => 0

/-- `Utf16::Codepoint`. -/
structure Codepoint where
  highSurrogate : BitVec 16 := 0
  codepoint : BitVec 32 := 0

def isHighSurrogate (codeunit : BitVec 16) : Bool := 0xD800 ≤ codeunit && codeunit < 0xDC00

def isLowSurrogate (codeunit : BitVec 16) : Bool := 0xDC00 ≤ codeunit && codeunit < 0xE000

/-- The answer is `true` when a code point is complete. -/
def Codepoint.append (p : Codepoint) (codeunit : BitVec 16) : Bool × Codepoint :=
  if isHighSurrogate codeunit then (false, { p with highSurrogate := codeunit &&& 0x3FF })
  else if isLowSurrogate codeunit then
    (true, { p with
      codepoint := 0x10000 +
        (p.highSurrogate.setWidth 32 <<< 10 ||| (codeunit &&& 0x3FF).setWidth 32) })
  else (true, { p with codepoint := codeunit.setWidth 32 })

/-- `Utf8::encodeCodepoint`. The source fills a buffer from its end; here the bytes
stand in the order in which it appends them. -/
def encodeCodepoint (codepoint32 : BitVec 32) : Bytes :=
  if codepoint32 < 0x80 then [codepoint32.setWidth 8]
  else
    let last : BitVec 8 := ((codepoint32 ||| 0x80) &&& 0xBF).setWidth 8
    let codepoint16 : BitVec 16 := (codepoint32 >>> 6).setWidth 16
    if codepoint16 < 0x20 then [(codepoint16 ||| 0xC0).setWidth 8, last]
    else
      let third : BitVec 8 := ((codepoint16 ||| 0x80) &&& 0xBF).setWidth 8
      let codepoint16 := codepoint16 >>> 6
      if codepoint16 < 0x10 then [(codepoint16 ||| 0xE0).setWidth 8, third, last]
      else
        let second : BitVec 8 := ((codepoint16 ||| 0x80) &&& 0xBF).setWidth 8
        [(codepoint16 >>> 6 ||| 0xF0).setWidth 8, second, third, last]

section Parse

variable {σ S : Type} [Storage σ S]

def fail {α : Type} (error : DeserializationError) : Parser σ α := throw (some error)

def current : Parser σ (BitVec 8) :=
  modifyGet fun d => let (c, m) := Storage.current d.storage; (c, { d with storage := m })

def move : Parser σ Unit := modify fun d => { d with storage := Storage.move d.storage }

def last : Parser σ (BitVec 8) := do return Storage.last (← get).storage

def startString : Parser σ Unit :=
  modify fun d => { d with storage := Storage.startString d.storage }

def append (c : BitVec 8) : Parser σ Unit :=
  modify fun d => { d with storage := Storage.append c d.storage }

def str : Parser σ S :=
  modifyGet fun d => let (s, m) := Storage.str d.storage; (s, { d with storage := m })

def save : Parser σ S :=
  modifyGet fun d => let (s, m) := Storage.save d.storage; (s, { d with storage := m })

/-- `allocVariant`. -/
def allocVariant : Parser σ Unit := do
  let d ← get
  if d.slots = 0 then fail .noMemory else set { d with slots := d.slots - 1 }

def appendAll : Bytes → Parser σ Unit
  | [] => pure ()
  | c :: rest => do
    append c
    appendAll rest

def eat (charToSkip : BitVec 8) : Parser σ Bool := do
  let c ← current
  if c ≠ charToSkip then return false
  else do
    move
    return true

def isSpace (c : BitVec 8) : Bool := c == ch ' ' || c == ch '\t' || c == ch '\r' || c == ch '\n'

variable (bound : Nat)

/-- Comments are switched off in the library's configuration. -/
def skipSpacesAndComments : Parser σ Unit :=
  loop (fun _ => do
    let c ← current
    if c = 0 then do
      let d ← get
      fail (if d.foundSomething then .incompleteInput else .emptyInput)
    else if isSpace c then do
      move
      return .inl ()
    else do
      modify fun d => { d with foundSomething := true }
      return .inr ()) bound ()

def parseHex4 : Nat → BitVec 16 → Parser σ (BitVec 16)
  | 0, result => return result
  | i + 1, result => do
    let digit ← current
    if digit = 0 then fail .incompleteInput
    else if decodeHex digit > 0x0F then fail .invalidInput
    else do
      move
      parseHex4 i (result <<< 4 ||| (decodeHex digit).setWidth 16)

/-- The case `\u` of an escape sequence, after the backslash. -/
def parseCodeunit (p : Codepoint) : Parser σ (Codepoint ⊕ Unit) := do
  move
  let codeunit ← parseHex4 4 0
  if (p.append codeunit).1 then do
    appendAll (encodeCodepoint (p.append codeunit).2.codepoint)
    return .inl (p.append codeunit).2
  else return .inl (p.append codeunit).2

def parseEscape (p : Codepoint) : Parser σ (Codepoint ⊕ Unit) := do
  let c ← current
  if c = 0 then fail .incompleteInput
  else if c = ch 'u' then parseCodeunit p
  else if unescapeChar c = 0 then fail .invalidInput
  else do
    move
    append (unescapeChar c)
    return .inl p

/-- One turn of the loop in `parseQuotedString`. -/
def parseQuotedChar (stopChar : BitVec 8) (p : Codepoint) : Parser σ (Codepoint ⊕ Unit) := do
  let c ← current
  move
  if c = stopChar then return .inr ()
  else if c = 0 then fail .incompleteInput
  else if c = ch '\\' then parseEscape p
  else do
    append c
    return .inl p

def parseQuotedString : Parser σ Unit := do
  let stopChar ← current
  move
  loop (parseQuotedChar stopChar) bound {}

def parseNonQuotedString : Parser σ Unit := do
  let c ← current
  if canBeInNonQuotedString c then
    loop (fun c => do
      move
      append c
      let c ← current
      if canBeInNonQuotedString c then return .inl c else return .inr ()) bound c
  else fail .invalidInput

def parseKey : Parser σ Unit := do
  startString
  let c ← current
  if isQuote c then parseQuotedString bound else parseNonQuotedString bound

def parseStringValue : Parser σ (VariantData S) := do
  startString
  parseQuotedString bound
  let s ← save
  return .string s

/-- The characters of `_buffer`, of which it has room for `n`. The character behind them is
loaded even when there is no room left. -/
def readBuffer : Nat → Parser σ Bytes
  | 0 => do
    let _ ← current
    return []
  | n + 1 => do
    let c ← current
    if canBeInNonQuotedString c then do
      move
      let rest ← readBuffer n
      return c :: rest
    else return []

/-- A literal is known by its first character and its length. `null` leaves the
variant as it was. -/
def parseNumericValue (result : VariantData S) : Parser σ (VariantData S) := do
  let buffer ← readBuffer 63
  let c := buffer.headD 0
  if c = ch 't' then if buffer.length = 4 then return .boolean true else fail .incompleteInput
  else if c = ch 'f' then
    if buffer.length = 5 then return .boolean false else fail .incompleteInput
  else if c = ch 'n' then if buffer.length = 4 then return result else fail .incompleteInput
  else
    match parseNumber buffer with
    | some n => return .number n
    | none => fail .invalidInput

/-- The parser of the values inside a collection; `none` when the nesting limit is
reached. -/
abbrev Nested (σ S : Type) : Type := Option (VariantData S → Parser σ (VariantData S))

/-- What follows an element: `inr` at the end of the collection. -/
def parseSeparator {α : Type} (close : Char) (collection : α) : Parser σ (α ⊕ α) := do
  skipSpacesAndComments bound
  let closed ← eat (ch close)
  if closed then return .inr collection
  else do
    let more ← eat (ch ',')
    if more then return .inl collection else fail .invalidInput

def parseElement (parseVariant : VariantData S → Parser σ (VariantData S))
    (array : CollectionData S) : Parser σ (CollectionData S ⊕ CollectionData S) := do
  allocVariant
  let value ← parseVariant .null
  parseSeparator bound ']' (array.addSlot none value)

def parseArray (nested : Nested σ S) : Parser σ (VariantData S) :=
  match nested with
  | none => fail .tooDeep
  | some parseVariant => do
    move
    skipSpacesAndComments bound
    let closed ← eat (ch ']')
    if closed then return .array .empty
    else do
      let array ← loop (parseElement bound parseVariant) bound .empty
      return .array array

/-- The value of a member. A key that is there already keeps its slot. -/
def parseMemberValue (parseVariant : VariantData S → Parser σ (VariantData S))
    (object : CollectionData S) : Parser σ (CollectionData S) := do
  let key ← str
  let d ← get
  match object.getSlot (Storage.bytes d.storage) (Storage.bytes d.storage key) with
  | some i => do
    let value ← parseVariant (object.data i)
    return object.setData i value
  | none => do
    let key ← save
    allocVariant
    let value ← parseVariant .null
    return object.addSlot (some key) value

def parseMember (parseVariant : VariantData S → Parser σ (VariantData S))
    (object : CollectionData S) : Parser σ (CollectionData S ⊕ CollectionData S) := do
  parseKey bound
  skipSpacesAndComments bound
  let colon ← eat (ch ':')
  if colon then do
    let object ← parseMemberValue parseVariant object
    match ← parseSeparator bound '}' object with
    | .inl object => do
      skipSpacesAndComments bound
      return .inl object
    | .inr object => return .inr object
  else fail .invalidInput

def parseObject (nested : Nested σ S) : Parser σ (VariantData S) :=
  match nested with
  | none => fail .tooDeep
  | some parseVariant => do
    move
    skipSpacesAndComments bound
    let closed ← eat (ch '}')
    if closed then return .object .empty
    else do
      let object ← loop (parseMember bound parseVariant) bound .empty
      return .object object

def parseValue (nested : Nested σ S) (variant : VariantData S) : Parser σ (VariantData S) := do
  skipSpacesAndComments bound
  let c ← current
  if c = ch '[' then parseArray bound nested
  else if c = ch '{' then parseObject bound nested
  else if isQuote c then parseStringValue bound
  else parseNumericValue variant

/-- The nesting limit goes down by one on the way into a collection. -/
def parseVariant : Nat → VariantData S → Parser σ (VariantData S)
  | 0 => parseValue bound none
  | nestingLimit + 1 => parseValue bound (some (parseVariant nestingLimit))

/-- A number may not be followed by anything; nothing else is asked about what follows. -/
def parse (nestingLimit : Nat) : Parser σ (VariantData S) := do
  let variant ← parseVariant bound nestingLimit .null
  let c ← last
  if c ≠ 0 ∧ variant.isEnclosed = false then fail .invalidInput else return variant

end Parse

/-- The text from the character that is next, and the string that is being built. -/
structure Text where
  unread : Bytes
  lastRead : BitVec 8 := 0
  string : Bytes := []

/-- The end of the text reads as the null character. A saved string keeps its terminator. -/
instance : Storage Text Bytes where
  current t := (t.unread.headD 0, { t with lastRead := t.unread.headD 0 })
  move t := { t with unread := t.unread.tail }
  last t := t.lastRead
  startString t := { t with string := [] }
  append c t := { t with string := t.string ++ [c] }
  str t := (t.string, t)
  save t := (t.string, { t with string := t.string ++ [0] })
  bytes _ s := s

def DEFAULT_NESTING_LIMIT : Nat := 10

/-- The document of the sketch has 200 bytes, and a slot takes 16. -/
def documentSlots : Nat := 12

/-- The deserializer as its constructor leaves it, over the cleared document. -/
def Deserializer.start {σ : Type} (storage : σ) : Deserializer σ where
  storage := storage
  foundSomething := false
  slots := documentSlots

/-- What an execution answers; `none` is an execution that used up its bound. -/
def answer {σ α : Type} :
    EStateM.Result (Option DeserializationError) σ α → Option (Except DeserializationError α)
  | .ok a _ => some (.ok a)
  | .error (some e) _ => some (.error e)
  | .error none _ => none

/-- `deserializeJson(doc, payload)` on the C string of a payload. -/
def readText (payload : Bytes) : Option (Except DeserializationError (VariantData Bytes)) :=
  answer (parse ((c_str payload).length + 1) DEFAULT_NESTING_LIMIT
    (.start { unread := c_str payload : Text }))

end Chimenea.Json
