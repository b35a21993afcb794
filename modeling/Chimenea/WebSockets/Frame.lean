import Chimenea.Arduino
import Mathlib.Data.Nat.Bitwise

/-!
The frames of the websocket library: the header in front of a payload, the mask over it,
and what the bytes of a header say to the one who reads them.
-/

namespace Chimenea.WebSockets
open Arduino

/-- `WSopcode_t`, as it stands in the first byte of a frame. -/
abbrev WSopcode := BitVec 4

def WSop_continuation : WSopcode := 0x0
def WSop_text : WSopcode := 0x1
def WSop_binary : WSopcode := 0x2
def WSop_close : WSopcode := 0x8
def WSop_ping : WSopcode := 0x9
def WSop_pong : WSopcode := 0xA

def WEBSOCKETS_MAX_DATA_SIZE : Nat := 15 * 1024
def WEBSOCKETS_MAX_HEADER_SIZE : Nat := 14

abbrev MaskKey := Fin 4 → BitVec 8

/-- The mask is its own inverse, so this masks a payload and takes the mask off. -/
def xorMask (maskKey : MaskKey) (payload : Bytes) : Bytes :=
  payload.mapIdx fun x b => b ^^^ maskKey ⟨x % 4, Nat.mod_lt x (by decide)⟩

def bit (b : Nat) : BitVec 8 := 1 <<< b

/-- The seven bits of length behind the mask bit: the length itself, or 126 or 127 for
a length that follows in two or in eight bytes. -/
def lengthCode (length : Nat) : Nat :=
  if length < 126 then length else if length < 0xFFFF then 126 else 127

def lengthBytes (length : Nat) : Bytes :=
  if length < 126 then []
  else if length < 0xFFFF then [BitVec.ofNat 8 (length >>> 8), BitVec.ofNat 8 length]
  else
    [0, 0, 0, 0, BitVec.ofNat 8 (length >>> 24), BitVec.ofNat 8 (length >>> 16),
      BitVec.ofNat 8 (length >>> 8), BitVec.ofNat 8 length]

def createHeader (opcode : WSopcode) (length : Nat) (mask : Bool) (maskKey : MaskKey)
    (fin : Bool) : Bytes :=
  ((if fin = true then bit 7 else 0) ||| opcode.setWidth 8) ::
    ((if mask = true then bit 7 else 0) ||| BitVec.ofNat 8 (lengthCode length)) ::
      (lengthBytes length ++ if mask = true then List.ofFn maskKey else [])

/-- `WSMessageHeader_t`. -/
structure WSMessageHeader where
  fin : Bool
  rsv1 : Bool
  rsv2 : Bool
  rsv3 : Bool
  opCode : WSopcode
  mask : Bool
  payloadLen : BitVec 32
  maskKey : MaskKey

/-- The first two bytes split into the fields of the header. -/
def splitHeader (first second : BitVec 8) : WSMessageHeader where
  fin := first.getLsbD 7
  rsv1 := first.getLsbD 6
  rsv2 := first.getLsbD 5
  rsv3 := first.getLsbD 4
  opCode := first.setWidth 4
  mask := second.getLsbD 7
  payloadLen := (second.setWidth 7).setWidth 32
  maskKey := fun _ => 0

/-- How many bytes of the header say the length, behind the first two. -/
def extraLength (payloadLen : BitVec 32) : Nat :=
  if payloadLen = 126 then 2 else if payloadLen = 127 then 8 else 0

/-- The length in the bytes behind the first two. -/
def readLength (payloadLen : BitVec 32) (buffer : Bytes) : BitVec 32 :=
  let byte (i : Nat) : BitVec 32 := (buffer.getD i 0).setWidth 32
  if payloadLen = 126 then byte 0 <<< 8 ||| byte 1
  else if payloadLen = 127 then
    if byte 0 ≠ 0 ∨ byte 1 ≠ 0 ∨ byte 2 ≠ 0 ∨ byte 3 ≠ 0 then 0xFFFFFFFF
    else byte 4 <<< 24 ||| byte 5 <<< 16 ||| byte 6 <<< 8 ||| byte 7
  else payloadLen

/-- A frame as the other end sends it. -/
structure Frame where
  fin : Bool
  opCode : WSopcode
  mask : Bool
  maskKey : MaskKey
  payload : Bytes

def Frame.header (f : Frame) : Bytes :=
  createHeader f.opCode f.payload.length f.mask f.maskKey f.fin

/-- The payload on the wire. -/
def Frame.body (f : Frame) : Bytes :=
  if f.mask = true then xorMask f.maskKey f.payload else f.payload

def Frame.bytes (f : Frame) : Bytes := f.header ++ f.body

section Mask

variable (maskKey : MaskKey) (payload : Bytes)

@[simp] theorem xorMask_length : (xorMask maskKey payload).length = payload.length :=
  List.length_mapIdx

@[simp] theorem xorMask_xorMask : xorMask maskKey (xorMask maskKey payload) = payload := by
  unfold xorMask
  rw [List.mapIdx_mapIdx]
  calc _ = payload.mapIdx fun _ b => b := by
        congr 1
        funext x b
        exact (BitVec.xor_assoc ..).trans (by rw [BitVec.xor_self, BitVec.xor_zero])
    _ = payload := by
        ext1 i
        rw [List.getElem?_mapIdx, Option.map_id']

end Mask

@[simp] theorem Frame.body_length (f : Frame) : f.body.length = f.payload.length := by
  unfold body
  split_ifs
  · exact xorMask_length ..
  · rfl

/-- Taking the mask off the body gives the payload. -/
theorem Frame.unmask (f : Frame) :
    (if f.mask = true then xorMask f.maskKey f.body else f.body) = f.payload := by
  unfold body
  split_ifs
  · exact xorMask_xorMask ..
  · rfl

section Header

/-- The fields in the first two bytes, for a length code of seven bits. -/
theorem splitHeader_first (fin mask : Bool) (opcode : WSopcode) {code : Nat} (small : code < 128) :
    splitHeader ((if fin = true then bit 7 else 0) ||| opcode.setWidth 8)
        ((if mask = true then bit 7 else 0) ||| BitVec.ofNat 8 code) =
      { fin := fin, rsv1 := false, rsv2 := false, rsv3 := false, opCode := opcode, mask := mask,
        payloadLen := BitVec.ofNat 32 code, maskKey := fun _ => 0 } := by
  have first : ∀ (fin : Bool) (opcode : WSopcode),
      let byte : BitVec 8 := (if fin = true then bit 7 else 0) ||| opcode.setWidth 8
      byte.getLsbD 7 = fin ∧ byte.getLsbD 6 = false ∧ byte.getLsbD 5 = false ∧
        byte.getLsbD 4 = false ∧ byte.setWidth 4 = opcode := by decide
  obtain ⟨here, one, two, three, four⟩ := first fin opcode
  have low : (BitVec.ofNat 8 code).getLsbD 7 = false := by
    rw [BitVec.getLsbD_ofNat, Nat.testBit_lt_two_pow small, Bool.and_false]
  have high : ∀ mask : Bool, (if mask = true then bit 7 else 0 : BitVec 8).getLsbD 7 = mask ∧
      (if mask = true then bit 7 else 0 : BitVec 8).setWidth 7 = 0#7 := by decide
  obtain ⟨masked, clear⟩ := high mask
  have length : (BitVec.setWidth 7 (BitVec.ofNat 8 code)).setWidth 32 = BitVec.ofNat 32 code := by
    apply BitVec.eq_of_toNat_eq
    simp only [BitVec.toNat_setWidth, BitVec.toNat_ofNat]
    omega
  rw [splitHeader, here, one, two, three, four, BitVec.getLsbD_or, masked, low, Bool.or_false,
    BitVec.setWidth_or, clear, BitVec.zero_or, length]

theorem lengthCode_small (length : Nat) : lengthCode length < 128 := by
  unfold lengthCode
  split_ifs <;> omega

theorem extraLength_small {length : Nat} (short : length < 126) :
    extraLength (BitVec.ofNat 32 length) = 0 := by
  have two : BitVec.ofNat 32 length ≠ 126 := by bv_omega
  have eight : BitVec.ofNat 32 length ≠ 127 := by bv_omega
  rw [extraLength, if_neg two, if_neg eight]

theorem lengthBytes_length (length : Nat) :
    (lengthBytes length).length = extraLength (BitVec.ofNat 32 (lengthCode length)) := by
  unfold lengthCode lengthBytes
  split_ifs with short long
  · exact (extraLength_small short).symm
  · rfl
  · rfl

/-- A byte of a number, moved to its place, has the bits of the number there. -/
theorem byte_shift (length k : Nat) {i : Nat} (inside : i < 32) :
    ((BitVec.ofNat 8 (length >>> k)).setWidth 32 <<< k).getLsbD i =
      (decide (k ≤ i ∧ i < k + 8) && length.testBit i) := by
  rw [BitVec.getLsbD_shiftLeft, BitVec.getLsbD_setWidth, BitVec.getLsbD_ofNat,
    Nat.testBit_shiftRight]
  by_cases above : k ≤ i
  · have place : k + (i - k) = i := by omega
    have short : i - k < 8 ↔ i < k + 8 := by omega
    have wide : i - k < 32 := by omega
    simp [above, inside, place, short, wide]
  · simp [inside, above, not_le.1 above]

theorem four_bytes (length : Nat) :
    (BitVec.ofNat 8 (length >>> 24)).setWidth 32 <<< 24 |||
        (BitVec.ofNat 8 (length >>> 16)).setWidth 32 <<< 16 |||
        (BitVec.ofNat 8 (length >>> 8)).setWidth 32 <<< 8 |||
        (BitVec.ofNat 8 (length >>> 0)).setWidth 32 <<< 0 = BitVec.ofNat 32 length := by
  apply BitVec.eq_of_getLsbD_eq
  intro i inside
  rw [BitVec.getLsbD_or, BitVec.getLsbD_or, BitVec.getLsbD_or, byte_shift _ _ inside,
    byte_shift _ _ inside, byte_shift _ _ inside, byte_shift _ _ inside, BitVec.getLsbD_ofNat,
    decide_eq_true inside, Bool.true_and]
  cases length.testBit i with
  | false => simp
  | true =>
    simp only [Bool.and_true, ← Bool.decide_or, decide_eq_true_eq]
    omega

theorem two_bytes {length : Nat} (short : length < 0xFFFF) :
    (BitVec.ofNat 8 (length >>> 8)).setWidth 32 <<< 8 |||
        (BitVec.ofNat 8 (length >>> 0)).setWidth 32 <<< 0 = BitVec.ofNat 32 length := by
  have four := four_bytes length
  have third : length >>> 24 = 0 := by
    rw [Nat.shiftRight_eq_div_pow]
    omega
  have second : length >>> 16 = 0 := by
    rw [Nat.shiftRight_eq_div_pow]
    omega
  have zero (k : Nat) : (BitVec.ofNat 8 0).setWidth 32 <<< k = 0#32 := by simp
  rw [third, second, zero, zero, BitVec.zero_or, BitVec.zero_or] at four
  exact four

/-- The reader gets back the length that was written, whatever stands behind it. -/
theorem readLength_lengthBytes (length : Nat) (rest : Bytes) :
    readLength (BitVec.ofNat 32 (lengthCode length)) (lengthBytes length ++ rest) =
      BitVec.ofNat 32 length := by
  unfold lengthCode lengthBytes
  split_ifs with short long
  · have two : BitVec.ofNat 32 length ≠ 126 := by bv_omega
    have eight : BitVec.ofNat 32 length ≠ 127 := by bv_omega
    rw [readLength, if_neg two, if_neg eight]
  · have bytes := two_bytes long
    rw [Nat.shiftRight_zero, BitVec.shiftLeft_zero] at bytes
    rw [readLength, if_pos (by decide)]
    exact bytes
  · have bytes := four_bytes length
    rw [Nat.shiftRight_zero, BitVec.shiftLeft_zero] at bytes
    have empty : ¬ ((0 : BitVec 8).setWidth 32 ≠ 0 ∨ (0 : BitVec 8).setWidth 32 ≠ 0 ∨
        (0 : BitVec 8).setWidth 32 ≠ 0 ∨ (0 : BitVec 8).setWidth 32 ≠ 0) := by decide
    rw [readLength, if_neg (by decide), if_pos (by decide)]
    exact (if_neg empty).trans bytes

end Header

end Chimenea.WebSockets
