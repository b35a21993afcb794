import Chimenea.Json.Number

/-!
The document of ArduinoJson: variants, and collections as the linked slots they
are. `S` is what a stored string is: its bytes, or its place in a buffer.
-/

namespace Chimenea.Json
open Arduino

mutual

inductive VariantData (S : Type) where
  | null
  | boolean (value : Bool)
  | number (value : Number)
  | string (value : S)
  | array (elements : CollectionData S)
  | object (members : CollectionData S)

/-- The slots of an array have no key. -/
inductive CollectionData (S : Type) where
  | empty
  | slot (key : Option S) (data : VariantData S) (next : CollectionData S)

end

namespace VariantData

variable {S : Type}

/-- `!isFloat()`, which asks for the number bit. -/
def isEnclosed : VariantData S → Bool
  | .number _ => false
  | _ => true

end VariantData

namespace CollectionData

variable {S : Type}

/-- `addSlot`, with the key and the value the new slot gets. -/
def addSlot (key : Option S) (data : VariantData S) : CollectionData S → CollectionData S
  | .empty => .slot key data .empty
  | .slot key' data' next => .slot key' data' (next.addSlot key data)

/-- The number of the first slot whose key equals `key` as a C string. -/
def getSlot (bytes : S → Bytes) (key : Bytes) : CollectionData S → Option Nat
  | .empty => none
  | .slot key' _ next =>
    if key'.map (fun k => c_str (bytes k)) = some (c_str key) then some 0
    else (next.getSlot bytes key).map (· + 1)

def data : CollectionData S → Nat → VariantData S
  | .empty, _ => .null
  | .slot _ data _, 0 => data
  | .slot _ _ next, i + 1 => next.data i

def setData : CollectionData S → Nat → VariantData S → CollectionData S
  | .empty, _, _ => .empty
  | .slot key _ next, 0, value => .slot key value next
  | .slot key data next, i + 1, value => .slot key data (next.setData i value)

def getMember (bytes : S → Bytes) (key : Bytes) (members : CollectionData S) :
    Option (VariantData S) :=
  (members.getSlot bytes key).map members.data

end CollectionData

mutual

/-- The same document with other strings. -/
def VariantData.map {S T : Type} (f : S → T) : VariantData S → VariantData T
  | .null => .null
  | .boolean value => .boolean value
  | .number value => .number value
  | .string value => .string (f value)
  | .array elements => .array (elements.map f)
  | .object members => .object (members.map f)

def CollectionData.map {S T : Type} (f : S → T) : CollectionData S → CollectionData T
  | .empty => .empty
  | .slot key data next => .slot (key.map f) (data.map f) (next.map f)

end

mutual

/-- Every string of the document has the property. -/
def VariantData.All {S : Type} (P : S → Prop) : VariantData S → Prop
  | .string value => P value
  | .array elements => elements.All P
  | .object members => members.All P
  | _ => True

def CollectionData.All {S : Type} (P : S → Prop) : CollectionData S → Prop
  | .empty => True
  | .slot key data next => (∀ k ∈ key, P k) ∧ data.All P ∧ next.All P

end

section Map

variable {S T : Type} {P P' : S → Prop} {f g : S → T}

mutual

theorem VariantData.all_mono (weaker : ∀ k, P k → P' k) (v : VariantData S) (all : v.All P) :
    v.All P' := by
  cases v with
  | string value => exact weaker value all
  | array elements => exact CollectionData.all_mono weaker elements all
  | object members => exact CollectionData.all_mono weaker members all
  | _ => trivial

theorem CollectionData.all_mono (weaker : ∀ k, P k → P' k) (c : CollectionData S)
    (all : c.All P) : c.All P' := by
  cases c with
  | empty => trivial
  | slot key data next => exact ⟨fun k member => weaker k (all.1 k member),
      VariantData.all_mono weaker data all.2.1, CollectionData.all_mono weaker next all.2.2⟩

end

mutual

theorem VariantData.map_congr (same : ∀ k, P k → f k = g k) (v : VariantData S)
    (all : v.All P) : v.map f = v.map g := by
  cases v with
  | string value => rw [VariantData.map, VariantData.map, same value all]
  | array elements =>
    rw [VariantData.map, VariantData.map, CollectionData.map_congr same elements all]
  | object members =>
    rw [VariantData.map, VariantData.map, CollectionData.map_congr same members all]
  | _ => rfl

theorem CollectionData.map_congr (same : ∀ k, P k → f k = g k) (c : CollectionData S)
    (all : c.All P) : c.map f = c.map g := by
  cases c with
  | empty => rfl
  | slot key data next =>
    have keys : key.map f = key.map g := by
      cases key with
      | none => rfl
      | some k => exact congrArg some (same k (all.1 k rfl))
    rw [CollectionData.map, CollectionData.map, keys, VariantData.map_congr same data all.2.1,
      CollectionData.map_congr same next all.2.2]

end

namespace CollectionData

theorem map_addSlot (key : Option S) (data : VariantData S) :
    ∀ c : CollectionData S, (c.addSlot key data).map f = (c.map f).addSlot (key.map f) (data.map f)
  | .empty => rfl
  | .slot _ _ next => by
    rw [addSlot, map, map, addSlot, map_addSlot key data next]

theorem map_data : ∀ (c : CollectionData S) (i : Nat), (c.map f).data i = (c.data i).map f
  | .empty, _ => rfl
  | .slot _ _ _, 0 => rfl
  | .slot _ _ next, i + 1 => map_data next i

theorem map_setData (value : VariantData S) :
    ∀ (c : CollectionData S) (i : Nat), (c.setData i value).map f = (c.map f).setData i (value.map f)
  | .empty, _ => rfl
  | .slot _ _ _, 0 => rfl
  | .slot _ _ next, i + 1 => by
    rw [setData, map, map, setData, map_setData value next i]

theorem map_getSlot (bytes : T → Bytes) (key : Bytes) :
    ∀ c : CollectionData S, (c.map f).getSlot bytes key = c.getSlot (fun s => bytes (f s)) key
  | .empty => rfl
  | .slot _ _ next => by
    rw [map, getSlot, getSlot, map_getSlot bytes key next, Option.map_map]
    rfl

theorem all_addSlot {key : Option S} {data : VariantData S} (keys : ∀ k ∈ key, P k)
    (value : data.All P) : ∀ c : CollectionData S, c.All P → (c.addSlot key data).All P
  | .empty, _ => ⟨keys, value, trivial⟩
  | .slot _ _ next, all => ⟨all.1, all.2.1, all_addSlot keys value next all.2.2⟩

theorem all_data : ∀ (c : CollectionData S) (i : Nat), c.All P → (c.data i).All P
  | .empty, _, _ => trivial
  | .slot _ _ _, 0, all => all.2.1
  | .slot _ _ next, i + 1, all => all_data next i all.2.2

theorem all_setData {value : VariantData S} (new : value.All P) :
    ∀ (c : CollectionData S) (i : Nat), c.All P → (c.setData i value).All P
  | .empty, _, _ => trivial
  | .slot _ _ _, 0, all => ⟨all.1, new, all.2.2⟩
  | .slot _ _ next, i + 1, all => ⟨all.1, all.2.1, all_setData new next i all.2.2⟩

end CollectionData

end Map

end Chimenea.Json
