import Marengo.Lib.Bytes
import Marengo.Lib.Prog
import Mathlib.Data.String.Basic

/-!
# The disk codec of the reference journal

A body is an eight-byte magic followed by one tagged `Value`. A value that implements `Serialize`
describes itself to the `Encoder` by one tree of calls, its `Datum`; the encoder turns the calls
into a `Value` while it reserves bytes and fields of a `Budget`, and `writeValue` lays the tree
out. The `Reader` parses a tree under its own limits on depth, fields and collections. `decode`
accepts exactly the canonical bytes of what it decodes, and `decodeIdentity` reads only the two
numbers that name an event.
-/

namespace Marengo

export Prog (read update fail ensure when each lift traverse bind_eq_ok pure_eq_ok ensure_eq_ok
  update_eq_ok read_eq_ok fail_eq_ok)

abbrev CodecError := String

/-- How a codec error prints. -/
def CodecError.display (e : CodecError) : String := "reference codec: " ++ e

def bodyCapacity : ℕ := 1024 * 1024

/-- The most values and keys in one body. -/
def nodeCapacity : ℕ := 65536

def collectionCapacity : ℕ := 8192

def depthCapacity : ℕ := 64

/-- `b"MRREF\0\x01\0"`. -/
def magic : List UInt8 := [0x4D, 0x52, 0x52, 0x45, 0x46, 0, 1, 0]

/-! ## Values -/

/-- The scalar types that keep their width on disk. -/
inductive Number
  | u8 | u16 | u32 | u64 | i8 | i16 | i32 | i64 | u128 | f32 | f64 | i128
deriving DecidableEq

namespace Number

def width : Number → ℕ
  | u8 | i8 => 1
  | u16 | i16 => 2
  | u32 | i32 | f32 => 4
  | u64 | i64 | f64 => 8
  | u128 | i128 => 16

def tag : Number → ℕ
  | u8 => 2 | u16 => 3 | u32 => 4 | u64 => 5
  | i8 => 6 | i16 => 7 | i32 => 8 | i64 => 9
  | u128 => 10 | f32 => 11 | f64 => 12 | i128 => 13

def ofTag : ℕ → Option Number
  | 2 => some u8 | 3 => some u16 | 4 => some u32 | 5 => some u64
  | 6 => some i8 | 7 => some i16 | 8 => some i32 | 9 => some i64
  | 10 => some u128 | 11 => some f32 | 12 => some f64 | 13 => some i128
  | _ => none

@[simp] theorem ofTag_tag (kind : Number) : ofTag kind.tag = some kind := by cases kind <;> rfl

/-- `is_finite`, from the bits of a float: the exponent is not all ones. Integers pass. -/
def isFinite : Number → ℕ → Bool
  | f32, bits => bits / 2 ^ 23 % 2 ^ 8 ≠ 2 ^ 8 - 1
  | f64, bits => bits / 2 ^ 52 % 2 ^ 11 ≠ 2 ^ 11 - 1
  | _, _ => true

/-- Refusal of a float that is not finite. -/
def nonfinite : Number → CodecError
  | f64 => "nonfinite f64"
  | _ => "nonfinite f32"

end Number

/-- Tagged value: scalars keep their width, floats their bits, and a map is sorted by its keys. -/
inductive Value
  | bool (b : Bool)
  | number (kind : Number) (bits : BitVec (8 * kind.width))
  | string (text : String)
  | bytes (data : List UInt8)
  | seq (values : List Value)
  | map (fields : List (String × Value))
  | none
  | some (value : Value)
  | unit

/-- The calls that a `Serialize` implementation makes to its serializer. -/
inductive Datum
  | bool (b : Bool)
  | number (kind : Number) (bits : BitVec (8 * kind.width))
  | char (c : Char)
  | str (text : String)
  | bytes (data : List UInt8)
  | none
  | some (value : Datum)
  | unit
  | unitVariant (variant : String)
  | newtypeStruct (value : Datum)
  | newtypeVariant (value : Datum)
  /-- A sequence, tuple or tuple struct, with the length it announces. -/
  | seq (length : Option ℕ) (values : List Datum)
  | tupleVariant (values : List Datum)
  | map (length : Option ℕ) (entries : List (Datum × Datum))
  | struct (length : ℕ) (fields : List (String × Datum))
  | structVariant (fields : List (String × Datum))

/-- A `u64`. -/
def Datum.u64 (n : ℕ) : Datum := .number .u64 (BitVec.ofNat 64 n)

/-- A `u32`. -/
def Datum.u32 (n : ℕ) : Datum := .number .u32 (BitVec.ofNat 32 n)

/-- A `u8`. -/
def Datum.u8 (n : ℕ) : Datum := .number .u8 (BitVec.ofNat 8 n)

def Datum.option {α : Type} (f : α → Datum) : Option α → Datum
  | .none => .none
  | .some a => .some (f a)

/-- `BTreeMap::insert` of a key that is not there. -/
def insertField (key : String) (value : Value) : List (String × Value) → List (String × Value)
  | [] => [(key, value)]
  | (k, v) :: fields =>
    if key < k then (key, value) :: (k, v) :: fields else (k, v) :: insertField key value fields

/-! ## The encoder -/

/-- What an encoding has reserved so far. -/
structure Budget where
  bytes : ℕ := 0
  nodes : ℕ := 0
deriving DecidableEq

abbrev Encoding := Prog Budget CodecError

namespace Encoder

def reserve (bytes : ℕ) : Encoding Unit := do
  let b ← read
  ensure (b.bytes + bytes ≤ bodyCapacity - magic.length) "encoded body exceeds 1 MiB"
  ensure (b.nodes + 1 ≤ nodeCapacity) "too many encoded fields"
  update fun _ => ⟨b.bytes + bytes, b.nodes + 1⟩

def child (depth : ℕ) : Encoding ℕ := do
  ensure (depth + 1 ≤ depthCapacity) "field depth exceeds capacity"
  pure (depth + 1)

def string (text : String) : Encoding Unit := reserve (5 + text.utf8ByteSize)

/-- Refuse a field that is there already, or one too many. -/
def checkField (fields : List (String × Value)) (key : String) : Encoding Unit :=
  ensure (fields.length ≠ collectionCapacity ∧ ∀ f ∈ fields, f.1 ≠ key)
    "duplicate field or field capacity"

/-- Refuse an announced length above the capacity. -/
def checkLength (length : Option ℕ) (e : CodecError) : Encoding Unit :=
  ensure (∀ n ∈ length, n ≤ collectionCapacity) e

def keyText : Value → Encoding String
  | .string text => pure text
  | _ => fail "map keys must be strings"

end Encoder

open Encoder in
mutual

def Datum.serialize : Datum → ℕ → Encoding Value
  | .bool b, _ => do reserve 1; pure (.bool b)
  | .number kind bits, _ => do
    ensure (kind.isFinite bits.toNat) kind.nonfinite
    reserve (1 + kind.width)
    pure (.number kind bits)
  | .char _, _ => fail "unsupported character field"
  | .str text, _ => do string text; pure (.string text)
  | .bytes data, _ => do reserve (5 + data.length); pure (.bytes data)
  | .none, _ => do reserve 1; pure .none
  | .some value, depth => do
    reserve 1
    let depth ← child depth
    let v ← value.serialize depth
    pure (.some v)
  | .unit, _ => do reserve 1; pure .unit
  | .unitVariant variant, _ => do string variant; pure (.string variant)
  | .newtypeStruct value, depth => do
    let depth ← child depth
    value.serialize depth
  | .newtypeVariant _, _ => fail "unsupported newtype variant"
  | .seq length values, depth => do
    checkLength length "collection exceeds capacity"
    reserve 5
    let depth ← child depth
    let vs ← serializeElements values depth []
    pure (.seq vs)
  | .tupleVariant _, _ => fail "unsupported tuple variant"
  | .map length entries, depth => do
    checkLength length "field map exceeds capacity"
    reserve 5
    let depth ← child depth
    let fs ← serializeEntries entries depth []
    pure (.map fs)
  | .struct length fields, depth => do
    checkLength (Option.some length) "field map exceeds capacity"
    reserve 5
    let depth ← child depth
    let fs ← serializeFields fields depth []
    pure (.map fs)
  | .structVariant _, _ => fail "unsupported struct variant"

/-- `serialize_element`, for each element. -/
def serializeElements : List Datum → ℕ → List Value → Encoding (List Value)
  | [], _, values => pure values
  | d :: ds, depth, values => do
    ensure (values.length ≠ collectionCapacity) "collection capacity"
    let v ← d.serialize depth
    serializeElements ds depth (values ++ [v])

/-- `serialize_key` and `serialize_value`, for each entry. -/
def serializeEntries : List (Datum × Datum) → ℕ → List (String × Value) →
    Encoding (List (String × Value))
  | [], _, fields => pure fields
  | (k, d) :: entries, depth, fields => do
    let keyValue ← k.serialize depth
    let key ← keyText keyValue
    checkField fields key
    let v ← d.serialize depth
    serializeEntries entries depth (insertField key v fields)

/-- `serialize_field`, for each field. -/
def serializeFields : List (String × Datum) → ℕ → List (String × Value) →
    Encoding (List (String × Value))
  | [], _, fields => pure fields
  | (key, d) :: rest, depth, fields => do
    string key
    checkField fields key
    let v ← d.serialize depth
    serializeFields rest depth (insertField key v fields)

end

/-! ## The writer -/

/-- A length, as a `u32`. -/
def writeLength (n : ℕ) : Except CodecError (List UInt8) :=
  if n < 2 ^ 32 then .ok (leBytes 4 n) else .error "length overflow"

/-- Bytes after a tag and their length. -/
def writeBlob (tag : UInt8) (data : List UInt8) : Except CodecError (List UInt8) := do
  let length ← writeLength data.length
  pure (tag :: length ++ data)

def utf8 (text : String) : List UInt8 := text.toUTF8.data.toList

mutual

def writeValue : Value → Except CodecError (List UInt8)
  | .bool b => .ok [if b then 1 else 0]
  | .number kind bits => .ok (UInt8.ofNat kind.tag :: leBytes kind.width bits.toNat)
  | .string text => writeBlob 14 (utf8 text)
  | .bytes data => writeBlob 15 data
  | .seq values => do
    let length ← writeLength values.length
    let bytes ← writeValues values
    pure (16 :: length ++ bytes)
  | .map fields => do
    let length ← writeLength fields.length
    let bytes ← writeFields fields
    pure (17 :: length ++ bytes)
  | .none => .ok [18]
  | .some value => do
    let bytes ← writeValue value
    pure (19 :: bytes)
  | .unit => .ok [20]

/-- Lay out the elements of a sequence. -/
def writeValues : List Value → Except CodecError (List UInt8)
  | [] => .ok []
  | v :: vs => do
    let bytes ← writeValue v
    let rest ← writeValues vs
    pure (bytes ++ rest)

def writeFields : List (String × Value) → Except CodecError (List UInt8)
  | [] => .ok []
  | (key, v) :: fields => do
    let name ← writeBlob 14 (utf8 key)
    let bytes ← writeValue v
    let rest ← writeFields fields
    pure (name ++ bytes ++ rest)

end

/-- Encode what a value says of itself. -/
def encode (d : Datum) : Except CodecError (List UInt8) :=
  match d.serialize 0 {} with
  | (.error e, _) => .error e
  | (.ok tree, budget) => do
    let body ← writeValue tree
    if body.length ≠ budget.bytes ∨ bodyCapacity < magic.length + body.length then
      .error "encoding size mismatch"
    else .ok (magic ++ body)

/-! ## The reader -/

/-- What is left to read, and the values and keys read so far. -/
structure Reader where
  rest : List UInt8
  nodes : ℕ := 0
deriving DecidableEq

abbrev Reading := Prog Reader CodecError

namespace Reader

/-- The next `count` bytes. -/
def take (count : ℕ) : Reading (List UInt8) := do
  let r ← read
  ensure (count ≤ r.rest.length) "truncated field"
  update fun r => { r with rest := r.rest.drop count }
  pure (r.rest.take count)

def length : Reading ℕ := do
  let bytes ← take 4
  pure (ofLeBytes bytes)

def count : Reading Unit := do
  update fun r => { r with nodes := r.nodes + 1 }
  let r ← read
  ensure (r.nodes ≤ nodeCapacity) "decode capacity"

/-- `std::str::from_utf8`. -/
def fromUtf8 (bytes : List UInt8) : Reading String :=
  match String.fromUTF8? ⟨bytes.toArray⟩ with
  | some text => pure text
  | none => fail "invalid UTF-8"

def text : Reading String := do
  let n ← length
  let bytes ← take n
  fromUtf8 bytes

def fieldKey : Value → Reading String
  | .string key => pure key
  | _ => fail "nonstring field key"

/-- `n` fields in the order of their keys. -/
def fields (value : Reading Value) :
    ℕ → Option String → List (String × Value) → Reading (List (String × Value))
  | 0, _, fs => pure fs
  | n + 1, previous, fs => do
    let keyValue ← value
    let key ← fieldKey keyValue
    ensure (∀ old ∈ previous, ¬key ≤ old) "duplicate or unordered fields"
    let v ← value
    fields value n (some key) (insertField key v fs)

/-- The rest of a value after its tag; `value` reads a nested one. -/
def payload (value : Reading Value) (tag : ℕ) : Reading Value :=
  match Number.ofTag tag with
  | some kind => do
    let bytes ← take kind.width
    let bits := BitVec.ofNat (8 * kind.width) (ofLeBytes bytes)
    ensure (kind.isFinite bits.toNat) kind.nonfinite
    pure (.number kind bits)
  | none =>
    match tag with
    | 0 => pure (.bool false)
    | 1 => pure (.bool true)
    | 14 => do
      let t ← text
      pure (.string t)
    | 15 => do
      let n ← length
      let bytes ← take n
      pure (.bytes bytes)
    | 16 => do
      let n ← length
      ensure (n ≤ collectionCapacity) "collection capacity"
      let vs ← traverse (fun _ => value) (List.range n)
      pure (.seq vs)
    | 17 => do
      let n ← length
      ensure (n ≤ collectionCapacity) "field capacity"
      let fs ← fields value n none []
      pure (.map fs)
    | 18 => pure .none
    | 19 => do
      let v ← value
      pure (.some v)
    | 20 => pure .unit
    | _ => fail "unsupported tag"

/-- One value; `room` is how many levels fit below the depth capacity, this one included. -/
def value : ℕ → Reading Value
  | 0 => do count; fail "decode capacity"
  | room + 1 => do
    count
    let tag ← take 1
    payload (value room) (tag.headD 0).toNat

end Reader

def readTree (bytes : List UInt8) : Except CodecError Value :=
  if bodyCapacity < bytes.length ∨ ¬magic.isPrefixOf bytes then .error "body capacity or version"
  else
    match Reader.value (depthCapacity + 1) ⟨bytes.drop magic.length, 0⟩ with
    | (.error e, _) => .error e
    | (.ok tree, r) => if r.rest = [] then .ok tree else .error "trailing body data"

/-- How a type is written and read. -/
structure Serde (α : Type) where
  serialize : α → Datum
  deserialize : Value → Except CodecError α

/-- Decode a body; unknown and defaulted fields, coercions and other noncanonical spellings are
refused, since their bytes are not those of the decoded value. -/
def decode {α : Type} (serde : Serde α) (bytes : List UInt8) : Except CodecError α := do
  let tree ← readTree bytes
  let decoded ← serde.deserialize tree
  let canonical ← encode (serde.serialize decoded)
  if canonical = bytes then pure decoded else throw "noncanonical typed body"

/-! ## The identity view -/

/-- The two numbers that name an event. -/
structure BodyIdentity where
  diagnosticSession : ℕ
  jobSequence : ℕ
deriving DecidableEq

def BodyIdentity.matches (self : BodyIdentity) (session job : ℕ) : Bool :=
  self.diagnosticSession = session && self.jobSequence = job

/-- A positive `u64` field. -/
def identityField (fields : List (String × Value)) (key : String) : Except CodecError ℕ :=
  match fields.lookup key with
  | some (.number .u64 bits) =>
    if 0 < bits.toNat then .ok bits.toNat else .error "event identity/body mismatch"
  | _ => .error "event identity/body mismatch"

/-- Read only the identity of a body. -/
def decodeIdentity (bytes : List UInt8) : Except CodecError BodyIdentity := do
  let tree ← readTree bytes
  match tree with
  | .map fields => do
    let session ← identityField fields "diagnostic_session"
    let job ← identityField fields "job_sequence"
    pure ⟨session, job⟩
  | _ => throw "body envelope"

end Marengo
