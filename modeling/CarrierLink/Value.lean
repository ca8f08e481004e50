import CarrierLink.Bytes
import CarrierLink.Clock
import CarrierLink.Number.Decimal

/-!
# Channel values and their wire form

A characteristic holds a value in one of six fixed shapes. This module has the values
(`CarrierLink.Value`), the shapes (`CarrierLink.Wire`), and the passage between values and
bytes: `CarrierLink.Wire.encode` and `CarrierLink.Wire.decode`.

Numbers are little-endian. Encoding converts between the numeric kinds: a float is cut
down to a whole number and kept within 32 bits, and any number but zero and NaN is a set
flag. Times, LED commands and text only go out as what they are. Decoding looks at the
first bytes that the shape needs; text takes all of them.
-/

namespace CarrierLink

open Binary

/-! ### Values -/

/-- A colour for one LED. -/
structure Led where
  index : UInt8
  red : UInt8
  green : UInt8
  blue : UInt8
  deriving DecidableEq, Repr

namespace Led

/-- The low eight bits of a number. -/
def lowByte (n : Int32) : UInt8 := UInt8.ofNat (n.toInt % 256).toNat

/-- A command whose colour components are cut down to their low eight bits. -/
def masked (index : UInt8) (red green blue : Int32) : Led :=
  ⟨index, lowByte red, lowByte green, lowByte blue⟩

/-- The pixel and its colour. -/
def text (led : Led) : String :=
  "led " ++ toString led.index.toNat ++ " #" ++ Numeral.hex 2 led.red.toNat ++
    Numeral.hex 2 led.green.toNat ++ Numeral.hex 2 led.blue.toNat

end Led

/-- A value of a channel. A float is its single-precision bit pattern, so that the bits
of a NaN are kept too. -/
inductive Value where
  | float (bits : UInt32)
  | int (n : Int32)
  | flag (on : Bool)
  | time (t : ClockTime)
  | led (command : Led)
  | text (s : String)
  deriving DecidableEq, Repr

/-- The shape of a characteristic's value. -/
inductive Wire where
  | float
  | int
  | flag
  | time
  | led
  | text
  deriving DecidableEq, Repr

/-- The shape as it is named on the board's side. -/
def Wire.name : Wire → String
  | float => "float32"
  | int => "int32"
  | flag => "flag"
  | time => "time"
  | led => "led command"
  | text => "text"

namespace Value

/-- The shape whose values are of this kind. -/
def kind : Value → Wire
  | float _ => .float
  | int _ => .int
  | flag _ => .flag
  | time _ => .time
  | led _ => .led
  | text _ => .text

/-- The number that a single-precision bit pattern stands for. -/
def number (bits : UInt32) : Number := single.decode bits.toNat

/-- A value as it is shown. -/
def shown : Value → String
  | float bits => Decimal.fixed 2 (number bits)
  | int n => toString n.toInt
  | flag on => if on then "on" else "off"
  | time t => t.text
  | led command => command.text
  | text s => s

/-- The single-precision bits of a number. -/
def asFloat? : Value → Option UInt32
  | float bits => some bits
  | int n => some (UInt32.ofNat (single.encode (single.ofInt n.toInt)))
  | _ => none

/-- A value that is an integer. -/
def asInt? : Value → Option Int32
  | int n => some n
  | _ => none

/-- A value that is a flag. -/
def asFlag? : Value → Option Bool
  | flag on => some on
  | _ => none

/-- A value that is a clock time. -/
def asTime? : Value → Option ClockTime
  | time t => some t
  | _ => none

/-- A value that is text. -/
def asText? : Value → Option String
  | text s => some s
  | _ => none

end Value

/-- How a message names a kind of value. -/
def Wire.kindName : Wire → String
  | .float => "float"
  | .int => "integer"
  | .flag => "flag"
  | .time => "time"
  | .led => "led command"
  | .text => "text"

/-! ### Errors -/

/-- Why a value cannot be sent. -/
inductive EncodeError where
  | typeMismatch (expected found : Wire)
  | textTooLong (length : Nat)
  deriving DecidableEq, Repr

/-- Why bytes are no value of a shape. -/
inductive DecodeError where
  | tooShort (wire : Wire) (expected actual : Nat)
  | timeOutOfRange (hour minute : Nat)
  | invalidUtf8
  deriving DecidableEq, Repr

namespace Wire

/-- The most bytes that a text may have. -/
def maxTextLength : Nat := 512

end Wire

/-- What the operator is told. -/
def EncodeError.message : EncodeError → String
  | typeMismatch expected found =>
    s!"cannot encode a {found.kindName} value as {expected.name}"
  | textTooLong length =>
    s!"text of {length} bytes exceeds the {Wire.maxTextLength} byte limit"

/-- What the operator is told. -/
def DecodeError.message : DecodeError → String
  | tooShort wire expected actual => s!"{wire.name} value needs {expected} bytes, got {actual}"
  | timeOutOfRange hour minute => s!"time {hour}:{Numeral.twoPlaces minute} is out of range"
  | invalidUtf8 => "text value is not valid UTF-8"

/-! ### Encoding and decoding -/

namespace Wire

/-- How many bytes a value takes; text takes as many as it needs. -/
def size? : Wire → Option Nat
  | float | int | led => some 4
  | flag => some 1
  | time => some 2
  | text => none

/-- One byte, 1 for a set flag. -/
def flagByte (on : Bool) : Bytes := [if on then 1 else 0]

/-- The whole number that a float is sent as. -/
def wholeNumber (x : Number) : Int32 :=
  Int32.ofInt (x.saturate Int32.minValue.toInt Int32.maxValue.toInt)

/-- Whether a float is sent as a set flag. -/
def isSet (x : Number) : Bool := !x.isZero && x != .nan

/-- **The bytes of a value.** -/
def encode (wire : Wire) (value : Value) : Except EncodeError Bytes :=
  match wire, value with
  | .float, .float bits => .ok (Bytes.littleEndian 4 bits.toNat)
  | .float, .int n => .ok (Bytes.littleEndian 4 (single.encode (single.ofInt n.toInt)))
  | .int, .int n => .ok (Bytes.littleEndian 4 n.toUInt32.toNat)
  | .int, .float bits =>
    .ok (Bytes.littleEndian 4 (wholeNumber (Value.number bits)).toUInt32.toNat)
  | .int, .flag on => .ok (Bytes.littleEndian 4 on.toNat)
  | .flag, .flag on => .ok (flagByte on)
  | .flag, .int n => .ok (flagByte (n != 0))
  | .flag, .float bits => .ok (flagByte (isSet (Value.number bits)))
  | .time, .time t => .ok [UInt8.ofNat t.hour, UInt8.ofNat t.minute]
  | .led, .led command => .ok [command.index, command.red, command.green, command.blue]
  | .text, .text s =>
    if s.utf8ByteSize ≤ maxTextLength then .ok (Bytes.ofText s)
    else .error (.textTooLong s.utf8ByteSize)
  | expected, found => .error (.typeMismatch expected found.kind)

/-- The number in the first four bytes. -/
def word (data : Bytes) : UInt32 := UInt32.ofNat (Bytes.ofLittleEndian (data.take 4))

/-- The clock time in the first two bytes. -/
def decodeTime (data : Bytes) : Except DecodeError ClockTime :=
  match data with
  | hour :: minute :: _ =>
    match ClockTime.ofParts hour.toNat minute.toNat with
    | .ok t => .ok t
    | .error _ => .error (.timeOutOfRange hour.toNat minute.toNat)
  | _ => .error (.tooShort .time 2 data.length)

/-- The LED command in the first four bytes. -/
def decodeLed (data : Bytes) : Except DecodeError Led :=
  match data with
  | index :: red :: green :: blue :: _ => .ok ⟨index, red, green, blue⟩
  | _ => .error (.tooShort .led 4 data.length)

/-- **The value of some bytes.** Bytes past the size of the shape are ignored. -/
def decode (wire : Wire) (data : Bytes) : Except DecodeError Value :=
  match wire.size? with
  | some size =>
    if data.length < size then .error (.tooShort wire size data.length)
    else
      match wire with
      | .float => .ok (.float (word data))
      | .int => .ok (.int (word data).toInt32)
      | .flag => .ok (.flag (data.head? != some 0))
      | .time => (decodeTime data).map .time
      | _ => (decodeLed data).map .led
  | none =>
    match Bytes.toText? data with
    | some s => .ok (.text s)
    | none => .error .invalidUtf8

end Wire

end CarrierLink
