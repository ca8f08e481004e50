import CarrierLink.Value

/-!
# The wire codec

A value is encoded by the shape of its characteristic, and the bytes that come back are
decoded by the same shape. Both are tables over the shapes, and this module proves that they
fit together (`CarrierLink.Wire.codec`): whatever is encoded can be decoded and encoded again
to the same bytes, and whatever is decoded is encoded to the bytes that it was decoded from,
up to what `CarrierLink.Wire.normal` says.

The other half is what decoding does with bytes that nobody has encoded. A shape with a size
looks at that many bytes (`CarrierLink.Wire.front`) and fails on fewer. How it looks at them
is `CarrierLink.Wire.decodeAt?`, which takes the bytes one by one from their positions and
has no result where a position is past the end; decoding is that, and always has a result
(`CarrierLink.Wire.decodeAt?_eq`).
-/

namespace CarrierLink

-- A power is the one of the core library, whatever else is imported.
attribute [local instance (high)] instPowNat

/-! ### Words and text -/

namespace Bytes

/-- A number that was read from bytes is written as these bytes. -/
theorem littleEndian_ofLittleEndian (data : Bytes) :
    littleEndian data.length (ofLittleEndian data) = data := by
  induction data with
  | nil => rfl
  | cons b rest ih =>
    have hlow : UInt8.ofNat (b.toNat + 256 * ofLittleEndian rest) = b := by
      apply UInt8.toNat_inj.mp
      have hb := b.toNat_lt
      rw [UInt8.toNat_ofNat']
      omega
    have hhigh : (b.toNat + 256 * ofLittleEndian rest) / 256 = ofLittleEndian rest := by
      have hb := b.toNat_lt
      omega
    rw [ofLittleEndian, List.length_cons, littleEndian, hlow, hhigh, ih]

theorem ofLittleEndian_lt (data : Bytes) : ofLittleEndian data < 256 ^ data.length := by
  induction data with
  | nil => decide
  | cons b rest ih =>
    have hb := b.toNat_lt
    rw [ofLittleEndian, List.length_cons, Nat.pow_succ]
    omega

/-- **Bytes that are UTF-8**: the characters of some text, each in its encoding. -/
def IsUtf8 (data : Bytes) : Prop :=
  ∃ characters : List Char, characters.flatMap String.utf8EncodeChar = data

theorem length_ofText (text : String) : (ofText text).length = text.utf8ByteSize := rfl

theorem ofText_eq (text : String) : ofText text = text.toList.flatMap String.utf8EncodeChar := by
  rw [ofText, String.toUTF8_eq_toByteArray, ← String.utf8Encode_toList, List.utf8Encode,
    List.data_toByteArray]

/-- A text without characters beyond ASCII has as many bytes as it has characters. -/
theorem utf8ByteSize_eq_length {text : String} (h : ∀ c ∈ text.toList, c.toNat < 128) :
    text.utf8ByteSize = text.length := by
  have hone : text.toList.map (fun c => (String.utf8EncodeChar c).length) =
      text.toList.map fun _ => 1 := by
    refine List.map_congr_left fun c hc => ?_
    rw [String.length_utf8EncodeChar, Char.utf8Size_eq_one_iff, UInt32.le_iff_toNat_le]
    exact Nat.le_of_lt_succ (h c hc)
  rw [← length_ofText, ofText_eq, List.length_flatMap, hone, List.map_const',
    List.sum_replicate_nat, Nat.mul_one, String.length_toList]

/-- The last byte of a character beyond ASCII. -/
theorem continuation_mem_utf8EncodeChar {c : Char} (h : 127 < c.toNat) :
    UInt8.ofNat (c.toNat % 64 + 128) ∈ String.utf8EncodeChar c := by
  have hmany : ¬c.val.toNat ≤ 127 := Nat.not_le.mpr h
  change UInt8.ofNat (c.val.toNat % 64 + 128) ∈ String.utf8EncodeChar c
  rw [String.utf8EncodeChar, if_neg hmany]
  split
  · exact List.mem_cons_of_mem _ List.mem_cons_self
  · split
    · exact List.mem_cons_of_mem _ (List.mem_cons_of_mem _ List.mem_cons_self)
    · exact List.mem_cons_of_mem _ (List.mem_cons_of_mem _
        (List.mem_cons_of_mem _ List.mem_cons_self))

/-- **Digits are told by their bytes**: no character beyond ASCII has only bytes of digits. -/
theorem forall_mem_utf8EncodeChar_iff_isDigit {c : Char} :
    (∀ b ∈ String.utf8EncodeChar c, 48 ≤ b.toNat ∧ b.toNat ≤ 57) ↔ c.isDigit = true := by
  have hzero : '0'.toNat = 48 := rfl
  have hnine : '9'.toNat = 57 := rfl
  rw [Char.isDigit_iff_toNat, hzero, hnine]
  by_cases hascii : c.toNat ≤ 127
  · have hone : String.utf8EncodeChar c = [UInt8.ofNat c.toNat] := if_pos hascii
    rw [hone, List.forall_mem_singleton, UInt8.toNat_ofNat', Nat.mod_eq_of_lt (by omega)]
  · refine iff_of_false (fun h => ?_) (by omega)
    have hrange := h _ (continuation_mem_utf8EncodeChar (Nat.lt_of_not_le hascii))
    rw [UInt8.toNat_ofNat'] at hrange
    omega

theorem toText?_ofText (text : String) : toText? (ofText text) = some text := by
  have hbytes : (⟨(ofText text).toArray⟩ : ByteArray) = text.toByteArray := rfl
  rw [toText?, hbytes, String.fromUTF8?, dif_pos text.isValidUTF8]
  rfl

theorem ofText_of_toText? {data : Bytes} {text : String} (h : toText? data = some text) :
    ofText text = data := by
  rw [toText?, String.fromUTF8?] at h
  split at h
  · obtain rfl := Option.some.inj h
    rfl
  · exact absurd h (by simp)

/-- **Bytes are read as a text exactly if they are UTF-8.** -/
theorem exists_toText?_iff {data : Bytes} : (∃ text, toText? data = some text) ↔ data.IsUtf8 := by
  constructor
  · rintro ⟨text, h⟩
    exact ⟨text.toList, by rw [← ofText_eq, ofText_of_toText? h]⟩
  · rintro ⟨characters, rfl⟩
    refine ⟨String.ofList characters, ?_⟩
    have htext := toText?_ofText (String.ofList characters)
    rwa [ofText_eq, String.toList_ofList] at htext

end Bytes

namespace Wire

/-- The number of the first four bytes of a word that was written. -/
theorem word_littleEndian (n : UInt32) : word (Bytes.littleEndian 4 n.toNat) = n := by
  have htake : (Bytes.littleEndian 4 n.toNat).take 4 = Bytes.littleEndian 4 n.toNat :=
    List.take_of_length_le (by simp)
  rw [word, htake, Bytes.ofLittleEndian_littleEndian,
    Nat.mod_eq_of_lt (show n.toNat < 256 ^ 4 from n.toNat_lt), UInt32.ofNat_toNat]

/-- A word that was read is written as the four bytes that it was read from. -/
theorem littleEndian_word {data : Bytes} (h : 4 ≤ data.length) :
    Bytes.littleEndian 4 (word data).toNat = data.take 4 := by
  have hlength : (data.take 4).length = 4 := by rw [List.length_take, Nat.min_eq_left h]
  have hlt := Bytes.ofLittleEndian_lt (data.take 4)
  rw [hlength] at hlt
  have hword : (word data).toNat = Bytes.ofLittleEndian (data.take 4) := by
    rw [word, UInt32.toNat_ofNat_of_lt' (by simpa [UInt32.size] using hlt)]
  have hback := Bytes.littleEndian_ofLittleEndian (data.take 4)
  rw [hlength] at hback
  rw [hword, hback]

/-! ### Looking at bytes one by one -/

/-- The word of the bytes at the first four positions; nothing if one is past the end. -/
def wordAt? (data : Bytes) : Option UInt32 := do
  return UInt32.ofNat (Bytes.ofLittleEndian [← data[0]?, ← data[1]?, ← data[2]?, ← data[3]?])

/-- **Decoding with every byte taken from its position**; nothing where a position is past
the end. -/
def decodeAt? (wire : Wire) (data : Bytes) : Option (Except DecodeError Value) :=
  match wire.size? with
  | some size =>
    if data.length < size then some (.error (.tooShort wire size data.length))
    else
      match wire with
      | .float => do return .ok (.float (← wordAt? data))
      | .int => do return .ok (.int (← wordAt? data).toInt32)
      | .flag => do return .ok (.flag ((← data[0]?) != 0))
      | .time => some ((decodeTime data).map .time)
      | _ => some ((decodeLed data).map .led)
  | none =>
    match Bytes.toText? data with
    | some s => some (.ok (.text s))
    | none => some (.error .invalidUtf8)

/-- The bytes that a shape with a size needs are there once its length has been checked. -/
theorem exists_four {data : Bytes} (h : ¬data.length < 4) :
    ∃ b₀ b₁ b₂ b₃ rest, data = b₀ :: b₁ :: b₂ :: b₃ :: rest := by
  match data, h with
  | b₀ :: b₁ :: b₂ :: b₃ :: rest, _ => exact ⟨b₀, b₁, b₂, b₃, rest, rfl⟩
  | [], h | [_], h | [_, _], h | [_, _, _], h => exact absurd (by simp) h

theorem exists_two {data : Bytes} (h : ¬data.length < 2) :
    ∃ b₀ b₁ rest, data = b₀ :: b₁ :: rest := by
  match data, h with
  | b₀ :: b₁ :: rest, _ => exact ⟨b₀, b₁, rest, rfl⟩
  | [], h | [_], h => exact absurd (by simp) h

theorem exists_one {data : Bytes} (h : ¬data.length < 1) : ∃ b rest, data = b :: rest := by
  match data, h with
  | b :: rest, _ => exact ⟨b, rest, rfl⟩
  | [], h => exact absurd (by simp) h

/-- **Decoding never looks past the end.** -/
theorem decodeAt?_eq (wire : Wire) (data : Bytes) :
    wire.decodeAt? data = some (wire.decode data) := by
  have hword (h : ¬data.length < 4) : wordAt? data = some (word data) := by
    obtain ⟨b₀, b₁, b₂, b₃, rest, rfl⟩ := exists_four h
    rfl
  cases wire with
  | float =>
    simp only [decodeAt?, decode, size?]
    split
    · rfl
    next h => rw [hword h]; rfl
  | int =>
    simp only [decodeAt?, decode, size?]
    split
    · rfl
    next h => rw [hword h]; rfl
  | flag =>
    simp only [decodeAt?, decode, size?]
    split
    · rfl
    next h =>
      obtain ⟨b, rest, rfl⟩ := exists_one h
      simp [bne]
  | time | led =>
    simp only [decodeAt?, decode, size?]
    split <;> rfl
  | text =>
    simp only [decodeAt?, decode, size?]
    cases Bytes.toText? data <;> rfl

/-! ### Decoding -/

/-- The bytes that a shape looks at. -/
def front (wire : Wire) (data : Bytes) : Bytes :=
  match wire.size? with
  | some size => data.take size
  | none => data

/-- Fewer bytes than the shape has. -/
def IsShort (wire : Wire) (data : Bytes) : Prop :=
  ∃ size, wire.size? = some size ∧ data.length < size

/-- Bytes that start with an hour and a minute that no clock shows. -/
def IsOffClock (data : Bytes) : Prop :=
  ∃ hour minute rest, data = hour :: minute :: rest ∧ (23 < hour.toNat ∨ 59 < minute.toNat)

/-- **The bytes that a decoded value goes out as**: those that it was decoded from, a flag as
0 or 1. Text only goes out if it is not too long. -/
def normal (wire : Wire) (data : Bytes) : Except EncodeError Bytes :=
  match wire with
  | .flag => .ok ((wire.front data).map fun b => if b = 0 then 0 else 1)
  | .text => if data.length ≤ maxTextLength then .ok data else .error (.textTooLong data.length)
  | _ => .ok (wire.front data)

/-- **What decoding can come to**, with what it says of the bytes. -/
inductive Decoding (wire : Wire) (data : Bytes) : Except DecodeError Value → Prop
  | short {size : Nat} (hsize : wire.size? = some size) (hlength : data.length < size) :
      Decoding wire data (.error (.tooShort wire size data.length))
  | offClock {hour minute : UInt8} {rest : Bytes} (hwire : wire = .time)
      (hdata : data = hour :: minute :: rest) (hrange : 23 < hour.toNat ∨ 59 < minute.toNat) :
      Decoding wire data (.error (.timeOutOfRange hour.toNat minute.toNat))
  | notText (hwire : wire = .text) (hdata : ¬data.IsUtf8) :
      Decoding wire data (.error .invalidUtf8)
  | value {v : Value} (hlong : ¬wire.IsShort data) (hclock : wire = .time → ¬IsOffClock data)
      (htext : wire = .text → data.IsUtf8) (hkind : v.kind = wire)
      (hfront : ∀ data', wire.front data' = wire.front data → wire.decode data' = .ok v)
      (hencode : wire.encode v = wire.normal data) : Decoding wire data (.ok v)

theorem not_isShort_iff {wire : Wire} {size : Nat} (hsize : wire.size? = some size) (data : Bytes) :
    ¬wire.IsShort data ↔ ¬data.length < size := by
  constructor
  · exact fun h hlength => h ⟨size, hsize, hlength⟩
  · rintro h ⟨size', hsize', hlength⟩
    obtain rfl : size = size' := Option.some.inj (hsize.symm.trans hsize')
    exact h hlength

/-- As many bytes as some that are enough are enough. -/
theorem not_short_of_take_eq {size : Nat} {data data' : Bytes} (h : ¬data.length < size)
    (htake : data'.take size = data.take size) : ¬data'.length < size := by
  have hlength := congrArg List.length htake
  rw [List.length_take, List.length_take] at hlength
  omega

theorem decode_of_short {wire : Wire} {data : Bytes} {size : Nat} (hsize : wire.size? = some size)
    (h : data.length < size) : wire.decode data = .error (.tooShort wire size data.length) := by
  simp only [decode, hsize, if_pos h]

/-- A number is in the first four bytes. -/
theorem word_of_take_eq {data data' : Bytes} (h : data'.take 4 = data.take 4) :
    word data' = word data := by
  rw [word, word, h]

theorem decode_float {data : Bytes} (h : ¬data.length < 4) :
    Wire.float.decode data = .ok (.float (word data)) := by
  simp only [decode, size?, if_neg h]

theorem decode_int {data : Bytes} (h : ¬data.length < 4) :
    Wire.int.decode data = .ok (.int (word data).toInt32) := by
  simp only [decode, size?, if_neg h]

theorem decode_flag (b : UInt8) (rest : Bytes) :
    Wire.flag.decode (b :: rest) = .ok (.flag (b != 0)) := by
  simp [decode, size?, bne]

theorem decode_led (index red green blue : UInt8) (rest : Bytes) :
    Wire.led.decode (index :: red :: green :: blue :: rest) =
      .ok (.led ⟨index, red, green, blue⟩) := by
  have h : ¬(index :: red :: green :: blue :: rest).length < 4 := by simp
  simp only [decode, size?, if_neg h]
  rfl

theorem decode_time_of_range {hour minute : UInt8} (rest : Bytes) (hhour : hour.toNat < 24)
    (hminute : minute.toNat < 60) :
    Wire.time.decode (hour :: minute :: rest) =
      .ok (.time ⟨⟨hour.toNat, hhour⟩, ⟨minute.toNat, hminute⟩⟩) := by
  have h : ¬(hour :: minute :: rest).length < 2 := by simp
  simp only [decode, size?, if_neg h, decodeTime, ClockTime.ofParts,
    dif_pos (And.intro hhour hminute)]
  rfl

theorem decode_time_of_offClock {hour minute : UInt8} (rest : Bytes)
    (hrange : 23 < hour.toNat ∨ 59 < minute.toNat) :
    Wire.time.decode (hour :: minute :: rest) =
      .error (.timeOutOfRange hour.toNat minute.toNat) := by
  have h : ¬(hour :: minute :: rest).length < 2 := by simp
  have hnot : ¬(hour.toNat < 24 ∧ minute.toNat < 60) := by omega
  simp only [decode, size?, if_neg h, decodeTime, ClockTime.ofParts, dif_neg hnot]
  rfl

/-- A shape with a size decodes enough bytes, if they are no impossible time. -/
theorem decoding_of_sized {wire : Wire} {size : Nat} {data : Bytes} {v : Value}
    (hsize : wire.size? = some size) (hlength : ¬data.length < size)
    (hclock : wire = .time → ¬IsOffClock data) (hkind : v.kind = wire)
    (hfront : ∀ data', data'.take size = data.take size → wire.decode data' = .ok v)
    (hencode : wire.encode v = wire.normal data) : Decoding wire data (wire.decode data) := by
  rw [hfront data rfl]
  refine .value ((not_isShort_iff hsize data).mpr hlength) hclock ?_ hkind
    (fun data' h => hfront data' (by simpa only [front, hsize] using h)) hencode
  rintro rfl
  exact absurd hsize (by simp [size?])

theorem decoding_time {data : Bytes} (h : ¬data.length < 2) :
    Decoding .time data (Wire.time.decode data) := by
  obtain ⟨hour, minute, rest, rfl⟩ := exists_two h
  by_cases hrange : 23 < hour.toNat ∨ 59 < minute.toNat
  · rw [decode_time_of_offClock rest hrange]
    exact .offClock rfl rfl hrange
  · have hhour : hour.toNat < 24 := by omega
    have hminute : minute.toNat < 60 := by omega
    refine decoding_of_sized rfl h ?_
      (v := .time ⟨⟨hour.toNat, hhour⟩, ⟨minute.toNat, hminute⟩⟩) rfl (fun data' htake => ?_) ?_
    · rintro - ⟨hour', minute', rest', hdata, hrange'⟩
      obtain ⟨rfl, rfl, -⟩ : hour = hour' ∧ minute = minute' ∧ rest = rest' := by
        simpa using hdata
      exact hrange hrange'
    · obtain ⟨hour', minute', rest', rfl⟩ := exists_two (not_short_of_take_eq h htake)
      obtain ⟨rfl, rfl⟩ : hour' = hour ∧ minute' = minute := by simpa using htake
      exact decode_time_of_range rest' hhour hminute
    · simp [encode, normal, front, size?]

theorem decoding_text (data : Bytes) : Decoding .text data (Wire.text.decode data) := by
  simp only [decode, size?]
  cases htext : Bytes.toText? data with
  | none =>
    refine .notText rfl fun hutf8 => ?_
    obtain ⟨text, h⟩ := Bytes.exists_toText?_iff.mpr hutf8
    exact absurd (h.symm.trans htext) (by simp)
  | some text =>
    refine .value ?_ (by simp)
      (fun _ => Bytes.exists_toText?_iff.mp ⟨text, htext⟩) rfl (fun data' hfront => ?_) ?_
    · rintro ⟨size, hsize, -⟩
      exact absurd hsize (by simp [size?])
    · obtain rfl : data' = data := hfront
      simp only [decode, size?, htext]
    · have hdata := Bytes.ofText_of_toText? htext
      simp only [encode, normal, ← hdata, Bytes.length_ofText]

/-- **What decoding comes to**, shape by shape. -/
theorem decoding (wire : Wire) (data : Bytes) : Decoding wire data (wire.decode data) := by
  have hnot {wire : Wire} (h : wire ≠ .time) : wire = .time → ¬IsOffClock data :=
    fun htime => absurd htime h
  by_cases hshort : ∃ size, wire.size? = some size ∧ data.length < size
  · obtain ⟨size, hsize, hlength⟩ := hshort
    rw [decode_of_short hsize hlength]
    exact .short hsize hlength
  have hlong {size : Nat} (hsize : wire.size? = some size) : ¬data.length < size :=
    fun hlength => hshort ⟨size, hsize, hlength⟩
  cases wire with
  | float =>
    have h : ¬data.length < 4 := hlong rfl
    refine decoding_of_sized rfl h (hnot (by decide)) (v := .float (word data)) rfl
      (fun data' htake => ?_) ?_
    · rw [decode_float (not_short_of_take_eq h htake), word_of_take_eq htake]
    · exact congrArg Except.ok (littleEndian_word (Nat.le_of_not_lt h))
  | int =>
    have h : ¬data.length < 4 := hlong rfl
    refine decoding_of_sized rfl h (hnot (by decide)) (v := .int (word data).toInt32)
      rfl (fun data' htake => ?_) ?_
    · rw [decode_int (not_short_of_take_eq h htake), word_of_take_eq htake]
    · -- Two's complement is the word itself.
      exact congrArg Except.ok (littleEndian_word (Nat.le_of_not_lt h))
  | flag =>
    have h : ¬data.length < 1 := hlong rfl
    obtain ⟨b, rest, rfl⟩ := exists_one h
    refine decoding_of_sized rfl h (hnot (by decide)) (v := .flag (b != 0)) rfl
      (fun data' htake => ?_) ?_
    · obtain ⟨b', rest', rfl⟩ := exists_one (not_short_of_take_eq h htake)
      obtain rfl : b' = b := by simpa using htake
      exact decode_flag b' rest'
    · by_cases hb : b = 0
      · simp [encode, normal, front, size?, flagByte, hb]
      · simp [encode, normal, front, size?, flagByte, hb]
  | led =>
    have h : ¬data.length < 4 := hlong rfl
    obtain ⟨index, red, green, blue, rest, rfl⟩ := exists_four h
    refine decoding_of_sized rfl h (hnot (by decide))
      (v := .led ⟨index, red, green, blue⟩) rfl (fun data' htake => ?_) rfl
    obtain ⟨b₀, b₁, b₂, b₃, rest', rfl⟩ := exists_four (not_short_of_take_eq h htake)
    obtain ⟨rfl, rfl, rfl, rfl⟩ : b₀ = index ∧ b₁ = red ∧ b₂ = green ∧ b₃ = blue := by
      simpa using htake
    exact decode_led b₀ b₁ b₂ b₃ rest'
  | time => exact decoding_time (hlong rfl)
  | text => exact decoding_text data

/-! ### Encoding -/

/-- **What encoding comes to**, if it does not fail. -/
structure Encoded (wire : Wire) (value : Value) (data : Bytes) : Prop where
  length_eq : ∀ size, wire.size? = some size → data.length = size
  length_le : wire.size? = none → data.length ≤ maxTextLength
  onClock : wire = .time → ¬IsOffClock data
  isText : wire = .text → data.IsUtf8
  normal_eq : wire.normal data = .ok data
  /-- A value of the shape's own kind is what the bytes stand for. -/
  decode_eq : value.kind = wire → wire.decode data = .ok value

/-- Four bytes of a number. -/
theorem encoded_word {wire : Wire} {value : Value} {n : Nat} (hwire : wire = .float ∨ wire = .int)
    (hdecode : value.kind = wire → wire.decode (Bytes.littleEndian 4 n) = .ok value) :
    Encoded wire value (Bytes.littleEndian 4 n) := by
  have htake : (Bytes.littleEndian 4 n).take 4 = Bytes.littleEndian 4 n :=
    List.take_of_length_le (by simp)
  rcases hwire with rfl | rfl <;>
    exact ⟨by simp [size?], by simp [size?], by simp, by simp,
      by simp [normal, front, size?, htake], hdecode⟩

/-- The one byte of a flag. -/
theorem encoded_flagByte {value : Value} {on : Bool}
    (hdecode : value.kind = .flag → value = .flag on) :
    Encoded .flag value (flagByte on) := by
  refine ⟨by simp [size?, flagByte], by simp [size?], by simp, by simp, ?_, fun hkind => ?_⟩
  · cases on <;> rfl
  · rw [hdecode hkind]
    cases on <;> rfl

theorem encoded_time (t : ClockTime) :
    Encoded .time (.time t) [UInt8.ofNat t.hour, UInt8.ofNat t.minute] := by
  have hhour : (UInt8.ofNat t.hour).toNat = t.hour :=
    UInt8.toNat_ofNat_of_lt' (Nat.lt_trans t.hour.isLt (by decide))
  have hminute : (UInt8.ofNat t.minute).toNat = t.minute :=
    UInt8.toNat_ofNat_of_lt' (Nat.lt_trans t.minute.isLt (by decide))
  refine ⟨by simp [size?], by simp [size?], fun _ => ?_, by simp, rfl, fun _ => ?_⟩
  · rintro ⟨hour, minute, rest, hdata, hrange⟩
    obtain ⟨rfl, rfl, -⟩ : UInt8.ofNat t.hour = hour ∧ UInt8.ofNat t.minute = minute ∧
        [] = rest := by simpa using hdata
    have hlt := t.hour.isLt
    have hlt' := t.minute.isLt
    omega
  · rw [decode_time_of_range [] (by rw [hhour]; exact t.hour.isLt)
      (by rw [hminute]; exact t.minute.isLt)]
    simp only [hhour, hminute]

theorem encoded_of_encode {wire : Wire} {value : Value} {data : Bytes}
    (h : wire.encode value = .ok data) : Encoded wire value data := by
  have hlength (n : Nat) : ¬(Bytes.littleEndian 4 n).length < 4 := by simp
  simp only [encode] at h
  -- One case for each entry of the table.
  split at h
  next bits =>
    obtain rfl := Except.ok.inj h
    refine encoded_word (.inl rfl) fun _ => ?_
    rw [decode_float (hlength _), word_littleEndian]
  next n =>
    obtain rfl := Except.ok.inj h
    exact encoded_word (.inl rfl) (by simp [Value.kind])
  next n =>
    obtain rfl := Except.ok.inj h
    refine encoded_word (.inr rfl) fun _ => ?_
    rw [decode_int (hlength _), word_littleEndian]
    rfl
  next bits =>
    obtain rfl := Except.ok.inj h
    exact encoded_word (.inr rfl) (by simp [Value.kind])
  next on =>
    obtain rfl := Except.ok.inj h
    exact encoded_word (.inr rfl) (by simp [Value.kind])
  next on =>
    obtain rfl := Except.ok.inj h
    exact encoded_flagByte fun _ => rfl
  next n =>
    obtain rfl := Except.ok.inj h
    exact encoded_flagByte (by simp [Value.kind])
  next bits =>
    obtain rfl := Except.ok.inj h
    exact encoded_flagByte (by simp [Value.kind])
  next t =>
    obtain rfl := Except.ok.inj h
    exact encoded_time t
  next command =>
    obtain rfl := Except.ok.inj h
    exact ⟨by simp [size?], by simp [size?], by simp, by simp, rfl, fun _ => decode_led ..⟩
  next s =>
    split at h
    next hle =>
      obtain rfl := Except.ok.inj h
      refine ⟨by simp [size?], fun _ => hle, by simp, fun _ => ?_, if_pos hle, fun _ => ?_⟩
      · exact Bytes.exists_toText?_iff.mp ⟨s, Bytes.toText?_ofText s⟩
      · simp only [decode, size?, Bytes.toText?_ofText]
    next => exact absurd h (by simp)
  next => exact absurd h (by simp)

/-! ### There and back -/

/-- **The bytes of a value read back.** They are as many as the shape says, they stand for a
value of the shape's kind that goes out as the same bytes, and for the very value if it was of
this kind. -/
structure ReadsBack (wire : Wire) (value : Value) (data : Bytes) : Prop where
  length_eq : ∀ size, wire.size? = some size → data.length = size
  length_le : wire.size? = none → data.length ≤ maxTextLength
  returns : ∃ value', wire.decode data = .ok value' ∧ value'.kind = wire ∧
    wire.encode value' = .ok data ∧ (value.kind = wire → value' = value)

theorem readsBack_of_encode {wire : Wire} {value : Value} {data : Bytes}
    (h : wire.encode value = .ok data) : ReadsBack wire value data := by
  obtain ⟨hlength, hle, hclock, htext, hnormal, hsame⟩ := encoded_of_encode h
  refine ⟨hlength, hle, ?_⟩
  cases hdecode : wire.decode data with
  | ok value' =>
    cases hdecode ▸ decoding wire data with
    | value hlong _ _ hkind _ hencode =>
      refine ⟨value', rfl, hkind, hencode.trans hnormal, fun hown => ?_⟩
      exact Except.ok.inj (hdecode.symm.trans (hsame hown))
  | error e =>
    -- Bytes that were encoded are neither too short nor out of range.
    cases hdecode ▸ decoding wire data with
    | short hsize hshort => exact absurd hshort (by rw [hlength _ hsize]; exact Nat.lt_irrefl _)
    | offClock hwire hdata hrange => exact absurd ⟨_, _, _, hdata, hrange⟩ (hclock hwire)
    | notText hwire hdata => exact absurd (htext hwire) hdata

/-- **What decoding makes of any bytes.** -/
structure Decodes (wire : Wire) (data : Bytes) : Prop where
  /-- No byte is looked for past the end. -/
  inside : wire.decodeAt? data = some (wire.decode data)
  tooShort_iff : ∀ wire' expected actual,
    wire.decode data = .error (.tooShort wire' expected actual) ↔
      wire' = wire ∧ wire.size? = some expected ∧ actual = data.length ∧ data.length < expected
  outOfRange_iff : ∀ hour minute,
    wire.decode data = .error (.timeOutOfRange hour minute) ↔
      wire = .time ∧ ∃ b₀ b₁ rest, data = b₀ :: b₁ :: rest ∧ hour = b₀.toNat ∧
        minute = b₁.toNat ∧ (23 < hour ∨ 59 < minute)
  invalid_iff : wire.decode data = .error .invalidUtf8 ↔ wire = .text ∧ ¬data.IsUtf8
  /-- Anything else is a value, which depends on the bytes that the shape looks at alone, and
  goes out as these bytes. -/
  value : ¬wire.IsShort data → ¬(wire = .time ∧ IsOffClock data) →
    ¬(wire = .text ∧ ¬data.IsUtf8) →
    ∃ v, wire.decode data = .ok v ∧ v.kind = wire ∧
      (∀ data', wire.front data' = wire.front data → wire.decode data' = .ok v) ∧
      wire.encode v = wire.normal data

theorem tooShort_iff {wire wire' : Wire} {data : Bytes} {expected actual : Nat} :
    wire.decode data = .error (.tooShort wire' expected actual) ↔
      wire' = wire ∧ wire.size? = some expected ∧ actual = data.length ∧
        data.length < expected := by
  constructor
  · intro h
    cases h ▸ decoding wire data with
    | short hsize hlength => exact ⟨rfl, hsize, rfl, hlength⟩
  · rintro ⟨rfl, hsize, rfl, hshort⟩
    exact decode_of_short hsize hshort

theorem outOfRange_iff {wire : Wire} {data : Bytes} {hour minute : Nat} :
    wire.decode data = .error (.timeOutOfRange hour minute) ↔
      wire = .time ∧ ∃ b₀ b₁ rest, data = b₀ :: b₁ :: rest ∧ hour = b₀.toNat ∧
        minute = b₁.toNat ∧ (23 < hour ∨ 59 < minute) := by
  constructor
  · intro h
    cases h ▸ decoding wire data with
    | offClock hwire hdata hrange => exact ⟨hwire, _, _, _, hdata, rfl, rfl, hrange⟩
  · rintro ⟨rfl, b₀, b₁, rest, rfl, rfl, rfl, hrange⟩
    exact decode_time_of_offClock rest hrange

theorem invalid_iff {wire : Wire} {data : Bytes} :
    wire.decode data = .error .invalidUtf8 ↔ wire = .text ∧ ¬data.IsUtf8 := by
  constructor
  · intro h
    cases h ▸ decoding wire data with
    | notText hwire hdata => exact ⟨hwire, hdata⟩
  · rintro ⟨rfl, hdata⟩
    cases htext : Bytes.toText? data with
    | none => simp only [decode, size?, htext]
    | some text => exact absurd (Bytes.exists_toText?_iff.mp ⟨text, htext⟩) hdata

theorem decodes (wire : Wire) (data : Bytes) : wire.Decodes data := by
  refine ⟨decodeAt?_eq wire data, fun _ _ _ => tooShort_iff, fun _ _ => outOfRange_iff,
    invalid_iff, fun hlong hclock htext => ?_⟩
  cases hdecode : wire.decode data with
  | ok v =>
    cases hdecode ▸ decoding wire data with
    | value _ _ _ hkind hfront hencode => exact ⟨v, rfl, hkind, hfront, hencode⟩
  | error e =>
    cases hdecode ▸ decoding wire data with
    | short hsize hlength => exact absurd ⟨_, hsize, hlength⟩ hlong
    | offClock hwire hdata hrange => exact absurd ⟨hwire, _, _, _, hdata, hrange⟩ hclock
    | notText hwire hdata => exact absurd ⟨hwire, hdata⟩ htext

/-- **The codec fits together**, shape by shape: what is encoded reads back, and any bytes at
all are decoded as far as they reach. -/
theorem codec (wire : Wire) :
    (∀ value data, wire.encode value = .ok data → wire.ReadsBack value data) ∧
      ∀ data, wire.Decodes data :=
  ⟨fun _ _ => readsBack_of_encode, decodes wire⟩

/-- The float -3.7 goes out as an integer and comes back as -3. -/
theorem codec_of_fraction :
    Wire.int.encode (.float 0xC06CCCCD) = .ok [253, 255, 255, 255] ∧
      Wire.int.ReadsBack (.float 0xC06CCCCD) [253, 255, 255, 255] ∧
      Wire.int.decode [253, 255, 255, 255] = .ok (.int (-3)) :=
  ⟨rfl, (codec .int).1 _ _ rfl, rfl⟩

end Wire

end CarrierLink
