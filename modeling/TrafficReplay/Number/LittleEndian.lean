-- A power is that of the core library, also where another one is in scope.
attribute [instance(1100), default_instance 10001] instPowNat

namespace TrafficReplay

def littleEndian : (width : Nat) → Nat → List UInt8
  | 0, _ => []
  | width + 1, n => UInt8.ofNat n :: littleEndian width (n / 256)

def ofLittleEndian : List UInt8 → Nat
  | [] => 0
  | byte :: rest => byte.toNat + 256 * ofLittleEndian rest

@[simp] theorem length_littleEndian (width n : Nat) : (littleEndian width n).length = width := by
  induction width generalizing n with
  | zero => rfl
  | succ width ih => simp [littleEndian, ih]

theorem ofLittleEndian_littleEndian (width n : Nat) :
    ofLittleEndian (littleEndian width n) = n % 256 ^ width := by
  induction width generalizing n with
  | zero => simp [littleEndian, ofLittleEndian, Nat.mod_one]
  | succ width ih =>
    have grow : 256 ^ (width + 1) = 256 * 256 ^ width := Nat.pow_succ'
    rw [littleEndian, ofLittleEndian, ih, UInt8.toNat_ofNat', grow, Nat.mod_mul]

theorem ofLittleEndian_lt (bytes : List UInt8) : ofLittleEndian bytes < 256 ^ bytes.length := by
  induction bytes with
  | nil => simp [ofLittleEndian]
  | cons byte rest ih =>
    have bound := byte.toNat_lt
    simp only [ofLittleEndian, List.length_cons, Nat.pow_succ]
    omega

theorem littleEndian_ofLittleEndian (bytes : List UInt8) :
    littleEndian bytes.length (ofLittleEndian bytes) = bytes := by
  induction bytes with
  | nil => rfl
  | cons byte rest ih =>
    have bound := byte.toNat_lt
    have low : UInt8.ofNat (byte.toNat + 256 * ofLittleEndian rest) = byte := by
      apply UInt8.toNat_inj.mp
      rw [UInt8.toNat_ofNat']
      omega
    have high : (byte.toNat + 256 * ofLittleEndian rest) / 256 = ofLittleEndian rest := by omega
    simp only [ofLittleEndian, List.length_cons, littleEndian, low, high, ih]

def int32Bytes (n : Int32) : List UInt8 := littleEndian 4 n.toUInt32.toNat

def int64Bytes (n : Int64) : List UInt8 := littleEndian 8 n.toUInt64.toNat

def int32OfBytes (bytes : List UInt8) : Int32 := (UInt32.ofNat (ofLittleEndian bytes)).toInt32

def int64OfBytes (bytes : List UInt8) : Int64 := (UInt64.ofNat (ofLittleEndian bytes)).toInt64

@[simp] theorem length_int32Bytes (n : Int32) : (int32Bytes n).length = 4 := by simp [int32Bytes]

@[simp] theorem length_int64Bytes (n : Int64) : (int64Bytes n).length = 8 := by simp [int64Bytes]

@[simp] theorem int32OfBytes_int32Bytes (n : Int32) : int32OfBytes (int32Bytes n) = n := by
  have bound := n.toUInt32.toNat_lt
  simp only [int32OfBytes, int32Bytes, ofLittleEndian_littleEndian]
  rw [Nat.mod_eq_of_lt (by omega), UInt32.ofNat_toNat]
  rfl

@[simp] theorem int64OfBytes_int64Bytes (n : Int64) : int64OfBytes (int64Bytes n) = n := by
  have bound := n.toUInt64.toNat_lt
  simp only [int64OfBytes, int64Bytes, ofLittleEndian_littleEndian]
  rw [Nat.mod_eq_of_lt (by omega), UInt64.ofNat_toNat]
  rfl

theorem int32Bytes_int32OfBytes {bytes : List UInt8} (four : bytes.length = 4) :
    int32Bytes (int32OfBytes bytes) = bytes := by
  have bound := ofLittleEndian_lt bytes
  have view : (int32OfBytes bytes).toUInt32.toNat = ofLittleEndian bytes := by
    simp only [int32OfBytes, UInt32.toUInt32_toInt32, UInt32.toNat_ofNat']
    rw [four] at bound
    omega
  rw [int32Bytes, view, ← four, littleEndian_ofLittleEndian]

theorem int64Bytes_int64OfBytes {bytes : List UInt8} (eight : bytes.length = 8) :
    int64Bytes (int64OfBytes bytes) = bytes := by
  have bound := ofLittleEndian_lt bytes
  have view : (int64OfBytes bytes).toUInt64.toNat = ofLittleEndian bytes := by
    simp only [int64OfBytes, UInt64.toUInt64_toInt64, UInt64.toNat_ofNat']
    rw [eight] at bound
    omega
  rw [int64Bytes, view, ← eight, littleEndian_ofLittleEndian]

end TrafficReplay
