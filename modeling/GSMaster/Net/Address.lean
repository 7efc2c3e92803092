import GSMaster.Text.CString

/-!
# Socket addresses

The host is little-endian: a port in network order is the byte swap of its
number, and copying it to a buffer stores the low byte first.
-/

namespace GSMaster.Net

open GSMaster.Text

/-- `struct in_addr`, the four bytes in the order they are written. -/
structure InAddr where
  a : UInt8
  b : UInt8
  c : UInt8
  d : UInt8
  deriving DecidableEq, Repr

/-- The fields of `struct sockaddr_in` the program reads; the port is in network order. -/
structure SockaddrIn where
  sinAddr : InAddr
  sinPort : UInt16
  deriving DecidableEq, Repr

def ntohs (port : UInt16) : UInt16 :=
  (port <<< 8) ||| (port >>> 8)

def htons (port : UInt16) : UInt16 :=
  ntohs port

/-- The two bytes that `memcpy` takes from an `unsigned short`. -/
def shortBytes (value : UInt16) : List UInt8 :=
  [value.toUInt8, (value >>> 8).toUInt8]

/-- `low + (high << 8)`. -/
def bytesShort (low high : UInt8) : UInt16 :=
  low.toUInt16 + (high.toUInt16 <<< 8)

def InAddr.bytes (addr : InAddr) : List UInt8 :=
  [addr.a, addr.b, addr.c, addr.d]

/-- `inet_ntoa`, and `%u.%u.%u.%u` of the four bytes. -/
def inetNtoa (addr : InAddr) : CString :=
  decimal addr.a.toNat ++ ascii "." ++ decimal addr.b.toNat ++ ascii "." ++
    decimal addr.c.toNat ++ ascii "." ++ decimal addr.d.toNat

theorem shiftLeft_toNat (port : UInt16) : (port <<< 8).toNat = port.toNat % 256 * 256 := by
  rw [UInt16.toNat_shiftLeft, Nat.shiftLeft_eq, show (8 : UInt16).toNat % 16 = 8 by rfl]
  omega

theorem shiftRight_toNat (port : UInt16) : (port >>> 8).toNat = port.toNat / 256 := by
  rw [UInt16.toNat_shiftRight, Nat.shiftRight_eq_div_pow]
  rfl

theorem ntohs_toNat (port : UInt16) :
    (ntohs port).toNat = port.toNat % 256 * 256 + port.toNat / 256 := by
  have bound : port.toNat / 256 < 2 ^ 8 := by
    have := port.toNat_lt
    omega
  unfold ntohs
  rw [UInt16.toNat_or, shiftLeft_toNat, shiftRight_toNat, Nat.mul_comm]
  exact (Nat.two_pow_add_eq_or_of_lt bound _).symm

@[simp] theorem ntohs_ntohs (port : UInt16) : ntohs (ntohs port) = port := by
  apply UInt16.toNat_inj.mp
  have := port.toNat_lt
  rw [ntohs_toNat, ntohs_toNat]
  omega

@[simp] theorem htons_htons (port : UInt16) : htons (htons port) = port :=
  ntohs_ntohs port

@[simp] theorem htons_ntohs (port : UInt16) : htons (ntohs port) = port :=
  ntohs_ntohs port

theorem htons_inj {first second : UInt16} : htons first = htons second ↔ first = second := by
  constructor
  · intro same
    rw [← htons_htons first, same, htons_htons]
  · exact congrArg htons

theorem bytesShort_toNat (low high : UInt8) :
    (bytesShort low high).toNat = low.toNat + high.toNat * 256 := by
  have lowBound := low.toNat_lt
  have highBound := high.toNat_lt
  unfold bytesShort
  rw [UInt16.toNat_add, shiftLeft_toNat, UInt8.toNat_toUInt16, UInt8.toNat_toUInt16]
  omega

/-- Reading back the two stored bytes of a port gives the port. -/
@[simp] theorem bytesShort_shortBytes (value : UInt16) :
    bytesShort value.toUInt8 (value >>> 8).toUInt8 = value := by
  apply UInt16.toNat_inj.mp
  have := value.toNat_lt
  rw [bytesShort_toNat, UInt16.toNat_toUInt8, UInt16.toNat_toUInt8, shiftRight_toNat]
  omega

@[simp] theorem shortBytes_bytesShort (low high : UInt8) :
    shortBytes (bytesShort low high) = [low, high] := by
  have lowBound := low.toNat_lt
  have highBound := high.toNat_lt
  have lowByte : (bytesShort low high).toUInt8 = low := by
    apply UInt8.toNat_inj.mp
    rw [UInt16.toNat_toUInt8, bytesShort_toNat]
    omega
  have highByte : (bytesShort low high >>> 8).toUInt8 = high := by
    apply UInt8.toNat_inj.mp
    rw [UInt16.toNat_toUInt8, shiftRight_toNat, bytesShort_toNat]
    omega
  rw [shortBytes, lowByte, highByte]

@[simp] theorem shortBytes_length (value : UInt16) : (shortBytes value).length = 2 := rfl

end GSMaster.Net
