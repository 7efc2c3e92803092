import GSMaster.Enctype.KeyTable
import GSMaster.Enctype.Encshare

/-!
# The encode type 1 message

`create_enctype1_buffer` enciphers a list in three layers and puts a header of
58 bytes before it; `enctype1_decoder` reads the header and undoes the layers.
-/

namespace GSMaster.Enctype

open GSMaster.Text GSMaster.Library

/-- The bytes of an `int` on a little-endian host. -/
def intBytes (value : UInt32) : List UInt8 :=
  [value.toUInt8, (value >>> 8).toUInt8, (value >>> 16).toUInt8, (value >>> 24).toUInt8]

/-- The bytes of `htonl(value)`. -/
def htonlBytes (value : UInt32) : List UInt8 :=
  [(value >>> 24).toUInt8, (value >>> 16).toUInt8, (value >>> 8).toUInt8, value.toUInt8]

/-- `find_master_key_offset` in the 257 bytes of the C array. -/
def findMasterKeyOffset (key : UInt8) : Option Nat :=
  (enctype1MasterKey ++ [0]).findIdx? fun entry => entry == key

/-- `obfuscate_scramble_data` keeps a byte that is not in the master key. -/
def obfuscateScrambleData (scrambleData : List UInt8) : List UInt8 :=
  scrambleData.map fun c =>
    match findMasterKeyOffset c with
    | some offset => offset.toUInt8
    | none => c

/-- `rand()` narrowed to a byte, for `count` calls from call `first` on. -/
def randBytes (rand : Nat → UInt32) (first count : Nat) : List UInt8 :=
  (List.range count).map fun i => (rand (first + i)).toUInt8

/--
`write_enctype1_encrypted_data`: the bytes of `output`, as many as it returns.
The four length bytes are written last, over zeros.
-/
def writeEnctype1EncryptedData (rand : Nat → UInt32) (scrambleData encryptedData : List UInt8)
    (encshare4Data : UInt32) : List UInt8 :=
  let tail := [42, 218] ++ randBytes rand 17 13 ++ scrambleData ++ randBytes rand 30 1 ++
    intBytes encshare4Data ++ randBytes rand 31 18 ++ encryptedData
  htonlBytes (tail.length + 4).toUInt32 ++ tail

/-- The block under `tmplen = (len >> 1) - 17` that the encoder and the decoder share. -/
def encshareLayer (seed : List UInt8) (tbuff : Tbuff) (data : List UInt8) (len : Nat) :
    Option (List UInt8) :=
  if 17 ≤ len >>> 1 then do
    let tbuff ← encshare4 seed 4 tbuff
    encshare1 tbuff data ((len >>> 1) - 17)
  else some data

/--
`create_enctype1_buffer`, with the values `rand()` returns to it and what the
uninitialised `enc1key` holds. The result is the output up to the returned
total; there is none where the keystream generator leaves `tbuff`.
-/
def createEnctype1Buffer (validateKey : CString) (input : List UInt8) (rand : Nat → UInt32)
    (enc1key : Enc1Key) : Option (List UInt8) := do
  let encshare4Data := rand 0
  let encryptLen := input.length
  let encryptData ← encshareLayer (intBytes encshare4Data) (Vector.replicate 326 0) input encryptLen
  let scrambleData := (randBytes rand 1 16).map masterKeyAt
  let (encryptData, _) ← func2 encryptData encryptLen (func3 scrambleData 16)
  let encryptData :=
    if 5 ≤ encryptLen >>> 2 then
      func6e encryptData ((encryptLen >>> 2) - 5) (func4 validateKey enc1key)
    else encryptData
  some (writeEnctype1EncryptedData rand (obfuscateScrambleData scrambleData) encryptData
    encshare4Data)

/-- What `enctype1_decoder` leaves: `*datalen`, the offset it returns, and the bytes from there. -/
structure Decoded where
  datalen : Int
  position : Nat
  contents : List UInt8

/-- The first four bytes as a big-endian `int`. -/
def headerLength (data : List UInt8) : Int :=
  let byte (i : Nat) : Nat := (data.getD i 0).toNat
  Int.bmod (byte 0 * 2 ^ 24 + byte 1 * 2 ^ 16 + byte 2 * 2 ^ 8 + byte 3 : Nat) (2 ^ 32)

/-- `enctype1_decoder` after the header: the layers undone on `len` bytes of `datap`. -/
def decodeContents (id : CString) (scrambleData seed datap : List UInt8) (len : Nat)
    (enc1key : Enc1Key) (tbuff : Tbuff) : Option (List UInt8) := do
  let datap := if 5 ≤ len >>> 2 then func6 datap ((len >>> 2) - 5) (func4 id enc1key) else datap
  let datap ← encshareLayer seed (tbuff.fill 256 326 0) datap len
  let (datap, _) ← func2 datap len (func3 scrambleData 16)
  some datap

/--
`enctype1_decoder`. The global `enc1key` is passed as it stands; the words of
`tbuff` below 256 are not initialised. A length that is negative after the
header is taken off makes `func2` run past the buffer.
-/
def enctype1Decoder (id : CString) (data : List UInt8) (datalen : Int) (enc1key : Enc1Key)
    (tbuff : Tbuff) : Option Decoded :=
  let len := headerLength data
  if len < 0 ∨ datalen < len then some ⟨0, 0, data⟩
  else
    let data4 := (data.getD 4 0 ^^^ 62) - 20
    let data5 := (data.getD 5 0 ^^^ 205) - 5
    let scrambleData := ((data.drop 19).take 16).map masterKeyAt
    let len := len - (data4.toNat + data5.toNat + 40)
    let position := data5.toNat + 40
    if len < 0 then none
    else
      (decodeContents id scrambleData ((data.drop 36).take 4) (data.drop position) len.toNat
        enc1key tbuff).map fun datap => ⟨len, position, datap⟩

end GSMaster.Enctype
