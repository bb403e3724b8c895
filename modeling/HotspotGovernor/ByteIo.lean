import HotspotGovernor.Foundation
import HotspotGovernor.Lib.LittleEndian

namespace HotspotGovernor.ByteIo

open Foundation Lib

abbrev Bytes := List UInt8

def kFnvOffsetBasis : UInt64 := 0xcbf29ce484222325

def kFnvPrime : UInt64 := 0x100000001b3

def fnv1a64 (bytes : Bytes) : UInt64 :=
  bytes.foldl (fun hash b ↦ (hash ^^^ b.toUInt64) * kFnvPrime) kFnvOffsetBasis

def kReflectedPoly : UInt64 := 0xC96C5795D7870F42

def crcEntry : ℕ → UInt64 → UInt64
  | 0, crc => crc
  | rounds + 1, crc =>
    crcEntry rounds (if crc &&& 1 ≠ 0 then (crc >>> 1) ^^^ kReflectedPoly else crc >>> 1)

def crcStep (crc : UInt64) (b : UInt8) : UInt64 :=
  crcEntry 8 ((crc ^^^ b.toUInt64) &&& 0xFF) ^^^ (crc >>> 8)

def crc64 (bytes : Bytes) : UInt64 := bytes.foldl crcStep kUInt64Max ^^^ kUInt64Max

structure Digest where
  fnv : UInt64 := kFnvOffsetBasis
  crc : UInt64 := 0
  deriving DecidableEq

def digestOf (bytes : Bytes) : Digest := ⟨fnv1a64 bytes, crc64 bytes⟩

def hexDigit (v : UInt64) : Char := "0123456789abcdef".toList.getD (v &&& 0xF).toNat '0'

def hexDigits : ℕ → UInt64 → List Char → List Char
  | 0, _, out => out
  | n + 1, v, out => hexDigits n (v >>> 4) (hexDigit v :: out)

def hex64 (v : UInt64) : String := String.ofList (hexDigits 16 v [])

def StrongId.hex {tag : IdTag} (id : StrongId tag) : String := hex64 id.value

def textBytes (text : String) : Bytes := text.toUTF8.data.toList

/-- Stable 64-bit hash of a text, never zero so that it can be used as an identity. -/
def identityFromBytes (text : String) : UInt64 :=
  let value := fnv1a64 (textBytes text)
  if value = 0 then 1 else value

def putU8 (v : UInt8) : Bytes := [v]
def putU16 (v : UInt16) : Bytes := LittleEndian.split 2 v.toNat
def putU32 (v : UInt32) : Bytes := LittleEndian.split 4 v.toNat
def putU64 (v : UInt64) : Bytes := LittleEndian.split 8 v.toNat
def putI64 (v : Int64) : Bytes := putU64 v.toUInt64
def putBool (v : Bool) : Bytes := putU8 (if v then 1 else 0)
def putCount (n : ℕ) : Bytes := putU32 (UInt32.ofNat n)
def putText (text : Bytes) : Bytes := putCount text.length ++ text

/-- A bounds-checked read: the value and the unread rest, or nothing when bytes are missing. -/
abbrev Reader (α : Type) := Bytes → Option (α × Bytes)

def take (count : ℕ) : Reader Bytes :=
  fun bytes ↦ if count > bytes.length then none else some (bytes.take count, bytes.drop count)

def readWord {α : Type} (width : ℕ) (ofNat : ℕ → α) : Reader α :=
  fun bytes ↦ (take width bytes).map (fun r ↦ (ofNat (LittleEndian.combine r.1), r.2))

def readU8 : Reader UInt8 := readWord 1 UInt8.ofNat
def readU16 : Reader UInt16 := readWord 2 UInt16.ofNat
def readU32 : Reader UInt32 := readWord 4 UInt32.ofNat
def readU64 : Reader UInt64 := readWord 8 UInt64.ofNat
def readI64 : Reader Int64 := readWord 8 (fun v ↦ (UInt64.ofNat v).toInt64)

def readText (maxBytes : ℕ) : Reader Bytes := fun bytes ↦
  match readU32 bytes with
  | none => none
  | some (length, rest) => if length.toNat > maxBytes then none else take length.toNat rest

theorem take_append (bytes rest : Bytes) : take bytes.length (bytes ++ rest) = some (bytes, rest) := by
  simp [take]

theorem readWord_append {α : Type} {width : ℕ} (ofNat : ℕ → α) (v : ℕ) (rest : Bytes) :
    readWord width ofNat (LittleEndian.split width v ++ rest) =
      some (ofNat (v % 256 ^ width), rest) := by
  have h := take_append (LittleEndian.split width v) rest
  rw [LittleEndian.length_split] at h
  simp [readWord, h, LittleEndian.combine_split]

@[simp] theorem readU8_append (v : UInt8) (rest : Bytes) :
    readU8 (putU8 v ++ rest) = some (v, rest) := by
  simp [readU8, putU8, readWord, take, LittleEndian.combine]

@[simp] theorem readU16_append (v : UInt16) (rest : Bytes) :
    readU16 (putU16 v ++ rest) = some (v, rest) := by
  rw [readU16, putU16, readWord_append, Nat.mod_eq_of_lt (by simpa using v.toNat_lt)]
  simp

@[simp] theorem readU32_append (v : UInt32) (rest : Bytes) :
    readU32 (putU32 v ++ rest) = some (v, rest) := by
  rw [readU32, putU32, readWord_append, Nat.mod_eq_of_lt (by simpa using v.toNat_lt)]
  simp

@[simp] theorem readU64_append (v : UInt64) (rest : Bytes) :
    readU64 (putU64 v ++ rest) = some (v, rest) := by
  rw [readU64, putU64, readWord_append, Nat.mod_eq_of_lt (by simpa using v.toNat_lt)]
  simp

@[simp] theorem readI64_append (v : Int64) (rest : Bytes) :
    readI64 (putI64 v ++ rest) = some (v, rest) := by
  rw [readI64, putI64, putU64, readWord_append,
    Nat.mod_eq_of_lt (by simpa using v.toUInt64.toNat_lt)]
  simp

theorem readWord_eq_some {α : Type} {width : ℕ} {ofNat : ℕ → α} {bytes rest : Bytes} {v : α}
    (h : readWord width ofNat bytes = some (v, rest)) :
    ∃ word : Bytes, word.length = width ∧ bytes = word ++ rest ∧ v = ofNat (LittleEndian.combine word) := by
  unfold readWord take at h
  split at h
  · cases h
  · next hlen =>
    obtain ⟨rfl, rfl⟩ := Prod.mk.inj (Option.some.inj h)
    refine ⟨bytes.take width, ?_, (List.take_append_drop width bytes).symm, rfl⟩
    rw [List.length_take]
    omega

theorem readU32_eq_some {bytes rest : Bytes} {v : UInt32} (h : readU32 bytes = some (v, rest)) :
    bytes = putU32 v ++ rest := by
  obtain ⟨word, hlen, rfl, rfl⟩ := readWord_eq_some h
  have hlt : LittleEndian.combine word < 2 ^ 32 := by
    have hbound := LittleEndian.combine_lt word
    rwa [hlen] at hbound
  unfold putU32
  rw [UInt32.toNat_ofNat', Nat.mod_eq_of_lt hlt, ← hlen, LittleEndian.split_combine]

theorem toNat_ofNat_combine {word : Bytes} (hlen : word.length = 8) :
    (UInt64.ofNat (LittleEndian.combine word)).toNat = LittleEndian.combine word := by
  have hlt : LittleEndian.combine word < 2 ^ 64 := by
    have hbound := LittleEndian.combine_lt word
    rwa [hlen] at hbound
  rw [UInt64.toNat_ofNat', Nat.mod_eq_of_lt hlt]

theorem readU64_eq_some {bytes rest : Bytes} {v : UInt64} (h : readU64 bytes = some (v, rest)) :
    bytes = putU64 v ++ rest := by
  obtain ⟨word, hlen, rfl, rfl⟩ := readWord_eq_some h
  unfold putU64
  rw [toNat_ofNat_combine hlen, ← hlen, LittleEndian.split_combine]

theorem readI64_eq_some {bytes rest : Bytes} {v : Int64} (h : readI64 bytes = some (v, rest)) :
    bytes = putI64 v ++ rest := by
  obtain ⟨word, hlen, rfl, rfl⟩ := readWord_eq_some h
  unfold putI64 putU64
  rw [UInt64.toUInt64_toInt64, toNat_ofNat_combine hlen, ← hlen, LittleEndian.split_combine]

@[simp] theorem length_putU16 (v : UInt16) : (putU16 v).length = 2 := LittleEndian.length_split _ _
@[simp] theorem length_putU32 (v : UInt32) : (putU32 v).length = 4 := LittleEndian.length_split _ _
@[simp] theorem length_putU64 (v : UInt64) : (putU64 v).length = 8 := LittleEndian.length_split _ _
@[simp] theorem length_putI64 (v : Int64) : (putI64 v).length = 8 := LittleEndian.length_split _ _

end HotspotGovernor.ByteIo
