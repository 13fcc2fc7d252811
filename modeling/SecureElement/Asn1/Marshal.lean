import Mathlib.Data.Nat.Digits
import SecureElement.Pk11

/-!
# DER encoding, as `encoding/asn1` marshals it

The parts of Go's `asn1.Marshal` that `EndorseCert` uses: INTEGERs holding a `*big.Int`
(`makeBigInt`), object identifiers, bit strings, a `RawValue` given by its full bytes, and
SEQUENCEs of them, each field preceded by the identifier and length octets of
`appendTagAndLength`. Big-endian byte strings are read by `setBytes` (`big.Int.SetBytes`) and
written by `bigBytes` (`big.Int.Bytes`), which are inverse to each other (`setBytes_bigBytes`).
-/

namespace SecureElement

namespace Asn1

/-! ## Big-endian integers -/

/-- `n.Bytes()` for a `big.Int`: the big-endian bytes of `n`, without leading zeros (none for
zero). -/
def bigBytes (n : Nat) : Bytes := ((Nat.digits 256 n).map UInt8.ofNat).reverse

/-- `new(big.Int).SetBytes(b)`: the unsigned big-endian value of `b`. -/
def setBytes (b : Bytes) : Nat := b.foldl (fun acc x => 256 * acc + x.toNat) 0

theorem foldl_setBytes (b : Bytes) (acc : Nat) :
    b.foldl (fun acc x => 256 * acc + x.toNat) acc = acc * 256 ^ b.length + setBytes b := by
  induction b generalizing acc with
  | nil => simp [setBytes]
  | cons x b ih =>
    simp only [setBytes, List.foldl_cons, List.length_cons, ih (256 * acc + x.toNat),
      ih (256 * 0 + x.toNat)]
    rw [Nat.pow_succ]
    ring

@[simp] theorem setBytes_nil : setBytes [] = 0 := rfl

theorem setBytes_append (x y : Bytes) :
    setBytes (x ++ y) = setBytes x * 256 ^ y.length + setBytes y := by
  rw [setBytes, List.foldl_append, foldl_setBytes]
  rfl

theorem setBytes_cons (x : UInt8) (b : Bytes) :
    setBytes (x :: b) = x.toNat * 256 ^ b.length + setBytes b := by
  rw [← List.singleton_append, setBytes_append]
  simp [setBytes]

theorem setBytes_reverse_map (l : List Nat) (hl : ∀ d ∈ l, d < 256) :
    setBytes (l.map UInt8.ofNat).reverse = Nat.ofDigits 256 l := by
  induction l with
  | nil => rfl
  | cons d l ih =>
    have hd : (UInt8.ofNat d).toNat = d := UInt8.toNat_ofNat_of_lt (hl d (by simp))
    rw [List.map_cons, List.reverse_cons, setBytes_append, ih fun e he => hl e (by simp [he]),
      Nat.ofDigits_cons]
    simp [setBytes, hd]
    ring

theorem digits_lt_256 {n d : Nat} (hd : d ∈ Nat.digits 256 n) : d < 256 :=
  Nat.digits_lt_base (by norm_num) hd

@[simp] theorem setBytes_bigBytes (n : Nat) : setBytes (bigBytes n) = n := by
  rw [bigBytes, setBytes_reverse_map _ fun d => digits_lt_256, Nat.ofDigits_digits]

@[simp] theorem bigBytes_eq_nil_iff {n : Nat} : bigBytes n = [] ↔ n = 0 := by
  simp [bigBytes, Nat.digits_eq_nil_iff_eq_zero]

/-- The leading byte of `bigBytes n` is not zero. -/
theorem bigBytes_head_ne_zero {n : Nat} {b : UInt8} {rest : Bytes} (h : bigBytes n = b :: rest) :
    b.toNat ≠ 0 := by
  have hn : n ≠ 0 := fun h0 => by simp [h0, bigBytes] at h
  have hne : Nat.digits 256 n ≠ [] := Nat.digits_ne_nil_iff_ne_zero.2 hn
  have hlast := Nat.getLast_digit_ne_zero 256 hn
  have hb : b = UInt8.ofNat ((Nat.digits 256 n).getLast hne) := by
    rw [bigBytes, ← List.map_reverse] at h
    obtain ⟨d, ds, hds⟩ := List.exists_cons_of_ne_nil (List.reverse_ne_nil_iff.2 hne)
    rw [hds, List.map_cons, List.cons.injEq] at h
    rw [← h.1, List.getLast_eq_head_reverse]
    simp [hds]
  rw [hb, UInt8.toNat_ofNat_of_lt (digits_lt_256 (List.getLast_mem hne))]
  exact hlast

/-- Below `256 ^ k` a number takes at most `k` bytes. -/
theorem length_bigBytes_le {n k : Nat} (h : n < 256 ^ k) : (bigBytes n).length ≤ k := by
  rcases Nat.eq_zero_or_pos n with rfl | hn
  · simp [bigBytes]
  · have hle := Nat.base_pow_length_digits_le 256 n (by norm_num) hn.ne'
    have hlt : 256 ^ (bigBytes n).length < 256 ^ (k + 1) := by
      simp only [bigBytes, List.length_reverse, List.length_map] at hle ⊢
      rw [Nat.pow_succ]
      omega
    exact Nat.lt_succ_iff.1 ((Nat.pow_lt_pow_iff_right (by norm_num)).1 hlt)

/-! ## Fields -/

/-- `makeBigInt`: the contents octets of the INTEGER holding `n`, in minimal two's complement. -/
def makeBigInt (n : Int) : Bytes :=
  if n < 0 then
    let bytes := (bigBytes (-n - 1).toNat).map (· ^^^ 0xff)
    match bytes with
    | b :: _ => if b &&& 0x80 = 0 then 0xff :: bytes else bytes
    | [] => [0xff]
  else if n = 0 then [0]
  else
    let bytes := bigBytes n.toNat
    match bytes with
    | b :: _ => if b &&& 0x80 ≠ 0 then 0 :: bytes else bytes
    | [] => bytes

/-- The length octets of `appendTagAndLength`: one byte below 128, otherwise `0x80 | k` followed
by the `k` big-endian bytes of the length (`lengthLength`, `appendLength`). -/
def lengthOctets (length : Nat) : Bytes :=
  if length < 128 then [UInt8.ofNat length]
  else UInt8.ofNat (0x80 ||| (bigBytes length).length) :: bigBytes length

/-- The identifier octet of a universal tag below 31, with `0x20` set for a constructed
encoding. -/
def identifierOctet (tag : Nat) (isCompound : Bool) : UInt8 :=
  UInt8.ofNat (if isCompound then tag ||| 0x20 else tag)

/-- A field under a universal tag: `appendTagAndLength`, then the contents octets. -/
def tlv (tag : Nat) (isCompound : Bool) (contents : Bytes) : Bytes :=
  identifierOctet tag isCompound :: lengthOctets contents.length ++ contents

/-- `TagInteger`. -/
def tagInteger : Nat := 2
/-- `TagBitString`. -/
def tagBitString : Nat := 3
/-- `TagOID`. -/
def tagOID : Nat := 6
/-- `TagSequence`. -/
def tagSequence : Nat := 16

/-- `appendBase128Int`: base-128 digits, most significant first, all but the last with the
continuation bit `0x80`. -/
def base128 (n : Nat) : Bytes :=
  match Nat.digits 128 n with
  | [] => [0]
  | d :: higher => higher.reverse.map (fun h => UInt8.ofNat (h ||| 0x80)) ++ [UInt8.ofNat d]

/-- A Go `int`, 64 bits wide: `x` wrapped to two's complement. -/
def goInt (x : Int) : Int := (x + 2 ^ 63) % 2 ^ 64 - 2 ^ 63

/-- `appendBase128Int` of an `int64`: nothing for a negative value, whose `base128IntLength` is
`0`, and the base-128 digits otherwise. -/
def base128Int (n : Int) : Bytes := if n < 0 then [] else base128 n.toNat

/-- `asn1.ObjectIdentifier`, Go's `[]int`. -/
abbrev ObjectIdentifier := List Int

/-- `appendObjectIdentifier`: the first two components as `oid[0]*40 + oid[1]`, computed as a Go
`int`, then the others, each with `appendBase128Int`; `none` for the identifiers `Marshal`
rejects. `Marshal` does not reject negative components: they write no bytes. -/
def objectIdentifierContents : ObjectIdentifier → Option Bytes
  | a :: b :: rest =>
    if 2 < a ∨ (a < 2 ∧ 40 ≤ b) then none
    else some (base128Int (goInt (a * 40 + b)) ++ rest.flatMap base128Int)
  | _ => none

/-- `asn1.BitString`. -/
structure BitString where
  bytes : Bytes
  bitLength : Nat
  deriving DecidableEq, Repr

/-- The contents octets of a bit string: the number of unused bits of the last byte, then the
bytes. -/
def bitStringContents (b : BitString) : Bytes := UInt8.ofNat ((8 - b.bitLength % 8) % 8) :: b.bytes

/-- A field of type `asn1.RawValue` with only `FullBytes` set: those bytes as they are. With an
empty `FullBytes` the field is encoded from its zero class, tag and contents instead. -/
def rawValueFullBytes (fullBytes : Bytes) : Bytes :=
  if fullBytes = [] then tlv 0 false [] else fullBytes

/-! ## The values `EndorseCert` marshals -/

/-- `asn1.Marshal(sig)` for `sig` of type `struct{ R, S *big.Int }`: the SEQUENCE of the two
INTEGERs. `Marshal` cannot fail on two non-nil integers. -/
def marshalSignature (r s : Int) : Bytes :=
  tlv tagSequence true (tlv tagInteger false (makeBigInt r) ++ tlv tagInteger false (makeBigInt s))

/-- The signature `EndorseCert` builds from the raw `r` and `s` bytes of `SignECDSA`: both read
with `SetBytes`, then marshalled. -/
def encodeSignature (rb sb : Bytes) : Bytes := marshalSignature (setBytes rb) (setBytes sb)

/-- `pkix.AlgorithmIdentifier{Algorithm: oid}`: the SEQUENCE of the object identifier; the
optional `Parameters`, left at their zero value, are not encoded. -/
def algorithmIdentifier (oid : ObjectIdentifier) : Option Bytes :=
  (objectIdentifierContents oid).map fun c => tlv tagSequence true (tlv tagOID false c)

/-- `asn1.Marshal(certRaw)` in `EndorseCert`: the SEQUENCE of the raw TBS certificate, the
signature algorithm and the signature as a bit string of `8 * len(s)` bits; an error for an
invalid object identifier. -/
def marshalCertificate (tbs : Bytes) (sigType : ObjectIdentifier) (s : Bytes) :
    Except Error Bytes :=
  match algorithmIdentifier sigType with
  | none => .error (.errorf "asn1: structure error: invalid object identifier")
  | some alg =>
    .ok (tlv tagSequence true (rawValueFullBytes tbs ++ alg ++
      tlv tagBitString false (bitStringContents ⟨s, s.length * 8⟩)))

end Asn1

end SecureElement
