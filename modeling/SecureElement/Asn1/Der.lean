import SecureElement.Asn1.Marshal

/-!
# Reading DER back

A decoder for the Distinguished Encoding Rules, written apart from the encoder so that the two
can be compared: `parseElement` reads one element (identifier octets, length octets, contents) off
the front of a byte string and refuses what DER forbids (the indefinite form, a length or tag
number not in its shortest form); `splitElements` cuts the contents of a constructed element
into its elements; `parseInteger` and `parseObjectIdentifier` read INTEGER and OBJECT
IDENTIFIER contents.

Every reader gives the same answer with bytes appended after what it reads
(`parseElement_append`), and each reads back what `encoding/asn1` writes (`parseElement_tlv`,
`parseInteger_makeBigInt`, `parseObjectIdentifier_objectIdentifierContents`). Hence fields
written one after the other split back into exactly those fields (`splitElements_flatten`), the
signature `EndorseCert` marshals reads back as the two integers it was built from
(`encodeSignature_roundTrip`). An object identifier `Marshal` accepts reads back as itself when
none of its components is negative and its first subidentifier fits in a Go `int`: a negative
component writes no bytes at all.
-/

namespace SecureElement

namespace Asn1

/-- The identifier octets of an element: class, constructed flag and tag number. -/
structure Identifier where
  cls : Nat
  constructed : Bool
  tag : Nat
  deriving DecidableEq, Repr

/-- A decoded element: its identifier and its contents octets. -/
structure Element where
  id : Identifier
  contents : Bytes
  deriving DecidableEq, Repr

/-- Base-128 digits on top of `acc`, each with the continuation bit `0x80` but the last. -/
def parseBase128 : Bytes → Nat → Option (Nat × Bytes)
  | [], _ => none
  | b :: rest, acc =>
    if 128 ≤ b.toNat then parseBase128 rest (acc * 128 + (b.toNat - 128))
    else some (acc * 128 + b.toNat, rest)

/-- A base-128 number in its shortest form: no leading `0x80` digit. -/
def parseBase128Minimal (input : Bytes) : Option (Nat × Bytes) :=
  if input.head? = some 0x80 then none else parseBase128 input 0

/-- Identifier octets: class in bits 8 and 7, the constructed flag in bit 6, the
tag number in bits 5 to 1, or after `0x1f` in base 128 when it is 31 or more. -/
def parseIdentifier : Bytes → Option (Identifier × Bytes)
  | [] => none
  | b :: rest =>
    let cls := b.toNat / 64
    let constructed := b.toNat / 32 % 2 == 1
    if b.toNat % 32 < 31 then some (⟨cls, constructed, b.toNat % 32⟩, rest)
    else
      match parseBase128Minimal rest with
      | some (n, rest') => if 31 ≤ n then some (⟨cls, constructed, n⟩, rest') else none
      | none => none

/-- Length octets in DER's definite form: the short form below 128; otherwise the
number `k` of length octets, from 1 to 126, then the length in `k` big-endian octets, with no
leading zero and not below 128. -/
def parseLength : Bytes → Option (Nat × Bytes)
  | [] => none
  | b :: rest =>
    if b.toNat < 128 then some (b.toNat, rest)
    else
      let k := b.toNat - 128
      if k = 0 ∨ k = 127 ∨ rest.length < k then none
      else
        match rest.take k with
        | [] => none
        | d :: ds =>
          if d.toNat = 0 ∨ setBytes (d :: ds) < 128 then none
          else some (setBytes (d :: ds), rest.drop k)

/-- One element off the front of `input`, and what follows it. -/
def parseElement (input : Bytes) : Option (Element × Bytes) :=
  match parseIdentifier input with
  | none => none
  | some (id, rest) =>
    match parseLength rest with
    | none => none
    | some (len, rest) => if rest.length < len then none else some (⟨id, rest.take len⟩, rest.drop len)

/-- The contents of `raw` when `raw` is exactly one element with identifier `id`. -/
def parseElementOf (id : Identifier) (raw : Bytes) : Option Bytes :=
  match parseElement raw with
  | some (e, []) => if e.id = id then some e.contents else none
  | _ => none

/-- The elements of `input`, in order, each as the bytes it occupies. -/
def splitElements (input : Bytes) : Option (List Bytes) := go input.length input
where
  /-- `splitElements`, reading at most `fuel` elements. -/
  go : Nat → Bytes → Option (List Bytes)
  | _, [] => some []
  | 0, _ :: _ => none
  | fuel + 1, input@(_ :: _) =>
    match parseElement input with
    | none => none
    | some (_, rest) => (go fuel rest).map (input.take (input.length - rest.length) :: ·)

/-- INTEGER contents whose first nine bits are all zero or all one, which DER forbids. -/
def redundantSign : Bytes → Bool
  | b :: c :: _ => (b.toNat == 0 && c.toNat < 128) || (b.toNat == 255 && 128 ≤ c.toNat)
  | _ => false

/-- INTEGER contents: at least one octet, two's complement, big-endian. -/
def parseInteger : Bytes → Option Int
  | [] => none
  | b :: rest =>
    if redundantSign (b :: rest) then none
    else if b.toNat < 128 then some (setBytes (b :: rest))
    else some (setBytes (b :: rest) - 256 ^ (rest.length + 1))

/-- The subidentifiers of OBJECT IDENTIFIER contents, reading at most `fuel` of them. -/
def parseSubidentifiers : Nat → Bytes → Option (List Nat)
  | _, [] => some []
  | 0, _ :: _ => none
  | fuel + 1, input@(_ :: _) =>
    match parseBase128Minimal input with
    | none => none
    | some (v, rest) => (parseSubidentifiers fuel rest).map (v :: ·)

/-- OBJECT IDENTIFIER contents: the first subidentifier holds the first two
components. -/
def parseObjectIdentifier (c : Bytes) : Option ObjectIdentifier :=
  match parseSubidentifiers c.length c with
  | some (v :: vs) =>
    some (((if v < 40 then [0, v] else if v < 80 then [1, v - 40] else [2, v - 80]) ++ vs).map
      fun n : Nat => (n : Int))
  | _ => none

/-- SEQUENCE. -/
def sequenceId : Identifier := ⟨0, true, 16⟩
/-- INTEGER. -/
def integerId : Identifier := ⟨0, false, 2⟩
/-- BIT STRING. -/
def bitStringId : Identifier := ⟨0, false, 3⟩
/-- OBJECT IDENTIFIER. -/
def objectIdentifierId : Identifier := ⟨0, false, 6⟩

/-- `SEQUENCE { INTEGER r, INTEGER s }` read back, nothing trailing. -/
def parseSignature (der : Bytes) : Option (Int × Int) :=
  match (parseElementOf sequenceId der).bind splitElements with
  | some [x, y] =>
    match (parseElementOf integerId x).bind parseInteger,
        (parseElementOf integerId y).bind parseInteger with
    | some r, some s => some (r, s)
    | _, _ => none
  | _ => none

/-- A certificate read back as `EndorseCert` lays it out: a SEQUENCE of three elements, the
first taken as its raw bytes, the second an AlgorithmIdentifier SEQUENCE holding only an OBJECT
IDENTIFIER, the third a BIT STRING with no unused bits; the first element's bytes, the
identifier, and the bit string's bytes. -/
def parseCertificate (der : Bytes) : Option (Bytes × ObjectIdentifier × Bytes) :=
  match (parseElementOf sequenceId der).bind splitElements with
  | some [tbs, alg, sig] =>
    match (parseElementOf sequenceId alg).bind splitElements, parseElementOf bitStringId sig with
    | some [oid], some (unused :: sigBytes) =>
      if unused = 0 then
        ((parseElementOf objectIdentifierId oid).bind parseObjectIdentifier).map (tbs, ·, sigBytes)
      else none
    | _, _ => none
  | _ => none

/-! ## Reading over an appended suffix -/

variable {x y z : Bytes}

theorem parseBase128_append {acc n : Nat} (h : parseBase128 x acc = some (n, y)) :
    parseBase128 (x ++ z) acc = some (n, y ++ z) := by
  induction x generalizing acc with
  | nil => simp [parseBase128] at h
  | cons b x ih =>
    simp only [parseBase128, List.cons_append] at h ⊢
    split_ifs at h ⊢
    · exact ih h
    · cases h; rfl

theorem parseBase128Minimal_append {n : Nat} (h : parseBase128Minimal x = some (n, y)) :
    parseBase128Minimal (x ++ z) = some (n, y ++ z) := by
  cases x with
  | nil => simp [parseBase128Minimal, parseBase128] at h
  | cons b x =>
    simp only [parseBase128Minimal, List.head?_cons, List.cons_append] at h ⊢
    split_ifs at h ⊢
    exact parseBase128_append (z := z) h

theorem parseIdentifier_append {id : Identifier} (h : parseIdentifier x = some (id, y)) :
    parseIdentifier (x ++ z) = some (id, y ++ z) := by
  cases x with
  | nil => simp [parseIdentifier] at h
  | cons b x =>
    simp only [parseIdentifier, List.cons_append] at h ⊢
    split_ifs at h ⊢ with hlow
    · cases h; rfl
    · revert h
      cases hb : parseBase128Minimal x with
      | none => simp
      | some p =>
        rw [parseBase128Minimal_append hb]
        simp only
        split_ifs <;> simp_all

theorem parseLength_append {len : Nat} (h : parseLength x = some (len, y)) :
    parseLength (x ++ z) = some (len, y ++ z) := by
  cases x with
  | nil => simp [parseLength] at h
  | cons b x =>
    simp only [parseLength, List.cons_append] at h ⊢
    by_cases hshort : b.toNat < 128
    · rw [if_pos hshort] at h ⊢
      cases h
      rfl
    rw [if_neg hshort] at h ⊢
    by_cases hk : b.toNat - 128 = 0 ∨ b.toNat - 128 = 127 ∨ x.length < b.toNat - 128
    · rw [if_pos hk] at h
      cases h
    rw [if_neg hk] at h
    rw [if_neg (by simp only [List.length_append]; omega)]
    have hx : b.toNat - 128 ≤ x.length := by omega
    rw [List.take_append_of_le_length hx, List.drop_append_of_le_length hx]
    revert h
    cases x.take (b.toNat - 128) with
    | nil => simp
    | cons d ds =>
      dsimp only
      split_ifs <;> simp_all

theorem parseElement_append {e : Element} (h : parseElement x = some (e, y)) :
    parseElement (x ++ z) = some (e, y ++ z) := by
  unfold parseElement at h ⊢
  cases hid : parseIdentifier x with
  | none => simp [hid] at h
  | some p =>
    obtain ⟨id, rest⟩ := p
    rw [hid] at h
    rw [parseIdentifier_append hid]
    dsimp only at h ⊢
    cases hlen : parseLength rest with
    | none => simp [hlen] at h
    | some q =>
      obtain ⟨len, rest'⟩ := q
      rw [hlen] at h
      rw [parseLength_append hlen]
      dsimp only at h ⊢
      by_cases hl : rest'.length < len
      · rw [if_pos hl] at h
        cases h
      rw [if_neg hl] at h
      rw [if_neg (by simp only [List.length_append]; omega)]
      cases h
      rw [List.take_append_of_le_length (by omega), List.drop_append_of_le_length (by omega)]

theorem ne_nil_of_parseElement {e : Element} (h : parseElement x = some (e, y)) : x ≠ [] := by
  rintro rfl
  simp [parseElement, parseIdentifier] at h

/-! ## Reading back what `encoding/asn1` writes -/

theorem toNat_ofNat_byte {n : Nat} (h : n < 256) : (UInt8.ofNat n).toNat = n :=
  UInt8.toNat_ofNat_of_lt h

set_option maxRecDepth 2000 in
theorem and_128_eq_zero_iff : ∀ x < 256, (x &&& 128 = 0 ↔ x < 128) := by decide

set_option maxRecDepth 2000 in
theorem or_128_eq_add : ∀ k < 128, 128 ||| k = 128 + k := by decide

theorem identifierOctet_bits : ∀ t < 31, ∀ c : Bool,
    (identifierOctet t c).toNat % 32 = t ∧ (identifierOctet t c).toNat / 64 = 0 ∧
      ((identifierOctet t c).toNat / 32 % 2 == 1) = c := by
  decide

theorem parseIdentifier_identifierOctet {t : Nat} (ht : t < 31) (c : Bool) (r : Bytes) :
    parseIdentifier (identifierOctet t c :: r) = some (⟨0, c, t⟩, r) := by
  obtain ⟨h₁, h₂, h₃⟩ := identifierOctet_bits t ht c
  simp [parseIdentifier, h₁, h₂, h₃, ht]

theorem setBytes_lt (b : Bytes) : setBytes b < 256 ^ b.length := by
  induction b with
  | nil => simp
  | cons x b ih =>
    rw [setBytes_cons, List.length_cons, Nat.pow_succ]
    have hx : x.toNat < 256 := x.val.isLt
    have : x.toNat * 256 ^ b.length ≤ 255 * 256 ^ b.length := Nat.mul_le_mul_right _ (by omega)
    omega

theorem parseLength_lengthOctets {n : Nat} (hn : n < 256 ^ 126) (r : Bytes) :
    parseLength (lengthOctets n ++ r) = some (n, r) := by
  unfold lengthOctets
  by_cases hs : n < 128
  · simp [hs, parseLength, toNat_ofNat_byte (by omega : n < 256)]
  obtain ⟨d, ds, hd⟩ : ∃ d ds, bigBytes n = d :: ds :=
    List.exists_cons_of_ne_nil (by simp only [ne_eq, bigBytes_eq_nil_iff]; omega)
  have hk : (bigBytes n).length ≤ 126 := length_bigBytes_le hn
  rw [hd] at hk ⊢
  have hbyte : (UInt8.ofNat (0x80 ||| (d :: ds).length)).toNat = 128 + (d :: ds).length := by
    rw [or_128_eq_add _ (by omega), toNat_ofNat_byte (by omega)]
  have hval : setBytes (d :: ds) = n := by rw [← hd, setBytes_bigBytes]
  have hk' : ¬((d :: ds).length = 0 ∨ (d :: ds).length = 127 ∨
      (d :: ds ++ r).length < (d :: ds).length) := by
    simp only [List.length_append, List.length_cons] at hk ⊢
    omega
  rw [if_neg hs, List.cons_append, parseLength, hbyte, if_neg (by omega)]
  dsimp only
  rw [Nat.add_sub_cancel_left, if_neg hk', List.take_left' rfl, List.drop_left' rfl]
  dsimp only
  rw [hval, if_neg (not_or.2 ⟨bigBytes_head_ne_zero hd, hs⟩)]

theorem parseElement_tlv {tag : Nat} (ht : tag < 31) (c : Bool) {contents : Bytes}
    (hl : contents.length < 256 ^ 126) (r : Bytes) :
    parseElement (tlv tag c contents ++ r) = some (⟨⟨0, c, tag⟩, contents⟩, r) := by
  simp only [tlv, List.cons_append, List.append_assoc]
  rw [parseElement, parseIdentifier_identifierOctet ht]
  dsimp only
  rw [parseLength_lengthOctets hl]
  dsimp only
  rw [if_neg (show ¬(contents ++ r).length < contents.length by simp), List.take_left' rfl,
    List.drop_left' rfl]

theorem parseElement_tlv_self {tag : Nat} (ht : tag < 31) (c : Bool) {contents : Bytes}
    (hl : contents.length < 256 ^ 126) :
    parseElement (tlv tag c contents) = some (⟨⟨0, c, tag⟩, contents⟩, []) := by
  simpa only [List.append_nil] using parseElement_tlv ht c hl []

theorem parseElementOf_tlv {tag : Nat} (ht : tag < 31) (c : Bool) {contents : Bytes}
    (hl : contents.length < 256 ^ 126) :
    parseElementOf ⟨0, c, tag⟩ (tlv tag c contents) = some contents := by
  simp [parseElementOf, parseElement_tlv_self ht c hl]

theorem splitElements_go_append {fuel : Nat} {e : Element} (h : parseElement x = some (e, []))
    (r : Bytes) :
    splitElements.go (fuel + 1) (x ++ r) = (splitElements.go fuel r).map (x :: ·) := by
  obtain ⟨b, x', rfl⟩ := List.exists_cons_of_ne_nil (ne_nil_of_parseElement h)
  have h' : parseElement (b :: (x' ++ r)) = some (e, r) := parseElement_append h
  rw [List.cons_append, splitElements.go, h']
  simp only [List.length_append, List.length_cons]
  rw [show x'.length + r.length + 1 - r.length = x'.length + 1 by omega, List.take_succ_cons,
    List.take_left' rfl]

theorem splitElements_go_flatten (xs : List Bytes)
    (h : ∀ x ∈ xs, ∃ e, parseElement x = some (e, [])) :
    ∀ fuel, xs.length ≤ fuel → splitElements.go fuel xs.flatten = some xs := by
  induction xs with
  | nil => intro fuel _; cases fuel <;> rfl
  | cons x xs ih =>
    intro fuel hf
    obtain ⟨f, rfl⟩ : ∃ f, fuel = f + 1 := ⟨fuel - 1, by simp at hf; omega⟩
    obtain ⟨e, he⟩ := h x (by simp)
    rw [List.flatten_cons, splitElements_go_append he,
      ih (fun y hy => h y (by simp [hy])) f (by simpa using hf)]
    rfl

/-- Elements written one after the other split back into exactly those elements. -/
theorem splitElements_flatten (xs : List Bytes)
    (h : ∀ x ∈ xs, ∃ e, parseElement x = some (e, [])) : splitElements xs.flatten = some xs := by
  apply splitElements_go_flatten xs h
  induction xs with
  | nil => simp
  | cons x xs ih =>
    obtain ⟨e, he⟩ := h x (by simp)
    have hx := List.length_pos.2 (ne_nil_of_parseElement he)
    have := ih fun y hy => h y (by simp [hy])
    simp only [List.length_cons, List.flatten_cons, List.length_append]
    omega

theorem and_0x80_eq_zero_iff (b : UInt8) : b &&& 0x80 = 0 ↔ b.toNat < 128 := by
  rw [← and_128_eq_zero_iff b.toNat b.val.isLt]
  constructor
  · intro h
    simpa using congrArg UInt8.toNat h
  · intro h
    exact UInt8.toNat.inj (by simpa using h)

/-- A non-negative INTEGER reads back as the number `makeBigInt` encoded. -/
theorem parseInteger_makeBigInt (n : Nat) : parseInteger (makeBigInt n) = some n := by
  rcases Nat.eq_zero_or_pos n with rfl | hn
  · rfl
  obtain ⟨b, rest, hb⟩ := List.exists_cons_of_ne_nil (bigBytes_eq_nil_iff.not.2 hn.ne')
  have hb0 := bigBytes_head_ne_zero hb
  have hval : setBytes (b :: rest) = n := by rw [← hb, setBytes_bigBytes]
  have hmk : makeBigInt n = if b &&& 0x80 ≠ 0 then 0 :: b :: rest else b :: rest := by
    simp [makeBigInt, hn.ne', hb]
  rw [hmk]
  by_cases htop : b.toNat < 128
  · rw [if_neg (not_not.2 ((and_0x80_eq_zero_iff b).2 htop))]
    have hred : redundantSign (b :: rest) = false := by
      cases rest with
      | nil => rfl
      | cons c cs => simp [redundantSign, hb0]; omega
    simp [parseInteger, hred, htop, hval]
  · rw [if_pos (mt (and_0x80_eq_zero_iff b).1 htop)]
    have hred : redundantSign (0 :: b :: rest) = false := by simp [redundantSign]; omega
    simp [parseInteger, hred, setBytes_cons, hval]

theorem length_lengthOctets_le (n : Nat) : (lengthOctets n).length ≤ n + 1 := by
  unfold lengthOctets
  split_ifs
  · simp
  · have := length_bigBytes_le (Nat.lt_pow_self (by norm_num : 1 < 256) n)
    simp only [List.length_cons]
    omega

theorem length_tlv_le (tag : Nat) (c : Bool) (contents : Bytes) :
    (tlv tag c contents).length ≤ 2 * contents.length + 2 := by
  have := length_lengthOctets_le contents.length
  simp only [tlv, List.length_cons, List.length_append]
  omega

theorem length_makeBigInt_le (b : Bytes) : (makeBigInt (setBytes b)).length ≤ b.length + 1 := by
  have hlen := length_bigBytes_le (setBytes_lt b)
  rcases Nat.eq_zero_or_pos (setBytes b) with h0 | hn
  · simp [makeBigInt, h0]
  obtain ⟨d, rest, hd⟩ := List.exists_cons_of_ne_nil (bigBytes_eq_nil_iff.not.2 hn.ne')
  have : makeBigInt (setBytes b) = if d &&& 0x80 ≠ 0 then 0 :: d :: rest else d :: rest := by
    simp [makeBigInt, hn.ne', hd]
  rw [hd] at hlen
  rw [this]
  split_ifs <;> simp only [List.length_cons] at hlen ⊢ <;> omega

/-- The INTEGER `EndorseCert` writes for the raw bytes `b`. -/
theorem length_integerTlv_le (b : Bytes) :
    (tlv tagInteger false (makeBigInt (setBytes b))).length ≤ 2 * b.length + 4 := by
  have := length_tlv_le tagInteger false (makeBigInt (setBytes b))
  have := length_makeBigInt_le b
  omega

theorem parseElement_integerTlv {b : Bytes} (hb : b.length < 2 ^ 63) :
    parseElement (tlv tagInteger false (makeBigInt (setBytes b))) =
      some (⟨integerId, makeBigInt (setBytes b)⟩, []) := by
  have := length_makeBigInt_le b
  have hpow : (2 : Nat) ^ 63 < 256 ^ 126 := by norm_num
  exact parseElement_tlv_self (by decide) false (by omega)

theorem readInteger_integerTlv {b : Bytes} (hb : b.length < 2 ^ 63) :
    (parseElementOf integerId (tlv tagInteger false (makeBigInt (setBytes b)))).bind
      parseInteger = some (setBytes b : Int) := by
  simp [parseElementOf, parseElement_integerTlv hb, parseInteger_makeBigInt]

theorem length_encodeSignature_le (rb sb : Bytes) :
    (encodeSignature rb sb).length ≤ 4 * (rb.length + sb.length) + 18 := by
  have := length_tlv_le tagSequence true
    (tlv tagInteger false (makeBigInt (setBytes rb)) ++ tlv tagInteger false (makeBigInt (setBytes sb)))
  have := length_integerTlv_le rb
  have := length_integerTlv_le sb
  simp only [List.length_append] at *
  simp only [encodeSignature, marshalSignature]
  omega

/-- The signature `EndorseCert` marshals from the raw bytes `rb` and `sb` reads back as
`SEQUENCE { INTEGER r, INTEGER s }` with `r` and `s` the unsigned values of `rb` and `sb`, and
marshalling what it reads gives back the same bytes. -/
theorem encodeSignature_roundTrip (rb sb : Bytes) (hr : rb.length < 2 ^ 63)
    (hs : sb.length < 2 ^ 63) :
    parseSignature (encodeSignature rb sb) = some ((setBytes rb : Int), (setBytes sb : Int)) ∧
      ∀ r s, parseSignature (encodeSignature rb sb) = some (r, s) →
        0 ≤ r ∧ 0 ≤ s ∧ marshalSignature r s = encodeSignature rb sb := by
  have hx := length_integerTlv_le rb
  have hy := length_integerTlv_le sb
  have hpow : (2 : Nat) ^ 66 < 256 ^ 126 := by norm_num
  have hsplit := splitElements_flatten [tlv tagInteger false (makeBigInt (setBytes rb)),
    tlv tagInteger false (makeBigInt (setBytes sb))]
    (by simp [parseElement_integerTlv hr, parseElement_integerTlv hs])
  simp only [List.flatten_cons, List.flatten_nil, List.append_nil] at hsplit
  have hseq : parseElementOf sequenceId (encodeSignature rb sb) =
      some (tlv tagInteger false (makeBigInt (setBytes rb)) ++
        tlv tagInteger false (makeBigInt (setBytes sb))) :=
    parseElementOf_tlv (by decide) true (by simp only [List.length_append]; omega)
  have hparse : parseSignature (encodeSignature rb sb) =
      some ((setBytes rb : Int), (setBytes sb : Int)) := by
    rw [parseSignature, hseq, Option.some_bind, hsplit]
    simp only [readInteger_integerTlv hr, readInteger_integerTlv hs]
  refine ⟨hparse, fun r s h => ?_⟩
  rw [hparse, Option.some.injEq, Prod.mk.injEq] at h
  obtain ⟨rfl, rfl⟩ := h
  exact ⟨Int.natCast_nonneg _, Int.natCast_nonneg _, rfl⟩

theorem encodeSignature_roundTrip_small :
    parseSignature (encodeSignature [1] [0x80]) = some (1, 128) ∧
      ∀ r s, parseSignature (encodeSignature [1] [0x80]) = some (r, s) →
        0 ≤ r ∧ 0 ≤ s ∧ marshalSignature r s = encodeSignature [1] [0x80] :=
  have h := encodeSignature_roundTrip [1] [0x80] (by decide) (by decide)
  ⟨h.1.trans rfl, h.2⟩

/-! ## Object identifiers -/

/-- A base-128 digit with the continuation bit set. -/
theorem toNat_continued {h : Nat} (hh : h < 128) : (UInt8.ofNat (h ||| 0x80)).toNat = 128 + h := by
  rw [Nat.or_comm, or_128_eq_add h hh, toNat_ofNat_byte (by omega)]

theorem parseBase128_continued {hs : List Nat} (hhs : ∀ h ∈ hs, h < 128) {d : Nat} (hd : d < 128)
    (acc : Nat) (r : Bytes) :
    parseBase128 (hs.map (fun h => UInt8.ofNat (h ||| 0x80)) ++ UInt8.ofNat d :: r) acc =
      some (hs.foldl (fun a h => a * 128 + h) acc * 128 + d, r) := by
  induction hs generalizing acc with
  | nil => simp [parseBase128, toNat_ofNat_byte (by omega : d < 256), hd]
  | cons h hs ih =>
    have hh := hhs h (List.mem_cons_self _ _)
    simp only [List.map_cons, List.cons_append, parseBase128, toNat_continued hh, List.foldl_cons]
    rw [if_pos (by omega), Nat.add_sub_cancel_left]
    exact ih (fun x hx => hhs x (List.mem_cons_of_mem _ hx)) _

theorem foldr_eq_ofDigits (l : List Nat) :
    l.foldr (fun h a => a * 128 + h) 0 = Nat.ofDigits 128 l := by
  induction l with
  | nil => rfl
  | cons h l ih => rw [List.foldr_cons, ih, Nat.ofDigits_cons]; ring

theorem base128_ne_nil (n : Nat) : base128 n ≠ [] := by
  unfold base128
  split <;> simp

theorem digits_128_lt {n x : Nat} (hx : x ∈ Nat.digits 128 n) : x < 128 :=
  Nat.digits_lt_base (by norm_num) hx

/-- The first byte `appendBase128Int` writes is never `0x80`: a single digit is below `0x80`,
and a leading continued digit is not zero. -/
theorem head_base128_ne (n : Nat) (r : Bytes) : (base128 n ++ r).head? ≠ some 0x80 := by
  have h80 : (0x80 : UInt8).toNat = 128 := rfl
  unfold base128
  cases hds : Nat.digits 128 n with
  | nil =>
    dsimp only
    simp only [List.singleton_append, List.head?_cons, ne_eq, Option.some.injEq]
    decide
  | cons d higher =>
    intro h
    have hb := congrArg (Option.map UInt8.toNat) h
    cases hrev : higher.reverse with
    | nil =>
      have hd : d < 128 := digits_128_lt (hds ▸ List.mem_cons_self d higher)
      simp only [hrev, List.map_nil, List.nil_append, List.cons_append, List.head?_cons,
        Option.map_some', toNat_ofNat_byte (by omega : d < 256), h80, Option.some.injEq] at hb
      omega
    | cons x xs =>
      have hx : x ≠ 0 := by
        have := @Nat.getLast_digit_ne_zero 128 n (by rintro rfl; simp at hds)
        simp only [hds, List.reverse_eq_cons_iff.1 hrev] at this
        simpa using this
      have hx' : x < 128 := digits_128_lt (hds ▸ List.mem_cons_of_mem d
        (List.mem_reverse.1 (hrev ▸ List.mem_cons_self x xs)))
      simp only [hrev, List.map_cons, List.cons_append, List.head?_cons, Option.map_some',
        toNat_continued hx', h80, Option.some.injEq] at hb
      omega

theorem parseBase128Minimal_base128 (n : Nat) (r : Bytes) :
    parseBase128Minimal (base128 n ++ r) = some (n, r) := by
  rw [parseBase128Minimal, if_neg (head_base128_ne n r)]
  unfold base128
  cases hds : Nat.digits 128 n with
  | nil =>
    rw [Nat.digits_eq_nil_iff_eq_zero.1 hds]
    rfl
  | cons d higher =>
    have hd : d < 128 := digits_128_lt (hds ▸ List.mem_cons_self d higher)
    have hhs : ∀ h ∈ higher.reverse, h < 128 := fun h hh =>
      digits_128_lt (hds ▸ List.mem_cons_of_mem d (List.mem_reverse.1 hh))
    have hval : higher.reverse.foldl (fun a h => a * 128 + h) 0 * 128 + d = n := by
      rw [List.foldl_reverse, foldr_eq_ofDigits, ← Nat.ofDigits_digits 128 n, hds,
        Nat.ofDigits_cons]
      ring
    rw [List.append_assoc, List.singleton_append, parseBase128_continued hhs hd, hval]

theorem parseSubidentifiers_flatMap_base128 (vs : List Nat) {fuel : Nat}
    (hfuel : (vs.flatMap base128).length ≤ fuel) :
    parseSubidentifiers fuel (vs.flatMap base128) = some vs := by
  induction vs generalizing fuel with
  | nil => cases fuel <;> rfl
  | cons v vs ih =>
    obtain ⟨b, bs, hb⟩ := List.exists_cons_of_ne_nil (base128_ne_nil v)
    simp only [List.flatMap_cons, hb, List.cons_append, List.length_cons, List.length_append]
      at hfuel ⊢
    obtain ⟨fuel, rfl⟩ : ∃ f, fuel = f + 1 := ⟨fuel - 1, by omega⟩
    rw [parseSubidentifiers, ← List.cons_append, ← hb, parseBase128Minimal_base128]
    simp [ih (by omega : (vs.flatMap base128).length ≤ fuel)]

@[simp] theorem base128Int_natCast (n : Nat) : base128Int n = base128 n := by
  rw [base128Int, if_neg (by omega), Int.toNat_natCast]

theorem goInt_of_lt {x : Int} (h₀ : 0 ≤ x) (h : x < 2 ^ 63) : goInt x = x := by
  unfold goInt
  rw [Int.emod_eq_of_lt (by omega) (by omega)]
  omega

theorem exists_map_natCast {l : List Int} (h : ∀ x ∈ l, 0 ≤ x) :
    ∃ l' : List Nat, l = l'.map fun n : Nat => (n : Int) := by
  induction l with
  | nil => exact ⟨[], rfl⟩
  | cons x l ih =>
    obtain ⟨l', rfl⟩ := ih fun y hy => h y (List.mem_cons_of_mem _ hy)
    exact ⟨x.toNat :: l', by simp [Int.toNat_of_nonneg (h x (List.mem_cons_self _ _))]⟩

/-- The contents of an identifier with no negative component whose first subidentifier fits
in a Go `int`: its subidentifiers in base 128. -/
theorem objectIdentifierContents_natCast {a b : Nat} {rest : List Nat} (ha : a ≤ 2)
    (hb : a < 2 → b < 40) (hfit : a * 40 + b < 2 ^ 63) :
    objectIdentifierContents ((a : Int) :: (b : Int) :: rest.map fun n : Nat => (n : Int)) =
      some ((a * 40 + b) :: rest |>.flatMap base128) := by
  have hfirst : goInt ((a : Int) * 40 + b) = ((a * 40 + b : Nat) : Int) := by
    push_cast
    exact goInt_of_lt (by positivity) (by exact_mod_cast hfit)
  rw [objectIdentifierContents, if_neg (by omega), hfirst, base128Int_natCast]
  simp [List.flatMap_map]

/-- An identifier `Marshal` accepts reads back as itself when its components are not negative
and its first subidentifier `40 * a + b` fits in a Go `int`. A negative component writes no
bytes, so it cannot read back. -/
theorem parseObjectIdentifier_objectIdentifierContents {a b : Int} {rest : List Int} {c : Bytes}
    (hnn : ∀ x ∈ a :: b :: rest, 0 ≤ x) (hfit : a * 40 + b < 2 ^ 63)
    (h : objectIdentifierContents (a :: b :: rest) = some c) :
    parseObjectIdentifier c = some (a :: b :: rest) := by
  obtain ⟨a, rfl⟩ := Int.eq_ofNat_of_zero_le (hnn a (List.mem_cons_self _ _))
  obtain ⟨b, rfl⟩ :=
    Int.eq_ofNat_of_zero_le (hnn b (List.mem_cons_of_mem _ (List.mem_cons_self _ _)))
  obtain ⟨rest, rfl⟩ := exists_map_natCast fun x hx =>
    hnn x (List.mem_cons_of_mem _ (List.mem_cons_of_mem _ hx))
  have hab : a ≤ 2 ∧ (a < 2 → b < 40) := by
    by_contra hab
    rw [objectIdentifierContents, if_pos (by omega)] at h
    cases h
  rw [objectIdentifierContents_natCast hab.1 hab.2 (by exact_mod_cast hfit)] at h
  cases h
  rw [parseObjectIdentifier, parseSubidentifiers_flatMap_base128 _ le_rfl]
  have : a = 0 ∨ a = 1 ∨ a = 2 := by omega
  rcases this with rfl | rfl | rfl <;> dsimp only <;> split_ifs <;> simp <;> omega

theorem parseObjectIdentifier_objectIdentifierContents_sha256 :
    (∀ x ∈ ([1, 2, 840, 10045, 4, 3, 2] : ObjectIdentifier), 0 ≤ x) ∧ (1 : Int) * 40 + 2 < 2 ^ 63 ∧
      objectIdentifierContents [1, 2, 840, 10045, 4, 3, 2] =
        some [0x2a, 0x86, 0x48, 0xce, 0x3d, 0x04, 0x03, 0x02] ∧
      parseObjectIdentifier [0x2a, 0x86, 0x48, 0xce, 0x3d, 0x04, 0x03, 0x02] =
        some [1, 2, 840, 10045, 4, 3, 2] :=
  have hnn : ∀ x ∈ ([1, 2, 840, 10045, 4, 3, 2] : ObjectIdentifier), 0 ≤ x := by decide
  have hc : objectIdentifierContents [1, 2, 840, 10045, 4, 3, 2] =
      some [0x2a, 0x86, 0x48, 0xce, 0x3d, 0x04, 0x03, 0x02] := by
    rw [show ([1, 2, 840, 10045, 4, 3, 2] : ObjectIdentifier) =
      ((1 : Nat) : Int) :: ((2 : Nat) : Int) :: [840, 10045, 4, 3, 2].map fun n : Nat => (n : Int)
      from rfl, objectIdentifierContents_natCast (by decide) (by decide) (by norm_num)]
    norm_num [base128, Nat.digits_def']
    decide
  ⟨hnn, by norm_num, hc, parseObjectIdentifier_objectIdentifierContents hnn (by norm_num) hc⟩

/-! ## Certificates -/

theorem bitStringContents_whole (s : Bytes) : bitStringContents ⟨s, s.length * 8⟩ = 0 :: s := by
  simp [bitStringContents]

/-- The certificate `EndorseCert` marshals from a TBS that is one DER element, an object
identifier and signature bytes reads back as those three, all length fields included. -/
theorem parseCertificate_marshalCertificate {tbs : Bytes} {e : Element}
    (htbs : parseElement tbs = some (e, [])) (hlen : tbs.length < 2 ^ 63) {oid : ObjectIdentifier}
    {c : Bytes} (hc : objectIdentifierContents oid = some c) (hcl : c.length < 2 ^ 63)
    (hoid : parseObjectIdentifier c = some oid) {s cert : Bytes} (hs : s.length < 2 ^ 70)
    (h : marshalCertificate tbs oid s = .ok cert) : parseCertificate cert = some (tbs, oid, s) := by
  have hpow : (2 : Nat) ^ 74 < 256 ^ 126 := by norm_num
  have hraw : rawValueFullBytes tbs = tbs := if_neg (ne_nil_of_parseElement htbs)
  simp only [marshalCertificate, algorithmIdentifier, hc, Option.map_some', hraw,
    bitStringContents_whole, Except.ok.injEq] at h
  subst h
  have hA := length_tlv_le tagOID false c
  have hB := length_tlv_le tagBitString false (0 :: s)
  have hAlg := length_tlv_le tagSequence true (tlv tagOID false c)
  simp only [List.length_cons] at hB
  have hoidE : parseElement (tlv tagOID false c) = some (⟨objectIdentifierId, c⟩, []) :=
    parseElement_tlv_self (by decide) false (by omega)
  have halgE : parseElement (tlv tagSequence true (tlv tagOID false c)) =
      some (⟨sequenceId, tlv tagOID false c⟩, []) := parseElement_tlv_self (by decide) true (by omega)
  have hbitE : parseElement (tlv tagBitString false (0 :: s)) = some (⟨bitStringId, 0 :: s⟩, []) :=
    parseElement_tlv_self (by decide) false (by simp only [List.length_cons]; omega)
  have hsplit := splitElements_flatten [tbs, tlv tagSequence true (tlv tagOID false c),
    tlv tagBitString false (0 :: s)] (by simp [htbs, halgE, hbitE])
  have hsplitAlg := splitElements_flatten [tlv tagOID false c] (by simp [hoidE])
  simp only [List.flatten_cons, List.flatten_nil, List.append_nil] at hsplit hsplitAlg
  have hseq : parseElementOf sequenceId (tlv tagSequence true
      (tbs ++ (tlv tagSequence true (tlv tagOID false c) ++ tlv tagBitString false (0 :: s)))) =
      some (tbs ++ (tlv tagSequence true (tlv tagOID false c) ++
        tlv tagBitString false (0 :: s))) :=
    parseElementOf_tlv (by decide) true (by simp only [List.length_append]; omega)
  rw [List.append_assoc, parseCertificate, hseq, Option.some_bind, hsplit]
  simp [parseElementOf, halgE, hbitE, hoidE, hsplitAlg, hoid]

end Asn1

end SecureElement
