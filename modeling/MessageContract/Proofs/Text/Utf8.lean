import MessageContract.Proofs.Outcome
import MessageContract.Text.Utf8

/-!
What is encoded can be decoded, and what was decoded is encoded as it stood. The
bytes of each character are one of the four forms that the reader knows, and it
puts their payloads together again; as it refuses longer forms than a character
needs, surrogates and what is beyond all characters, no other bytes give the
character.
-/

namespace MessageContract.Utf8

theorem toNat_ofNat_of_lt {n : Nat} (h : n < 256) : (UInt8.ofNat n).toNat = n := by
  rw [UInt8.toNat_ofNat', Nat.mod_eq_of_lt h]

theorem within_ofNat {low high : UInt8} {n : Nat} (hn : n < 256) :
    within low high (UInt8.ofNat n) = true ↔ low.toNat ≤ n ∧ n ≤ high.toNat := by
  simp only [within, Bool.and_eq_true, decide_eq_true_eq, UInt8.le_iff_toNat_le,
    toNat_ofNat_of_lt hn]

theorem isTail_of_payload (n : Nat) : isTail (UInt8.ofNat (0x80 + n % 64)) = true := by
  have hn : 0x80 + n % 64 < 256 := by omega
  rw [isTail, within_ofNat hn]
  have hlow : (0x80 : UInt8).toNat = 0x80 := rfl
  have hhigh : (0xBF : UInt8).toNat = 0xBF := rfl
  omega

theorem isScalar (c : Char) : c.toNat < 0xD800 ∨ 0xDFFF < c.toNat ∧ c.toNat < 0x110000 :=
  c.valid

theorem lt_ascii_ofNat {n : Nat} (hn : n < 256) : UInt8.ofNat n < 0x80 ↔ n < 0x80 := by
  rw [UInt8.lt_iff_toNat_lt, toNat_ofNat_of_lt hn]
  rfl

/-- Which lead a byte is depends on where it lies. -/
theorem within_eq_false {low high : UInt8} {n : Nat} (hn : n < 256)
    (hout : n < low.toNat ∨ high.toNat < n) : within low high (UInt8.ofNat n) = false := by
  rw [Bool.eq_false_iff, Ne, within_ofNat hn]
  omega

/-- Payloads of six bits each, put together. -/
theorem assemble_eq {c : Char} {payload : Nat} {tails : List UInt8}
    (h : tails.foldl (fun n b => n * 64 + b.toNat % 64) payload = c.toNat) :
    assemble payload tails = c := by
  rw [assemble, h, Char.ofNat_toNat]

theorem tail_toNat (n : Nat) : (UInt8.ofNat (0x80 + n % 64)).toNat % 64 = n % 64 := by
  rw [toNat_ofNat_of_lt (by omega)]
  omega

section Forms

variable {c : Char} (rest : List UInt8)

theorem scan_one (hc : c.toNat < 0x80) :
    scan (UInt8.ofNat c.toNat :: rest) = some c :: scan rest := by
  have hn : c.toNat < 256 := by omega
  rw [scan.eq_def]
  dsimp only
  rw [if_pos ((lt_ascii_ofNat hn).mpr hc), toNat_ofNat_of_lt hn, Char.ofNat_toNat]

theorem scan_two (hlow : 0x80 ≤ c.toNat) (hhigh : c.toNat < 0x800) :
    scan (UInt8.ofNat (0xC0 + c.toNat / 64) :: UInt8.ofNat (0x80 + c.toNat % 64) :: rest) =
      some c :: scan rest := by
  have hlead : 0xC0 + c.toNat / 64 < 256 := by omega
  have hnotAscii : ¬ UInt8.ofNat (0xC0 + c.toNat / 64) < 0x80 := by
    rw [lt_ascii_ofNat hlead]
    omega
  have hkind : within 0xC2 0xDF (UInt8.ofNat (0xC0 + c.toNat / 64)) = true := by
    rw [within_ofNat hlead]
    change 0xC2 ≤ _ ∧ _ ≤ 0xDF
    omega
  rw [scan.eq_def]
  dsimp only
  rw [if_neg hnotAscii, if_pos hkind, if_pos (isTail_of_payload _), assemble_eq]
  rw [List.foldl_cons, List.foldl_nil, tail_toNat, toNat_ofNat_of_lt hlead]
  omega

/-- The second of three bytes, which has a narrower range after some first bytes. -/
theorem isSecondOfThree_ofNat (hlow : 0x800 ≤ c.toNat) (hhigh : c.toNat < 0x10000) :
    isSecondOfThree (UInt8.ofNat (0xE0 + c.toNat / 4096))
      (UInt8.ofNat (0x80 + c.toNat / 64 % 64)) = true := by
  have hscalar := isScalar c
  have hlead : 0xE0 + c.toNat / 4096 < 256 := by omega
  have hb : 0x80 + c.toNat / 64 % 64 < 256 := by omega
  unfold isSecondOfThree
  split
  case isTrue hE0 =>
    have hnat := congrArg UInt8.toNat (eq_of_beq hE0)
    rw [toNat_ofNat_of_lt hlead] at hnat
    change _ = 0xE0 at hnat
    rw [within_ofNat hb]
    change 0xA0 ≤ _ ∧ _ ≤ 0xBF
    omega
  case isFalse =>
    split
    case isTrue hED =>
      have hnat := congrArg UInt8.toNat (eq_of_beq hED)
      rw [toNat_ofNat_of_lt hlead] at hnat
      change _ = 0xED at hnat
      rw [within_ofNat hb]
      change 0x80 ≤ _ ∧ _ ≤ 0x9F
      omega
    case isFalse => exact isTail_of_payload _

theorem isSecondOfFour_ofNat (hlow : 0x10000 ≤ c.toNat) :
    isSecondOfFour (UInt8.ofNat (0xF0 + c.toNat / 262144))
      (UInt8.ofNat (0x80 + c.toNat / 4096 % 64)) = true := by
  have hscalar := isScalar c
  have hlead : 0xF0 + c.toNat / 262144 < 256 := by omega
  have hb : 0x80 + c.toNat / 4096 % 64 < 256 := by omega
  unfold isSecondOfFour
  split
  case isTrue hF0 =>
    have hnat := congrArg UInt8.toNat (eq_of_beq hF0)
    rw [toNat_ofNat_of_lt hlead] at hnat
    change _ = 0xF0 at hnat
    rw [within_ofNat hb]
    change 0x90 ≤ _ ∧ _ ≤ 0xBF
    omega
  case isFalse =>
    split
    case isTrue hF4 =>
      have hnat := congrArg UInt8.toNat (eq_of_beq hF4)
      rw [toNat_ofNat_of_lt hlead] at hnat
      change _ = 0xF4 at hnat
      rw [within_ofNat hb]
      change 0x80 ≤ _ ∧ _ ≤ 0x8F
      omega
    case isFalse => exact isTail_of_payload _

theorem scan_three (hlow : 0x800 ≤ c.toNat) (hhigh : c.toNat < 0x10000) :
    scan (UInt8.ofNat (0xE0 + c.toNat / 4096) :: UInt8.ofNat (0x80 + c.toNat / 64 % 64) ::
      UInt8.ofNat (0x80 + c.toNat % 64) :: rest) = some c :: scan rest := by
  have hscalar := isScalar c
  have hlead : 0xE0 + c.toNat / 4096 < 256 := by omega
  have hnotAscii : ¬ UInt8.ofNat (0xE0 + c.toNat / 4096) < 0x80 := by
    rw [lt_ascii_ofNat hlead]
    omega
  have hnotTwo : within 0xC2 0xDF (UInt8.ofNat (0xE0 + c.toNat / 4096)) = false :=
    within_eq_false hlead (.inr (by change 0xDF < _; omega))
  have hkind : within 0xE0 0xEF (UInt8.ofNat (0xE0 + c.toNat / 4096)) = true := by
    rw [within_ofNat hlead]
    change 0xE0 ≤ _ ∧ _ ≤ 0xEF
    omega
  have hsecond : isSecondOfThree (UInt8.ofNat (0xE0 + c.toNat / 4096))
      (UInt8.ofNat (0x80 + c.toNat / 64 % 64)) = true := isSecondOfThree_ofNat hlow hhigh
  rw [scan.eq_def]
  dsimp only
  rw [if_neg hnotAscii, hnotTwo, if_neg Bool.false_ne_true, if_pos hkind, if_pos hsecond,
    if_pos (isTail_of_payload _), assemble_eq]
  simp only [List.foldl_cons, List.foldl_nil, tail_toNat, toNat_ofNat_of_lt hlead]
  omega

theorem scan_four (hlow : 0x10000 ≤ c.toNat) :
    scan (UInt8.ofNat (0xF0 + c.toNat / 262144) :: UInt8.ofNat (0x80 + c.toNat / 4096 % 64) ::
      UInt8.ofNat (0x80 + c.toNat / 64 % 64) :: UInt8.ofNat (0x80 + c.toNat % 64) :: rest) =
      some c :: scan rest := by
  have hscalar := isScalar c
  have hlead : 0xF0 + c.toNat / 262144 < 256 := by omega
  have hnotAscii : ¬ UInt8.ofNat (0xF0 + c.toNat / 262144) < 0x80 := by
    rw [lt_ascii_ofNat hlead]
    omega
  have hnotTwo : within 0xC2 0xDF (UInt8.ofNat (0xF0 + c.toNat / 262144)) = false :=
    within_eq_false hlead (.inr (by change 0xDF < _; omega))
  have hnotThree : within 0xE0 0xEF (UInt8.ofNat (0xF0 + c.toNat / 262144)) = false :=
    within_eq_false hlead (.inr (by change 0xEF < _; omega))
  have hkind : within 0xF0 0xF4 (UInt8.ofNat (0xF0 + c.toNat / 262144)) = true := by
    rw [within_ofNat hlead]
    change 0xF0 ≤ _ ∧ _ ≤ 0xF4
    omega
  have hsecond : isSecondOfFour (UInt8.ofNat (0xF0 + c.toNat / 262144))
      (UInt8.ofNat (0x80 + c.toNat / 4096 % 64)) = true := isSecondOfFour_ofNat hlow
  rw [scan.eq_def]
  dsimp only
  rw [if_neg hnotAscii, hnotTwo, hnotThree, if_neg Bool.false_ne_true,
    if_neg Bool.false_ne_true, if_pos hkind, if_pos hsecond,
    if_pos (isTail_of_payload _), if_pos (isTail_of_payload _), assemble_eq]
  simp only [List.foldl_cons, List.foldl_nil, tail_toNat, toNat_ofNat_of_lt hlead]
  omega

end Forms

/-- A character's bytes are read as that character. -/
theorem scan_encodeChar (c : Char) (rest : List UInt8) :
    scan (encodeChar c ++ rest) = some c :: scan rest := by
  unfold encodeChar
  dsimp only
  split
  case isTrue hone => exact scan_one rest hone
  case isFalse hone =>
    split
    case isTrue htwo => exact scan_two rest (by omega) htwo
    case isFalse htwo =>
      split
      case isTrue hthree => exact scan_three rest (by omega) hthree
      case isFalse hthree => exact scan_four rest (by omega)

theorem scan_encodeChars (cs : List Char) : scan (encodeChars cs) = cs.map some := by
  induction cs with
  | nil => rfl
  | cons c rest ih =>
      have hcons : encodeChars (c :: rest) = encodeChar c ++ encodeChars rest := rfl
      rw [hcons, scan_encodeChar, ih, List.map_cons]

theorem mapM_id_eq_some {found : List (Option Char)} {cs : List Char} :
    found.mapM id = some cs ↔ found = cs.map some := by
  rw [Outcome.mapM_eq_some_iff, ← List.forall₂_eq_eq_eq, List.forall₂_map_right_iff]
  rfl

theorem encode_append (a b : String) : encode (a ++ b) = encode a ++ encode b := by
  simp [encode, encodeChars, String.toList_append]

theorem decode_encode (text : String) : decode (encode text) = some text := by
  have hall : (text.toList.map some).mapM id = some text.toList := mapM_id_eq_some.mpr rfl
  rw [decode, encode, scan_encodeChars, hall, Option.map_some, String.ofList_toList]

theorem toNat_charOfNat {n : Nat} (hn : n.isValidChar) : (Char.ofNat n).toNat = n := by
  rw [Char.ofNat, dif_pos hn]
  rfl

/-! Bytes that were decoded are those of the characters that they were read as. -/

theorem within_iff {low high byte : UInt8} :
    within low high byte = true ↔ low.toNat ≤ byte.toNat ∧ byte.toNat ≤ high.toNat := by
  simp only [within, Bool.and_eq_true, decide_eq_true_eq, UInt8.le_iff_toNat_le]

theorem isTail_iff {byte : UInt8} : isTail byte = true ↔ 0x80 ≤ byte.toNat ∧ byte.toNat ≤ 0xBF :=
  within_iff

/-- The second of three bytes keeps clear of what two bytes hold and of surrogates. -/
theorem range_of_isSecondOfThree {a b : UInt8} (h : isSecondOfThree a b = true) :
    0x80 ≤ b.toNat ∧ b.toNat ≤ 0xBF ∧ (a.toNat = 0xE0 → 0xA0 ≤ b.toNat) ∧
      (a.toNat = 0xED → b.toNat ≤ 0x9F) := by
  have hlead : (0xE0 : UInt8).toNat = 0xE0 ∧ (0xED : UInt8).toNat = 0xED := ⟨rfl, rfl⟩
  have hbounds : (0xA0 : UInt8).toNat = 0xA0 ∧ (0xBF : UInt8).toNat = 0xBF ∧
      (0x80 : UInt8).toNat = 0x80 ∧ (0x9F : UInt8).toNat = 0x9F := ⟨rfl, rfl, rfl, rfl⟩
  unfold isSecondOfThree at h
  simp only [beq_iff_eq, ← UInt8.toNat_inj] at h
  split at h
  · rw [within_iff] at h
    omega
  split at h
  · rw [within_iff] at h
    omega
  · rw [isTail_iff] at h
    omega

/-- The second of four bytes keeps clear of what three bytes hold and of what is
beyond all characters. -/
theorem range_of_isSecondOfFour {a b : UInt8} (h : isSecondOfFour a b = true) :
    0x80 ≤ b.toNat ∧ b.toNat ≤ 0xBF ∧ (a.toNat = 0xF0 → 0x90 ≤ b.toNat) ∧
      (a.toNat = 0xF4 → b.toNat ≤ 0x8F) := by
  have hlead : (0xF0 : UInt8).toNat = 0xF0 ∧ (0xF4 : UInt8).toNat = 0xF4 := ⟨rfl, rfl⟩
  have hbounds : (0x90 : UInt8).toNat = 0x90 ∧ (0xBF : UInt8).toNat = 0xBF ∧
      (0x80 : UInt8).toNat = 0x80 ∧ (0x8F : UInt8).toNat = 0x8F := ⟨rfl, rfl, rfl, rfl⟩
  unfold isSecondOfFour at h
  simp only [beq_iff_eq, ← UInt8.toNat_inj] at h
  split at h
  · rw [within_iff] at h
    omega
  split at h
  · rw [within_iff] at h
    omega
  · rw [isTail_iff] at h
    omega

theorem toNat_assemble {payload : Nat} {tails : List UInt8} {n : Nat}
    (hn : tails.foldl (fun n b => n * 64 + b.toNat % 64) payload = n) (hvalid : n.isValidChar) :
    (assemble payload tails).toNat = n := by
  rw [assemble, hn, toNat_charOfNat hvalid]

theorem byte_eq {n : Nat} {b : UInt8} (h : n = b.toNat) : UInt8.ofNat n = b := by
  rw [h, UInt8.ofNat_toNat]

variable {a b c d : UInt8}

theorem encodeChar_one (ha : a < 0x80) : encodeChar (Char.ofNat a.toNat) = [a] := by
  have hlt : a.toNat < 0x80 := UInt8.lt_iff_toNat_lt.mp ha
  have hchar : (Char.ofNat a.toNat).toNat = a.toNat := toNat_charOfNat (.inl (by omega))
  simp only [encodeChar, hchar, if_pos hlt, UInt8.ofNat_toNat]

/-- Characters below 128 are bytes of their own. -/
theorem encodeChars_ascii {bytes : List UInt8} (hascii : ∀ byte ∈ bytes, byte.toNat < 0x80) :
    encodeChars (bytes.map fun byte => Char.ofNat byte.toNat) = bytes := by
  induction bytes with
  | nil => rfl
  | cons byte rest ih =>
      have hbyte : encodeChar (Char.ofNat byte.toNat) = [byte] :=
        encodeChar_one (UInt8.lt_iff_toNat_lt.mpr (hascii byte List.mem_cons_self))
      have hrest := ih fun other hother => hascii other (List.mem_cons_of_mem _ hother)
      rw [encodeChars] at hrest ⊢
      rw [List.map_cons, List.flatMap_cons, hbyte, hrest, List.singleton_append]

theorem encodeChar_two (ha : within 0xC2 0xDF a = true) (hb : isTail b = true) :
    encodeChar (assemble (a.toNat % 32) [b]) = [a, b] := by
  obtain ⟨halow, hahigh⟩ := within_iff.mp ha
  obtain ⟨hblow, hbhigh⟩ := isTail_iff.mp hb
  change 0xC2 ≤ _ at halow
  change _ ≤ 0xDF at hahigh
  have hchar : (assemble (a.toNat % 32) [b]).toNat = a.toNat % 32 * 64 + b.toNat % 64 :=
    toNat_assemble rfl (.inl (by omega))
  unfold encodeChar
  simp only [hchar]
  rw [if_neg (by omega), if_pos (by omega), byte_eq (b := a) (by omega),
    byte_eq (b := b) (by omega)]

theorem encodeChar_three (ha : within 0xE0 0xEF a = true) (hb : isSecondOfThree a b = true)
    (hc : isTail c = true) : encodeChar (assemble (a.toNat % 16) [b, c]) = [a, b, c] := by
  obtain ⟨halow, hahigh⟩ := within_iff.mp ha
  obtain ⟨hblow, hbhigh, hoverlong, hsurrogate⟩ := range_of_isSecondOfThree hb
  obtain ⟨hclow, hchigh⟩ := isTail_iff.mp hc
  change 0xE0 ≤ _ at halow
  change _ ≤ 0xEF at hahigh
  have hvalid : ((a.toNat % 16 * 64 + b.toNat % 64) * 64 + c.toNat % 64).isValidChar := by
    unfold Nat.isValidChar
    omega
  have hchar : (assemble (a.toNat % 16) [b, c]).toNat =
      (a.toNat % 16 * 64 + b.toNat % 64) * 64 + c.toNat % 64 := toNat_assemble rfl hvalid
  unfold encodeChar
  simp only [hchar]
  rw [if_neg (by omega), if_neg (by omega), if_pos (by omega), byte_eq (b := a) (by omega),
    byte_eq (b := b) (by omega), byte_eq (b := c) (by omega)]

theorem encodeChar_four (ha : within 0xF0 0xF4 a = true) (hb : isSecondOfFour a b = true)
    (hc : isTail c = true) (hd : isTail d = true) :
    encodeChar (assemble (a.toNat % 8) [b, c, d]) = [a, b, c, d] := by
  obtain ⟨halow, hahigh⟩ := within_iff.mp ha
  obtain ⟨hblow, hbhigh, hoverlong, hbeyond⟩ := range_of_isSecondOfFour hb
  obtain ⟨hclow, hchigh⟩ := isTail_iff.mp hc
  obtain ⟨hdlow, hdhigh⟩ := isTail_iff.mp hd
  change 0xF0 ≤ _ at halow
  change _ ≤ 0xF4 at hahigh
  have hvalid : (((a.toNat % 8 * 64 + b.toNat % 64) * 64 + c.toNat % 64) * 64 +
      d.toNat % 64).isValidChar := by
    unfold Nat.isValidChar
    omega
  have hchar : (assemble (a.toNat % 8) [b, c, d]).toNat =
      ((a.toNat % 8 * 64 + b.toNat % 64) * 64 + c.toNat % 64) * 64 + d.toNat % 64 :=
    toNat_assemble rfl hvalid
  unfold encodeChar
  simp only [hchar]
  rw [if_neg (by omega), if_neg (by omega), if_neg (by omega), byte_eq (b := a) (by omega),
    byte_eq (b := b) (by omega), byte_eq (b := c) (by omega),
    byte_eq (b := d) (by omega)]

/-- The first character's bytes, before those of the others. -/
theorem encodeChars_of_scan_cons {c : Char} {first rest : List UInt8} {cs : List Char}
    (hfirst : encodeChar c = first) (hscan : some c :: scan rest = cs.map some)
    (hrest : ∀ {others : List Char}, scan rest = others.map some → encodeChars others = rest) :
    encodeChars cs = first ++ rest := by
  obtain ⟨head, others, rfl, hhead, hothers⟩ := List.map_eq_cons_iff.mp hscan.symm
  obtain rfl := Option.some.inj hhead
  rw [encodeChars, List.flatMap_cons, hfirst, ← hrest hothers.symm]
  rfl

/-- Where no stretch is damaged, each character's bytes stand as they are encoded. -/
theorem encodeChars_of_scan {bytes : List UInt8} {cs : List Char} (h : scan bytes = cs.map some) :
    encodeChars cs = bytes := by
  fun_induction scan bytes generalizing cs
  case case1 =>
    rw [List.map_eq_nil_iff.mp h.symm]
    rfl
  case case2 ha ih => exact encodeChars_of_scan_cons (encodeChar_one ha) h ih
  case case4 ha _ _ hb ih => exact encodeChars_of_scan_cons (encodeChar_two ha hb) h ih
  case case8 ha _ hb _ _ hc ih => exact encodeChars_of_scan_cons (encodeChar_three ha hb hc) h ih
  case case14 ha _ hb _ hc _ _ hd ih =>
    exact encodeChars_of_scan_cons (encodeChar_four ha hb hc hd) h ih
  all_goals
    obtain ⟨_, _, _, hhead, _⟩ := List.map_eq_cons_iff.mp h.symm
    cases hhead

/-- Text that was read out of bytes has those bytes. -/
theorem encode_of_decode {bytes : List UInt8} {text : String} (h : decode bytes = some text) :
    encode text = bytes := by
  obtain ⟨cs, hcs, rfl⟩ := Option.map_eq_some_iff.mp h
  rw [encode, String.toList_ofList]
  exact encodeChars_of_scan (mapM_id_eq_some.mp hcs)

/-- What is decoded from bytes is the text that they are the bytes of. -/
theorem decode_eq_some_iff {bytes : List UInt8} {text : String} :
    decode bytes = some text ↔ encode text = bytes := by
  constructor
  · exact encode_of_decode
  · rintro rfl
    exact decode_encode text

end MessageContract.Utf8
