import MessageContract.Json.Printer
import MessageContract.Proofs.Json.Numeral
import MessageContract.Proofs.Number.Shortest

/-!
The texts of numbers are numerals, so each is read to its end. What is read may
be another number, or none: an integer may not fit, and a float is read in two
roundings. Both are up to `reread?`.
-/

namespace MessageContract

open Json.Scan Utf8

/-- A digit's byte, and the zero's among them. -/
theorem encodeChar_of_isDigit {c : Char} (hc : c.isDigit = true) :
    ∃ byte, encodeChar c = [byte] ∧ (digit? byte).isSome ∧ (c ≠ '0' → byte ≠ 0x30) := by
  have hrange := Binary64.isDigit_iff.mp hc
  have hlt : c.toNat < 256 := by omega
  refine ⟨UInt8.ofNat c.toNat, ?_, ?_, ?_⟩
  · rw [encodeChar, if_pos (by omega)]
  · have hbyte : ((0x30 : UInt8) ≤ UInt8.ofNat c.toNat && UInt8.ofNat c.toNat ≤ 0x39) = true :=
      (within_ofNat hlt).mpr hrange
    rw [digit?, if_pos hbyte]
    rfl
  · intro hne heq
    have hnat := congrArg UInt8.toNat heq
    rw [toNat_ofNat_of_lt hlt] at hnat
    have hzero : c.toNat = '0'.toNat := hnat
    exact hne (by rw [← Char.ofNat_toNat c, hzero, Char.ofNat_toNat])

theorem isDigits_encodeChars {cs : List Char} (hcs : ∀ c ∈ cs, c.isDigit = true) :
    IsDigits (encodeChars cs) := by
  intro byte hbyte
  obtain ⟨c, hc, hmem⟩ := List.mem_flatMap.mp hbyte
  obtain ⟨digit, hencode, hdigit, -⟩ := encodeChar_of_isDigit (hcs c hc)
  rw [hencode, List.mem_singleton] at hmem
  rw [hmem]
  exact hdigit

theorem encodeChars_ne_nil {cs : List Char} (hcs : cs ≠ []) : encodeChars cs ≠ [] := by
  obtain ⟨c, rest, rfl⟩ := List.exists_cons_of_ne_nil hcs
  rw [Json.Scan.encodeChars_cons]
  unfold encodeChar
  dsimp only
  split
  · simp
  · split
    · simp
    · split <;> simp

/-- Digits that a zero does not lead are an integer part. -/
theorem isInteger_encodeChars {c : Char} {cs : List Char} (hc : c ≠ '0')
    (hcs : ∀ d ∈ c :: cs, d.isDigit = true) : IsInteger (encodeChars (c :: cs)) := by
  obtain ⟨byte, hencode, -, hbyte⟩ := encodeChar_of_isDigit (hcs c List.mem_cons_self)
  have hdigits := isDigits_encodeChars hcs
  rw [Json.Scan.encodeChars_cons, hencode, List.singleton_append] at hdigits ⊢
  exact .led (hbyte hc) hdigits

theorem isInteger_natChars (n : Nat) : IsInteger (encodeChars (natChars n)) := by
  unfold natChars
  by_cases hn : n = 0
  · subst hn
    exact IsInteger.zero
  · obtain ⟨c, rest, hdigits, hc⟩ := Binary64.toDigits_led hn
    have hall : ∀ d ∈ Nat.toDigits 10 n, d.isDigit = true :=
      fun d => Binary64.isDigit_of_mem_toDigits
    rw [hdigits] at hall ⊢
    exact isInteger_encodeChars hc hall

/-- A text is a numeral. -/
def IsNumber (cs : List Char) : Prop :=
  IsNumeral (encodeChars cs)

/-- An unsigned numeral: its integer part, its fraction and its exponent. -/
def IsUnsigned (cs : List Char) : Prop :=
  ∃ integer point text, encodeChars cs = integer ++ (point ++ text) ∧ IsInteger integer ∧
    IsFraction point ∧ IsExponent text

theorem isNumber_of_isUnsigned {cs : List Char} (hcs : IsUnsigned cs) : IsNumber cs := by
  obtain ⟨integer, point, text, hbytes, hinteger, hpoint, htext⟩ := hcs
  rw [IsNumber, hbytes]
  exact .positive hinteger hpoint htext

theorem isNumber_negative {cs : List Char} (hcs : IsUnsigned cs) : IsNumber ('-' :: cs) := by
  obtain ⟨integer, point, text, hbytes, hinteger, hpoint, htext⟩ := hcs
  have hsign : encodeChars ('-' :: cs) = 0x2D :: encodeChars cs := rfl
  rw [IsNumber, hsign, hbytes]
  exact .negative hinteger hpoint htext

theorem isUnsigned_natChars (n : Nat) : IsUnsigned (natChars n) :=
  ⟨_, [], [], by rw [List.append_nil, List.append_nil], isInteger_natChars n, .absent, .absent⟩

theorem isNumber_intChars (n : Int) : IsNumber (intChars n) := by
  unfold intChars
  split
  · exact isNumber_negative (isUnsigned_natChars _)
  · exact isNumber_of_isUnsigned (isUnsigned_natChars _)

theorem isDigit_of_mem_digitChars {ds : List Nat} (hds : ∀ d ∈ ds, d < 10) {c : Char}
    (hc : c ∈ digitChars ds) : c.isDigit = true := by
  obtain ⟨d, hd, rfl⟩ := List.mem_map.mp hc
  have hall : ∀ d : Fin 10, (Char.ofNat ('0'.toNat + d)).isDigit = true := by decide
  exact hall ⟨d, hds d hd⟩

theorem digitChars_led {ds : List Nat} (h : Binary64.LedDigits ds) :
    ∃ c cs, digitChars ds = c :: cs ∧ c ≠ '0' := by
  obtain ⟨⟨first, rest, rfl, hfirst⟩, hsmall⟩ := h
  refine ⟨_, _, rfl, ?_⟩
  have hall : ∀ d : Fin 10, d.val ≠ 0 → Char.ofNat ('0'.toNat + d) ≠ '0' := by decide
  exact hall ⟨first, hsmall first List.mem_cons_self⟩ hfirst

theorem isDigit_of_mem_zeros {n : Nat} {c : Char} (hc : c ∈ List.replicate n '0') :
    c.isDigit = true := by
  rw [List.eq_of_mem_replicate hc]
  rfl

/-- A point and some digits after it. -/
theorem isFraction_encodeChars {cs : List Char} (hcs : ∀ c ∈ cs, c.isDigit = true)
    (hnonempty : cs ≠ []) : IsFraction (encodeChars ('.' :: cs)) := by
  have hpoint : encodeChars ('.' :: cs) = 0x2E :: encodeChars cs := rfl
  rw [hpoint]
  exact .pointed (isDigits_encodeChars hcs) (encodeChars_ne_nil hnonempty)

theorem isUnsigned_pointed {c : Char} {whole part : List Char} (hc : c ≠ '0')
    (hwhole : ∀ d ∈ c :: whole, d.isDigit = true) (hpart : ∀ d ∈ part, d.isDigit = true)
    (hnonempty : part ≠ []) : IsUnsigned (c :: whole ++ '.' :: part) :=
  ⟨_, _, [], by rw [Json.Scan.encodeChars_append, List.append_nil],
    isInteger_encodeChars hc hwhole, isFraction_encodeChars hpart hnonempty, .absent⟩

/-- Digits with the point among them. -/
theorem isUnsigned_split {ds : List Nat} (hds : Binary64.LedDigits ds) {p : Nat}
    (hp : 0 < p) (hlonger : p < ds.length) :
    IsUnsigned (digitChars (ds.take p) ++ '.' :: digitChars (ds.drop p)) := by
  obtain ⟨⟨first, rest, rfl, hfirst⟩, hsmall⟩ := hds
  obtain ⟨q, rfl⟩ : ∃ q, p = q + 1 := ⟨p - 1, by omega⟩
  have htake : Binary64.LedDigits ((first :: rest).take (q + 1)) := by
    constructor
    · exact ⟨first, rest.take q, rfl, hfirst⟩
    · intro d hd
      exact hsmall d (List.mem_of_mem_take hd)
  have hdrop : ∀ d ∈ (first :: rest).drop (q + 1), d < 10 := by
    intro d hd
    exact hsmall d (List.mem_of_mem_drop hd)
  have hleft : (first :: rest).drop (q + 1) ≠ [] := by
    rw [Ne, List.drop_eq_nil_iff]
    omega
  obtain ⟨c, cs, htaken, hc⟩ := digitChars_led htake
  rw [htaken]
  apply isUnsigned_pointed hc
  · rw [← htaken]
    intro d
    exact isDigit_of_mem_digitChars htake.small
  · intro d
    exact isDigit_of_mem_digitChars hdrop
  · simpa [digitChars] using hleft

/-- Positional notation of digits, of which the first is no zero. -/
theorem isUnsigned_positional {ds : List Nat} (hds : Binary64.LedDigits ds) (point : Int) :
    IsUnsigned (FloatLayout.positional ds point) := by
  obtain ⟨c, cs, hdigits, hc⟩ := digitChars_led hds
  have hall : ∀ d ∈ c :: cs, d.isDigit = true := by
    rw [← hdigits]
    intro d
    exact isDigit_of_mem_digitChars hds.small
  unfold FloatLayout.positional
  split
  case isTrue =>
    have hpart : ∀ d ∈ List.replicate point.natAbs '0' ++ digitChars ds, d.isDigit = true := by
      intro d hd
      rcases List.mem_append.mp hd with hzero | hdigit
      · exact isDigit_of_mem_zeros hzero
      · exact isDigit_of_mem_digitChars hds.small hdigit
    refine ⟨_, _, [], ?_, .zero, isFraction_encodeChars hpart (by simp [hdigits]), .absent⟩
    rw [List.append_nil]
    rfl
  case isFalse hpositive =>
    dsimp only
    split
    case isTrue =>
      have hwhole : ∀ d ∈ c :: (cs ++ List.replicate (point.toNat - ds.length) '0'),
          d.isDigit = true := by
        intro d hd
        rw [← List.cons_append, List.mem_append] at hd
        rcases hd with hdigit | hzero
        · exact hall d hdigit
        · exact isDigit_of_mem_zeros hzero
      rw [hdigits]
      exact isUnsigned_pointed hc hwhole (by simp) (by simp)
    case isFalse hlonger =>
      exact isUnsigned_split hds (by omega) (by omega)

/-- The letter, the sign and the digits of an exponent. -/
theorem isExponent_encodeChars (n : Nat) {sign : Char} (hsign : sign = '+' ∨ sign = '-') :
    IsExponent (encodeChars ('e' :: sign :: natChars n)) := by
  have hnonempty : encodeChars (natChars n) ≠ [] := encodeChars_ne_nil Nat.toDigits_ne_nil
  have hall : IsDigits (encodeChars (natChars n)) := by
    apply isDigits_encodeChars
    intro d
    exact Binary64.isDigit_of_mem_toDigits
  obtain ⟨digit, digits, hbytes⟩ := List.exists_cons_of_ne_nil hnonempty
  rw [hbytes] at hall
  rcases hsign with rfl | rfl
  · have hencode : encodeChars ('e' :: '+' :: natChars n) =
        0x65 :: 0x2B :: encodeChars (natChars n) := rfl
    rw [hencode, hbytes]
    exact .signed rfl (.inl rfl) hall
  · have hencode : encodeChars ('e' :: '-' :: natChars n) =
        0x65 :: 0x2D :: encodeChars (natChars n) := rfl
    rw [hencode, hbytes]
    exact .signed rfl (.inr rfl) hall

/-- Exponential notation of digits, of which the first is no zero. -/
theorem isUnsigned_exponential {ds : List Nat} (hds : Binary64.LedDigits ds) (point : Int) :
    IsUnsigned (FloatLayout.exponential ds point) := by
  obtain ⟨⟨first, rest, rfl, hfirst⟩, hsmall⟩ := hds
  have hone : Binary64.LedDigits [first] := by
    constructor
    · exact ⟨first, [], rfl, hfirst⟩
    · intro d hd
      rw [List.mem_singleton.mp hd]
      exact hsmall first List.mem_cons_self
  obtain ⟨c, cs, hdigits, hc⟩ := digitChars_led hone
  have hinteger : IsInteger (encodeChars (digitChars [first])) := by
    have hall : ∀ d ∈ digitChars [first], d.isDigit = true :=
      fun d => isDigit_of_mem_digitChars hone.small
    rw [hdigits] at hall ⊢
    exact isInteger_encodeChars hc hall
  have hsigned : (if point - 1 < 0 then '-' else '+') = '+' ∨
      (if point - 1 < 0 then '-' else '+') = '-' := by
    split
    · exact .inr rfl
    · exact .inl rfl
  obtain ⟨tail, htail, hchars⟩ : ∃ tail, IsFraction (encodeChars tail) ∧
      FloatLayout.exponential (first :: rest) point = digitChars [first] ++
        (tail ++ 'e' :: (if point - 1 < 0 then '-' else '+') :: natChars (point - 1).natAbs) := by
    cases rest with
    | nil =>
        refine ⟨[], .absent, ?_⟩
        rw [FloatLayout.exponential, List.append_assoc, List.append_assoc]
        rfl
    | cons second others =>
        have hothers : ∀ d ∈ second :: others, d < 10 := by
          intro d hd
          exact hsmall d (List.mem_cons_of_mem _ hd)
        have hpart : ∀ c ∈ digitChars (second :: others), c.isDigit = true := by
          intro c
          exact isDigit_of_mem_digitChars hothers
        refine ⟨'.' :: digitChars (second :: others),
          isFraction_encodeChars hpart (by simp [digitChars]), ?_⟩
        rw [FloatLayout.exponential, List.append_assoc, List.append_assoc]
        rfl
  refine ⟨_, _, _, ?_, hinteger, htail, isExponent_encodeChars (point - 1).natAbs hsigned⟩
  rw [hchars, Json.Scan.encodeChars_append, Json.Scan.encodeChars_append]

/-- What is written for a magnitude. -/
def Binary64.magnitudeChars (magnitude : Nat) : List Char :=
  if magnitude = 0 then ['0', '.', '0'] else FloatLayout.json.write (shortest magnitude)

theorem Binary64.chars_eq (x : Binary64) :
    x.chars = if x.negative then '-' :: magnitudeChars x.magnitude
      else magnitudeChars x.magnitude := by
  unfold chars magnitudeChars
  cases x.negative <;> by_cases hzero : x.magnitude = 0 <;> simp [hzero]

theorem isUnsigned_magnitudeChars (magnitude : Nat) :
    IsUnsigned (Binary64.magnitudeChars magnitude) := by
  unfold Binary64.magnitudeChars
  split
  case isTrue =>
    have hzero : ∀ c ∈ ['0'], c.isDigit = true := by
      intro c hc
      rw [List.mem_singleton.mp hc]
      rfl
    exact ⟨[0x30], encodeChars ['.', '0'], [], rfl, .zero,
      isFraction_encodeChars hzero (by simp), .absent⟩
  case isFalse hnonzero =>
    have hdigits := Binary64.ledDigits_shortest hnonzero
    unfold FloatLayout.write
    split
    · exact isUnsigned_positional hdigits _
    · exact isUnsigned_exponential hdigits _

theorem isNumber_float (x : Binary64) : IsNumber x.chars := by
  rw [x.chars_eq]
  split
  · exact isNumber_negative (isUnsigned_magnitudeChars _)
  · exact isNumber_of_isUnsigned (isUnsigned_magnitudeChars _)

/-- What is written for a number is a numeral. -/
theorem isNumber_chars (n : Number) : IsNumber n.chars := by
  cases n with
  | integer n => exact isNumber_intChars n
  | float x => exact isNumber_float x

/-- The number that is read from a number's text, if there is one. -/
def Number.reread? (n : Number) : Option Number :=
  match (Json.Scan.number { rest := encodeChars n.chars }).1 with
  | .ok read => some read
  | .error _ => none

/-- A number's text is read to its end, and gives what it gives alone. -/
theorem gives_number (n : Number) {rest : List UInt8} (hrest : Delimits rest) :
    Gives Json.Scan.number (encodeChars n.chars ++ rest) (n.reread?.map (·, rest)) := by
  obtain ⟨result, hresult⟩ := settles_number (isNumber_chars n)
  have halone := hresult [] (fun _ h => by cases h) 1 0
  have heq : n.reread? = result := by
    rw [List.append_nil] at halone
    unfold Number.reread?
    cases result with
    | none =>
        obtain ⟨e, after, hrun⟩ := halone
        rw [hrun]
    | some read =>
        obtain ⟨line, column, hrun⟩ := halone
        rw [hrun]
  rw [heq]
  exact hresult rest hrest

end MessageContract
