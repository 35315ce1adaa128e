import MessageContract.Proofs.Json.Floats
import MessageContract.Proofs.Number.Grid
import MessageContract.Proofs.Number.Text

/-!
Every number that the format can hold is read from its own text as some number. An
integer of 64 bits is read as itself. A float's digits are gathered into a
significand that fits, whatever the notation, and the decimal does not exceed the
greatest double.
-/

namespace MessageContract

namespace Json.Scan

open Binary64 (follow follow_cons follow_append follow_zeros le_follow)

variable {α : Type}

def digitByte (d : Nat) : UInt8 :=
  UInt8.ofNat ('0'.toNat + d)

def digitBytes (digits : List Nat) : List UInt8 :=
  digits.map digitByte

theorem digit?_digitByte {d : Nat} (hd : d < 10) : digit? (digitByte d) = some d := by
  have hall : ∀ d : Fin 10, digit? (digitByte d) = some d.val := by decide
  exact hall ⟨d, hd⟩

theorem encodeChars_digitChars {digits : List Nat} (hsmall : ∀ d ∈ digits, d < 10) :
    Utf8.encodeChars (digitChars digits) = digitBytes digits := by
  have hall : ∀ d : Fin 10, Utf8.encodeChar (Char.ofNat ('0'.toNat + d)) = [digitByte d] := by
    decide
  induction digits with
  | nil => rfl
  | cons d digits ih =>
      have hd := hall ⟨d, hsmall d List.mem_cons_self⟩
      have hrest := ih fun e he => hsmall e (List.mem_cons_of_mem _ he)
      change Utf8.encodeChars (Char.ofNat ('0'.toNat + d) :: digitChars digits) = _
      rw [encodeChars_cons, hd, hrest]
      rfl

/-- A loop that takes digits up to a bound goes on at each of them. -/
theorem gives_digitLoop (loop : Fuel → Nat → Nat → Scan α) (count : Nat) {bound : Nat}
    (hstep : ∀ first fuel n count d rest outcome, d < 10 → n * 10 + d < bound →
      Gives (loop fuel (n * 10 + d) (count + 1)) rest outcome →
        Gives (loop (first :: fuel) n count) (digitByte d :: rest) outcome)
    {rest : List UInt8} {outcome : Option (α × List UInt8)} {digits : List Nat}
    (hsmall : ∀ d ∈ digits, d < 10) {n : Nat} (hbound : follow n digits < bound)
    (hlast : ∀ first fuel,
      Gives (loop (first :: fuel) (follow n digits) (count + digits.length)) rest outcome)
    {fuel : Fuel} (hfuel : (digitBytes digits ++ rest).length < fuel.length) :
    Gives (loop fuel n count) (digitBytes digits ++ rest) outcome := by
  induction digits generalizing n count fuel with
  | nil =>
      cases fuel with
      | nil => simp at hfuel
      | cons first fuel => exact hlast first fuel
  | cons d digits ih =>
      cases fuel with
      | nil => simp at hfuel
      | cons first fuel =>
          have hnext : n * 10 + d < bound := (le_follow _ digits).trans_lt hbound
          refine hstep first fuel n count d _ _ (hsmall d List.mem_cons_self) hnext ?_
          apply ih _ (fun e he => hsmall e (List.mem_cons_of_mem _ he)) hbound
          · intro first fuel
            have hlength : count + 1 + digits.length = count + (d :: digits).length := by
              simp; omega
            rw [hlength]
            exact hlast first fuel
          · simpa [digitBytes] using hfuel

section Parts

variable {negative : Bool} {significand : Nat} {rest : List UInt8}
  {outcome : Option (Number × List UInt8)}

theorem gives_peekDigit_cons {d : Nat} (hd : d < 10) (rest : List UInt8) :
    Gives peekDigit? (digitByte d :: rest) (some (some d, digitByte d :: rest)) := by
  have hpeek := gives_peekDigit (digitByte d :: rest)
  rwa [List.head?_cons, Option.bind_some, digit?_digitByte hd] at hpeek

theorem gives_integerDigits {digits : List Nat} (hsmall : ∀ d ∈ digits, d < 10) {n : Nat}
    (hbound : follow n digits < significandBound) (hrest : rest.head?.bind digit? = none)
    (hafter : Gives (afterInteger negative (follow n digits)) rest outcome) :
    Gives (withFuel fun fuel => integerDigits negative fuel n) (digitBytes digits ++ rest)
      outcome := by
  apply gives_withFuel
  intro fuel hfuel
  refine gives_digitLoop (fun fuel n _ => integerDigits negative fuel n) 0 ?_ hsmall hbound ?_ hfuel
  · intro first fuel n _ d rest outcome hd hnext hgives
    refine gives_bind (gives_peekDigit_cons hd rest) ?_
    dsimp only
    rw [if_neg (Nat.not_le.mpr hnext)]
    exact gives_bind (gives_discard _ _) hgives
  · intro first fuel
    have hpeek := gives_peekDigit rest
    rw [hrest] at hpeek
    exact gives_bind hpeek hafter

theorem gives_fractionDigits {base : Int} {digits : List Nat} (hsmall : ∀ d ∈ digits, d < 10)
    (hnonempty : digits ≠ []) (hbound : follow significand digits < significandBound)
    (hrest : rest.head?.bind digit? = none)
    (hafter : Gives (scaled negative (follow significand digits) (base - digits.length))
      rest outcome) :
    Gives (fraction negative significand base) (0x2E :: (digitBytes digits ++ rest)) outcome := by
  refine gives_bind (gives_discard _ _) ?_
  apply gives_withFuel
  intro fuel hfuel
  refine gives_digitLoop (fun fuel n count => fractionDigits negative base fuel n count) 0
    ?_ hsmall hbound ?_ hfuel
  · intro first fuel n count d rest outcome hd hnext hgives
    refine gives_bind (gives_peekDigit_cons hd rest) ?_
    dsimp only
    rw [if_neg (Nat.not_le.mpr hnext)]
    exact gives_bind (gives_discard _ _) hgives
  · intro first fuel
    have hpeek := gives_peekDigit rest
    rw [hrest] at hpeek
    refine gives_bind hpeek ?_
    have hcount : 0 + digits.length ≠ 0 := by
      rw [Nat.zero_add]
      exact (List.length_pos_iff.mpr hnonempty).ne'
    dsimp only
    rw [if_neg hcount, Nat.zero_add]
    exact hafter

/-- The exponent is gathered from its digits and moves the scale. -/
theorem gives_exponent {scale : Int} {negativeExponent : Bool} {d : Nat} {digits : List Nat}
    (hsmall : ∀ e ∈ d :: digits, e < 10) (hbound : follow 0 (d :: digits) < exponentBound)
    (hafter : Gives (float negative significand
      (if negativeExponent then scale - follow 0 (d :: digits)
        else scale + follow 0 (d :: digits))) [] outcome) :
    Gives (exponent negative significand scale)
      (0x65 :: (if negativeExponent then 0x2D else 0x2B) :: digitBytes (d :: digits)) outcome := by
  have hd : d < 10 := hsmall d List.mem_cons_self
  have hfollow : follow 0 (d :: digits) = follow d digits := by
    rw [follow_cons, Nat.zero_mul, Nat.zero_add]
  rw [hfollow] at hbound hafter
  have hloop : Gives (withFuel fun fuel =>
      exponentDigits negative negativeExponent significand scale fuel d) (digitBytes digits)
      outcome := by
    apply gives_withFuel
    intro fuel hfuel
    rw [← List.append_nil (digitBytes digits)] at hfuel ⊢
    refine gives_digitLoop
      (fun fuel n _ => exponentDigits negative negativeExponent significand scale fuel n) 0
      ?_ (fun e he => hsmall e (List.mem_cons_of_mem _ he)) hbound ?_ hfuel
    · intro first fuel n _ d rest outcome hd hnext hgives
      refine gives_bind (gives_peekDigit_cons hd rest) ?_
      dsimp only
      refine gives_bind (gives_discard _ _) ?_
      rw [if_neg (Nat.not_le.mpr hnext)]
      exact hgives
    · intro first fuel
      exact gives_bind (gives_peekDigit []) hafter
  refine gives_bind (gives_discard _ _) (gives_bind (gives_peek _) ?_)
  cases negativeExponent with
  | true =>
      refine gives_bind (gives_discard _ _) (gives_bind (gives_next _ _) ?_)
      dsimp only
      rw [digit?_digitByte hd]
      exact hloop
  | false =>
      refine gives_bind (gives_discard _ _) (gives_bind (gives_next _ _) ?_)
      dsimp only
      rw [digit?_digitByte hd]
      exact hloop

theorem gives_scaled_end {scale : Int}
    (hafter : Gives (float negative significand scale) [] outcome) :
    Gives (scaled negative significand scale) [] outcome :=
  gives_bind (gives_peek _) hafter

theorem gives_scaled_exponent {scale : Int} {bytes : List UInt8}
    (hafter : Gives (exponent negative significand scale) (0x65 :: bytes) outcome) :
    Gives (scaled negative significand scale) (0x65 :: bytes) outcome :=
  gives_bind (gives_peek _) hafter

theorem gives_afterInteger_point {bytes : List UInt8}
    (hafter : Gives (fraction negative significand 0) (0x2E :: bytes) outcome) :
    Gives (afterInteger negative significand) (0x2E :: bytes) outcome :=
  gives_bind (gives_peek _) hafter

theorem gives_afterInteger_exponent {bytes : List UInt8}
    (hafter : Gives (exponent negative significand 0) (0x65 :: bytes) outcome) :
    Gives (afterInteger negative significand) (0x65 :: bytes) outcome :=
  gives_bind (gives_peek _) hafter

/-- The digits of an integer part: a zero, or digits that a zero does not lead. -/
inductive WholeDigits : List Nat → Prop where
  | zero : WholeDigits [0]
  | led {digits : List Nat} (hled : Binary64.LedDigits digits) : WholeDigits digits

theorem gives_unsignedNumber {digits : List Nat} (hdigits : WholeDigits digits)
    (hbound : follow 0 digits < significandBound) (hrest : rest.head?.bind digit? = none)
    (hafter : Gives (afterInteger negative (follow 0 digits)) rest outcome) :
    Gives (unsignedNumber negative) (digitBytes digits ++ rest) outcome := by
  cases hdigits with
  | zero =>
      have hpeek := gives_peekDigit rest
      rw [hrest] at hpeek
      refine gives_bind (gives_next _ _) ?_
      exact gives_bind hpeek hafter
  | led hled =>
      obtain ⟨⟨first, others, rfl, hfirst⟩, hsmall⟩ := hled
      have hfollow : follow 0 (first :: others) = follow first others := by
        rw [follow_cons, Nat.zero_mul, Nat.zero_add]
      rw [hfollow] at hbound hafter
      refine gives_bind (gives_next _ _) ?_
      dsimp only
      rw [digit?_digitByte (hsmall first List.mem_cons_self)]
      obtain ⟨d, rfl⟩ := Nat.exists_eq_succ_of_ne_zero hfirst
      exact gives_integerDigits (fun e he => hsmall e (List.mem_cons_of_mem _ he)) hbound hrest
        hafter

/-- A decimal with a point and no exponent is read in one significand. -/
theorem gives_pointed {whole part : List Nat} (hwhole : WholeDigits whole)
    (hpart : ∀ d ∈ part, d < 10) (hnonempty : part ≠ [])
    (hbound : follow 0 (whole ++ part) < significandBound) {tail : List UInt8}
    (htail : tail.head?.bind digit? = none)
    (hafter : Gives (scaled negative (follow 0 (whole ++ part)) (0 - part.length)) tail outcome) :
    Gives (unsignedNumber negative) (digitBytes whole ++ 0x2E :: (digitBytes part ++ tail))
      outcome := by
  rw [follow_append] at hbound hafter
  apply gives_unsignedNumber hwhole ((le_follow _ part).trans_lt hbound) rfl
  exact gives_afterInteger_point (gives_fractionDigits hpart hnonempty hbound htail hafter)

theorem exists_gives_float (negative : Bool) (significand : Nat) (exponent : Int)
    (hdigits : significand ≤ 10 ^ 18)
    (hrange : 0 ≤ exponent → significand * 10 ^ exponent.toNat ≤ Binary64.greatest) :
    ∃ read, Gives (float negative significand exponent) [] (some (.float read, [])) := by
  obtain ⟨x, hx⟩ := Option.isSome_iff_exists.mp
    (Binary64.ofDecimal?_isSome negative hdigits hrange)
  refine ⟨x, ?_⟩
  unfold float
  rw [hx]
  exact gives_pure _ _

theorem lt_significandBound {n : Nat} (hn : n ≤ 10 ^ 18) : n < significandBound :=
  hn.trans_lt (by decide)

end Parts

end Json.Scan

open Json.Scan Utf8 Binary64

theorem natChars_eq (n : Nat) : natChars n = digitChars (digitsOf n) := by
  have hchar : ∀ c ∈ Nat.toDigits 10 n, Char.ofNat ('0'.toNat + (c.toNat - '0'.toNat)) = c := by
    intro c hc
    have hrange := isDigit_iff.mp (isDigit_of_mem_toDigits hc)
    have hzero : '0'.toNat = 48 := rfl
    rw [Nat.add_sub_cancel' (by omega), Char.ofNat_toNat]
  rw [natChars, digitChars, digitsOf, List.map_map]
  exact ((List.map_congr_left hchar).trans (List.map_id' _)).symm

theorem small_digitsOf (n : Nat) : ∀ d ∈ digitsOf n, d < 10 := by
  intro d hd
  obtain ⟨c, hc, rfl⟩ := List.mem_map.mp hd
  have hrange := isDigit_iff.mp (isDigit_of_mem_toDigits hc)
  have hzero : '0'.toNat = 48 := rfl
  omega

theorem wholeDigits_digitsOf (n : Nat) : WholeDigits (digitsOf n) := by
  by_cases hn : n = 0
  · subst hn
    exact .zero
  · exact .led (ledDigits_digitsOf hn)

theorem digitChars_append (first second : List Nat) :
    digitChars (first ++ second) = digitChars first ++ digitChars second :=
  List.map_append

theorem digitChars_zeros (n : Nat) : digitChars (List.replicate n 0) = List.replicate n '0' :=
  List.map_replicate

theorem ledDigits_append {first second : List Nat} (hfirst : LedDigits first)
    (hsecond : ∀ d ∈ second, d < 10) : LedDigits (first ++ second) := by
  obtain ⟨⟨d, rest, rfl, hd⟩, hsmall⟩ := hfirst
  refine ⟨⟨d, rest ++ second, rfl, hd⟩, ?_⟩
  intro e he
  rcases List.mem_append.mp he with he | he
  · exact hsmall e he
  · exact hsecond e he

theorem ledDigits_take {digits : List Nat} (h : LedDigits digits) {n : Nat} (hn : 0 < n) :
    LedDigits (digits.take n) := by
  obtain ⟨⟨d, rest, rfl, hd⟩, hsmall⟩ := h
  obtain ⟨m, rfl⟩ : ∃ m, n = m + 1 := ⟨n - 1, by omega⟩
  refine ⟨⟨d, rest.take m, rfl, hd⟩, ?_⟩
  intro e he
  exact hsmall e (List.mem_of_mem_take he)

/-- Positional notation is digits with a point after the first of them or later. What
all of them make has at most one digit more than there are places before the point. -/
theorem positional_eq {ds : List Nat} (hds : LedDigits ds) (hvalue : follow 0 ds ≤ 10 ^ 17)
    {point : Int} (hpoint : point ≤ 16) :
    ∃ whole part, FloatLayout.positional ds point = digitChars whole ++ '.' :: digitChars part ∧
      WholeDigits whole ∧ (∀ d ∈ whole ++ part, d < 10) ∧ part ≠ [] ∧
      follow 0 (whole ++ part) ≤ 10 ^ 17 := by
  have hzeros (n : Nat) : ∀ d ∈ List.replicate n 0, d < 10 := by
    intro d hd
    rw [List.eq_of_mem_replicate hd]
    decide
  have hsomeDigit : ds ≠ [] := by
    obtain ⟨⟨d, rest, rfl, -⟩, -⟩ := hds
    exact List.cons_ne_nil _ _
  unfold FloatLayout.positional
  split
  case isTrue =>
    refine ⟨[0], List.replicate point.natAbs 0 ++ ds, ?_, .zero, ?_, by simp [hsomeDigit], ?_⟩
    · rw [digitChars_append, digitChars_zeros]
      rfl
    · intro d hd
      rw [List.cons_append, List.nil_append, List.mem_cons, List.mem_append] at hd
      rcases hd with rfl | hd | hd
      · decide
      · exact hzeros _ d hd
      · exact hds.small d hd
    · rw [follow_append, follow_append, follow_zeros]
      change follow (0 * 10 ^ point.natAbs) ds ≤ _
      rwa [Nat.zero_mul]
  case isFalse hpositive =>
    dsimp only
    split
    case isTrue hlength =>
      have hsmall : ∀ d ∈ ds ++ List.replicate (point.toNat - ds.length) 0 ++ [0], d < 10 := by
        intro d hd
        rw [List.append_assoc, List.mem_append, List.mem_append, List.mem_singleton] at hd
        rcases hd with hd | hd | rfl
        · exact hds.small d hd
        · exact hzeros _ d hd
        · decide
      refine ⟨ds ++ List.replicate (point.toNat - ds.length) 0, [0], ?_,
        .led (ledDigits_append hds (hzeros _)), hsmall, List.cons_ne_nil _ _, ?_⟩
      · rw [digitChars_append, digitChars_zeros]
        rfl
      · have hplaces : (ds ++ List.replicate (point.toNat - ds.length) 0 ++ [0]).length ≤ 17 := by
          simp only [List.length_append, List.length_replicate, List.length_singleton]
          omega
        have hbound := follow_lt hsmall 0
        rw [Nat.zero_add, Nat.one_mul] at hbound
        exact hbound.le.trans (Nat.pow_le_pow_right (by decide) hplaces)
    case isFalse hlonger =>
      refine ⟨ds.take point.toNat, ds.drop point.toNat, rfl,
        .led (ledDigits_take hds (by omega)), ?_, ?_, ?_⟩
      · rw [List.take_append_drop]
        exact hds.small
      · rw [Ne, List.drop_eq_nil_iff]
        omega
      · rwa [List.take_append_drop]

theorem encodeChars_pointed {whole part : List Nat} (hsmall : ∀ d ∈ whole ++ part, d < 10)
    (tail : List Char) :
    encodeChars (digitChars whole ++ '.' :: (digitChars part ++ tail)) =
      digitBytes whole ++ 0x2E :: (digitBytes part ++ encodeChars tail) := by
  have hwhole : ∀ d ∈ whole, d < 10 := by
    intro d hd
    exact hsmall d (List.mem_append_left _ hd)
  have hpart : ∀ d ∈ part, d < 10 := by
    intro d hd
    exact hsmall d (List.mem_append_right _ hd)
  have hpoint : encodeChar '.' = [0x2E] := rfl
  rw [encodeChars_append, encodeChars_cons, encodeChars_append, encodeChars_digitChars hwhole,
    encodeChars_digitChars hpart, hpoint]
  rfl

/-- Positional notation is read as a float. -/
theorem exists_gives_positional (negative : Bool) {ds : List Nat} (hds : LedDigits ds)
    (hvalue : follow 0 ds ≤ 10 ^ 17) {point : Int} (hpoint : point ≤ 16) :
    ∃ read, Gives (unsignedNumber negative) (encodeChars (FloatLayout.positional ds point))
      (some (.float read, [])) := by
  obtain ⟨whole, part, hchars, hwhole, hsmall, hnonempty, hmade⟩ :=
    positional_eq hds hvalue hpoint
  have hplaces : 0 < part.length := List.length_pos_iff.mpr hnonempty
  have hdigits : follow 0 (whole ++ part) ≤ 10 ^ 18 := hmade.trans (by decide)
  obtain ⟨read, hread⟩ := exists_gives_float negative _ (0 - part.length) hdigits (by omega)
  have hbytes := encodeChars_pointed hsmall []
  rw [List.append_nil, ← hchars] at hbytes
  refine ⟨read, ?_⟩
  rw [hbytes]
  exact gives_pointed hwhole (fun d hd => hsmall d (List.mem_append_right _ hd)) hnonempty
    (lt_significandBound hdigits) rfl (gives_scaled_end hread)

/-- The letter, the sign and the digits of an exponent move the scale. -/
theorem gives_writtenExponent {negative : Bool} {significand : Nat} {scale exponent : Int}
    (hbound : exponent.natAbs < exponentBound) {outcome : Option (Number × List UInt8)}
    (hafter : Gives (float negative significand (scale + exponent)) [] outcome) :
    ∃ bytes, encodeChars ('e' :: (if exponent < 0 then '-' else '+') :: natChars exponent.natAbs) =
        0x65 :: bytes ∧
      Gives (Json.Scan.exponent negative significand scale) (0x65 :: bytes) outcome := by
  obtain ⟨d, digits, hdigits⟩ : ∃ d digits, digitsOf exponent.natAbs = d :: digits := by
    cases hdigits : digitsOf exponent.natAbs with
    | nil =>
        have hempty : Nat.toDigits 10 exponent.natAbs = [] := List.map_eq_nil_iff.mp hdigits
        exact absurd hempty Nat.toDigits_ne_nil
    | cons d digits => exact ⟨d, digits, rfl⟩
  have hsmall := small_digitsOf exponent.natAbs
  have hvalue := follow_digitsOf exponent.natAbs
  have hbytes := encodeChars_digitChars hsmall
  rw [← natChars_eq] at hbytes
  rw [hdigits] at hsmall hvalue hbytes
  refine ⟨(if decide (exponent < 0) then 0x2D else 0x2B) :: digitBytes (d :: digits), ?_, ?_⟩
  · have hmark : encodeChar 'e' = [0x65] := rfl
    have hplus : encodeChar '+' = [0x2B] := rfl
    have hminus : encodeChar '-' = [0x2D] := rfl
    rw [encodeChars_cons, encodeChars_cons, hbytes, hmark]
    by_cases hsign : exponent < 0
    · simp [hsign, hminus]
    · simp [hsign, hplus]
  · apply gives_exponent hsmall (by rwa [hvalue])
    have hmoved : (if decide (exponent < 0) = true then scale - follow 0 (d :: digits)
        else scale + follow 0 (d :: digits)) = scale + exponent := by
      rw [hvalue]
      by_cases hsign : exponent < 0
      · rw [if_pos (decide_eq_true hsign)]
        omega
      · rw [if_neg (by simpa using hsign)]
        omega
    rwa [hmoved]

/-- Exponential notation is read as a float. -/
theorem exists_gives_exponential (negative : Bool) {ds : List Nat} (hds : LedDigits ds)
    (hvalue : follow 0 ds ≤ 10 ^ 17) {point : Int} (hlow : -330 ≤ point) (hhigh : point ≤ 311)
    (hrange : 0 ≤ point - ds.length →
      follow 0 ds * 10 ^ (point - ds.length).toNat ≤ greatest) :
    ∃ read, Gives (unsignedNumber negative) (encodeChars (FloatLayout.exponential ds point))
      (some (.float read, [])) := by
  have hdigits : follow 0 ds ≤ 10 ^ 18 := hvalue.trans (by decide)
  obtain ⟨read, hread⟩ := exists_gives_float negative _ _ hdigits hrange
  have hbound : (point - 1).natAbs < exponentBound := by
    have hlarge : 1000 ≤ exponentBound := by decide
    omega
  have hnoDigit (bytes : List UInt8) : (0x65 :: bytes : List UInt8).head?.bind digit? = none := rfl
  refine ⟨read, ?_⟩
  obtain ⟨first, rest, rfl, -⟩ := hds.led
  have hone : LedDigits [first] := ledDigits_take hds Nat.one_pos
  have hexponent : point - (first :: rest).length = 0 - rest.length + (point - 1) := by
    rw [List.length_cons]
    omega
  rw [hexponent] at hread
  obtain ⟨bytes, hbytes, hgives⟩ := gives_writtenExponent hbound hread
  cases rest with
  | nil =>
      have hchars : FloatLayout.exponential [first] point = digitChars [first] ++
          'e' :: (if point - 1 < 0 then '-' else '+') :: natChars (point - 1).natAbs := by
        rw [FloatLayout.exponential, List.append_assoc, List.append_assoc]
        rfl
      rw [hchars, encodeChars_append, hbytes, encodeChars_digitChars hone.small]
      exact gives_unsignedNumber (.led hone) (lt_significandBound hdigits) (hnoDigit bytes)
        (gives_afterInteger_exponent hgives)
  | cons second others =>
      have hchars : FloatLayout.exponential (first :: second :: others) point =
          digitChars [first] ++ '.' :: (digitChars (second :: others) ++
            'e' :: (if point - 1 < 0 then '-' else '+') :: natChars (point - 1).natAbs) := by
        rw [FloatLayout.exponential, List.append_assoc, List.append_assoc]
        rfl
      rw [hchars, encodeChars_pointed hds.small, hbytes]
      exact gives_pointed (.led hone) (fun d hd => hds.small d (List.mem_cons_of_mem _ hd))
        (List.cons_ne_nil _ _) (lt_significandBound hdigits) (hnoDigit bytes)
        (gives_scaled_exponent hgives)

/-- A number is read after its sign, if it has one: an unsigned numeral does not start
with one. -/
theorem gives_signed {cs : List Char} (hcs : IsUnsigned cs) (negative : Bool)
    {outcome : Option (Number × List UInt8)}
    (h : Gives (unsignedNumber negative) (encodeChars cs) outcome) :
    Gives Json.Scan.number (encodeChars (if negative then '-' :: cs else cs)) outcome := by
  cases negative with
  | true => exact gives_bind (gives_peek _) (gives_bind (gives_discard _ _) h)
  | false =>
      refine gives_bind (gives_peek _) ?_
      obtain ⟨integer, point, text, hbytes, hinteger, -⟩ := hcs
      obtain ⟨digit, digits, rfl, hdigit⟩ := exists_digit_of_isInteger hinteger
      have hne : (some digit == some (0x2D : UInt8)) = false := by
        rw [beq_eq_false_iff_ne]
        intro heq
        rw [Option.some.inj heq] at hdigit
        exact absurd hdigit (by decide)
      rw [if_neg Bool.false_ne_true, hbytes, List.cons_append, List.head?_cons, hne,
        if_neg Bool.false_ne_true, ← List.cons_append, ← hbytes]
      exact h

/-- What is written for a float is read as a float. -/
theorem exists_gives_float_chars (x : Binary64) :
    ∃ read, Gives Json.Scan.number (encodeChars x.chars) (some (.float read, [])) := by
  have hunsigned : ∃ read, Gives (unsignedNumber x.negative)
      (encodeChars (magnitudeChars x.magnitude)) (some (.float read, [])) := by
    unfold magnitudeChars
    split
    case isTrue =>
      obtain ⟨read, hread⟩ := exists_gives_float x.negative 0 (0 - (1 : Nat)) (by decide) (by omega)
      refine ⟨read, ?_⟩
      have hpart : ∀ d ∈ [0], d < 10 := by decide
      exact gives_pointed .zero hpart (by decide) (by decide) rfl (gives_scaled_end hread)
    case isFalse hnonzero =>
      obtain ⟨hvalue, hrange, hlow, hhigh⟩ := shortest_bounds hnonzero x.finite
      have hdigits := ledDigits_shortest hnonzero
      unfold FloatLayout.write
      split
      case isTrue hplaces =>
        rw [Bool.and_eq_true, decide_eq_true_eq, decide_eq_true_eq] at hplaces
        exact exists_gives_positional x.negative hdigits hvalue hplaces.2
      case isFalse =>
        exact exists_gives_exponential x.negative hdigits hvalue hlow hhigh hrange
  obtain ⟨read, hread⟩ := hunsigned
  refine ⟨read, ?_⟩
  rw [x.chars_eq]
  exact gives_signed (isUnsigned_magnitudeChars _) x.negative hread

/-- The integers of 64 bits, with a sign or without. -/
def Number.Fits : Number → Prop
  | .integer n => -2 ^ 63 ≤ n ∧ n < 2 ^ 64
  | .float _ => True

/-- At the end of an integer that fits its value is known. -/
theorem gives_afterInteger_end {n : Int} (h : (Number.integer n).Fits) :
    Gives (afterInteger (decide (n < 0)) n.natAbs) [] (some (.integer n, [])) := by
  have hhalf : UInt64.size / 2 = 2 ^ 63 := by decide
  obtain ⟨hlow, -⟩ := h
  unfold afterInteger
  refine gives_bind (gives_peek _) ?_
  rw [hhalf, List.head?_nil, if_neg (by decide), if_neg (by decide)]
  by_cases hnegative : n < 0
  · have hsame : (-n.natAbs : Int) = n := by omega
    rw [if_neg (by simpa using hnegative), hsame, if_pos]
    · exact gives_pure _ _
    · rw [Bool.and_eq_true, decide_eq_true_eq, decide_eq_true_eq]
      omega
  · have hsame : (n.natAbs : Int) = n := by omega
    rw [if_pos (by simpa using hnegative), hsame]
    exact gives_pure _ _

/-- An integer that fits is read as itself. -/
theorem gives_intChars {n : Int} (h : (Number.integer n).Fits) :
    Gives Json.Scan.number (encodeChars (intChars n)) (some (.integer n, [])) := by
  have hfits : n.natAbs < significandBound := by
    have hsize : significandBound = 2 ^ 64 := rfl
    rw [hsize]
    obtain ⟨hlow, hhigh⟩ := h
    omega
  have hunsigned : Gives (unsignedNumber (decide (n < 0))) (encodeChars (natChars n.natAbs))
      (some (.integer n, [])) := by
    have hbytes := encodeChars_digitChars (small_digitsOf n.natAbs)
    rw [natChars_eq, hbytes, ← List.append_nil (digitBytes _)]
    apply gives_unsignedNumber (wholeDigits_digitsOf n.natAbs) (by rwa [follow_digitsOf]) rfl
    rw [follow_digitsOf]
    exact gives_afterInteger_end h
  have hchars : intChars n =
      if decide (n < 0) then '-' :: natChars n.natAbs else natChars n.natAbs := by
    simp [intChars]
  rw [hchars]
  exact gives_signed (isUnsigned_natChars _) _ hunsigned

/-- The float that is read of the text of a float. -/
def Binary64.reread (x : Binary64) : Binary64 :=
  match (Number.float x).reread? with
  | some (.float read) => read
  | _ => x

theorem Binary64.reread?_eq (x : Binary64) : (Number.float x).reread? = some (.float x.reread) := by
  obtain ⟨read, hread⟩ := exists_gives_float_chars x
  obtain ⟨line, column, hrun⟩ := hread 1 0
  have hchars : (Number.float x).chars = x.chars := rfl
  have hread : (Number.float x).reread? = some (.float read) := by
    rw [Number.reread?, hchars, hrun]
  rw [reread, hread]

/-- An integer that fits is read as itself. -/
theorem Number.reread?_of_fits {n : Number} (h : n.Fits) :
    n.reread? = some (n.mapFloat Binary64.reread) := by
  cases n with
  | integer n =>
      obtain ⟨line, column, hrun⟩ := gives_intChars h 1 0
      have hchars : (Number.integer n).chars = intChars n := rfl
      rw [reread?, hchars, hrun]
      rfl
  | float x => exact x.reread?_eq

end MessageContract
