import Mathlib.Tactic
import MessageContract.Number.Shortest

/-!
The digits of the shortest decimal: there are some, the first of them is no
zero, and each is below ten.
-/

namespace MessageContract.Binary64

/-- Digits as they are written: some, below ten, and not led by a zero. -/
structure LedDigits (digits : List Nat) : Prop where
  led : ∃ first rest, digits = first :: rest ∧ first ≠ 0
  small : ∀ d ∈ digits, d < 10

theorem isDigit_iff {c : Char} : c.isDigit = true ↔ 48 ≤ c.toNat ∧ c.toNat ≤ 57 := by
  simp only [Char.isDigit, Bool.and_eq_true, decide_eq_true_eq, ge_iff_le,
    UInt32.le_iff_toNat_le]
  rfl

/-- The digits of a positive number are not led by a zero. -/
theorem toDigits_led {n : Nat} (hn : n ≠ 0) :
    ∃ c rest, Nat.toDigits 10 n = c :: rest ∧ c ≠ '0' := by
  induction n using Nat.strong_induction_on with
  | _ n ih =>
      by_cases hsmall : n < 10
      · refine ⟨n.digitChar, [], Nat.toDigits_of_lt_base hsmall, ?_⟩
        intro hzero
        have hvalue := Nat.toNat_digitChar_of_lt_ten hsmall
        rw [hzero] at hvalue
        change 48 = 48 + n at hvalue
        omega
      · obtain ⟨c, rest, hdigits, hc⟩ := ih (n / 10) (by omega) (by omega)
        refine ⟨c, rest ++ [(n % 10).digitChar], ?_, hc⟩
        rw [Nat.toDigits_of_base_le (by decide) (by omega), hdigits, List.cons_append]

theorem isDigit_of_mem_toDigits {n : Nat} {c : Char} (hc : c ∈ Nat.toDigits 10 n) :
    c.isDigit = true :=
  Nat.isDigit_of_mem_toDigits (by decide) (by decide) hc

theorem ledDigits_digitsOf {n : Nat} (hn : n ≠ 0) : LedDigits (digitsOf n) := by
  have hzero : '0'.toNat = 48 := rfl
  refine ⟨?_, ?_⟩
  · obtain ⟨c, rest, hdigits, hc⟩ := toDigits_led hn
    have hdigit : c.isDigit = true := isDigit_of_mem_toDigits (n := n) (by simp [hdigits])
    refine ⟨_, _, by rw [digitsOf, hdigits, List.map_cons], ?_⟩
    have hrange := isDigit_iff.mp hdigit
    intro hvalue
    have hnat : c.toNat = '0'.toNat := by omega
    exact hc (by rw [← Char.ofNat_toNat c, hnat, Char.ofNat_toNat])
  · intro d hd
    obtain ⟨c, hc, rfl⟩ := List.mem_map.mp hd
    have hrange := isDigit_iff.mp (isDigit_of_mem_toDigits hc)
    omega

/-- Zeros at the end are dropped, the first digit stays. -/
theorem ledDigits_dropTrailingZeros {digits : List Nat} (h : LedDigits digits) :
    LedDigits (dropTrailingZeros digits) := by
  obtain ⟨⟨first, rest, rfl, hfirst⟩, hsmall⟩ := h
  have hkept : ∃ others, dropTrailingZeros (first :: rest) = first :: others := by
    have hnot : (first == 0) = false := by simpa using hfirst
    unfold dropTrailingZeros
    rw [List.reverse_cons, List.dropWhile_append]
    split
    · exact ⟨[], by simp [List.dropWhile, hnot]⟩
    · exact ⟨(rest.reverse.dropWhile (· == 0)).reverse, by simp⟩
  obtain ⟨others, hothers⟩ := hkept
  refine ⟨⟨first, others, hothers, hfirst⟩, ?_⟩
  intro d hd
  unfold dropTrailingZeros at hd
  have hreversed : d ∈ (first :: rest).reverse :=
    (List.dropWhile_sublist _).mem (List.mem_reverse.mp hd)
  exact hsmall d (List.mem_reverse.mp hreversed)

theorem ledDigits_ofCandidate {d : Nat} (hd : d ≠ 0) (count : Nat) (point : Int) :
    LedDigits (Decimal.ofCandidate d count point).digits :=
  ledDigits_dropTrailingZeros (ledDigits_digitsOf hd)

/-- The quotient reaches the power of ten before a position. -/
def ReachesPoint (num den : Nat) (point : Int) : Prop :=
  den * 10 ^ (point - 1).toNat ≤ num * 10 ^ (1 - point).toNat

/-- The search for the position ends where the quotient reaches it. -/
theorem reachesPoint_pointOf {num den fuel : Nat} {point : Int}
    (hlast : ReachesPoint num den (point - fuel)) :
    ReachesPoint num den (pointOf num den fuel point) := by
  induction fuel generalizing point with
  | zero => simpa [pointOf] using hlast
  | succ fuel ih =>
      unfold pointOf
      split
      case isTrue hfound => exact hfound
      case isFalse =>
        apply ih
        have hsame : point - 1 - (fuel : Int) = point - ((fuel + 1 : Nat) : Int) := by omega
        rwa [hsame]

/-- On a grid finer than the position there is a neighbour below that is no zero. -/
theorem quotient_ne_zero {num den : Nat} (hden : den ≠ 0) {point exponent : Int}
    (hpoint : ReachesPoint num den point) (hexponent : exponent ≤ point - 1) :
    num * 10 ^ (-exponent).toNat / (den * 10 ^ exponent.toNat) ≠ 0 := by
  have hup : exponent.toNat ≤ (point - 1).toNat := by omega
  have hdown : (1 - point).toNat ≤ (-exponent).toNat := by omega
  have hle : den * 10 ^ exponent.toNat ≤ num * 10 ^ (-exponent).toNat :=
    calc
      den * 10 ^ exponent.toNat ≤ den * 10 ^ (point - 1).toNat :=
        Nat.mul_le_mul_left _ (Nat.pow_le_pow_right (by decide) hup)
      _ ≤ num * 10 ^ (1 - point).toNat := hpoint
      _ ≤ num * 10 ^ (-exponent).toNat :=
        Nat.mul_le_mul_left _ (Nat.pow_le_pow_right (by decide) hdown)
  have hpos : 0 < den * 10 ^ exponent.toNat :=
    Nat.mul_pos (Nat.pos_of_ne_zero hden) (Nat.pow_pos (by decide))
  exact (Nat.div_pos hle hpos).ne'

theorem ledDigits_onGrid {i : Interval} (hden : i.den ≠ 0) {point : Int}
    (hpoint : ReachesPoint i.value i.den point) {count : Nat} (hcount : count ≠ 0) {d : Decimal}
    (hd : i.onGrid? point count = some d) : LedDigits d.digits := by
  unfold Interval.onGrid? at hd
  dsimp only at hd
  split at hd
  · obtain rfl := Option.some.inj hd
    exact ledDigits_ofCandidate (quotient_ne_zero hden hpoint (by omega)) _ _
  · split at hd
    · obtain rfl := Option.some.inj hd
      exact ledDigits_ofCandidate (Nat.succ_ne_zero _) _ _
    · cases hd

theorem ledDigits_firstGrid {i : Interval} (hden : i.den ≠ 0) {point : Int}
    (hpoint : ReachesPoint i.value i.den point) (fuel : Nat) {count : Nat} (hcount : count ≠ 0) :
    LedDigits (i.firstGrid point fuel count).digits := by
  induction fuel generalizing count with
  | zero =>
      have hquotient := quotient_ne_zero hden hpoint
        (show min (point - count) 0 ≤ point - 1 by omega)
      have hscale : (-min (point - (count : Int)) 0).toNat = (count - point).toNat := by omega
      have hwhole : (min (point - (count : Int)) 0).toNat = 0 := by omega
      rw [hscale, hwhole, Nat.pow_zero, Nat.mul_one] at hquotient
      exact ledDigits_ofCandidate hquotient _ _
  | succ fuel ih =>
      unfold Interval.firstGrid
      split
      case h_1 hd => exact ledDigits_onGrid hden hpoint hcount hd
      case h_2 => exact ih (Nat.succ_ne_zero count)

theorem significandOf_ne_zero {magnitude : Nat} (h : magnitude ≠ 0) :
    significandOf magnitude ≠ 0 := by
  unfold significandOf
  split
  · exact h
  · have hpow : 0 < Nat.pow 2 52 := by decide
    omega

/-- Thirteen binary digits are fewer than four decimal ones. -/
theorem two_pow_le (n : Nat) {k : Nat} (hk : k ≤ 13 * n + 8) : 2 ^ k ≤ 10 ^ (4 * n + 3) := by
  have hblock : (2 ^ 13) ^ n ≤ (10 ^ 4) ^ n := Nat.pow_le_pow_left (by decide) n
  have hall : 2 ^ (13 * n + 8) ≤ 10 ^ (4 * n + 3) := by
    rw [pow_add, pow_add, pow_mul, pow_mul]
    exact Nat.mul_le_mul hblock (by decide)
  exact (Nat.pow_le_pow_right (by decide) hk).trans hall

/-- The least double is greater than the power of ten where the search ends. -/
theorem interval_reachesPoint {magnitude : Nat} (h : magnitude ≠ 0) :
    (interval magnitude).den ≠ 0 ∧
      ReachesPoint (interval magnitude).value (interval magnitude).den (310 - (640 : Nat)) := by
  have hsignificand : 1 ≤ significandOf magnitude :=
    Nat.pos_of_ne_zero (significandOf_ne_zero h)
  have hscaled {low big : Nat} (hlow : low ≤ big) :
      4 * low ≤ 4 * significandOf magnitude * 1 * big :=
    calc
      4 * low ≤ 4 * big := Nat.mul_le_mul_left 4 hlow
      _ ≤ 4 * significandOf magnitude * 1 * big := Nat.mul_le_mul_right _ (by omega)
  have hgoal (num den : Nat) (hle : den ≤ num * 10 ^ (4 * 82 + 3)) :
      ReachesPoint num den (310 - (640 : Nat)) := by
    have hlow : ((310 : Int) - (640 : Nat) - 1).toNat = 0 := by decide
    have hhigh : (1 - ((310 : Int) - (640 : Nat))).toNat = 4 * 82 + 3 := by decide
    rw [ReachesPoint, hlow, hhigh, Nat.pow_zero, Nat.mul_one]
    exact hle
  unfold interval
  dsimp only
  by_cases hscale : scaleOf magnitude < 1074
  · rw [if_pos hscale]
    refine ⟨Nat.mul_ne_zero (by decide) (Nat.pow_pos (by decide)).ne', hgoal _ _ ?_⟩
    exact hscaled (two_pow_le 82 (Nat.sub_le 1074 _))
  · rw [if_neg hscale]
    refine ⟨(by decide : (4 : Nat) ≠ 0), hgoal _ _ ?_⟩
    have hpos : 1 ≤ 2 ^ (scaleOf magnitude - 1074) := Nat.pow_pos (by decide)
    have hvalue : 4 ≤ 4 * significandOf magnitude * 2 ^ (scaleOf magnitude - 1074) :=
      (show 4 ≤ 4 * significandOf magnitude by omega).trans (Nat.le_mul_of_pos_right _ hpos)
    exact hvalue.trans (Nat.le_mul_of_pos_right _ (pow_pos (by decide) _))

/-- The shortest decimal of a nonzero magnitude has digits, as they are written. -/
theorem ledDigits_shortest {magnitude : Nat} (h : magnitude ≠ 0) :
    LedDigits (shortest magnitude).digits := by
  obtain ⟨hden, hreaches⟩ := interval_reachesPoint h
  exact ledDigits_firstGrid hden (reachesPoint_pointOf hreaches) 17 (by decide)

end MessageContract.Binary64
