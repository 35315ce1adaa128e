import MessageContract.Proofs.Number.Rounding
import MessageContract.Proofs.Number.Shortest

/-!
The shortest decimal of a double. On the grid of seventeen digits one of the two
neighbours of a double lies in its interval, so the search for digits ends there at
the latest, and what it finds lies in the interval. It therefore has no more than
seventeen digits and does not exceed the greatest double.
-/

namespace MessageContract.Binary64

/-- The number whose digits are those of a number and then the given ones. -/
def follow (start : Nat) (digits : List Nat) : Nat :=
  digits.foldl (fun n d => n * 10 + d) start

theorem follow_cons (start d : Nat) (digits : List Nat) :
    follow start (d :: digits) = follow (start * 10 + d) digits := rfl

theorem follow_append (start : Nat) (first second : List Nat) :
    follow start (first ++ second) = follow (follow start first) second :=
  List.foldl_append

theorem follow_zeros (start n : Nat) : follow start (List.replicate n 0) = start * 10 ^ n := by
  induction n generalizing start with
  | zero => simp [follow]
  | succ n ih => rw [List.replicate_succ, follow_cons, ih, pow_succ]; ring

theorem follow_lt {digits : List Nat} (hsmall : ∀ d ∈ digits, d < 10) (start : Nat) :
    follow start digits < (start + 1) * 10 ^ digits.length := by
  induction digits generalizing start with
  | nil => simp [follow]
  | cons d digits ih =>
      have hd : d < 10 := hsmall d List.mem_cons_self
      have hrest := ih (fun e he => hsmall e (List.mem_cons_of_mem _ he)) (start * 10 + d)
      rw [follow_cons, List.length_cons, pow_succ]
      calc
        follow (start * 10 + d) digits < (start * 10 + d + 1) * 10 ^ digits.length := hrest
        _ ≤ (start + 1) * 10 * 10 ^ digits.length := Nat.mul_le_mul_right _ (by omega)
        _ = (start + 1) * (10 ^ digits.length * 10) := by ring

theorem le_follow (start : Nat) (digits : List Nat) : start ≤ follow start digits := by
  induction digits generalizing start with
  | nil => exact Nat.le.refl
  | cons d digits ih =>
      rw [follow_cons]
      exact (show start ≤ start * 10 + d by omega).trans (ih _)

/-- The digits of a number make the number. -/
theorem follow_digitsOf (n : Nat) : follow 0 (digitsOf n) = n := by
  have hsame : (fun (a : Nat) (c : Char) => a * 10 + (c.toNat - '0'.toNat)) =
      fun a c => 10 * a + (c.toNat - '0'.toNat) := by
    funext a c
    rw [Nat.mul_comm]
  rw [follow, digitsOf, List.foldl_map, hsame]
  exact Nat.ofDigitChars_toDigits (by decide) (by decide)

/-- The zeros that are dropped make a power of ten. -/
theorem exists_trailing_zeros (digits : List Nat) :
    ∃ n, digits = dropTrailingZeros digits ++ List.replicate n 0 := by
  refine ⟨(digits.reverse.takeWhile (· == 0)).length, ?_⟩
  have hzeros : digits.reverse.takeWhile (· == 0) =
      List.replicate (digits.reverse.takeWhile (· == 0)).length 0 := by
    rw [List.eq_replicate_iff]
    refine ⟨rfl, ?_⟩
    intro d hd
    simpa using List.all_eq_true.mp List.all_takeWhile d hd
  have hsplit := List.takeWhile_append_dropWhile (p := (· == 0)) (l := digits.reverse)
  have hback := congrArg List.reverse hsplit
  rw [List.reverse_append, List.reverse_reverse, hzeros, List.reverse_replicate] at hback
  exact hback.symm

/-! The position of the first digit. -/

/-- The quotient reaches a position or not, on a grid that is finer by `n` digits. -/
theorem reachesPoint_iff {num den n : Nat} {exponent : Int} :
    ReachesPoint num den (exponent + n + 1) ↔
      den * 10 ^ exponent.toNat * 10 ^ n ≤ num * 10 ^ (-exponent).toNat := by
  obtain ⟨m, hup, hdown⟩ : ∃ m, exponent.toNat + n = (exponent + n).toNat + m ∧
      (-exponent).toNat = (-(exponent + n)).toNat + m :=
    ⟨(-exponent).toNat - (-(exponent + n)).toNat, by omega, by omega⟩
  have hlast : (1 - (exponent + n + 1)).toNat = (-(exponent + n)).toNat := by omega
  rw [ReachesPoint, Int.add_sub_cancel, hlast, Nat.mul_assoc, ← pow_add, hup, hdown, pow_add,
    pow_add, ← Nat.mul_assoc, ← Nat.mul_assoc, Nat.mul_le_mul_right_iff (Nat.pow_pos (by decide))]

theorem not_reachesPoint_pointOf {num den : Nat} (fuel : Nat) {point : Int}
    (hfirst : ¬ ReachesPoint num den (point + 1)) :
    ¬ ReachesPoint num den (pointOf num den fuel point + 1) := by
  induction fuel generalizing point with
  | zero => exact hfirst
  | succ fuel ih =>
      unfold pointOf
      split
      case isTrue => exact hfirst
      case isFalse hnot =>
        apply ih
        rwa [Int.sub_add_cancel]

theorem pointOf_range (num den fuel : Nat) (point : Int) :
    point - fuel ≤ pointOf num den fuel point ∧ pointOf num den fuel point ≤ point := by
  induction fuel generalizing point with
  | zero => simp [pointOf]
  | succ fuel ih =>
      unfold pointOf
      split
      · omega
      · have hrest := ih (point - 1)
        omega

/-! The interval of a double. -/

namespace Interval

variable {i : Interval}

theorem holds_of_lt {d : Nat} {exponent : Int}
    (hlow : i.low * 10 ^ (-exponent).toNat < d * (i.den * 10 ^ exponent.toNat))
    (hhigh : d * (i.den * 10 ^ exponent.toNat) < i.high * 10 ^ (-exponent).toNat) :
    i.holds d exponent = true := by
  have hnumber : d * (i.den * 10 ^ exponent.toNat) = d * 10 ^ exponent.toNat * i.den := by ring
  rw [hnumber] at hlow hhigh
  unfold holds
  dsimp only
  split
  · rw [Bool.and_eq_true, decide_eq_true_eq, decide_eq_true_eq]
    exact ⟨hlow.le, hhigh.le⟩
  · rw [Bool.and_eq_true, decide_eq_true_eq, decide_eq_true_eq]
    exact ⟨hlow, hhigh⟩

theorem le_high_of_holds {d : Nat} {exponent : Int} (h : i.holds d exponent = true) :
    d * 10 ^ exponent.toNat * i.den ≤ i.high * 10 ^ (-exponent).toNat := by
  unfold holds at h
  dsimp only at h
  split at h
  · rw [Bool.and_eq_true, decide_eq_true_eq, decide_eq_true_eq] at h
    exact h.2
  · rw [Bool.and_eq_true, decide_eq_true_eq, decide_eq_true_eq] at h
    exact h.2.le

/-- What the ends of an interval are: some units of the double's own precision from
its middle, of which there are no more than 2 ^ 53. -/
structure Spread (i : Interval) (significand unit below : Nat) : Prop where
  value : i.value = 4 * significand * unit
  low : i.low + below * unit = i.value
  high : i.high = i.value + 2 * unit
  unit_pos : 0 < unit
  precision : significand < 2 ^ 53
  below_one_or_two : below = 2 ∨ below = 1 ∧ significand = 2 ^ 52

/-- A neighbour on a grid of seventeen digits is in the interval if it is no farther
than the other one: half a step of the grid is less than the half of a unit. -/
theorem holds_nearer {significand unit below : Nat} (h : i.Spread significand unit below)
    (hden : 0 < i.den) {exponent : Int}
    (hgrid : i.den * 10 ^ exponent.toNat * 10 ^ 16 ≤ i.value * 10 ^ (-exponent).toNat) :
    let num := i.value * 10 ^ (-exponent).toNat
    let den := i.den * 10 ^ exponent.toNat
    (2 * (num % den) ≤ den → i.holds (num / den) exponent = true) ∧
      (den ≤ 2 * (num % den) → i.holds (num / den + 1) exponent = true) := by
  intro num den
  have hsplit : den * (num / den) + num % den = num := Nat.div_add_mod num den
  have hrest : num % den < den :=
    Nat.mod_lt _ (Nat.mul_pos hden (Nat.pow_pos (by decide)))
  obtain ⟨scaled, hscaled⟩ : ∃ scaled, scaled = unit * 10 ^ (-exponent).toNat := ⟨_, rfl⟩
  have hscaledPos : 0 < scaled := by
    rw [hscaled]
    exact Nat.mul_pos h.unit_pos (Nat.pow_pos (by decide))
  have hmiddle : num = 4 * (significand * scaled) := by
    rw [hscaled]
    simp only [num, h.value]
    ring
  have hhigh : i.high * 10 ^ (-exponent).toNat = num + 2 * scaled := by
    rw [hscaled, h.high, Nat.add_mul]
    ring
  have hlow : i.low * 10 ^ (-exponent).toNat + below * scaled = num := by
    rw [hscaled, ← Nat.mul_assoc, ← Nat.add_mul, h.low]
  have hprecision : significand * scaled ≤ (2 ^ 53 - 1) * scaled :=
    Nat.mul_le_mul_right _ (Nat.le_sub_one_of_lt h.precision)
  have hbelow : below * scaled = 2 * scaled ∨
      below * scaled = scaled ∧ significand * scaled = 2 ^ 52 * scaled := by
    rcases h.below_one_or_two with rfl | ⟨rfl, rfl⟩
    · exact .inl rfl
    · exact .inr ⟨Nat.one_mul _, rfl⟩
  have hnext : (num / den + 1) * den = den * (num / den) + den := by ring
  constructor
  · intro hnear
    apply holds_of_lt
    · rw [Nat.mul_comm (num / den)]
      change _ < den * (num / den)
      omega
    · rw [Nat.mul_comm (num / den)]
      change den * (num / den) < _
      omega
  · intro hnear
    apply holds_of_lt
    · change _ < (num / den + 1) * den
      omega
    · change (num / den + 1) * den < _
      omega

theorem onGrid?_isSome {significand unit below : Nat} (h : i.Spread significand unit below)
    (hden : 0 < i.den) {point : Int} (hpoint : ReachesPoint i.value i.den point) :
    (i.onGrid? point 17).isSome := by
  have hgrid : i.den * 10 ^ (point - (17 : Nat)).toNat * 10 ^ 16 ≤
      i.value * 10 ^ (-(point - (17 : Nat))).toNat := by
    rw [← reachesPoint_iff]
    have hsame : point - (17 : Nat) + (16 : Nat) + 1 = point := by omega
    rwa [hsame]
  obtain ⟨hbelow, habove⟩ := holds_nearer h hden hgrid
  unfold onGrid?
  simp only [Nat.pow_eq]
  generalize hnum : i.value * 10 ^ (-(point - (17 : Nat))).toNat = num at hbelow habove ⊢
  generalize hden' : i.den * 10 ^ (point - (17 : Nat)).toNat = den at hbelow habove ⊢
  by_cases hnear : 2 * (num % den) ≤ den
  · rw [hbelow hnear]
    by_cases hin : i.holds (num / den + 1) (point - (17 : Nat)) = true
    · rw [if_pos hin]
      split <;> rfl
    · rw [Bool.not_eq_true] at hin
      rw [hin]
      simp
  · rw [habove (by omega), if_pos rfl]
    split <;> rfl

/-- What is found on a grid is a neighbour on it that lies in the interval. -/
theorem onGrid?_eq_some {point : Int} {count : Nat} {found : Decimal}
    (h : i.onGrid? point count = some found) :
    ∃ d, found = .ofCandidate d count point ∧ i.holds d (point - count) = true ∧
      i.value * 10 ^ (-(point - count)).toNat / (i.den * 10 ^ (point - count).toNat) ≤ d ∧
      d ≤ i.value * 10 ^ (-(point - count)).toNat / (i.den * 10 ^ (point - count).toNat) + 1 := by
  unfold onGrid? at h
  simp only [Nat.pow_eq] at h
  split at h
  case isTrue hin =>
    rw [Bool.and_eq_true] at hin
    exact ⟨_, (Option.some.inj h).symm, hin.1, Nat.le.refl, Nat.le_succ _⟩
  case isFalse =>
    split at h
    case isTrue hin => exact ⟨_, (Option.some.inj h).symm, hin, Nat.le_succ _, Nat.le.refl⟩
    case isFalse => cases h

/-- The search ends at the first grid that has a neighbour in the interval. -/
theorem firstGrid_of_isSome {point : Int} (fuel : Nat) {count last : Nat} (hlast : count ≤ last)
    (hfuel : last < count + fuel) (hfound : (i.onGrid? point last).isSome) :
    ∃ n, count ≤ n ∧ n ≤ last ∧ i.onGrid? point n = some (i.firstGrid point fuel count) := by
  induction fuel generalizing count with
  | zero => omega
  | succ fuel ih =>
      unfold firstGrid
      split
      case h_1 d hd => exact ⟨count, Nat.le.refl, hlast, hd⟩
      case h_2 hnone =>
        have hne : count ≠ last := by
          rintro rfl
          rw [hnone] at hfound
          cases hfound
        obtain ⟨n, hn, hnLast, hgrid⟩ := ih (show count + 1 ≤ last by omega) (by omega)
        exact ⟨n, by omega, hnLast, hgrid⟩

end Interval

theorem significandOf_lt (magnitude : Nat) : significandOf magnitude < 2 ^ 53 := by
  simp only [significandOf, Nat.pow_eq]
  split <;> omega

/-- The ends are half a unit away, the lower one a quarter of it at a power of two. -/
theorem spread_interval {magnitude : Nat} (h : magnitude ≠ 0) :
    ∃ unit below, (interval magnitude).Spread (significandOf magnitude) unit below := by
  have hpositive : 1 ≤ significandOf magnitude := Nat.pos_of_ne_zero (significandOf_ne_zero h)
  let unit := if scaleOf magnitude < 1074 then 1 else 2 ^ (scaleOf magnitude - 1074)
  let below := if significandOf magnitude = 2 ^ 52 ∧ 0 < scaleOf magnitude then 1 else 2
  have hbelow : below = 2 ∨ below = 1 ∧ significandOf magnitude = 2 ^ 52 := by
    simp only [below]
    split
    case isTrue hpower => exact .inr ⟨rfl, hpower.1⟩
    case isFalse => exact .inl rfl
  have hup : (if scaleOf magnitude < 1074 then (1, 4 * Nat.pow 2 (1074 - scaleOf magnitude))
      else (Nat.pow 2 (scaleOf magnitude - 1074), 4)).1 = unit := by
    simp only [unit]
    split <;> rfl
  refine ⟨unit, below, ?_, ?_, ?_, ?_, significandOf_lt magnitude, hbelow⟩
  · simp only [interval, hup]
  · have hless : below ≤ 4 * significandOf magnitude := by omega
    simp only [interval, hup]
    change (4 * significandOf magnitude - below) * unit + below * unit = _
    rw [← Nat.add_mul, Nat.sub_add_cancel hless]
  · simp only [interval, hup]
    ring
  · simp only [unit]
    split
    · exact Nat.one_pos
    · exact Nat.two_pow_pos _

/-- The upper end is halfway to the next double. -/
theorem high_interval (magnitude : Nat) :
    0 < (interval magnitude).den ∧
    (interval magnitude).value * leastInOne = unitsOf magnitude * (interval magnitude).den ∧
    2 * ((interval magnitude).high * leastInOne) =
      (unitsOf magnitude + unitsOf (magnitude + 1)) * (interval magnitude).den := by
  rw [unitsOf_succ]
  unfold unitsOf interval
  dsimp only
  split
  case isTrue hsmall =>
    rw [leastInOne_eq hsmall.le]
    refine ⟨Nat.mul_pos (by decide) (Nat.two_pow_pos _), ?_, ?_⟩
    · simp only [Nat.pow_eq]
      ring
    · simp only [Nat.pow_eq]
      ring
  case isFalse hlarge =>
    have hpower : 2 ^ scaleOf magnitude = 2 ^ (scaleOf magnitude - 1074) * leastInOne := by
      rw [leastInOne, ← pow_add, Nat.sub_add_cancel (Nat.le_of_not_lt hlarge)]
    refine ⟨Nat.succ_pos 3, ?_, ?_⟩
    · simp only [hpower, Nat.pow_eq]
      ring
    · simp only [hpower, Nat.pow_eq]
      ring

theorem unitsOf_greatest : unitsOf (2047 * Nat.pow 2 52 - 1) = greatest * leastInOne := by
  decide +kernel

theorem unitsOf_le_greatest {magnitude : Nat} (hfinite : magnitude < 2047 * Nat.pow 2 52) :
    unitsOf magnitude ≤ greatest * leastInOne := by
  rw [← unitsOf_greatest]
  exact unitsOf_mono (Nat.le_sub_one_of_lt hfinite)

/-- No double reaches the position where the search for the first digit starts. -/
theorem not_reachesPoint_interval {magnitude : Nat} (hfinite : magnitude < 2047 * Nat.pow 2 52) :
    ¬ ReachesPoint (interval magnitude).value (interval magnitude).den (310 + 1) := by
  obtain ⟨hden, hvalue, -⟩ := high_interval magnitude
  generalize (interval magnitude).den = den at hden hvalue ⊢
  have hup : ((310 : Int) + 1 - 1).toNat = 310 := by decide
  have hdown : (1 - ((310 : Int) + 1)).toNat = 0 := by decide
  rw [ReachesPoint, hup, hdown, pow_zero, Nat.mul_one, Nat.not_le]
  have hgreatest : greatest < 10 ^ 310 := greatest_lt_power (by decide)
  generalize 10 ^ 310 = power at hgreatest ⊢
  refine Nat.lt_of_mul_lt_mul_right (a := leastInOne) ?_
  calc
    (interval magnitude).value * leastInOne = unitsOf magnitude * den := hvalue
    _ ≤ greatest * leastInOne * den := Nat.mul_le_mul_right _ (unitsOf_le_greatest hfinite)
    _ < power * leastInOne * den :=
        Nat.mul_lt_mul_of_pos_right (Nat.mul_lt_mul_of_pos_right hgreatest leastInOne_pos) hden
    _ = den * power * leastInOne := by ring

/-- The shortest decimal is a number in the interval of the double, on a grid of at
most seventeen digits. -/
theorem shortest_eq_ofCandidate {magnitude : Nat} (h : magnitude ≠ 0)
    (hfinite : magnitude < 2047 * Nat.pow 2 52) :
    ∃ d count point, shortest magnitude = .ofCandidate d count point ∧
      0 < count ∧ count ≤ 17 ∧ 10 ^ (count - 1) ≤ d ∧ d ≤ 10 ^ count ∧
      (interval magnitude).holds d (point - count) = true ∧ -330 ≤ point ∧ point ≤ 310 := by
  obtain ⟨hden, hleast⟩ := interval_reachesPoint h
  obtain ⟨unit, below, hspread⟩ := spread_interval h
  have hreached := reachesPoint_pointOf hleast
  have hlast := not_reachesPoint_pointOf 640 (not_reachesPoint_interval hfinite)
  obtain ⟨hpointLow, hpointHigh⟩ := pointOf_range (interval magnitude).value
    (interval magnitude).den 640 310
  unfold shortest
  dsimp only
  generalize pointOf (interval magnitude).value (interval magnitude).den 640 310 = point at *
  generalize interval magnitude = i at *
  have hfound := Interval.onGrid?_isSome hspread (Nat.pos_of_ne_zero hden) hreached
  obtain ⟨count, hcount, hcountLast, hgrid⟩ :=
    Interval.firstGrid_of_isSome 17 (show 1 ≤ 17 by decide) (by decide) hfound
  obtain ⟨d, hd, hholds, hdLow, hdHigh⟩ := Interval.onGrid?_eq_some hgrid
  have hgridPos : 0 < i.den * 10 ^ (point - count).toNat :=
    Nat.mul_pos (Nat.pos_of_ne_zero hden) (Nat.pow_pos (by decide))
  have hfirstDigit : i.den * 10 ^ (point - count).toNat * 10 ^ (count - 1) ≤
      i.value * 10 ^ (-(point - count)).toNat := by
    rw [← reachesPoint_iff]
    have hsame : point - count + (count - 1 : Nat) + 1 = point := by omega
    rwa [hsame]
  have hpast : i.value * 10 ^ (-(point - count)).toNat <
      i.den * 10 ^ (point - count).toNat * 10 ^ count := by
    rw [← Nat.not_le, ← reachesPoint_iff]
    have hsame : point - count + (count : Nat) + 1 = point + 1 := by omega
    rwa [hsame]
  refine ⟨d, count, point, hd, hcount, hcountLast, ?_, ?_, hholds, by omega, hpointHigh⟩
  · apply Nat.le_trans _ hdLow
    rw [Nat.le_div_iff_mul_le hgridPos, Nat.mul_comm]
    exact hfirstDigit
  · have hquotient := Nat.div_lt_of_lt_mul hpast
    omega

/-- What a candidate's digits make, once its zeros have been dropped. -/
theorem ofCandidate_eq {d count : Nat} (hcount : 0 < count) (hlow : 10 ^ (count - 1) ≤ d)
    (hhigh : d ≤ 10 ^ count) (point : Int) :
    ∃ zeros : Nat,
      follow 0 (Decimal.ofCandidate d count point).digits * 10 ^ zeros = d ∧
      (Decimal.ofCandidate d count point).point -
        (Decimal.ofCandidate d count point).digits.length = point - count + zeros ∧
      point ≤ (Decimal.ofCandidate d count point).point ∧
      (Decimal.ofCandidate d count point).point ≤ point + 1 := by
  obtain ⟨zeros, hzeros⟩ := exists_trailing_zeros (digitsOf d)
  have hlength : (digitsOf d).length = (dropTrailingZeros (digitsOf d)).length + zeros := by
    conv_lhs => rw [hzeros]
    rw [List.length_append, List.length_replicate]
  have hvalue : follow 0 (dropTrailingZeros (digitsOf d)) * 10 ^ zeros = d := by
    have hall := follow_digitsOf d
    rw [hzeros, follow_append, follow_zeros] at hall
    exact hall
  have hdigits : (digitsOf d).length = (Nat.toDigits 10 d).length := List.length_map _
  have hmost : (Nat.toDigits 10 d).length ≤ count + 1 := by
    rw [Nat.length_toDigits_le_iff (by decide) (Nat.succ_pos count)]
    exact hhigh.trans_lt (Nat.pow_lt_pow_right (by decide) count.lt_succ_self)
  have hleast : count ≤ (Nat.toDigits 10 d).length := by
    by_contra hshort
    have hpositive : 0 < (Nat.toDigits 10 d).length := Nat.length_toDigits_pos
    have hless : d < 10 ^ (count - 1) := by
      rw [← Nat.length_toDigits_le_iff (by decide) (by omega)]
      omega
    omega
  refine ⟨zeros, hvalue, ?_, ?_, ?_⟩
  · change point + ((digitsOf d).length - count : Nat) -
      (dropTrailingZeros (digitsOf d)).length = _
    omega
  · change point ≤ point + ((digitsOf d).length - count : Nat)
    omega
  · change point + ((digitsOf d).length - count : Nat) ≤ point + 1
    omega

/-- Below the greatest double, a number in the interval of a double does not exceed
the greatest double. -/
theorem le_greatest_of_holds {magnitude d : Nat} {exponent : Int}
    (hnext : magnitude + 1 < 2047 * Nat.pow 2 52)
    (h : (interval magnitude).holds d exponent = true) :
    d * 10 ^ exponent.toNat ≤ greatest * 10 ^ (-exponent).toNat := by
  obtain ⟨hden, -, hhigh⟩ := high_interval magnitude
  have hin := Interval.le_high_of_holds h
  generalize interval magnitude = i at hden hhigh hin
  have hunits : unitsOf magnitude + unitsOf (magnitude + 1) ≤ 2 * (greatest * leastInOne) := by
    have hthis : unitsOf magnitude ≤ unitsOf (magnitude + 1) := unitsOf_mono (Nat.le_succ _)
    have hbound := unitsOf_le_greatest hnext
    omega
  have hend : i.high ≤ greatest * i.den := by
    refine Nat.le_of_mul_le_mul_right (c := 2 * leastInOne) ?_
      (Nat.mul_pos (by decide) leastInOne_pos)
    calc
      i.high * (2 * leastInOne) = 2 * (i.high * leastInOne) := by ring
      _ = (unitsOf magnitude + unitsOf (magnitude + 1)) * i.den := hhigh
      _ ≤ 2 * (greatest * leastInOne) * i.den := Nat.mul_le_mul_right _ hunits
      _ = greatest * i.den * (2 * leastInOne) := by ring
  refine Nat.le_of_mul_le_mul_right ?_ hden
  calc
    d * 10 ^ exponent.toNat * i.den ≤ i.high * 10 ^ (-exponent).toNat := hin
    _ ≤ greatest * i.den * 10 ^ (-exponent).toNat := Nat.mul_le_mul_right _ hend
    _ = greatest * 10 ^ (-exponent).toNat * i.den := Nat.mul_right_comm _ _ _

/-- The exponent of the last digit. -/
def Decimal.exponent (decimal : Decimal) : Int :=
  decimal.point - decimal.digits.length

/-- The shortest decimal has at most seventeen digits, its point is within a few
hundred places, and it does not exceed the greatest double. -/
theorem shortest_bounds {magnitude : Nat} (h : magnitude ≠ 0)
    (hfinite : magnitude < 2047 * Nat.pow 2 52) :
    follow 0 (shortest magnitude).digits ≤ 10 ^ 17 ∧
      (0 ≤ (shortest magnitude).exponent →
        follow 0 (shortest magnitude).digits * 10 ^ (shortest magnitude).exponent.toNat ≤
          greatest) ∧
      -330 ≤ (shortest magnitude).point ∧ (shortest magnitude).point ≤ 311 := by
  by_cases hlast : magnitude = 2047 * Nat.pow 2 52 - 1
  · subst hlast
    have hdigits : shortest (2047 * Nat.pow 2 52 - 1) =
        { digits := [1, 7, 9, 7, 6, 9, 3, 1, 3, 4, 8, 6, 2, 3, 1, 5, 7], point := 309 } := by
      decide +kernel
    rw [hdigits]
    decide +kernel
  obtain ⟨d, count, point, hshortest, hcount, hcountLast, hdLow, hdHigh, hholds, hpointLow,
    hpointHigh⟩ := shortest_eq_ofCandidate h hfinite
  obtain ⟨zeros, hvalue, hexponent, hlow, hhigh⟩ := ofCandidate_eq hcount hdLow hdHigh point
  have hbound := le_greatest_of_holds (by omega) hholds
  rw [← hshortest] at hvalue hexponent hlow hhigh
  change (shortest magnitude).exponent = _ at hexponent
  generalize shortest magnitude = decimal at *
  refine ⟨?_, ?_, hpointLow.trans hlow, by omega⟩
  · calc
      follow 0 decimal.digits ≤ follow 0 decimal.digits * 10 ^ zeros :=
        Nat.le_mul_of_pos_right _ (Nat.pow_pos (by decide))
      _ = d := hvalue
      _ ≤ 10 ^ count := hdHigh
      _ ≤ 10 ^ 17 := Nat.pow_le_pow_right (by decide) hcountLast
  · intro hwhole
    have hpower : zeros + (point - count).toNat =
        decimal.exponent.toNat + (-(point - count)).toNat := by
      omega
    refine Nat.le_of_mul_le_mul_right (c := 10 ^ (-(point - count)).toNat) ?_
      (Nat.pow_pos (by decide))
    calc
      follow 0 decimal.digits * 10 ^ decimal.exponent.toNat * 10 ^ (-(point - count)).toNat
          = follow 0 decimal.digits * 10 ^ zeros * 10 ^ (point - count).toNat := by
          rw [Nat.mul_assoc, ← pow_add, ← hpower, pow_add, Nat.mul_assoc]
      _ = d * 10 ^ (point - count).toNat := by rw [hvalue]
      _ ≤ greatest * 10 ^ (-(point - count)).toNat := hbound

end MessageContract.Binary64
