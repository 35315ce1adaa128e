import Mathlib.Tactic
import MessageContract.Number.Binary64

/-!
Rounding grows with what is rounded. So a decimal is read, and not refused as too
great, if it is at most the greatest double and its significand is not too long:
the significand, the power of ten and their product are rounded one after the
other, but never past what comes of the greatest decimal of that scale.
-/

namespace MessageContract.Binary64

/-- A smaller quotient is rounded to a smaller integer. -/
theorem nearestEven_mono {num den num' den' : Nat} (hden : 0 < den) (hden' : 0 < den')
    (h : num * den' ≤ num' * den) : nearestEven num den ≤ nearestEven num' den' := by
  have hsplit : den * (num / den) + num % den = num := Nat.div_add_mod num den
  have hsplit' : den' * (num' / den') + num' % den' = num' := Nat.div_add_mod num' den'
  have hrest : num % den < den := Nat.mod_lt _ hden
  have hrest' : num' % den' < den' := Nat.mod_lt _ hden'
  have hquotient : num / den ≤ num' / den' := by
    rw [Nat.le_div_iff_mul_le hden']
    refine Nat.le_of_mul_le_mul_right ?_ hden
    calc
      num / den * den' * den = num / den * den * den' := Nat.mul_right_comm _ _ _
      _ ≤ num * den' := Nat.mul_le_mul_right _ (Nat.div_mul_le_self num den)
      _ ≤ num' * den := h
  unfold nearestEven
  dsimp only
  rcases Nat.lt_or_eq_of_le hquotient with hless | hsame
  · split <;> split <;> omega
  · -- with one integer part, the rests are compared with half of the denominators
    rw [← hsplit, ← hsplit', ← hsame] at h
    have hrests : num % den * den' ≤ num' % den' * den := by
      have hexpanded : den * (num / den) * den' + num % den * den' ≤
          den * (num / den) * den' + num' % den' * den := by
        calc
          den * (num / den) * den' + num % den * den'
              = (den * (num / den) + num % den) * den' := (Nat.add_mul _ _ _).symm
          _ ≤ (den' * (num / den) + num' % den') * den := h
          _ = den * (num / den) * den' + num' % den' * den := by ring
      exact Nat.le_of_add_le_add_left hexpanded
    have hhalf (a b : Nat) (hab : a * den' ≤ b * den) (hup : den ≤ 2 * a) : den' ≤ 2 * b := by
      refine Nat.le_of_mul_le_mul_left ?_ hden
      calc
        den * den' ≤ 2 * a * den' := Nat.mul_le_mul_right _ hup
        _ = 2 * (a * den') := Nat.mul_assoc _ _ _
        _ ≤ 2 * (b * den) := Nat.mul_le_mul_left _ hab
        _ = den * (2 * b) := by ring
    have hpast (a b : Nat) (hab : a * den' ≤ b * den) (hup : den < 2 * a) : den' < 2 * b := by
      refine Nat.lt_of_mul_lt_mul_left (a := den) ?_
      calc
        den * den' < 2 * a * den' := Nat.mul_lt_mul_of_pos_right hup hden'
        _ = 2 * (a * den') := Nat.mul_assoc _ _ _
        _ ≤ 2 * (b * den) := Nat.mul_le_mul_left _ hab
        _ = den * (2 * b) := by ring
    have hreached := hhalf _ _ hrests
    have hpassed := hpast _ _ hrests
    simp only [Bool.or_eq_true, decide_eq_true_eq, Bool.and_eq_true, beq_iff_eq, ← hsame]
    split <;> split <;> omega

/-- Integers are not rounded. -/
theorem nearestEven_one (n : Nat) : nearestEven n 1 = n := by
  simp [nearestEven, Nat.mod_one]

/-- What an integer comes to depends on the quotient alone. -/
theorem nearestEven_congr {num den num' den' : Nat} (hden : 0 < den) (hden' : 0 < den')
    (h : num * den' = num' * den) : nearestEven num den = nearestEven num' den' :=
  Nat.le_antisymm (nearestEven_mono hden hden' h.le) (nearestEven_mono hden' hden h.ge)

/-- The quotient reaches a power of two. -/
def ReachesPower (num den : Nat) (k : Int) : Prop :=
  den * 2 ^ k.toNat ≤ num * 2 ^ (-k).toNat

instance (num den : Nat) (k : Int) : Decidable (ReachesPower num den k) :=
  inferInstanceAs (Decidable (_ ≤ _))

/-- The power of two that is reached last, as it is found. -/
def lastPower (num den : Nat) : Int :=
  if ReachesPower num den ((num.log2 : Int) - den.log2) then (num.log2 : Int) - den.log2
  else (num.log2 : Int) - den.log2 - 1

theorem reachesPower_lastPower {num den : Nat} (hnum : num ≠ 0) (hden : den ≠ 0) :
    ReachesPower num den (lastPower num den) ∧ ¬ ReachesPower num den (lastPower num den + 1) := by
  unfold lastPower
  split
  case isTrue hhigh =>
    refine ⟨hhigh, ?_⟩
    rw [ReachesPower, Nat.not_le]
    generalize hk : (num.log2 : Int) - den.log2 + 1 = k
    have hpower : num.log2 + 1 + (-k).toNat = den.log2 + k.toNat := by omega
    calc
      num * 2 ^ (-k).toNat < 2 ^ (num.log2 + 1) * 2 ^ (-k).toNat :=
        Nat.mul_lt_mul_of_pos_right Nat.lt_log2_self (Nat.pow_pos (by decide))
      _ = 2 ^ den.log2 * 2 ^ k.toNat := by rw [← pow_add, ← pow_add, hpower]
      _ ≤ den * 2 ^ k.toNat := Nat.mul_le_mul_right _ (Nat.log2_self_le hden)
  case isFalse hhigh =>
    refine ⟨?_, by rwa [Int.sub_add_cancel]⟩
    rw [ReachesPower]
    generalize hk : (num.log2 : Int) - den.log2 - 1 = k
    have hpower : den.log2 + 1 + k.toNat = num.log2 + (-k).toNat := by omega
    calc
      den * 2 ^ k.toNat ≤ 2 ^ (den.log2 + 1) * 2 ^ k.toNat :=
        Nat.mul_le_mul_right _ Nat.lt_log2_self.le
      _ = 2 ^ num.log2 * 2 ^ (-k).toNat := by rw [← pow_add, ← pow_add, hpower]
      _ ≤ num * 2 ^ (-k).toNat := Nat.mul_le_mul_right _ (Nat.log2_self_le hnum)

/-- Rounding looks for the last power of two that is reached. -/
theorem roundRatio_of_ne_zero {num : Nat} (hnum : num ≠ 0) (den : Nat) :
    let scale := (lastPower num den - 52 + 1074).toNat
    roundRatio num den = scale * 2 ^ 52 +
      if scale < 1074 then nearestEven (num * 2 ^ (1074 - scale)) den
      else nearestEven num (den * 2 ^ (scale - 1074)) := by
  have htest (k : Int) : (if 0 ≤ k then decide (den * Nat.pow 2 k.toNat ≤ num)
      else decide (den ≤ num * Nat.pow 2 (-k).toNat)) = decide (ReachesPower num den k) := by
    split
    case isTrue hk =>
      have hdown : (-k).toNat = 0 := by omega
      rw [decide_eq_decide, ReachesPower, hdown, pow_zero, Nat.mul_one]
      exact Iff.rfl
    case isFalse hk =>
      have hup : k.toNat = 0 := by omega
      rw [decide_eq_decide, ReachesPower, hup, pow_zero, Nat.mul_one]
      exact Iff.rfl
  unfold roundRatio
  rw [if_neg hnum]
  simp only [htest, decide_eq_true_eq]
  rfl

/-- How many of the least doubles make one. -/
def leastInOne : Nat := 2 ^ 1074

theorem leastInOne_pos : 0 < leastInOne := by
  unfold leastInOne
  positivity

theorem leastInOne_eq {n : Nat} (hn : n ≤ 1074) : leastInOne = 2 ^ n * 2 ^ (1074 - n) := by
  rw [leastInOne, ← pow_add, Nat.add_sub_cancel' hn]

/-- A power of two that is reached, counted in the least doubles. -/
theorem reachesPower_iff_units {num den : Nat} {k : Int} (hk : 0 ≤ k + 1074) :
    ReachesPower num den k ↔ den * 2 ^ (k + 1074).toNat ≤ num * leastInOne := by
  have hpower : (k + 1074).toNat = k.toNat + (1074 - (-k).toNat) := by omega
  rw [leastInOne_eq (show (-k).toNat ≤ 1074 by omega), hpower, pow_add, ← Nat.mul_assoc,
    ← Nat.mul_assoc, Nat.mul_le_mul_right_iff (Nat.pow_pos (by decide))]
  exact Iff.rfl

/-- A quotient that reaches no double but zero. -/
theorem units_lt_of_not_reachesPower {num den : Nat} {k : Int} (hk : k + 1074 < 0)
    (h : ¬ ReachesPower num den k) : num * leastInOne < den := by
  rw [ReachesPower, Nat.not_le] at h
  have hzero : k.toNat = 0 := by omega
  rw [hzero, pow_zero, Nat.mul_one] at h
  have hpower : (-k).toNat = 1074 + ((-k).toNat - 1074) := by omega
  have hless : leastInOne ≤ 2 ^ (-k).toNat := by
    rw [hpower, pow_add]
    exact Nat.le_mul_of_pos_right _ (Nat.two_pow_pos _)
  exact (Nat.mul_le_mul_left _ hless).trans_lt h

/-- The scale of a quotient, and the quotient in units of it: with a scale, the
units take 53 binary digits. -/
theorem roundRatio_eq (num : Nat) {den : Nat} (hden : 0 < den) :
    ∃ scale,
      roundRatio num den = scale * 2 ^ 52 + nearestEven (num * leastInOne) (den * 2 ^ scale) ∧
      num * leastInOne < den * 2 ^ scale * 2 ^ 53 ∧
      (scale ≠ 0 → den * 2 ^ scale * 2 ^ 52 ≤ num * leastInOne) := by
  by_cases hnum : num = 0
  · subst hnum
    refine ⟨0, ?_, ?_, fun h => absurd rfl h⟩
    · simp [roundRatio, nearestEven, hden]
    · rw [Nat.zero_mul]
      exact Nat.mul_pos (Nat.mul_pos hden (Nat.pow_pos (by decide))) (Nat.pow_pos (by decide))
  obtain ⟨hreached, hlast⟩ := reachesPower_lastPower hnum hden.ne'
  have hround := roundRatio_of_ne_zero hnum den
  dsimp only at hround
  generalize lastPower num den = k at hreached hlast hround
  generalize hscale : (k - 52 + 1074).toNat = scale at hround
  have hunits (n : Nat) : den * 2 ^ scale * 2 ^ n = den * 2 ^ (scale + n) := by
    rw [Nat.mul_assoc, ← pow_add]
  refine ⟨scale, ?_, ?_, ?_⟩
  · rw [hround]
    congr 1
    split
    case isTrue hsmall =>
      apply nearestEven_congr hden (Nat.mul_pos hden (Nat.pow_pos (by decide)))
      rw [leastInOne_eq hsmall.le]
      ring
    case isFalse hlarge =>
      apply nearestEven_congr (Nat.mul_pos hden (Nat.pow_pos (by decide)))
        (Nat.mul_pos hden (Nat.pow_pos (by decide)))
      have hpower : 2 ^ scale = leastInOne * 2 ^ (scale - 1074) := by
        rw [leastInOne, ← pow_add, Nat.add_sub_cancel' (Nat.le_of_not_lt hlarge)]
      rw [hpower]
      ring
  · rw [hunits]
    by_cases hleast : k + 1 + 1074 < 0
    · exact (units_lt_of_not_reachesPower hleast hlast).trans_le
        (Nat.le_mul_of_pos_right _ (Nat.pow_pos (by decide)))
    · rw [reachesPower_iff_units (by omega), Nat.not_le] at hlast
      exact hlast.trans_le (Nat.mul_le_mul_left _ (Nat.pow_le_pow_right (by decide) (by omega)))
  · intro hpositive
    rw [hunits]
    rw [reachesPower_iff_units (by omega)] at hreached
    have hpower : (k + 1074).toNat = scale + 52 := by omega
    rwa [hpower] at hreached

/-- A smaller quotient is rounded to a smaller magnitude. -/
theorem roundRatio_mono {num den num' den' : Nat} (hden : 0 < den) (hden' : 0 < den')
    (h : num * den' ≤ num' * den) : roundRatio num den ≤ roundRatio num' den' := by
  obtain ⟨scale, hround, hhigh, hlow⟩ := roundRatio_eq num hden
  obtain ⟨scale', hround', hhigh', hlow'⟩ := roundRatio_eq num' hden'
  have hunit : 0 < den * 2 ^ scale := Nat.mul_pos hden (Nat.pow_pos (by decide))
  have hunit' : 0 < den' * 2 ^ scale' := Nat.mul_pos hden' (Nat.pow_pos (by decide))
  rw [hround, hround']
  rcases Nat.lt_trichotomy scale scale' with hless | rfl | hgreater
  · have hbelow : nearestEven (num * leastInOne) (den * 2 ^ scale) ≤ 2 ^ 53 := by
      rw [← nearestEven_one (2 ^ 53)]
      apply nearestEven_mono hunit (by decide)
      rw [Nat.mul_one, Nat.mul_comm (2 ^ 53)]
      exact hhigh.le
    have habove : 2 ^ 52 ≤ nearestEven (num' * leastInOne) (den' * 2 ^ scale') := by
      rw [← nearestEven_one (2 ^ 52)]
      apply nearestEven_mono (by decide) hunit'
      rw [Nat.mul_one, Nat.mul_comm (2 ^ 52)]
      exact hlow' (by omega)
    omega
  · apply Nat.add_le_add_left
    apply nearestEven_mono hunit hunit'
    calc
      num * leastInOne * (den' * 2 ^ scale) = num * den' * (leastInOne * 2 ^ scale) := by ring
      _ ≤ num' * den * (leastInOne * 2 ^ scale) := Nat.mul_le_mul_right _ h
      _ = num' * leastInOne * (den * 2 ^ scale) := by ring
  · exfalso
    have hsmaller : 2 ^ scale' * 2 ^ 53 ≤ 2 ^ scale * 2 ^ 52 := by
      rw [← pow_add, ← pow_add]
      exact Nat.pow_le_pow_right (by decide) (by omega)
    have hback : num' * den * leastInOne < num * den' * leastInOne :=
      calc
        num' * den * leastInOne = num' * leastInOne * den := Nat.mul_right_comm _ _ _
        _ < den' * 2 ^ scale' * 2 ^ 53 * den := Nat.mul_lt_mul_of_pos_right hhigh' hden
        _ = den' * den * (2 ^ scale' * 2 ^ 53) := by ring
        _ ≤ den' * den * (2 ^ scale * 2 ^ 52) := Nat.mul_le_mul_left _ hsmaller
        _ = den * 2 ^ scale * 2 ^ 52 * den' := by ring
        _ ≤ num * leastInOne * den' := Nat.mul_le_mul_right _ (hlow (by omega))
        _ = num * den' * leastInOne := Nat.mul_right_comm _ _ _
    exact absurd (Nat.lt_of_mul_lt_mul_right hback) (Nat.not_lt.mpr h)

theorem roundRatio_le_of_le {a b : Nat} (h : a ≤ b) : roundRatio a 1 ≤ roundRatio b 1 :=
  roundRatio_mono Nat.one_pos Nat.one_pos (Nat.mul_le_mul_right 1 h)

/-- A magnitude in the least doubles. -/
def unitsOf (magnitude : Nat) : Nat :=
  significandOf magnitude * 2 ^ scaleOf magnitude

/-- From one magnitude to the next it is one unit of its scale. -/
theorem unitsOf_succ (magnitude : Nat) :
    unitsOf (magnitude + 1) = unitsOf magnitude + 2 ^ scaleOf magnitude := by
  have hstep : (scaleOf (magnitude + 1) = scaleOf magnitude ∧
        significandOf (magnitude + 1) = significandOf magnitude + 1) ∨
      (scaleOf (magnitude + 1) = scaleOf magnitude + 1 ∧ significandOf (magnitude + 1) = 2 ^ 52 ∧
        significandOf magnitude + 1 = 2 ^ 53) := by
    simp only [scaleOf, significandOf, Nat.pow_eq]
    split <;> split <;> omega
  unfold unitsOf
  rcases hstep with ⟨hscale, hsignificand⟩ | ⟨hscale, hsignificand, hlast⟩
  · rw [hscale, hsignificand, Nat.add_mul, Nat.one_mul]
  · calc
      significandOf (magnitude + 1) * 2 ^ scaleOf (magnitude + 1)
          = 2 ^ 53 * 2 ^ scaleOf magnitude := by rw [hscale, hsignificand, pow_succ]; ring
      _ = (significandOf magnitude + 1) * 2 ^ scaleOf magnitude := by rw [hlast]
      _ = significandOf magnitude * 2 ^ scaleOf magnitude + 2 ^ scaleOf magnitude := by ring

theorem unitsOf_mono : Monotone unitsOf := by
  apply monotone_nat_of_le_succ
  intro magnitude
  rw [unitsOf_succ]
  exact Nat.le_add_right _ _

theorem ratioOf_eq (magnitude : Nat) :
    0 < (ratioOf magnitude).2 ∧
      (ratioOf magnitude).1 * leastInOne = unitsOf magnitude * (ratioOf magnitude).2 := by
  unfold ratioOf unitsOf
  split
  case isTrue hsmall =>
    refine ⟨Nat.pow_pos (by decide), ?_⟩
    rw [leastInOne_eq hsmall.le, ← Nat.mul_assoc]
    rfl
  case isFalse hlarge =>
    refine ⟨Nat.one_pos, ?_⟩
    have hpower : 2 ^ scaleOf magnitude = 2 ^ (scaleOf magnitude - 1074) * leastInOne := by
      rw [leastInOne, ← pow_add, Nat.sub_add_cancel (Nat.le_of_not_lt hlarge)]
    rw [Nat.mul_one, hpower, ← Nat.mul_assoc]
    rfl

/-- Magnitudes are in the order of what they denote. -/
theorem ratioOf_mono {a b : Nat} (h : a ≤ b) :
    (ratioOf a).1 * (ratioOf b).2 ≤ (ratioOf b).1 * (ratioOf a).2 := by
  obtain ⟨-, ha⟩ := ratioOf_eq a
  obtain ⟨-, hb⟩ := ratioOf_eq b
  refine Nat.le_of_mul_le_mul_right ?_ leastInOne_pos
  calc
    (ratioOf a).1 * (ratioOf b).2 * leastInOne
        = (ratioOf a).1 * leastInOne * (ratioOf b).2 := Nat.mul_right_comm _ _ _
    _ = unitsOf a * ((ratioOf a).2 * (ratioOf b).2) := by rw [ha, Nat.mul_assoc]
    _ ≤ unitsOf b * ((ratioOf a).2 * (ratioOf b).2) := Nat.mul_le_mul_right _ (unitsOf_mono h)
    _ = (ratioOf b).1 * leastInOne * (ratioOf a).2 := by rw [hb]; ring
    _ = (ratioOf b).1 * (ratioOf a).2 * leastInOne := Nat.mul_right_comm _ _ _

theorem timesPower_mono {a b exponent greater : Nat} (h : a ≤ b) (hexponent : exponent ≤ greater) :
    timesPower a exponent ≤ timesPower b greater := by
  have hpower : roundRatio (Nat.pow 10 exponent) 1 ≤ roundRatio (Nat.pow 10 greater) 1 :=
    roundRatio_le_of_le (Nat.pow_le_pow_right (by decide) hexponent)
  have hratio := ratioOf_mono hpower
  have hden := (ratioOf_eq (roundRatio (Nat.pow 10 exponent) 1)).1
  have hden' := (ratioOf_eq (roundRatio (Nat.pow 10 greater) 1)).1
  unfold timesPower
  dsimp only
  generalize ratioOf (roundRatio (Nat.pow 10 exponent) 1) = power at hratio hden ⊢
  generalize ratioOf (roundRatio (Nat.pow 10 greater) 1) = power' at hratio hden' ⊢
  apply roundRatio_mono (Nat.mul_pos (ratioOf_eq a).1 hden) (Nat.mul_pos (ratioOf_eq b).1 hden')
  calc
    (ratioOf a).1 * power.1 * ((ratioOf b).2 * power'.2)
        = (ratioOf a).1 * (ratioOf b).2 * (power.1 * power'.2) := by ring
    _ ≤ (ratioOf b).1 * (ratioOf a).2 * (power'.1 * power.2) :=
        Nat.mul_le_mul (ratioOf_mono h) hratio
    _ = (ratioOf b).1 * power'.1 * ((ratioOf a).2 * power.2) := by ring

/-- A power of ten is at least one, also when it has been rounded. -/
theorem one_le_power (exponent : Nat) :
    let power := ratioOf (roundRatio (Nat.pow 10 exponent) 1)
    power.2 ≤ power.1 := by
  have hone : roundRatio 1 1 ≤ roundRatio (Nat.pow 10 exponent) 1 :=
    roundRatio_le_of_le (Nat.pow_pos (by decide))
  have hratio := ratioOf_mono hone
  have hexact : ratioOf (roundRatio 1 1) = (2 ^ 52, 2 ^ 52) := by decide +kernel
  rw [hexact] at hratio
  exact Nat.le_of_mul_le_mul_left (hratio.trans_eq (Nat.mul_comm _ _)) (by decide)

/-- The magnitude of the greatest significand that is read, whatever its digits. -/
def greatestWhole : Nat :=
  roundRatio (Nat.pow 10 18) 1

/-- Dividing by a power of ten stays below. -/
theorem overPower_le {magnitude : Nat} (h : magnitude ≤ greatestWhole) (exponent : Nat) :
    overPower magnitude exponent ≤ greatestWhole := by
  have hpower := one_le_power exponent
  have hden := (ratioOf_eq (roundRatio (Nat.pow 10 exponent) 1)).1
  have hexact : roundRatio (ratioOf greatestWhole).1 (ratioOf greatestWhole).2 = greatestWhole := by
    decide +kernel
  rw [← hexact]
  unfold overPower
  dsimp only at hpower ⊢
  generalize ratioOf (roundRatio (Nat.pow 10 exponent) 1) = power at hpower hden ⊢
  apply roundRatio_mono (Nat.mul_pos (ratioOf_eq magnitude).1 (hden.trans_le hpower))
    (ratioOf_eq greatestWhole).1
  calc
    (ratioOf magnitude).1 * power.2 * (ratioOf greatestWhole).2
        ≤ (ratioOf magnitude).1 * power.1 * (ratioOf greatestWhole).2 :=
        Nat.mul_le_mul_right _ (Nat.mul_le_mul_left _ hpower)
    _ = (ratioOf magnitude).1 * (ratioOf greatestWhole).2 * power.1 := Nat.mul_right_comm _ _ _
    _ ≤ (ratioOf greatestWhole).1 * (ratioOf magnitude).2 * power.1 :=
        Nat.mul_le_mul_right _ (ratioOf_mono h)
    _ = (ratioOf greatestWhole).1 * ((ratioOf magnitude).2 * power.1) := Nat.mul_assoc _ _ _

/-- The greatest double, as an integer. -/
def greatest : Nat :=
  (Nat.pow 2 53 - 1) * Nat.pow 2 971

theorem greatest_lt_power {n : Nat} (hn : 309 ≤ n) : greatest < 10 ^ n := by
  induction n, hn using Nat.le_induction with
  | base => decide +kernel
  | succ n _ ih => exact ih.trans (Nat.pow_lt_pow_right (by decide) n.lt_succ_self)

/-- No power of ten carries the greatest significand too far, up to 10 ^ 290. -/
theorem timesPower_greatestWhole : timesPower greatestWhole 290 < 2047 * Nat.pow 2 52 := by
  decide +kernel

/-- From there on it does not carry the greatest significand that it allows too far. -/
theorem timesPower_greatest : ∀ beyond < 18,
    timesPower (roundRatio (greatest / Nat.pow 10 (291 + beyond)) 1) (291 + beyond) <
      2047 * Nat.pow 2 52 := by
  decide +kernel

/-- A product that does not exceed the greatest double is rounded to a double. -/
theorem timesPower_lt {significand exponent : Nat} (hdigits : significand ≤ 10 ^ 18)
    (hexponent : exponent ≤ 308) (hrange : significand * 10 ^ exponent ≤ greatest) :
    timesPower (roundRatio significand 1) exponent < 2047 * Nat.pow 2 52 := by
  by_cases hsmall : exponent ≤ 290
  · exact (timesPower_mono (roundRatio_le_of_le hdigits) hsmall).trans_lt timesPower_greatestWhole
  · obtain ⟨beyond, rfl⟩ : ∃ beyond, exponent = 291 + beyond := ⟨exponent - 291, by omega⟩
    have hallowed : significand ≤ greatest / Nat.pow 10 (291 + beyond) :=
      (Nat.le_div_iff_mul_le (Nat.pow_pos (by decide))).mpr hrange
    exact (timesPower_mono (roundRatio_le_of_le hallowed) Nat.le.refl).trans_lt
      (timesPower_greatest beyond (by omega))

theorem ofMagnitude?_isSome {magnitude : Nat} (h : magnitude < 2047 * Nat.pow 2 52)
    (negative : Bool) : (ofMagnitude? negative magnitude).isSome := by
  rw [ofMagnitude?, dif_pos h]
  rfl

/-- A decimal is a double if its significand has no more than eighteen digits and it
does not exceed the greatest double. -/
theorem ofDecimal?_isSome (negative : Bool) {significand : Nat} {exponent : Int}
    (hdigits : significand ≤ 10 ^ 18)
    (hrange : 0 ≤ exponent → significand * 10 ^ exponent.toNat ≤ greatest) :
    (ofDecimal? negative significand exponent).isSome := by
  have hwhole : roundRatio significand 1 ≤ greatestWhole := roundRatio_le_of_le hdigits
  have hgreatestWhole : greatestWhole < 2047 * Nat.pow 2 52 := by decide +kernel
  unfold ofDecimal?
  dsimp only
  split
  case isTrue hhuge =>
    -- beyond the powers of ten only zero is small enough
    have hzero : significand = 0 := by
      by_contra hpositive
      have hless : greatest < 10 ^ exponent.toNat := greatest_lt_power (by omega)
      have hproduct : 10 ^ exponent.toNat ≤ significand * 10 ^ exponent.toNat :=
        Nat.le_mul_of_pos_left _ (Nat.pos_of_ne_zero hpositive)
      exact Nat.not_lt.mpr (hproduct.trans (hrange (by omega))) hless
    subst hzero
    rw [if_pos (by rfl)]
    exact ofMagnitude?_isSome (by decide) _
  split
  case isTrue hnonneg =>
    exact ofMagnitude?_isSome (timesPower_lt hdigits (by omega) (hrange hnonneg)) _
  split
  · exact ofMagnitude?_isSome ((overPower_le hwhole _).trans_lt hgreatestWhole) _
  split
  · exact ofMagnitude?_isSome ((overPower_le (overPower_le hwhole _) _).trans_lt hgreatestWhole) _
  · exact ofMagnitude?_isSome (by decide) _

end MessageContract.Binary64
