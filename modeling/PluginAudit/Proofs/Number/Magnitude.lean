import Mathlib
import PluginAudit.Number.Binary64

namespace PluginAudit.Binary64

theorem div_le_roundDiv (n d : Nat) : n / d ≤ roundDiv n d := by
  unfold roundDiv
  dsimp only
  split <;> omega

theorem roundDiv_le (n d : Nat) : roundDiv n d ≤ n / d + 1 := by
  unfold roundDiv
  dsimp only
  split <;> omega

theorem abs_roundDiv_sub_le {n d : Nat} (positive : 0 < d) : |(roundDiv n d : ℚ) - n / d| ≤ 1 := by
  have above : (0 : ℚ) < d := by exact_mod_cast positive
  have lower : ((n / d : Nat) : ℚ) ≤ n / d := Nat.cast_div_le
  have upper : (n / d : ℚ) ≤ (n / d : Nat) + 1 := by
    rw [div_le_iff₀ above]
    have whole : n ≤ (n / d + 1) * d := by
      have rest := Nat.div_add_mod n d
      have small := Nat.mod_lt n positive
      nlinarith
    exact_mod_cast whole
  have least : ((n / d : Nat) : ℚ) ≤ roundDiv n d := by exact_mod_cast div_le_roundDiv n d
  have most : (roundDiv n d : ℚ) ≤ (n / d : Nat) + 1 := by exact_mod_cast roundDiv_le n d
  rw [abs_le]
  constructor <;> linarith

theorem cast_pow_toNat {e : Int} (nonnegative : 0 ≤ e) : ((Nat.pow 2 e.toNat : Nat) : ℚ) = 2 ^ e := by
  rw [Nat.pow_eq, Nat.cast_pow, Nat.cast_ofNat, ← zpow_natCast, Int.toNat_of_nonneg nonnegative]

theorem scaled_eq (n : Nat) {d : Nat} (positive : 0 < d) (e : Int) :
    0 < (scaled n d e).2 ∧ ((scaled n d e).1 : ℚ) / (scaled n d e).2 = n / d / 2 ^ e := by
  have above : (d : ℚ) ≠ 0 := by exact_mod_cast positive.ne'
  unfold scaled
  by_cases negative : e < 0
  · rw [if_pos negative]
    refine ⟨positive, ?_⟩
    push_cast
    rw [cast_pow_toNat (by omega), zpow_neg]
    field_simp
  · rw [if_neg negative]
    refine ⟨Nat.mul_pos positive (Nat.pow_pos (by decide)), ?_⟩
    push_cast
    rw [cast_pow_toNat (by omega), div_div]

theorem ratio_eq (m : Nat) (e : Int) :
    0 < (ratio m e).2 ∧ ((ratio m e).1 : ℚ) / (ratio m e).2 = m * 2 ^ e := by
  unfold ratio
  by_cases negative : e < 0
  · rw [if_pos negative]
    refine ⟨Nat.pow_pos (by decide), ?_⟩
    rw [cast_pow_toNat (by omega), zpow_neg, div_inv_eq_mul]
  · rw [if_neg negative]
    refine ⟨Nat.one_pos, ?_⟩
    push_cast
    rw [cast_pow_toNat (by omega), div_one]

theorem exponentOf_le (n d : Nat) :
    exponentOf n d ≤ leastExponent ∨ exponentOf n d ≤ (n.log2 : Int) - d.log2 - 52 := by
  unfold exponentOf
  dsimp only
  split <;> omega

/-- The unit of the last place is small beside the number, or is the least one. -/
theorem two_pow_exponentOf_le {n d : Nat} (nonzero : n ≠ 0) (positive : 0 < d) :
    (2 : ℚ) ^ exponentOf n d ≤ n / d / 2 ^ 51 + 2 ^ leastExponent := by
  have above : (0 : ℚ) < d := by exact_mod_cast positive
  have guess : (2 : ℚ) ^ ((n.log2 : Int) - d.log2 - 52) ≤ n / d / 2 ^ 51 := by
    have least : (2 : ℚ) ^ n.log2 ≤ n := by exact_mod_cast Nat.log2_self_le nonzero
    have most : (d : ℚ) ≤ 2 ^ (d.log2 + 1) := by exact_mod_cast Nat.lt_log2_self.le
    rw [zpow_sub₀ two_ne_zero, zpow_sub₀ two_ne_zero, zpow_natCast, zpow_natCast, div_div, div_div]
    rw [div_le_div_iff₀ (by positivity) (by positivity)]
    calc (2 : ℚ) ^ n.log2 * ((d : ℚ) * 2 ^ 51) ≤ (n : ℚ) * ((2 : ℚ) ^ (d.log2 + 1) * 2 ^ 51) := by gcongr
      _ = (n : ℚ) * ((2 : ℚ) ^ d.log2 * (2 : ℚ) ^ (52 : Int)) := by
        have power : (2 : ℚ) ^ (52 : Int) = 2 * 2 ^ 51 := by norm_num
        rw [power, pow_succ]
        ring
  have small : (0 : ℚ) ≤ n / d / 2 ^ 51 := by positivity
  have tiny : (0 : ℚ) < 2 ^ leastExponent := by positivity
  rcases exponentOf_le n d with first | second
  · have unit : (2 : ℚ) ^ exponentOf n d ≤ 2 ^ leastExponent := zpow_le_zpow_right₀ one_le_two first
    linarith
  · have unit := zpow_le_zpow_right₀ (one_le_two (α := ℚ)) second
    linarith

@[irreducible] def limit : ℚ :=
  2 ^ 1020

theorem le_limit {a : ℚ} (small : a ≤ 2 ^ 10) : a ≤ limit := by
  unfold limit
  exact small.trans (pow_le_pow_right₀ one_le_two (by decide))

theorem exponentOf_small {n d : Nat} (nonzero : n ≠ 0) (positive : 0 < d) (small : (n : ℚ) / d ≤ limit) :
    exponentOf n d < greatestExponent := by
  have unit := two_pow_exponentOf_le nonzero positive
  have tiny : (2 : ℚ) ^ leastExponent ≤ 1 := zpow_le_one_of_nonpos₀ one_le_two (by decide)
  unfold limit at small
  have scaled : (n : ℚ) / d / 2 ^ 51 ≤ 2 ^ 969 := by
    rw [div_le_iff₀ (by positivity), ← pow_add]
    exact small
  have one : (1 : ℚ) ≤ 2 ^ 969 := one_le_pow₀ one_le_two
  -- One half for the quotient itself, the other for the least unit.
  have total : (2 : ℚ) ^ exponentOf n d ≤ 2 ^ (970 : Int) := by
    have double : (2 : ℚ) ^ (970 : Int) = 2 ^ 969 + 2 ^ 969 := by
      rw [← two_mul, ← pow_succ']
      rfl
    rw [double]
    exact unit.trans (add_le_add scaled (tiny.trans one))
  have bound := (zpow_le_zpow_iff_right₀ (one_lt_two (α := ℚ))).mp total
  have greatest : greatestExponent = 971 := rfl
  omega

theorem pack_eq {m : Nat} {e : Int} (below : e < greatestExponent) (negative : Bool) :
    ∃ m' e', pack negative m e = finite negative m' e' ∧ (m' : ℚ) * 2 ^ e' = m * 2 ^ e := by
  unfold pack
  by_cases carry : m = Nat.pow 2 53
  · have inRange : ¬ greatestExponent < e + 1 := by omega
    rw [if_pos carry, if_neg inRange]
    refine ⟨_, _, rfl, ?_⟩
    have double : ((Nat.pow 2 53 : Nat) : ℚ) = (Nat.pow 2 52 : Nat) * 2 := Nat.cast_mul _ _
    rw [carry, double, zpow_add_one₀ two_ne_zero, mul_assoc, mul_comm (2 : ℚ)]
  · have inRange : ¬ greatestExponent < e := by omega
    rw [if_neg carry, if_neg inRange]
    exact ⟨m, e, rfl, rfl⟩

theorem ofRatio_near {n d : Nat} (positive : 0 < d) (small : (n : ℚ) / d ≤ limit) (negative : Bool) :
    ∃ m e, ofRatio negative n d = finite negative m e ∧
      |(m : ℚ) * 2 ^ e - n / d| ≤ n / d / 2 ^ 51 + 2 ^ leastExponent := by
  by_cases zero : n = 0
  · have tiny : (0 : ℚ) < 2 ^ leastExponent := by positivity
    refine ⟨0, leastExponent, by simp [ofRatio, zero], ?_⟩
    simp [zero, tiny.le]
  · have unit := two_pow_exponentOf_le zero positive
    obtain ⟨m, e, packed, same⟩ :=
      @pack_eq (mantissaOf n d (exponentOf n d)) _ (exponentOf_small zero positive small) negative
    have made : ofRatio negative n d = finite negative m e := by
      unfold ofRatio
      rw [if_neg zero]
      exact packed
    refine ⟨m, e, made, ?_⟩
    obtain ⟨above, exact⟩ := scaled_eq n positive (exponentOf n d)
    have rounded : |(mantissaOf n d (exponentOf n d) : ℚ) - n / d / 2 ^ exponentOf n d| ≤ 1 := by
      rw [← exact]
      exact abs_roundDiv_sub_le above
    have step : (0 : ℚ) < 2 ^ exponentOf n d := by positivity
    have split : (m : ℚ) * 2 ^ e - n / d =
        (mantissaOf n d (exponentOf n d) - n / d / 2 ^ exponentOf n d) * 2 ^ exponentOf n d := by
      rw [same, sub_mul, div_mul_cancel₀ _ step.ne']
    rw [split, abs_mul, abs_of_pos step]
    calc _ ≤ 1 * (2 : ℚ) ^ exponentOf n d := mul_le_mul_of_nonneg_right rounded step.le
      _ ≤ _ := by
        rw [one_mul]
        exact unit

def Within (bound : ℚ) (x : Binary64) : Prop :=
  ∃ negative m e, x = finite negative m e ∧ (m : ℚ) * 2 ^ e ≤ bound

def Beyond (x : Binary64) : Prop :=
  ∃ negative m e, x = finite negative m e ∧ 1 / 2 ≤ (m : ℚ) * 2 ^ e

theorem leastUnit_le : (2 : ℚ) ^ leastExponent ≤ 1 / 4 := by
  have quarter : (1 / 4 : ℚ) = 2 ^ (-2 : Int) := by norm_num
  rw [quarter]
  exact zpow_le_zpow_right₀ one_le_two (by decide)

theorem within_ofRatio {n d : Nat} (positive : 0 < d) {bound : ℚ} (small : (n : ℚ) / d ≤ bound)
    (inRange : bound ≤ limit) (negative : Bool) : Within (2 * bound + 1) (ofRatio negative n d) := by
  obtain ⟨m, e, made, near⟩ := ofRatio_near positive (small.trans inRange) negative
  refine ⟨negative, m, e, made, ?_⟩
  have unit := leastUnit_le
  have nonneg : (0 : ℚ) ≤ n / d := by positivity
  have share : (n : ℚ) / d / 2 ^ 51 ≤ n / d := div_le_self nonneg (one_le_pow₀ one_le_two)
  have upper := (abs_le.mp near).2
  linarith

theorem beyond_ofRatio {n d : Nat} (positive : 0 < d) (large : d ≤ n) (inRange : (n : ℚ) / d ≤ limit)
    (negative : Bool) : Beyond (ofRatio negative n d) := by
  obtain ⟨m, e, made, near⟩ := ofRatio_near positive inRange negative
  refine ⟨negative, m, e, made, ?_⟩
  have unit := leastUnit_le
  have above : (0 : ℚ) < d := by exact_mod_cast positive
  have one : (1 : ℚ) ≤ n / d := by
    rw [one_le_div above]
    exact_mod_cast large
  have share : (n : ℚ) / d / 2 ^ 51 ≤ n / d / 4 := by
    apply div_le_div_of_nonneg_left <;> linarith
  have lower := (abs_le.mp near).1
  linarith

theorem Within.mono {a b : ℚ} {x : Binary64} (within : Within a x) (le : a ≤ b) : Within b x := by
  obtain ⟨negative, m, e, rfl, small⟩ := within
  exact ⟨negative, m, e, rfl, small.trans le⟩

theorem Within.neg {a : ℚ} {x : Binary64} (within : Within a x) : Within a x.neg := by
  obtain ⟨negative, m, e, rfl, small⟩ := within
  exact ⟨!negative, m, e, rfl, small⟩

theorem natAbs_signed (negative : Bool) (n : Nat) : (if negative then -(n : Int) else n).natAbs = n := by
  cases negative <;> simp

theorem Within.fraction {bound : ℚ} {x : Binary64} (within : Within bound x) :
    ∃ n d, x.fraction? = some (n, d) ∧ 0 < d ∧ (n.natAbs : ℚ) / d ≤ bound := by
  obtain ⟨negative, m, e, rfl, small⟩ := within
  obtain ⟨positive, exact⟩ := ratio_eq m e
  refine ⟨if negative then -((ratio m e).1 : Int) else (ratio m e).1, (ratio m e).2, rfl, positive, ?_⟩
  rw [natAbs_signed, exact]
  exact small

theorem Beyond.fraction {x : Binary64} (beyond : Beyond x) :
    ∃ n d, x.fraction? = some (n, d) ∧ 0 < d ∧ 1 / 2 ≤ (n.natAbs : ℚ) / d := by
  obtain ⟨negative, m, e, rfl, large⟩ := beyond
  obtain ⟨positive, exact⟩ := ratio_eq m e
  refine ⟨if negative then -((ratio m e).1 : Int) else (ratio m e).1, (ratio m e).2, rfl, positive, ?_⟩
  rw [natAbs_signed, exact]
  exact large

section

variable {a b : ℚ} {x y : Binary64}

theorem combine_eq {left right : Int × Nat} (isLeft : x.fraction? = some left) (isRight : y.fraction? = some right)
    (exact : Int × Nat → Int × Nat → Int × Nat) :
    combine exact x y = ofFraction (exact left right).1 (exact left right).2 := by
  unfold combine
  rw [isLeft, isRight]

theorem Within.mul (left : Within a x) (right : Within b y) (inRange : a * b ≤ limit) :
    Within (2 * (a * b) + 1) (x.mul y) := by
  obtain ⟨n, d, isLeft, positive, small⟩ := left.fraction
  obtain ⟨n', d', isRight, positive', small'⟩ := right.fraction
  have product : x.mul y = ofRatio (n * n' < 0) (n * n').natAbs (d * d') := by
    obtain ⟨_, _, _, rfl, _⟩ := left
    obtain ⟨_, _, _, rfl, _⟩ := right
    exact combine_eq isLeft isRight fun a b => (a.1 * b.1, a.2 * b.2)
  rw [product]
  refine within_ofRatio (Nat.mul_pos positive positive') ?_ inRange _
  rw [Int.natAbs_mul]
  push_cast
  rw [mul_div_mul_comm]
  have nonneg : (0 : ℚ) ≤ (n'.natAbs : ℚ) / d' := by positivity
  exact mul_le_mul small small' nonneg ((by positivity : (0 : ℚ) ≤ (n.natAbs : ℚ) / d).trans small)

theorem Within.add (left : Within a x) (right : Within b y) (inRange : a + b ≤ limit) :
    Within (2 * (a + b) + 1) (x.add y) := by
  obtain ⟨n, d, isLeft, positive, small⟩ := left.fraction
  obtain ⟨n', d', isRight, positive', small'⟩ := right.fraction
  have sum : x.add y = ofRatio (n * d' + n' * d < 0) (n * d' + n' * d).natAbs (d * d') := by
    obtain ⟨_, _, _, rfl, _⟩ := left
    obtain ⟨_, _, _, rfl, _⟩ := right
    exact combine_eq isLeft isRight fun a b => (a.1 * b.2 + b.1 * a.2, a.2 * b.2)
  rw [sum]
  refine within_ofRatio (Nat.mul_pos positive positive') ?_ inRange _
  have triangle : ((n * d' + n' * d).natAbs : ℚ) ≤ n.natAbs * d' + n'.natAbs * d := by
    have whole := Int.natAbs_add_le (n * d') (n' * d)
    rw [Int.natAbs_mul, Int.natAbs_mul, Int.natAbs_natCast, Int.natAbs_natCast] at whole
    exact_mod_cast whole
  have above : (0 : ℚ) < d := by exact_mod_cast positive
  have above' : (0 : ℚ) < d' := by exact_mod_cast positive'
  calc ((n * d' + n' * d).natAbs : ℚ) / (d * d' : Nat)
      ≤ ((n.natAbs : ℚ) * d' + n'.natAbs * d) / (d * d' : Nat) := by gcongr
    _ = (n.natAbs : ℚ) / d + n'.natAbs / d' := by
      push_cast
      field_simp
    _ ≤ a + b := add_le_add small small'

theorem Within.div (left : Within a x) (right : Beyond y) (inRange : 2 * a ≤ limit) :
    Within (2 * (2 * a) + 1) (x.div y) := by
  obtain ⟨n, d, isLeft, positive, small⟩ := left.fraction
  obtain ⟨n', d', isRight, positive', large⟩ := right.fraction
  have quotient : x.div y = ofRatio (n * d' * n'.sign < 0) (n * d' * n'.sign).natAbs (d * n'.natAbs) :=
    combine_eq isLeft isRight _
  have above : (0 : ℚ) < d := by exact_mod_cast positive
  have above' : (0 : ℚ) < d' := by exact_mod_cast positive'
  have nonzero : n' ≠ 0 := by
    rintro rfl
    norm_num at large
  have divisor : (0 : ℚ) < n'.natAbs := by exact_mod_cast Int.natAbs_pos.mpr nonzero
  rw [quotient]
  refine within_ofRatio (Nat.mul_pos positive (Int.natAbs_pos.mpr nonzero)) ?_ inRange _
  rw [Int.natAbs_mul, Int.natAbs_mul, Int.natAbs_natCast, Int.natAbs_sign_of_ne_zero nonzero, mul_one]
  push_cast
  rw [mul_div_mul_comm]
  have inverse : (d' : ℚ) / n'.natAbs ≤ 2 := by
    rw [div_le_iff₀ divisor]
    rw [le_div_iff₀ above'] at large
    linarith
  calc (n.natAbs : ℚ) / d * (d' / n'.natAbs) ≤ a * 2 := by
        apply mul_le_mul small inverse
        · positivity
        · exact (by positivity : (0 : ℚ) ≤ (n.natAbs : ℚ) / d).trans small
    _ = 2 * a := mul_comm _ _

end

end PluginAudit.Binary64
