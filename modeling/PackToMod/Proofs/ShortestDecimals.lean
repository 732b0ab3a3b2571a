import Mathlib.Data.Rat.Cast.Order
import Mathlib.Tactic.Linarith
import Mathlib.Tactic.NormNum
import Mathlib.Tactic.Positivity
import PackToMod.Proofs.DecimalText

/-!
# Shortest decimals stand for their number

The search for a decimal works on scaled natural numbers. Here its comparisons are put into rationals:
`Binary.Covers b q` says that `q` lies in the interval of numbers that round to `b`. A grid of seventeen
digits is finer than that interval, so the search has a hit, and the decimal found is covered.
-/

namespace PackToMod.Decimal

/-! ## Powers as numerators and denominators -/

lemma zpow_mul_denominatorPower (base : Nat) (h : 0 < base) (e : Int) :
    (base : ℚ) ^ e * denominatorPower base e = numeratorPower base e := by
  have hbase : (base : ℚ) ≠ 0 := by positivity
  unfold denominatorPower numeratorPower
  rcases le_total 0 e with he | he
  · obtain ⟨n, rfl⟩ := Int.eq_ofNat_of_zero_le he
    simp
  · obtain ⟨n, rfl⟩ := Int.exists_eq_neg_ofNat he
    simp [hbase]

lemma denominatorPower_pos (base : Nat) (h : 0 < base) (e : Int) : 0 < denominatorPower base e :=
  Nat.pow_pos h

/-! ## The leading exponent -/

lemma lt_pow_digitCount (n : Nat) : n < 10 ^ digitCount n := by
  unfold digitCount
  split
  · omega
  · exact (Nat.length_toDigits_le_iff (by omega) Nat.length_toDigits_pos).mp le_rfl

lemma pow_digitCount_le {n : Nat} (h : 0 < n) : 10 ^ (digitCount n - 1) ≤ n := by
  unfold digitCount
  rw [if_neg (by omega)]
  by_contra hlt
  rcases Nat.eq_zero_or_pos ((Nat.toDigits 10 n).length - 1) with hzero | hpos
  · rw [hzero] at hlt
    omega
  · have hle := (Nat.length_toDigits_le_iff (by omega) hpos).mpr (not_le.mp hlt)
    omega

/-- No digit of the quotient stands above its leading exponent. -/
lemma zpow_leadingExponent_le {num den : Nat} (hnum : 0 < num) (hden : 0 < den) :
    (10 : ℚ) ^ leadingExponent num den ≤ num / den := by
  have hdenq : (0 : ℚ) < den := by exact_mod_cast hden
  unfold leadingExponent
  split
  case isTrue hle =>
    have hquot : 0 < num / den := Nat.div_pos hle hden
    have hcount : 1 ≤ digitCount (num / den) := by
      unfold digitCount
      rw [if_neg (by omega)]
      exact Nat.length_toDigits_pos
    have hexponent : (digitCount (num / den) : Int) - 1 = ((digitCount (num / den) - 1 : Nat) : Int) := by
      omega
    have hpow : 10 ^ (digitCount (num / den) - 1) * den ≤ num :=
      (Nat.mul_le_mul_right den (pow_digitCount_le hquot)).trans (Nat.div_mul_le_self num den)
    rw [hexponent, zpow_natCast, le_div_iff₀ hdenq]
    exact_mod_cast hpow
  case isFalse hlt =>
    have hpow : den ≤ num * 10 ^ digitCount ((den - 1) / num) := by
      have hquot := Nat.lt_mul_of_div_lt (lt_pow_digitCount ((den - 1) / num)) hnum
      rw [Nat.mul_comm] at hquot
      omega
    have hten : (0 : ℚ) < 10 ^ digitCount ((den - 1) / num) := by positivity
    rw [zpow_neg, zpow_natCast, le_div_iff₀ hdenq, inv_mul_le_iff₀ hten, mul_comm]
    exact_mod_cast hpow

namespace Binary

/-! ## The interval of a binary number -/

def value (b : Binary) : ℚ :=
  b.mantissa * 2 ^ b.exponent

/-- The lower end of the interval, half way to the next smaller number. -/
def low (b : Binary) : ℚ :=
  (b.mantissa - if b.narrow then 1 / 4 else 1 / 2) * 2 ^ b.exponent

def high (b : Binary) : ℚ :=
  (b.mantissa + 1 / 2) * 2 ^ b.exponent

/-- The number `q` rounds to `b`. The ends of the interval go to the even mantissa. -/
def Covers (b : Binary) (q : ℚ) : Prop :=
  if b.mantissa % 2 = 0 then b.low ≤ q ∧ q ≤ b.high else b.low < q ∧ q < b.high

variable {b : Binary} {q : ℚ}

lemma Covers.low_le (h : b.Covers q) : b.low ≤ q := by
  unfold Covers at h
  split at h
  · exact h.1
  · exact h.1.le

lemma Covers.le_high (h : b.Covers q) : q ≤ b.high := by
  unfold Covers at h
  split at h
  · exact h.2
  · exact h.2.le

lemma Covers.even (h : b.Covers q) (hend : q = b.low ∨ q = b.high) : b.mantissa % 2 = 0 := by
  unfold Covers at h
  split at h
  · assumption
  · obtain ⟨hlow, hhigh⟩ := h
    rcases hend with rfl | rfl
    · exact absurd hlow (lt_irrefl _)
    · exact absurd hhigh (lt_irrefl _)

lemma covers_of_lt (hlow : b.low < q) (hhigh : q < b.high) : b.Covers q := by
  unfold Covers
  split
  · exact ⟨hlow.le, hhigh.le⟩
  · exact ⟨hlow, hhigh⟩

lemma two_zpow_pos (e : Int) : (0 : ℚ) < 2 ^ e :=
  zpow_pos (by norm_num) e

lemma low_pos (h : 1 ≤ b.mantissa) : 0 < b.low := by
  have hm : (1 : ℚ) ≤ b.mantissa := by exact_mod_cast h
  refine mul_pos ?_ (two_zpow_pos _)
  split
  · linarith
  · linarith

/-! ## Scaled comparisons -/

/-- What numbers are multiplied by when they are scaled. -/
def factor (b : Binary) (grid : Int) : ℚ :=
  4 * denominatorPower 2 b.exponent * denominatorPower 10 grid

lemma factor_pos (b : Binary) (grid : Int) : 0 < b.factor grid := by
  have htwo : (0 : ℚ) < denominatorPower 2 b.exponent := by
    exact_mod_cast denominatorPower_pos 2 (by omega) b.exponent
  have hten : (0 : ℚ) < denominatorPower 10 grid := by
    exact_mod_cast denominatorPower_pos 10 (by omega) grid
  unfold factor
  positivity

/-- A quarter of a step is one unit of the scaled numbers. -/
lemma cast_numerator (b : Binary) (grid : Int) (k : ℚ) :
    4 * k * (numeratorPower 2 b.exponent * denominatorPower 10 grid) =
      b.factor grid * (k * 2 ^ b.exponent) := by
  have hpower := zpow_mul_denominatorPower 2 (by omega) b.exponent
  push_cast at hpower
  rw [← hpower, factor]
  ring

lemma cast_low (h : 1 ≤ b.mantissa) (grid : Int) : ((b.scale grid).low : ℚ) = b.factor grid * b.low := by
  rw [low, ← cast_numerator]
  unfold scale
  dsimp only
  split
  · rw [Nat.cast_mul, Nat.cast_sub (by omega)]
    push_cast
    ring
  · rw [Nat.cast_mul, Nat.cast_sub (by omega)]
    push_cast
    ring

lemma cast_value (b : Binary) (grid : Int) : ((b.scale grid).value : ℚ) = b.factor grid * b.value := by
  rw [value, ← cast_numerator]
  unfold scale
  push_cast
  ring

lemma cast_high (b : Binary) (grid : Int) : ((b.scale grid).high : ℚ) = b.factor grid * b.high := by
  rw [high, ← cast_numerator]
  unfold scale
  push_cast
  ring

lemma cast_unit (b : Binary) (grid : Int) : ((b.scale grid).unit : ℚ) = b.factor grid * 10 ^ grid := by
  have hpower := zpow_mul_denominatorPower 10 (by omega) grid
  push_cast at hpower
  unfold scale factor
  push_cast
  rw [← hpower]
  ring

lemma cast_point (b : Binary) (grid : Int) (d : Nat) :
    ((d * (b.scale grid).unit : Nat) : ℚ) = b.factor grid * (d * 10 ^ grid) := by
  rw [Nat.cast_mul, cast_unit]
  ring

lemma rounds_iff (h : 1 ≤ b.mantissa) (grid : Int) (d : Nat) :
    b.rounds (b.scale grid) d = true ↔ b.Covers (d * 10 ^ grid) := by
  have hfactor := b.factor_pos grid
  have hle : (b.scale grid).low ≤ d * (b.scale grid).unit ↔ b.low ≤ d * 10 ^ grid := by
    rw [← @Nat.cast_le ℚ, cast_low h, cast_point, mul_le_mul_iff_right₀ hfactor]
  have hle' : d * (b.scale grid).unit ≤ (b.scale grid).high ↔ d * 10 ^ grid ≤ b.high := by
    rw [← @Nat.cast_le ℚ, cast_high, cast_point, mul_le_mul_iff_right₀ hfactor]
  have hlt : (b.scale grid).low < d * (b.scale grid).unit ↔ b.low < d * 10 ^ grid := by
    rw [← @Nat.cast_lt ℚ, cast_low h, cast_point, mul_lt_mul_iff_right₀ hfactor]
  have hlt' : d * (b.scale grid).unit < (b.scale grid).high ↔ d * 10 ^ grid < b.high := by
    rw [← @Nat.cast_lt ℚ, cast_high, cast_point, mul_lt_mul_iff_right₀ hfactor]
  unfold rounds Covers
  split
  · rw [Bool.and_eq_true, decide_eq_true_eq, decide_eq_true_eq, hle, hle']
  · rw [Bool.and_eq_true, decide_eq_true_eq, decide_eq_true_eq, hlt, hlt']

/-! ## The search -/

lemma covers_of_onGrid? (h : 1 ≤ b.mantissa) {grid : Int} {d : Decimal} (hd : b.onGrid? grid = some d) :
    b.Covers d.value := by
  unfold onGrid? at hd
  dsimp only at hd
  split at hd
  case h_1 hbelow habove =>
    cases hd
    unfold Decimal.value
    dsimp only
    split
    · exact (rounds_iff h grid _).mp hbelow
    · exact (rounds_iff h grid _).mp habove
  case h_2 hbelow _ =>
    cases hd
    exact (rounds_iff h grid _).mp hbelow
  case h_3 _ habove =>
    cases hd
    exact (rounds_iff h grid _).mp habove
  case h_4 => cases hd

lemma isSome_onGrid? (h : 1 ≤ b.mantissa) {grid : Int} {d : Nat}
    (hd : d = (b.scale grid).value / (b.scale grid).unit ∨
      d = (b.scale grid).value / (b.scale grid).unit + 1)
    (hcovers : b.Covers (d * 10 ^ grid)) : (b.onGrid? grid).isSome := by
  have hrounds := (rounds_iff h grid d).mpr hcovers
  unfold onGrid?
  dsimp only
  rcases hd with rfl | rfl
  · rw [hrounds]
    split <;> simp_all
  · rw [hrounds]
    split <;> simp_all

/-- The number lies between two neighbours on every grid. -/
lemma between_neighbours (b : Binary) (grid : Int) :
    let below := (b.scale grid).value / (b.scale grid).unit
    (below : ℚ) * 10 ^ grid ≤ b.value ∧ b.value < ((below + 1 : Nat) : ℚ) * 10 ^ grid := by
  have hfactor := b.factor_pos grid
  have hunit : 0 < (b.scale grid).unit := by
    have hq : (0 : ℚ) < (b.scale grid).unit := by
      rw [cast_unit]
      exact mul_pos hfactor (zpow_pos (by norm_num) grid)
    exact_mod_cast hq
  dsimp only
  constructor
  · have hle := Nat.div_mul_le_self (b.scale grid).value (b.scale grid).unit
    rw [← @Nat.cast_le ℚ, cast_point, cast_value, mul_le_mul_iff_right₀ hfactor] at hle
    exact hle
  · have hlt := Nat.lt_div_mul_add hunit (a := (b.scale grid).value)
    rw [← Nat.succ_mul, ← @Nat.cast_lt ℚ, cast_point, cast_value, mul_lt_mul_iff_right₀ hfactor] at hlt
    exact hlt

/-- Binary64 numbers: the mantissa has at most 53 bits, and only the smallest of those is narrow. -/
structure IsDouble (b : Binary) : Prop where
  pos : 1 ≤ b.mantissa
  lt : b.mantissa < 2 ^ 53
  narrow : b.narrow = true → b.mantissa = 2 ^ 52

/-- Where seventeen digits begin. -/
def leading (b : Binary) : Int :=
  leadingExponent (b.mantissa * numeratorPower 2 b.exponent) (denominatorPower 2 b.exponent)

lemma zpow_leading_le (h : 1 ≤ b.mantissa) : (10 : ℚ) ^ b.leading ≤ b.value := by
  have hden := denominatorPower_pos 2 (by omega) b.exponent
  have hnum : 0 < numeratorPower 2 b.exponent := Nat.pow_pos (by omega)
  have hle := zpow_leadingExponent_le (Nat.mul_pos h hnum) hden
  have hpower := zpow_mul_denominatorPower 2 (by omega) b.exponent
  have hdenq : (denominatorPower 2 b.exponent : ℚ) ≠ 0 := by
    exact_mod_cast hden.ne'
  push_cast at hle hpower
  rw [← hpower, ← mul_assoc, mul_div_cancel_right₀ _ hdenq] at hle
  exact hle

/-- On the grid of seventeen digits one of the two neighbours rounds to the number. -/
lemma isSome_seventeen (h : b.IsDouble) : (b.onGrid? (b.leading - 16)).isSome := by
  obtain ⟨hbelow, habove⟩ := b.between_neighbours (b.leading - 16)
  have hlead := zpow_leading_le h.pos
  have hstep : (10 : ℚ) ^ (b.leading - 16) * 10 ^ 16 = 10 ^ b.leading := by
    rw [← zpow_natCast (10 : ℚ) 16, ← zpow_add₀ ten_ne_zero]
    congr 1
    push_cast
    ring
  have hu := two_zpow_pos b.exponent
  have hm : (b.mantissa : ℚ) + 1 ≤ 2 ^ 53 := by exact_mod_cast h.lt
  set u : ℚ := 2 ^ b.exponent with hdef
  set w : ℚ := 10 ^ (b.leading - 16) with hw
  set below := (b.scale (b.leading - 16)).value / (b.scale (b.leading - 16)).unit
  have hvalue : b.value = b.mantissa * u := rfl
  have hhigh : b.high = b.value + u / 2 := by
    rw [high, hvalue]
    ring
  push_cast at habove
  cases hnarrow : b.narrow with
  | true =>
    -- The step of the grid is less than half a step of the binade.
    have hmantissa : (b.mantissa : ℚ) = 2 ^ 52 := by exact_mod_cast h.narrow hnarrow
    have hlow : b.low = b.value - u / 4 := by
      rw [low, hnarrow, hvalue]
      simp only [if_true]
      ring
    have hfine : w < u / 2 := by
      rw [hvalue, hmantissa] at hlead
      linarith
    refine isSome_onGrid? h.pos (.inr rfl) (covers_of_lt ?_ ?_)
    · rw [hlow]
      push_cast
      linarith
    · rw [hhigh]
      push_cast
      linarith
  | false =>
    have hlow : b.low = b.value - u / 2 := by
      rw [low, hnarrow, hvalue]
      simp only [Bool.false_eq_true, if_false]
      ring
    have hfine : w < u := by
      have hbound : b.value < 2 ^ 53 * u := by
        rw [hvalue]
        exact mul_lt_mul_of_pos_right (by linarith) hu
      linarith
    by_cases hnear : b.value - below * w < u / 2
    · refine isSome_onGrid? h.pos (.inl rfl) (covers_of_lt ?_ ?_)
      · rw [hlow]
        linarith
      · rw [hhigh]
        linarith
    · refine isSome_onGrid? h.pos (.inr rfl) (covers_of_lt ?_ ?_)
      · rw [hlow]
        push_cast
        linarith
      · rw [hhigh]
        push_cast
        linarith

/-- The search stops at the first grid with a hit. -/
lemma search_eq_some {leading : Int} {used fuel k : Nat} (hk : k < fuel)
    (hhit : (b.onGrid? (leading - (used + k : Nat))).isSome) :
    ∃ grid d, b.search leading used fuel = some d ∧ b.onGrid? grid = some d := by
  induction fuel generalizing used k with
  | zero => omega
  | succ fuel ih =>
    rw [search]
    cases hgrid : b.onGrid? (leading - used) with
    | some d => exact ⟨_, d, rfl, hgrid⟩
    | none =>
      cases k with
      | zero =>
        rw [Nat.add_zero, hgrid] at hhit
        cases hhit
      | succ k =>
        refine ih (k := k) (by omega) ?_
        rw [Nat.add_right_comm]
        exact hhit

/-- The decimal that is found is positive and rounds to the number. -/
theorem covers_shortest (h : b.IsDouble) : 0 < b.shortest.digits ∧ b.Covers b.shortest.value := by
  have hhit : (b.onGrid? (b.leading - (0 + 16 : Nat))).isSome := isSome_seventeen h
  obtain ⟨grid, d, hsearch, hgrid⟩ := search_eq_some (show 16 < 17 by omega) hhit
  have hshortest : b.shortest = d := by
    change (b.search b.leading 0 17).getD _ = d
    rw [hsearch]
    rfl
  have hcovers := covers_of_onGrid? h.pos hgrid
  rw [hshortest]
  refine ⟨Nat.pos_of_ne_zero fun hzero => ?_, hcovers⟩
  have hle := hcovers.low_le
  have hpos := low_pos h.pos
  rw [Decimal.value, hzero, Nat.cast_zero, zero_mul] at hle
  linarith

end Binary

end PackToMod.Decimal
