import Mathlib.Data.Int.Log
import Mathlib.Data.Rat.Floor
import PackToMod.Number
import PackToMod.Proofs.ShortestDecimals

/-!
# Reading binary64 values back

A decimal is read as the binary64 value nearest to it, and of two equally near ones as that with the even
mantissa. `read?_text` says that the text of every binary64 value is read back as that value.
-/

namespace PackToMod

open Decimal

/-- The nearest natural number to a positive rational; of two the even one. -/
def roundHalfEven (q : ℚ) : Nat :=
  let n := ⌊q⌋₊
  if q - n < 1 / 2 then n
  else if 1 / 2 < q - n then n + 1
  else if n % 2 = 0 then n else n + 1

lemma roundHalfEven_eq {q : ℚ} {m : Nat} (hm : 1 ≤ m) (hlow : (m : ℚ) - 1 / 2 ≤ q)
    (hhigh : q ≤ (m : ℚ) + 1 / 2) (hends : q = m - 1 / 2 ∨ q = m + 1 / 2 → m % 2 = 0) :
    roundHalfEven q = m := by
  have hone : (1 : ℚ) ≤ m := by exact_mod_cast hm
  have hq : 0 ≤ q := by linarith
  unfold roundHalfEven
  dsimp only
  by_cases hlt : q < m
  · -- The number below is odd at the lower end, where the mantissa is even.
    have hcast : ((m - 1 : Nat) : ℚ) = m - 1 := by
      rw [Nat.cast_sub hm, Nat.cast_one]
    have hfloor : ⌊q⌋₊ = m - 1 := by
      rw [Nat.floor_eq_iff hq, hcast]
      constructor
      · linarith
      · linarith
    rw [hfloor, hcast, if_neg (by linarith)]
    by_cases hend : q = m - 1 / 2
    · have heven := hends (.inl hend)
      rw [if_neg (by linarith), if_neg (by omega)]
      omega
    · have hgt : (m : ℚ) - 1 / 2 < q := lt_of_le_of_ne hlow (Ne.symm hend)
      rw [if_pos (by linarith)]
      omega
  · have hfloor : ⌊q⌋₊ = m := by
      rw [Nat.floor_eq_iff hq]
      constructor
      · linarith
      · linarith
    rw [hfloor]
    by_cases hend : q = m + 1 / 2
    · have heven := hends (.inr hend)
      rw [if_neg (by linarith), if_neg (by linarith), if_pos heven]
    · have hgt : q < (m : ℚ) + 1 / 2 := lt_of_le_of_ne hhigh hend
      rw [if_pos (by linarith)]

namespace Binary64

/-! ## The nearest value -/

/-- The value nearest to a magnitude. The mantissa has as many bits as there are, and one that is rounded up
to a further bit belongs to the next binade; beyond the last binade there is only infinity. -/
def nearest (negative : Bool) (q : ℚ) : Binary64 :=
  if q = 0 then .finite negative 0 (-1074)
  else
    let exponent := max (Int.log 2 q - 52) (-1074)
    let mantissa := roundHalfEven (q / 2 ^ exponent)
    let (mantissa, exponent) :=
      if mantissa = 2 ^ 53 then (2 ^ 52, exponent + 1) else (mantissa, exponent)
    if 971 < exponent then .infinite negative else .finite negative mantissa exponent

/-- The mantissas and exponents of finite values. All bits of the mantissa are used except at the smallest
exponent. -/
structure IsCanonical (mantissa : Nat) (exponent : Int) : Prop where
  lt : mantissa < 2 ^ 53
  lowest : -1074 ≤ exponent
  highest : exponent ≤ 971
  normal : exponent = -1074 ∨ 2 ^ 52 ≤ mantissa

/-- The number whose shortest decimal is written. -/
def binary (mantissa : Nat) (exponent : Int) : Decimal.Binary :=
  ⟨mantissa, exponent, mantissa = Nat.pow 2 52 && -1074 < exponent⟩

section

variable {mantissa : Nat} {exponent : Int} {q : ℚ}

lemma IsCanonical.isDouble (h : IsCanonical mantissa exponent) (hpos : 1 ≤ mantissa) :
    (binary mantissa exponent).IsDouble where
  pos := hpos
  lt := h.lt
  narrow hnarrow := by
    have hboth := (Bool.and_eq_true _ _).mp hnarrow
    exact of_decide_eq_true hboth.1

lemma log_eq {q : ℚ} {e : Int} (hlow : (2 : ℚ) ^ e ≤ q) (hhigh : q < 2 ^ (e + 1)) : Int.log 2 q = e := by
  have hq : 0 < q := (Binary.two_zpow_pos e).trans_le hlow
  have hle : e ≤ Int.log 2 q := (Int.zpow_le_iff_le_log (by omega) hq).mp hlow
  have hlt : Int.log 2 q < e + 1 := (Int.lt_zpow_iff_log_lt (by omega) hq).mp hhigh
  omega

lemma zpow_add_natCast (e : Int) (n : Nat) : (2 : ℚ) ^ (e + n) = 2 ^ n * 2 ^ e := by
  rw [zpow_add₀ (by norm_num), zpow_natCast, mul_comm]

/-- Below the foot of its binade a value has neighbours half as far away, and the nearest mantissa there is
one with a further bit. -/
lemma nearest_below_foot (h : IsCanonical mantissa exponent) (hq : (binary mantissa exponent).Covers q)
    (hfoot : q < 2 ^ 52 * 2 ^ exponent) (hexponent : -1074 < exponent) (negative : Bool) :
    nearest negative q = .finite negative mantissa exponent := by
  have hu := Binary.two_zpow_pos exponent
  have hlow := hq.low_le
  have hmantissa : mantissa = 2 ^ 52 := by
    have hle : 2 ^ 52 ≤ mantissa := h.normal.resolve_left (by omega)
    have hge : (mantissa : ℚ) - 1 / 2 < 2 ^ 52 := by
      refine lt_of_mul_lt_mul_right (lt_of_le_of_lt ?_ hfoot) hu.le
      refine le_trans (mul_le_mul_of_nonneg_right ?_ hu.le) hlow
      change (mantissa : ℚ) - 1 / 2 ≤ mantissa - _
      split
      · linarith
      · linarith
    have hlt : (mantissa : ℚ) < 2 ^ 52 + 1 := by linarith
    have hnat : mantissa < 2 ^ 52 + 1 := by exact_mod_cast hlt
    omega
  subst hmantissa
  have hquarter : ((2 : ℚ) ^ 52 - 1 / 4) * 2 ^ exponent ≤ q := by
    have hnarrow : (binary (2 ^ 52) exponent).narrow = true := by
      simp [binary, hexponent]
    rw [Binary.low, hnarrow, if_pos rfl] at hlow
    exact_mod_cast hlow
  have hpos : 0 < q := lt_of_lt_of_le (mul_pos (by norm_num) hu) hquarter
  have hhalf : (2 : ℚ) ^ exponent = 2 * 2 ^ (exponent - 1) := by
    have hstep := zpow_add_natCast (exponent - 1) 1
    rwa [Nat.cast_one, Int.sub_add_cancel, pow_one] at hstep
  have hv := Binary.two_zpow_pos (exponent - 1)
  have hlog : Int.log 2 q = exponent + 51 := by
    refine log_eq ?_ ?_
    · have hstep := zpow_add_natCast exponent 51
      push_cast at hstep
      rw [hstep]
      refine le_trans (mul_le_mul_of_nonneg_right ?_ hu.le) hquarter
      norm_num
    · have hstep := zpow_add_natCast exponent 52
      push_cast at hstep
      rw [show exponent + 51 + 1 = exponent + 52 by omega, hstep]
      exact hfoot
  have hmax : max (Int.log 2 q - 52) (-1074) = exponent - 1 := by
    rw [hlog]
    omega
  have hround : roundHalfEven (q / 2 ^ (exponent - 1)) = 2 ^ 53 := by
    refine roundHalfEven_eq (by norm_num) ?_ ?_ (fun _ => by norm_num)
    · rw [le_div_iff₀ hv]
      rw [hhalf] at hquarter
      push_cast
      linarith
    · rw [div_le_iff₀ hv]
      rw [hhalf] at hfoot
      push_cast
      linarith
  have hhighest := h.highest
  unfold nearest
  rw [if_neg hpos.ne']
  dsimp only
  rw [hmax, hround, if_pos rfl, if_neg (by omega), Int.sub_add_cancel]

/-- A number in the interval of a value has that value as its nearest. -/
theorem nearest_of_covers (h : IsCanonical mantissa exponent) (hpos : 1 ≤ mantissa)
    (hq : (binary mantissa exponent).Covers q) (negative : Bool) :
    nearest negative q = .finite negative mantissa exponent := by
  by_cases hfoot : q < 2 ^ 52 * 2 ^ exponent ∧ -1074 < exponent
  · exact nearest_below_foot h hq hfoot.1 hfoot.2 negative
  have hu := Binary.two_zpow_pos exponent
  have hqpos : 0 < q := lt_of_lt_of_le (Binary.low_pos hpos) hq.low_le
  have hm : (mantissa : ℚ) + 1 ≤ 2 ^ 53 := by exact_mod_cast h.lt
  have hlow : ((mantissa : ℚ) - 1 / 2) * 2 ^ exponent ≤ q := by
    refine le_trans (mul_le_mul_of_nonneg_right ?_ hu.le) hq.low_le
    change (mantissa : ℚ) - 1 / 2 ≤ mantissa - _
    split
    · linarith
    · linarith
  have hhigh : q ≤ ((mantissa : ℚ) + 1 / 2) * 2 ^ exponent := hq.le_high
  -- The number is in the binade of the value, or below the normal ones altogether.
  have hupper : Int.log 2 q < exponent + 53 := by
    refine (Int.lt_zpow_iff_log_lt (by omega) hqpos).mp ?_
    have hstep := zpow_add_natCast exponent 53
    push_cast at hstep ⊢
    rw [hstep]
    refine lt_of_le_of_lt hhigh (mul_lt_mul_of_pos_right ?_ hu)
    linarith
  have hmax : max (Int.log 2 q - 52) (-1074) = exponent := by
    have hlowest := h.lowest
    by_cases hsmall : exponent = -1074
    · omega
    · have hge : 2 ^ 52 * 2 ^ exponent ≤ q := by
        by_contra hlt
        exact hfoot ⟨not_le.mp hlt, by omega⟩
      have hlog : exponent + 52 ≤ Int.log 2 q := by
        refine (Int.zpow_le_iff_le_log (by omega) hqpos).mp ?_
        have hstep := zpow_add_natCast exponent 52
        push_cast at hstep ⊢
        rw [hstep]
        exact hge
      omega
  have hround : roundHalfEven (q / 2 ^ exponent) = mantissa := by
    refine roundHalfEven_eq hpos ?_ ?_ ?_
    · rw [le_div_iff₀ hu]
      exact hlow
    · rw [div_le_iff₀ hu]
      exact hhigh
    · rintro (hend | hend)
      · rw [div_eq_iff hu.ne'] at hend
        -- The lower end is as near as that only if the interval is not narrow.
        cases hnarrow : (binary mantissa exponent).narrow with
        | true =>
          have hle := hq.low_le
          rw [Binary.low, hnarrow, if_pos rfl, hend] at hle
          have hquarter := le_of_mul_le_mul_right hle hu
          change (mantissa : ℚ) - 1 / 4 ≤ mantissa - 1 / 2 at hquarter
          linarith
        | false =>
          refine hq.even (.inl ?_)
          rw [Binary.low, hnarrow, hend]
          rfl
      · rw [div_eq_iff hu.ne'] at hend
        exact hq.even (.inr hend)
  have hhighest := h.highest
  unfold nearest
  rw [if_neg hqpos.ne']
  dsimp only
  rw [hmax, hround, if_neg h.lt.ne, if_neg (by omega)]

end

/-! ## The reader -/

def readMagnitude? (negative : Bool) (s : List Char) : Option Binary64 :=
  if s = ['i', 'n', 'f'] then some (.infinite negative)
  else if s = ['n', 'a', 'n'] then some .nan
  else (Decimal.read? s).map fun d => nearest negative d.value

def read? : List Char → Option Binary64
  | '-' :: s => readMagnitude? true s
  | s => readMagnitude? false s

lemma readMagnitude?_of_readsAs {s : List Char} {q : ℚ} (h : ReadsAs s q) (negative : Bool) :
    readMagnitude? negative s = some (nearest negative q) := by
  obtain ⟨d, hread, rfl⟩ := h
  have hinf : s ≠ ['i', 'n', 'f'] := by
    rintro rfl
    cases hread
  have hnan : s ≠ ['n', 'a', 'n'] := by
    rintro rfl
    cases hread
  rw [readMagnitude?, if_neg hinf, if_neg hnan, hread, Option.map_some]

lemma read?_of_readsAs {s : List Char} {q : ℚ} (h : ReadsAs s q) : read? s = some (nearest false q) := by
  rw [← readMagnitude?_of_readsAs h]
  unfold read?
  split
  · obtain ⟨d, hread, -⟩ := h
    cases hread
  · rfl

lemma magnitudeText_readsAs {mantissa : Nat} {exponent : Int} (h : IsCanonical mantissa exponent) :
    ∃ q, ReadsAs (magnitudeText mantissa exponent) q ∧
      ∀ negative, nearest negative q = .finite negative mantissa exponent := by
  unfold magnitudeText
  split
  case isTrue hzero =>
    have hexponent : exponent = -1074 := h.normal.resolve_right (by rw [hzero]; norm_num)
    refine ⟨0, ⟨⟨0, -1⟩, by decide, by simp [Decimal.value]⟩, fun negative => ?_⟩
    rw [nearest, if_pos rfl, hzero, hexponent]
  case isFalse hne =>
    have hpos : 1 ≤ mantissa := Nat.one_le_iff_ne_zero.mpr hne
    obtain ⟨hdigits, hcovers⟩ := Binary.covers_shortest (h.isDouble hpos)
    exact ⟨_, Decimal.read?_text _ _ hdigits, nearest_of_covers h hpos hcovers⟩

/-! ## All values -/

/-- A value is canonical if its mantissa and exponent are, where it has any. -/
def Canonical : Binary64 → Prop
  | finite _ mantissa exponent => IsCanonical mantissa exponent
  | _ => True

/-- Exponent and fraction have eleven and fifty-two bits. -/
lemma canonical_ofBits (bits : UInt64) : (ofBits bits).Canonical := by
  have hbiased : ((bits >>> 52) &&& 0x7FF).toNat ≤ 0x7FF := by
    rw [UInt64.toNat_and]
    exact Nat.and_le_right
  have hfraction : (bits &&& 0xFFFFFFFFFFFFF).toNat ≤ 0xFFFFFFFFFFFFF := by
    rw [UInt64.toNat_and]
    exact Nat.and_le_right
  unfold ofBits
  dsimp only
  generalize ((bits >>> 52) &&& 0x7FF).toNat = biased at *
  generalize (bits &&& 0xFFFFFFFFFFFFF).toNat = fraction at *
  have hpow : Nat.pow 2 52 = 4503599627370496 := by norm_num
  split_ifs with hmax hfinite hzero
  · trivial
  · trivial
  · exact ⟨by norm_num; omega, by omega, by omega, .inl rfl⟩
  · refine ⟨?_, by omega, by omega, .inr ?_⟩
    · rw [hpow]
      norm_num
      omega
    · rw [hpow]
      norm_num

/-- The text of every value is read back as the value. -/
theorem read?_text {x : Binary64} (h : x.Canonical) : read? x.text = some x := by
  cases x with
  | nan => rfl
  | infinite negative => cases negative <;> rfl
  | finite negative mantissa exponent =>
    obtain ⟨q, hreads, hnearest⟩ := magnitudeText_readsAs h
    cases negative with
    | true =>
      change readMagnitude? true (magnitudeText mantissa exponent) = _
      rw [readMagnitude?_of_readsAs hreads, hnearest]
    | false =>
      change read? (magnitudeText mantissa exponent) = _
      rw [read?_of_readsAs hreads, hnearest]

lemma read?_text_ofFloat (x : Float) : read? (ofFloat x).text = some (ofFloat x) :=
  read?_text (canonical_ofBits x.toBits)

/-! ## Characters of numbers -/

lemma text_areParts (x : Binary64) : AreParts x.text := by
  have hmagnitude (mantissa : Nat) (exponent : Int) : AreParts (magnitudeText mantissa exponent) := by
    unfold magnitudeText
    split
    · exact .cons rfl (.cons rfl (.cons rfl areParts_nil))
    · exact Layout.text_areParts _ _
  cases x with
  | nan => exact .cons rfl (.cons rfl (.cons rfl areParts_nil))
  | infinite negative =>
    have hinf : AreParts ['i', 'n', 'f'] := .cons rfl (.cons rfl (.cons rfl areParts_nil))
    cases negative with
    | true => exact .cons rfl hinf
    | false => exact hinf
  | finite negative mantissa exponent =>
    cases negative with
    | true => exact .cons rfl (hmagnitude _ _)
    | false => exact hmagnitude _ _

end Binary64

lemma areParts_integer (n : Int) : AreParts (toString n).toList := by
  have hdigits (n : Nat) : AreParts n.repr.toList := by
    rw [Nat.toList_repr]
    exact (areDigits_toDigits n).areParts
  cases n with
  | ofNat n => exact hdigits n
  | negSucc n =>
    change AreParts ("-" ++ (n + 1).repr).toList
    rw [String.toList_append]
    exact .cons rfl (hdigits (n + 1))

lemma Number.text_areParts (n : Number) : AreParts n.text.toList := by
  cases n with
  | integer n => exact areParts_integer n
  | real x =>
    unfold Number.text
    rw [String.toList_ofList]
    exact Binary64.text_areParts _

end PackToMod
