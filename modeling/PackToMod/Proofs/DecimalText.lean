import Mathlib.Algebra.Order.Field.Rat
import Mathlib.Data.List.TakeWhile
import Mathlib.Data.Rat.Cast.Order
import Mathlib.Tactic.FieldSimp
import Mathlib.Tactic.Ring
import PackToMod.Decimal.Layout

/-!
# Reading decimals back

A decimal is laid out positionally or scientifically. `read?` takes both: digits, a point with further
digits after it, and an exponent. `read?_text` says that every layout of a positive decimal is read back as
a decimal of the same value; its digits may be others, since zeros at the end are not written.
-/

namespace PackToMod.Decimal

/-- The number that a decimal stands for. -/
def value (d : Decimal) : ℚ :=
  d.digits * 10 ^ d.exponent

/-! ## The reader -/

def readDigits? (s : List Char) : Option Nat :=
  if s ≠ [] ∧ s.all Char.isDigit then some (Nat.ofDigitChars 10 s 0) else none

/-- The exponent after the digits of a decimal, if there is one. -/
def readExponent? : List Char → Option Int
  | [] => some 0
  | 'e' :: '+' :: digits => (readDigits? digits).map fun n : Nat => (n : Int)
  | 'e' :: '-' :: digits => (readDigits? digits).map fun n : Nat => -(n : Int)
  | _ => none

/-- The digits after a point, if there is one, and the text after them. -/
def readFraction : List Char → List Char × List Char
  | '.' :: s => (s.takeWhile Char.isDigit, s.dropWhile Char.isDigit)
  | s => ([], s)

def read? (s : List Char) : Option Decimal :=
  let whole := s.takeWhile Char.isDigit
  let (fraction, rest) := readFraction (s.dropWhile Char.isDigit)
  if whole = [] then none
  else (readExponent? rest).map fun exponent =>
    ⟨Nat.ofDigitChars 10 (whole ++ fraction) 0, exponent - fraction.length⟩

/-! ## Digits -/

/-- The text consists of digits. -/
def AreDigits (s : List Char) : Prop :=
  ∀ c ∈ s, c.isDigit = true

lemma areDigits_toDigits (n : Nat) : AreDigits (Nat.toDigits 10 n) :=
  fun _ hc => Nat.isDigit_of_mem_toDigits (by omega) (by omega) hc

lemma areDigits_replicate (n : Nat) : AreDigits (List.replicate n '0') := by
  intro c hc
  rw [List.eq_of_mem_replicate hc]
  rfl

lemma AreDigits.append {s t : List Char} (hs : AreDigits s) (ht : AreDigits t) : AreDigits (s ++ t) := by
  intro c hc
  rcases List.mem_append.mp hc with h | h
  · exact hs c h
  · exact ht c h

lemma readDigits?_of_areDigits {s : List Char} (hs : AreDigits s) (hne : s ≠ []) :
    readDigits? s = some (Nat.ofDigitChars 10 s 0) :=
  if_pos ⟨hne, List.all_eq_true.mpr hs⟩

section

variable {whole fraction rest : List Char}

/-- A text that does not go on with a digit. -/
def Stops (s : List Char) : Prop :=
  ∀ c ∈ s.head?, c.isDigit = false

lemma takeWhile_digits (hwhole : AreDigits whole) (hrest : Stops rest) :
    (whole ++ rest).takeWhile Char.isDigit = whole ∧ (whole ++ rest).dropWhile Char.isDigit = rest := by
  rw [List.takeWhile_append_of_pos hwhole, List.dropWhile_append_of_pos hwhole]
  cases rest with
  | nil => simp
  | cons c rest =>
    have hc : c.isDigit = false := hrest c rfl
    simp [hc]

/-- A decimal with a point. -/
lemma read?_point (hne : whole ≠ []) (hwhole : AreDigits whole) (hfraction : AreDigits fraction)
    (hrest : Stops rest) :
    read? (whole ++ '.' :: (fraction ++ rest)) = (readExponent? rest).map fun exponent =>
      ⟨Nat.ofDigitChars 10 (whole ++ fraction) 0, exponent - fraction.length⟩ := by
  have hpoint : Stops ('.' :: (fraction ++ rest)) := by
    intro c hc
    cases hc
    rfl
  obtain ⟨htake, hdrop⟩ := takeWhile_digits hwhole hpoint
  obtain ⟨htake', hdrop'⟩ := takeWhile_digits hfraction hrest
  simp [read?, readFraction, htake, hdrop, htake', hdrop', hne]

lemma read?_noPoint (hne : whole ≠ []) (hwhole : AreDigits whole) (exponent : List Char) :
    read? (whole ++ 'e' :: exponent) = (readExponent? ('e' :: exponent)).map fun exponent =>
      ⟨Nat.ofDigitChars 10 whole 0, exponent⟩ := by
  have hstop : Stops ('e' :: exponent) := by
    intro c hc
    cases hc
    rfl
  obtain ⟨htake, hdrop⟩ := takeWhile_digits hwhole hstop
  simp [read?, readFraction, htake, hdrop, hne]

end

/-! ## Layouts -/

lemma readExponent?_exponentText (width : Nat) (exponent : Int) :
    readExponent? ('e' :: exponentText width exponent) = some exponent := by
  set digits := Nat.toDigits 10 exponent.natAbs with hdigits
  have hall : AreDigits (List.replicate (width - digits.length) '0' ++ digits) :=
    (areDigits_replicate _).append (areDigits_toDigits _)
  have hne : List.replicate (width - digits.length) '0' ++ digits ≠ [] := by
    simp [hdigits, Nat.toDigits_ne_nil]
  have hread : readDigits? (List.replicate (width - digits.length) '0' ++ digits) =
      some exponent.natAbs := by
    rw [readDigits?_of_areDigits hall hne, Nat.ofDigitChars_append, Nat.ofDigitChars_replicate_zero,
      Nat.mul_zero, hdigits, Nat.ofDigitChars_ten_toDigits]
  unfold exponentText
  rw [← hdigits]
  split
  · have hneg : -(exponent.natAbs : Int) = exponent := by omega
    rw [readExponent?, hread, Option.map_some, hneg]
  · have hpos : (exponent.natAbs : Int) = exponent := by omega
    rw [readExponent?, hread, Option.map_some, hpos]

/-- What digits with the point behind the first `point` of them stand for. -/
def valueAt (digits : List Char) (point : Int) : ℚ :=
  Nat.ofDigitChars 10 digits 0 * 10 ^ (point - digits.length)

/-- A text is read as a decimal of the given value. -/
def ReadsAs (s : List Char) (q : ℚ) : Prop :=
  ∃ d, read? s = some d ∧ d.value = q

lemma ten_ne_zero : (10 : ℚ) ≠ 0 := by norm_num

lemma positional_readsAs {digits : List Char} (hdigits : AreDigits digits) (hne : digits ≠ []) (point : Int) :
    ReadsAs (positional digits point) (valueAt digits point) := by
  have hnil : Stops [] := fun c hc => by cases hc
  unfold positional
  split
  case isTrue hpoint =>
    -- All digits stand behind the point.
    have hzeros : AreDigits (List.replicate (-point).toNat '0' ++ digits) :=
      (areDigits_replicate _).append hdigits
    have hread := read?_point (List.cons_ne_nil '0' []) (areDigits_replicate 1) hzeros hnil
    rw [List.append_nil] at hread
    refine ⟨_, hread, ?_⟩
    have hexponent : (0 : Int) - ((List.replicate (-point).toNat '0' ++ digits).length : Int) =
        point - digits.length := by
      rw [List.length_append, List.length_replicate]
      omega
    rw [value, valueAt]
    dsimp only
    rw [hexponent, ← List.append_assoc, Nat.ofDigitChars_append]
    congr 2
    rw [← List.replicate_one, ← List.replicate_add, Nat.ofDigitChars_replicate_zero, Nat.mul_zero]
  case isFalse hpoint =>
    split
    case isTrue hlength =>
      -- All digits stand before the point, and zeros between them and it.
      set zeros := point.toNat - digits.length with hzeros
      have hwhole : AreDigits (digits ++ List.replicate zeros '0') := hdigits.append (areDigits_replicate _)
      have hread := read?_point (by simp [hne]) hwhole (areDigits_replicate 1) hnil
      rw [List.append_nil] at hread
      refine ⟨_, hread, ?_⟩
      have hexponent : point - (digits.length : Int) = (zeros : Int) := by omega
      rw [value, valueAt, hexponent, Nat.ofDigitChars_append, Nat.ofDigitChars_append,
        Nat.ofDigitChars_replicate_zero, Nat.ofDigitChars_replicate_zero, zpow_natCast]
      simp
      field_simp
    case isFalse hlength =>
      have htake : AreDigits (digits.take point.toNat) := fun c hc => hdigits c (List.mem_of_mem_take hc)
      have hdrop : AreDigits (digits.drop point.toNat) := fun c hc => hdigits c (List.mem_of_mem_drop hc)
      have htakeNe : digits.take point.toNat ≠ [] := by
        rw [Ne, List.take_eq_nil_iff, not_or]
        exact ⟨by omega, hne⟩
      have hread := read?_point htakeNe htake hdrop hnil
      rw [List.append_nil, List.take_append_drop] at hread
      refine ⟨_, hread, ?_⟩
      have hexponent : (0 : Int) - ((digits.drop point.toNat).length : Int) = point - digits.length := by
        rw [List.length_drop]
        omega
      rw [value, valueAt]
      dsimp only
      rw [hexponent]

lemma scientific_readsAs {digits : List Char} (hdigits : AreDigits digits) (hne : digits ≠ []) (width : Nat)
    (point : Int) : ReadsAs (scientific width digits (point - 1)) (valueAt digits point) := by
  unfold scientific
  match digits, hne with
  | [d], _ =>
    have hread := read?_noPoint (List.cons_ne_nil d []) hdigits (exponentText width (point - 1))
    rw [readExponent?_exponentText] at hread
    exact ⟨_, hread, rfl⟩
  | d :: e :: ds, _ =>
    have hd : AreDigits [d] := fun c hc => hdigits c (List.mem_cons.mpr (.inl (List.mem_singleton.mp hc)))
    have hds : AreDigits (e :: ds) := fun c hc => hdigits c (List.mem_cons_of_mem _ hc)
    have hstop : Stops ('e' :: exponentText width (point - 1)) := by
      intro c hc
      cases hc
      rfl
    have hread := read?_point (List.cons_ne_nil d []) hd hds hstop
    rw [readExponent?_exponentText] at hread
    refine ⟨_, hread, ?_⟩
    have hexponent : point - 1 - ((e :: ds).length : Int) = point - ((d :: e :: ds).length : Int) := by
      simp only [List.length_cons]
      omega
    rw [value, valueAt]
    dsimp only
    rw [hexponent]
    rfl

/-! ## Digits without the zeros at their end -/

lemma ofDigitChars_append_zeros (digits : List Char) (n : Nat) :
    Nat.ofDigitChars 10 (digits ++ List.replicate n '0') 0 = 10 ^ n * Nat.ofDigitChars 10 digits 0 := by
  rw [Nat.ofDigitChars_append, Nat.ofDigitChars_replicate_zero]

/-- The zeros at the end of a text of digits. -/
lemma exists_eq_append_zeros (s : List Char) :
    ∃ n, s = (s.reverse.dropWhile (· == '0')).reverse ++ List.replicate n '0' := by
  refine ⟨(s.reverse.takeWhile (· == '0')).length, ?_⟩
  have hzeros : s.reverse.takeWhile (· == '0') =
      List.replicate (s.reverse.takeWhile (· == '0')).length '0' := by
    rw [List.eq_replicate_iff]
    refine ⟨rfl, fun c hc => ?_⟩
    simpa using List.mem_takeWhile_imp hc
  have hsplit := congrArg List.reverse (List.takeWhile_append_dropWhile (p := (· == '0')) (l := s.reverse))
  rw [List.reverse_append, List.reverse_reverse, hzeros, List.reverse_replicate] at hsplit
  exact hsplit.symm

lemma digitsAndPoint_value (d : Decimal) (h : 0 < d.digits) :
    AreDigits d.digitsAndPoint.1 ∧ d.digitsAndPoint.1 ≠ [] ∧
      valueAt d.digitsAndPoint.1 d.digitsAndPoint.2 = d.value := by
  obtain ⟨n, hall⟩ := exists_eq_append_zeros (Nat.toDigits 10 d.digits)
  set digits := ((Nat.toDigits 10 d.digits).reverse.dropWhile (· == '0')).reverse with hdigits
  have hvalue : d.digits = 10 ^ n * Nat.ofDigitChars 10 digits 0 := by
    rw [← ofDigitChars_append_zeros, ← hall, Nat.ofDigitChars_ten_toDigits]
  have hlength : (Nat.toDigits 10 d.digits).length = digits.length + n := by
    rw [hall, List.length_append, List.length_replicate]
  change AreDigits digits ∧ digits ≠ [] ∧
    valueAt digits ((Nat.toDigits 10 d.digits).length + d.exponent) = d.value
  refine ⟨?_, ?_, ?_⟩
  · intro c hc
    refine areDigits_toDigits d.digits c ?_
    rw [hall]
    exact List.mem_append_left _ hc
  · intro hnil
    rw [hnil, Nat.ofDigitChars_nil, Nat.mul_zero] at hvalue
    omega
  · have hexponent : ((Nat.toDigits 10 d.digits).length : Int) + d.exponent - digits.length =
        n + d.exponent := by
      rw [hlength]
      push_cast
      ring
    have hcast : (d.digits : ℚ) = 10 ^ n * Nat.ofDigitChars 10 digits 0 := by exact_mod_cast hvalue
    rw [valueAt, hexponent, value, hcast, zpow_add₀ ten_ne_zero, zpow_natCast]
    ring

/-- Every layout of a positive decimal is read back as a decimal of the same value. -/
theorem read?_text (l : Layout) (d : Decimal) (h : 0 < d.digits) : ReadsAs (l.text d) d.value := by
  obtain ⟨hdigits, hne, hvalue⟩ := digitsAndPoint_value d h
  rw [← hvalue]
  change ReadsAs (if _ then positional d.digitsAndPoint.1 d.digitsAndPoint.2
    else scientific l.exponentWidth d.digitsAndPoint.1 (d.digitsAndPoint.2 - 1)) _
  split
  · exact positional_readsAs hdigits hne _
  · exact scientific_readsAs hdigits hne _ _

/-! ## Characters of decimals -/

/-- The characters that numbers are written with; the letters are those of an exponent and of the values that
are no numbers. -/
def isPart (c : Char) : Bool :=
  c.isDigit || ['.', '+', '-', 'e', 'i', 'n', 'f', 'a'].contains c

/-- All characters of a text are parts of numbers. -/
def AreParts (s : List Char) : Prop :=
  ∀ c ∈ s, isPart c = true

lemma AreDigits.areParts {s : List Char} (h : AreDigits s) : AreParts s := by
  intro c hc
  simp [isPart, h c hc]

lemma AreParts.append {s t : List Char} (hs : AreParts s) (ht : AreParts t) : AreParts (s ++ t) := by
  intro c hc
  rcases List.mem_append.mp hc with h | h
  · exact hs c h
  · exact ht c h

lemma AreParts.cons {s : List Char} {c : Char} (hc : isPart c = true) (hs : AreParts s) :
    AreParts (c :: s) := by
  intro d hd
  rcases List.mem_cons.mp hd with rfl | h
  · exact hc
  · exact hs d h

lemma areParts_nil : AreParts [] :=
  fun _ hc => absurd hc List.not_mem_nil

lemma positional_areParts {digits : List Char} (h : AreDigits digits) (point : Int) :
    AreParts (positional digits point) := by
  have hzeros (n : Nat) : AreParts (List.replicate n '0') := (areDigits_replicate n).areParts
  unfold positional
  split
  · exact .cons rfl (.cons rfl ((hzeros _).append h.areParts))
  · split
    · exact (h.areParts.append (hzeros _)).append (.cons rfl (.cons rfl areParts_nil))
    · have htake : AreDigits (digits.take point.toNat) := fun c hc => h c (List.mem_of_mem_take hc)
      have hdrop : AreDigits (digits.drop point.toNat) := fun c hc => h c (List.mem_of_mem_drop hc)
      exact htake.areParts.append (.cons rfl hdrop.areParts)

lemma scientific_areParts {digits : List Char} (h : AreDigits digits) (width : Nat) (exponent : Int) :
    AreParts (scientific width digits exponent) := by
  have hexponent : AreParts (exponentText width exponent) := by
    unfold exponentText
    refine .cons ?_ ((areDigits_replicate _).areParts.append (areDigits_toDigits _).areParts)
    split <;> rfl
  have hmark : AreParts ('e' :: exponentText width exponent) := .cons rfl hexponent
  unfold scientific
  refine AreParts.append ?_ hmark
  split
  · exact areParts_nil
  · exact h.areParts
  · next d ds _ =>
    have htail : AreDigits ds := fun c hc => h c (List.mem_cons_of_mem _ hc)
    exact .cons (h.areParts d List.mem_cons_self) (.cons rfl htail.areParts)

lemma Layout.text_areParts (l : Layout) (d : Decimal) : AreParts (l.text d) := by
  have hdigits : AreDigits d.digitsAndPoint.1 := by
    intro c hc
    refine areDigits_toDigits d.digits c ?_
    have hdropped := List.mem_reverse.mp hc
    exact List.mem_reverse.mp ((List.dropWhile_sublist _).subset hdropped)
  change AreParts (if _ then positional d.digitsAndPoint.1 d.digitsAndPoint.2
    else scientific l.exponentWidth d.digitsAndPoint.1 (d.digitsAndPoint.2 - 1))
  split
  · exact positional_areParts hdigits _
  · exact scientific_areParts hdigits _ _

end PackToMod.Decimal
