import PackToMod.Proofs.TagPrograms

/-!
# Numbers with the same text

The text of a number gives it away. An integer is read back from its digits, and a binary64 value from its
shortest decimal; what remains is that the sign, exponent and fraction of a value are all there is to it, that
there is only one value that is not a number, and that no integer is written with a point, an exponent or
letters.
-/

namespace PackToMod

namespace Binary64

variable {bits bits' : UInt64} {x y : Float}

/-! ## Bit patterns -/

lemma toNat_sign (bits : UInt64) : (bits >>> 63).toNat = bits.toNat / 2 ^ 63 := by
  rw [UInt64.toNat_shiftRight, Nat.shiftRight_eq_div_pow]
  rfl

lemma toNat_biased (bits : UInt64) : ((bits >>> 52) &&& 0x7FF).toNat = bits.toNat / 2 ^ 52 % 2 ^ 11 := by
  rw [UInt64.toNat_and, UInt64.toNat_shiftRight, Nat.shiftRight_eq_div_pow]
  exact Nat.and_two_pow_sub_one_eq_mod _ 11

lemma toNat_fraction (bits : UInt64) : (bits &&& 0xFFFFFFFFFFFFF).toNat = bits.toNat % 2 ^ 52 := by
  rw [UInt64.toNat_and]
  exact Nat.and_two_pow_sub_one_eq_mod _ 52

lemma negative_iff (bits : UInt64) : (bits >>> 63 == 1) = true ↔ bits.toNat / 2 ^ 63 = 1 := by
  rw [beq_iff_eq, ← UInt64.toNat_inj, toNat_sign]
  rfl

lemma ofBits_eq_nan_iff (bits : UInt64) :
    ofBits bits = .nan ↔ bits.toNat / 2 ^ 52 % 2 ^ 11 = 0x7FF ∧ bits.toNat % 2 ^ 52 ≠ 0 := by
  unfold ofBits
  dsimp only
  rw [toNat_biased, toNat_fraction]
  split_ifs <;> simp_all

/-- The parts of a bit pattern can be read off the value, if it is a number. -/
lemma parts_of_ofBits (h : ofBits bits = ofBits bits') (hnumber : ofBits bits ≠ .nan) :
    (bits >>> 63 == 1) = (bits' >>> 63 == 1) ∧
      bits.toNat / 2 ^ 52 % 2 ^ 11 = bits'.toNat / 2 ^ 52 % 2 ^ 11 ∧ bits.toNat % 2 ^ 52 = bits'.toNat % 2 ^ 52 := by
  have hlt : bits.toNat % 2 ^ 52 < Nat.pow 2 52 := Nat.mod_lt _ (by decide)
  have hlt' : bits'.toNat % 2 ^ 52 < Nat.pow 2 52 := Nat.mod_lt _ (by decide)
  unfold ofBits at h hnumber
  dsimp only at h hnumber
  rw [toNat_biased, toNat_fraction] at h hnumber
  rw [toNat_biased, toNat_fraction] at h
  generalize bits.toNat / 2 ^ 52 % 2 ^ 11 = biased at *
  generalize bits.toNat % 2 ^ 52 = fraction at *
  generalize bits'.toNat / 2 ^ 52 % 2 ^ 11 = biased' at *
  generalize bits'.toNat % 2 ^ 52 = fraction' at *
  generalize Nat.pow 2 52 = implicit at *
  split_ifs at h hnumber <;> simp_all
  -- A mantissa with the implicit bit is larger than any without it.
  omega

/-- Only what is not a number has several bit patterns. -/
lemma ofBits_inj (h : ofBits bits = ofBits bits') (hnumber : ofBits bits ≠ .nan) : bits = bits' := by
  obtain ⟨hsign, hbiased, hfraction⟩ := parts_of_ofBits h hnumber
  have hnegative : bits.toNat / 2 ^ 63 = 1 ↔ bits'.toNat / 2 ^ 63 = 1 := by
    rw [← negative_iff, ← negative_iff, hsign]
  have hlt := bits.toNat_lt
  have hlt' := bits'.toNat_lt
  rw [← UInt64.toNat_inj]
  omega

lemma toNat_unpackExponent (bits : UInt64) :
    (@Float.Model.UnpackedFloat.unpackExponent .binary64 bits.toBitVec).toNat = bits.toNat / 2 ^ 52 % 2 ^ 11 := by
  rw [← Nat.shiftRight_eq_div_pow]
  simp [Float.Model.UnpackedFloat.unpackExponent]

lemma toNat_unpackMantissa (bits : UInt64) :
    (@Float.Model.UnpackedFloat.unpackMantissa .binary64 bits.toBitVec).toNat = bits.toNat % 2 ^ 52 := by
  simp [Float.Model.UnpackedFloat.unpackMantissa]

/-- A value that is not a number has the one bit pattern that is valid for it. -/
lemma toBits_of_nan (h : ofFloat x = .nan) :
    x.toBits.toBitVec = Float.Model.UnpackedFloat.packedNaN .binary64 := by
  obtain ⟨hbiased, hfraction⟩ := (ofBits_eq_nan_iff _).mp h
  refine x.toModel.valid.eq_packedNaN (BitVec.eq_of_toNat_eq ?_) fun hzero => hfraction ?_
  · exact (toNat_unpackExponent x.toModel.toBits).trans hbiased
  · exact (toNat_unpackMantissa x.toModel.toBits).symm.trans (congrArg BitVec.toNat hzero)

lemma ofFloat_inj (h : ofFloat x = ofFloat y) : x = y := by
  have hbits : x.toBits = y.toBits := by
    by_cases hnan : ofFloat x = .nan
    · rw [← UInt64.toBitVec_inj, toBits_of_nan hnan, toBits_of_nan (h ▸ hnan)]
    · exact ofBits_inj h hnan
  obtain ⟨⟨bits, hvalid⟩⟩ := x
  obtain ⟨⟨bits', hvalid'⟩⟩ := y
  obtain rfl : bits = bits' := hbits
  rfl

/-! ## Texts -/

/-- A point, an exponent or a letter tells the text of a value from that of an integer. -/
def isMark (c : Char) : Bool :=
  ['.', 'e', 'n'].contains c

lemma exists_mark_positional (digits : List Char) (point : Int) :
    ∃ c ∈ Decimal.positional digits point, isMark c = true := by
  refine ⟨'.', ?_, rfl⟩
  unfold Decimal.positional
  split_ifs <;> simp

lemma exists_mark_scientific (width : Nat) (digits : List Char) (exponent : Int) :
    ∃ c ∈ Decimal.scientific width digits exponent, isMark c = true := by
  refine ⟨'e', ?_, rfl⟩
  exact List.mem_append_right _ List.mem_cons_self

lemma exists_mark_layout (l : Decimal.Layout) (d : Decimal) : ∃ c ∈ l.text d, isMark c = true := by
  change ∃ c ∈ (if l.lowest ≤ d.digitsAndPoint.2 - 1 && d.digitsAndPoint.2 - 1 < l.limit
    then Decimal.positional d.digitsAndPoint.1 d.digitsAndPoint.2
    else Decimal.scientific l.exponentWidth d.digitsAndPoint.1 (d.digitsAndPoint.2 - 1)), isMark c = true
  split_ifs
  · exact exists_mark_positional _ _
  · exact exists_mark_scientific _ _ _

lemma exists_mark_magnitudeText (mantissa : Nat) (exponent : Int) :
    ∃ c ∈ magnitudeText mantissa exponent, isMark c = true := by
  unfold magnitudeText
  by_cases hzero : mantissa = 0
  · rw [if_pos hzero]
    exact ⟨'.', by simp, rfl⟩
  · rw [if_neg hzero]
    exact exists_mark_layout _ _

lemma exists_mark (x : Binary64) : ∃ c ∈ x.text, isMark c = true := by
  cases x with
  | nan => exact ⟨'n', by simp [text], rfl⟩
  | infinite negative => exact ⟨'n', by cases negative <;> simp [text], rfl⟩
  | finite negative mantissa exponent =>
    obtain ⟨c, hc, hmark⟩ := exists_mark_magnitudeText mantissa exponent
    refine ⟨c, ?_, hmark⟩
    cases negative with
    | true => exact List.mem_cons_of_mem _ hc
    | false => exact hc

end Binary64

lemma integer_noMark (n : Int) : ∀ c ∈ (toString n).toList, Binary64.isMark c = false := by
  have hdigits (n : Nat) : ∀ c ∈ n.repr.toList, Binary64.isMark c = false := by
    intro c hc
    rw [Nat.toList_repr] at hc
    have hdigit := Decimal.areDigits_toDigits n c hc
    refine Bool.eq_false_iff.mpr fun hmark => ?_
    obtain rfl | rfl | rfl : c = '.' ∨ c = 'e' ∨ c = 'n' := by simpa [Binary64.isMark] using hmark
    all_goals exact absurd hdigit (by decide)
  cases n with
  | ofNat n => exact hdigits n
  | negSucc n =>
    change ∀ c ∈ ("-" ++ (n + 1).repr).toList, _
    rw [String.toList_append]
    exact List.forall_mem_cons.mpr ⟨rfl, hdigits (n + 1)⟩

lemma integer_text_ne_real (n : Int) (x : Float) : (Number.integer n).text ≠ (Number.real x).text := by
  intro h
  obtain ⟨c, hc, hmark⟩ := (Binary64.ofFloat x).exists_mark
  have htexts : (toString n).toList = (Binary64.ofFloat x).text := by
    rw [Number.text, Number.text] at h
    rw [h, String.toList_ofList]
  rw [integer_noMark n c (htexts ▸ hc)] at hmark
  cases hmark

theorem Number.text_inj {m n : Number} (h : m.text = n.text) : m = n := by
  cases m with
  | integer m =>
    cases n with
    | integer n =>
      have hread := (readInt?_text m).symm.trans (congrArg (fun s => TagProgram.readInt? s.toList) h)
      rw [text, readInt?_text, Option.some_inj] at hread
      rw [hread]
    | real y => exact absurd h (integer_text_ne_real m y)
  | real x =>
    cases n with
    | integer n => exact absurd h.symm (integer_text_ne_real n x)
    | real y =>
      have hread := (readBinary64?_text x).symm.trans (congrArg (fun s => Binary64.read? s.toList) h)
      rw [readBinary64?_text, Option.some_inj] at hread
      rw [Binary64.ofFloat_inj hread]

end PackToMod
