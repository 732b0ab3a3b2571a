import PackToMod.Proofs.LocationNames
import PackToMod.Proofs.NumberTexts
import PackToMod.Proofs.SelectorMeaning

/-!
# Names of range constants

A range is registered by its text, and its constant is named after its bounds as they are printed, with points
and signs spelled out. The spelling can be undone, as no printed bound goes on like a spelled sign or point where
it begins like one. So a name stands for one pair of bounds, and where the texts of ranges tell their
bounds apart, no constant is declared twice and each has the bounds, and the squares of the bounds, that its
name says.
-/

namespace PackToMod

open Build

/-! ## Printed bounds -/

/-- A bound as it is printed, also if it is missing. -/
def printedBound (bound : Option Number) : String :=
  (bound.map Number.text).getD "None"

/-- The characters that bounds are printed with. -/
def isBoundPart (c : Char) : Bool :=
  Decimal.isPart c || ['N', 'o'].contains c

lemma printedBound_areParts (bound : Option Number) :
    ∀ c ∈ (printedBound bound).toList, isBoundPart c = true := by
  cases bound with
  | none =>
    have hall : (printedBound none).toList.all isBoundPart = true := by decide
    exact List.all_eq_true.mp hall
  | some n =>
    intro c hc
    simp [isBoundPart, n.text_areParts c hc]

lemma printedBound_inj {bound bound' : Option Number} (h : printedBound bound = printedBound bound') :
    bound = bound' := by
  have hnone (n : Number) : (printedBound none).toList ≠ (printedBound (some n)).toList := by
    intro htexts
    have hcapital : 'N' ∈ (printedBound (some n)).toList := htexts ▸ by decide
    exact absurd (n.text_areParts 'N' hcapital) (by decide)
  cases bound with
  | none =>
    cases bound' with
    | none => rfl
    | some n => exact absurd (congrArg String.toList h) (hnone n)
  | some m =>
    cases bound' with
    | none => exact absurd (congrArg String.toList h.symm) (hnone m)
    | some n => rw [Number.text_inj h]

namespace RangeSort

variable {sort : RangeSort} {c c' : Char} {cs cs' rest rest' : List Char}

/-! ## Spellings -/

/-- The characters of a text as they are spelled in a name. -/
def spelled (sort : RangeSort) (cs : List Char) : List Char :=
  cs.flatMap fun c => (sort.spelling c).toList

lemma spelled_cons (sort : RangeSort) (c : Char) (cs : List Char) :
    sort.spelled (c :: cs) = (sort.spelling c).toList ++ sort.spelled cs :=
  List.flatMap_cons

lemma toList_boundName (sort : RangeSort) (bound : Option Number) :
    (sort.boundName bound).toList = sort.spelled (printedBound bound).toList :=
  String.toList_ofList

/-- A sign is spelled out, so is a point among real numbers, and anything else stands for itself. -/
lemma spelling_cases (sort : RangeSort) (c : Char) :
    c = '-' ∧ (sort.spelling c).toList = ['n', 'e', 'g', 'a', 't', 'i', 'v', 'e'] ∨
      sort = doubles ∧ c = '.' ∧ (sort.spelling c).toList = ['p', 'o', 'i', 'n', 't'] ∨
      (sort.spelling c).toList = [c] := by
  cases sort with
  | doubles =>
    by_cases hsign : c = '-'
    · exact .inl ⟨hsign, by rw [hsign]; rfl⟩
    · by_cases hpoint : c = '.'
      · exact .inr (.inl ⟨rfl, hpoint, by rw [hpoint]; rfl⟩)
      · exact .inr (.inr (by simp [spelling, hsign, hpoint]))
  | ints =>
    by_cases hsign : c = '-'
    · exact .inl ⟨hsign, by rw [hsign]; rfl⟩
    · exact .inr (.inr (by simp [spelling, hsign]))

lemma eq_of_spelled_cons {d : Char} (hn : d ≠ 'n') (hp : d ≠ 'p') (h : sort.spelled cs = d :: rest) :
    ∃ cs', cs = d :: cs' ∧ sort.spelled cs' = rest := by
  cases cs with
  | nil => cases h
  | cons c cs =>
    rw [spelled_cons] at h
    rcases sort.spelling_cases c with ⟨-, hc⟩ | ⟨-, -, hc⟩ | hc
    · rw [hc] at h
      exact absurd (List.cons.inj h).1.symm hn
    · rw [hc] at h
      exact absurd (List.cons.inj h).1.symm hp
    · rw [hc] at h
      obtain ⟨rfl, hrest⟩ := List.cons.inj h
      exact ⟨cs, rfl, hrest⟩

/-- What follows the first letter of a spelled sign is no spelled text. -/
lemma spelled_ne_egative (hcs : ∀ c ∈ cs, isBoundPart c = true) (rest : List Char) :
    sort.spelled cs ≠ 'e' :: 'g' :: rest := by
  intro h
  obtain ⟨cs', rfl, h'⟩ := eq_of_spelled_cons (by decide) (by decide) h
  obtain ⟨cs'', rfl, -⟩ := eq_of_spelled_cons (by decide) (by decide) h'
  exact absurd (hcs 'g' (by simp)) (by decide)

/-- A character that stands for itself at the beginning of a spelled text is the first one of that text. -/
lemma eq_of_spelling (hc : isBoundPart c' = true) (hcs : ∀ c ∈ cs', isBoundPart c = true)
    (h : (sort.spelling c).toList ++ sort.spelled cs = (sort.spelling c').toList ++ sort.spelled cs')
    (hplain : (sort.spelling c').toList = [c']) : c = c' := by
  rw [hplain] at h
  rcases sort.spelling_cases c with ⟨-, hsign⟩ | ⟨-, -, hpoint⟩ | hself
  · rw [hsign] at h
    exact absurd (List.cons.inj h).2.symm (spelled_ne_egative hcs _)
  · rw [hpoint] at h
    obtain rfl := (List.cons.inj h).1
    exact absurd hc (by decide)
  · rw [hself] at h
    exact (List.cons.inj h).1

lemma spelled_inj (hcs : ∀ c ∈ cs, isBoundPart c = true) (hcs' : ∀ c ∈ cs', isBoundPart c = true)
    (h : sort.spelled cs = sort.spelled cs') : cs = cs' := by
  have hnonempty (c : Char) (cs : List Char) : sort.spelled (c :: cs) ≠ [] := by
    rw [spelled_cons]
    intro hnil
    have hspelling := (List.append_eq_nil_iff.mp hnil).1
    rcases sort.spelling_cases c with ⟨-, hc⟩ | ⟨-, -, hc⟩ | hc
    all_goals
      rw [hc] at hspelling
      cases hspelling
  induction cs generalizing cs' with
  | nil =>
    cases cs' with
    | nil => rfl
    | cons c' cs' => exact absurd h.symm (hnonempty c' cs')
  | cons c cs ih =>
    cases cs' with
    | nil => exact absurd h (hnonempty c cs)
    | cons c' cs' =>
      rw [List.forall_mem_cons] at hcs hcs'
      rw [spelled_cons, spelled_cons] at h
      have hfirst : c = c' := by
        rcases sort.spelling_cases c with ⟨rfl, hc⟩ | ⟨rfl, rfl, hc⟩ | hc
        · rcases sort.spelling_cases c' with ⟨rfl, -⟩ | ⟨-, -, hc'⟩ | hc'
          · rfl
          · rw [hc, hc'] at h
            cases (List.cons.inj h).1
          · exact eq_of_spelling hcs'.1 hcs'.2 h hc'
        · rcases spelling_cases doubles c' with ⟨-, hc'⟩ | ⟨-, rfl, -⟩ | hc'
          · rw [hc, hc'] at h
            cases (List.cons.inj h).1
          · rfl
          · exact eq_of_spelling hcs'.1 hcs'.2 h hc'
        · exact (eq_of_spelling hcs.1 hcs.2 h.symm hc).symm
      subst hfirst
      rw [ih hcs.2 hcs'.2 (List.append_cancel_left h)]

lemma underscore_notMem_spelled (hcs : ∀ c ∈ cs, isBoundPart c = true) : '_' ∉ sort.spelled cs := by
  intro h
  obtain ⟨c, hc, hmem⟩ := List.mem_flatMap.mp h
  rcases sort.spelling_cases c with ⟨-, hspelling⟩ | ⟨-, -, hspelling⟩ | hspelling
  · exact absurd (hspelling ▸ hmem) (by decide)
  · exact absurd (hspelling ▸ hmem) (by decide)
  · rw [hspelling] at hmem
    obtain rfl := List.mem_singleton.mp hmem
    exact absurd (hcs '_' hc) (by decide)

/-! ## Names -/

/-- What names of one sort begin with. -/
def nameHead : RangeSort → String
  | doubles => "Range_Double_"
  | ints => "Range_Int_"

lemma toList_symbol (sort : RangeSort) (min max : Option Number) :
    (sort.symbol min max).toList = sort.nameHead.toList ++ (sort.spelled (printedBound min).toList ++
      '_' :: '_' :: sort.spelled (printedBound max).toList) := by
  have hbetween : "__".toList = ['_', '_'] := by decide
  rw [← toList_boundName, ← toList_boundName]
  cases sort <;> simp only [symbol, nameHead, String.toList_append, hbetween, List.append_assoc, List.cons_append,
    List.nil_append]

/-- The names of two ranges are the same just if their bounds print the same. -/
lemma symbol_eq_iff {min max min' max' : Option Number} :
    sort.symbol min max = sort.symbol min' max' ↔
      printedBound min = printedBound min' ∧ printedBound max = printedBound max' := by
  constructor
  · intro h
    rw [← String.toList_inj, toList_symbol, toList_symbol, List.append_cancel_left_eq] at h
    have hparts := printedBound_areParts
    have hnone (bound : Option Number) : '_' ∉ sort.spelled (printedBound bound).toList :=
      underscore_notMem_spelled (hparts bound)
    rcases append_cons_eq_iff.mp h with ⟨hmin, hmax⟩ | ⟨middle, hmin, -⟩ | ⟨middle, hmin, -⟩
    · have hmax' := (List.cons.inj hmax).2
      rw [← String.toList_inj, ← String.toList_inj]
      exact ⟨spelled_inj (hparts _) (hparts _) hmin, spelled_inj (hparts _) (hparts _) hmax'⟩
    · exact absurd (hmin ▸ by simp) (hnone min')
    · exact absurd (hmin ▸ by simp) (hnone min)
  · rintro ⟨hmin, hmax⟩
    rw [← String.toList_inj, toList_symbol, toList_symbol, hmin, hmax]

end RangeSort

/-- Both bounds of the two ranges print the same. -/
def Range.PrintsLike (r r' : Range) : Prop :=
  printedBound r.min = printedBound r'.min ∧ printedBound r.max = printedBound r'.max

/-! ## Declarations -/

/-- The square of a bound, if there is a bound. For an integer it is exact, and has at most 4300 digits. For a finite
value it is the second power in binary64, which is finite. An infinite value has its magnitude, and what is not a
number stays that. -/
inductive SquareOf : Option Number → Option Number → Prop
  | missing : SquareOf none none
  | integer {n : Int} (h : (n * n).natAbs < 10 ^ 4300) : SquareOf (some (.integer n)) (some (.integer (n * n)))
  | finite {x : Float} (hx : ¬ (x.isNaN = true ∨ x.isInf = true)) (h : (Float.pow x.abs 2).isInf = false) :
    SquareOf (some (.real x)) (some (.real (Float.pow x.abs 2)))
  | special {x : Float} (hx : x.isNaN = true ∨ x.isInf = true) : SquareOf (some (.real x)) (some (.real x.abs))

lemma Number.ofComputed_eq_ok_iff {n : Int} {m : Number} :
    ofComputed n = .ok m ↔ n.natAbs < 10 ^ 4300 ∧ integer n = m := by
  have hpow (k : Nat) : Nat.pow 10 k = 10 ^ k := rfl
  rw [ofComputed, hpow, digitLimit]
  split_ifs with h
  · exact ⟨fun hm => ⟨h, Except.ok.inj hm⟩, fun hm => congrArg Except.ok hm.2⟩
  · exact iff_of_false (fun hm => by cases hm) fun hm => h hm.1

lemma Number.square_eq_ok_iff {n m : Number} : n.square = .ok m ↔ SquareOf (some n) (some m) := by
  constructor
  · intro h
    cases n with
    | integer n =>
      obtain ⟨hlimit, rfl⟩ := ofComputed_eq_ok_iff.mp h
      exact .integer hlimit
    | real x =>
      unfold square at h
      dsimp only at h
      split_ifs at h with hspecial hinfinite
      · cases h
        exact .special (by simpa using hspecial)
      · cases h
        exact .finite (by simpa using hspecial) (Bool.eq_false_iff.mpr hinfinite)
  · intro h
    cases h with
    | integer h => exact ofComputed_eq_ok_iff.mpr ⟨h, rfl⟩
    | finite hx h =>
      unfold square
      dsimp only
      rw [if_neg (by simpa using hx), if_neg (Bool.eq_false_iff.mp h)]
    | special hx => exact if_pos (by simpa using hx)

lemma Bound.squareOf_ofOption {n : Option Number} {bound : Option Bound} (h : Bound.ofOption n = .ok bound) :
    SquareOf n (bound.map Bound.square) := by
  cases n with
  | none =>
    cases h
    exact .missing
  | some n =>
    obtain ⟨square, hsquare, rfl⟩ := Bound.ofOption_some_ok h
    exact Number.square_eq_ok_iff.mp hsquare

lemma Bound.exists_ofOption {n square : Option Number} (h : SquareOf n square) :
    ∃ bound, Bound.ofOption n = .ok bound := by
  cases n with
  | none => exact ⟨none, rfl⟩
  | some n =>
    obtain ⟨m, rfl⟩ : ∃ m, square = some m := by cases h <;> exact ⟨_, rfl⟩
    refine ⟨some ⟨n, m⟩, ?_⟩
    simp [Bound.ofOption, Bound.ofNumber, Number.square_eq_ok_iff.mpr h, bind, Except.bind, pure, Except.pure]

/-- A range has a constant just if both of its bounds have squares. -/
lemma RangeConstant.exists_ofRange_iff {r : Range} : (∃ constant, RangeConstant.ofRange r = .ok constant) ↔
    ∃ minSquare maxSquare, SquareOf r.min minSquare ∧ SquareOf r.max maxSquare := by
  constructor
  · rintro ⟨constant, h⟩
    obtain ⟨hmin, hmax⟩ := ofRange_ok h
    exact ⟨_, _, Bound.squareOf_ofOption hmin, Bound.squareOf_ofOption hmax⟩
  · rintro ⟨minSquare, maxSquare, hmin, hmax⟩
    obtain ⟨min, hmin⟩ := Bound.exists_ofOption hmin
    obtain ⟨max, hmax⟩ := Bound.exists_ofOption hmax
    exact ⟨⟨min, max⟩, by simp [ofRange, hmin, hmax, bind, Except.bind, pure, Except.pure]⟩

/-- The expression for a number that may be missing, cast to a type. -/
def castText (type : String) (n : Option Number) : String :=
  n.elim "Optional.empty()" fun n => "Optional.of((" ++ type ++ ") " ++ n.text ++ ")"

lemma optional_eq_castText (type : String) (n : Option Number) : RangeSort.optional type n = castText type n := by
  cases n <;> rfl

/-- The text declares a constant of the given name with the given bounds and their squares. -/
def RangeSort.Gives (sort : RangeSort) (text name : String) (min max : Option Number) : Prop :=
  ∃ minSquare maxSquare, SquareOf min minSquare ∧ SquareOf max maxSquare ∧
    match sort with
    | doubles => text = "private static final MinMaxBounds.Doubles " ++ name ++ " = new MinMaxBounds.Doubles("
        ++ castText "double" min ++ ", " ++ castText "double" max ++ ", "
        ++ castText "double" minSquare ++ ", " ++ castText "double" maxSquare ++ ");\n"
    | ints => text = "private static final MinMaxBounds.Ints " ++ name ++ " = new MinMaxBounds.Ints("
        ++ castText "int" min ++ ", " ++ castText "int" max ++ ", "
        ++ castText "long" minSquare ++ ", " ++ castText "long" maxSquare ++ ");\n"

lemma RangeConstant.gives_ofRange {r : Range} {c : RangeConstant} (h : RangeConstant.ofRange r = .ok c)
    (sort : RangeSort) : sort.Gives (sort.declaration c) (sort.symbol r.min r.max) r.min r.max := by
  obtain ⟨hmin, hmax⟩ := RangeConstant.ofRange_ok h
  refine ⟨c.min.map Bound.square, c.max.map Bound.square, Bound.squareOf_ofOption hmin,
    Bound.squareOf_ofOption hmax, ?_⟩
  unfold RangeSort.declaration
  simp only [Bound.value_ofOption hmin, Bound.value_ofOption hmax, optional_eq_castText]
  cases sort with
  | doubles =>
    have hopening : "private static final " ++ ("MinMaxBounds.Doubles" ++ " ") =
        "private static final MinMaxBounds.Doubles " := by decide
    have hnew : " = new " ++ ("MinMaxBounds.Doubles" ++ "(") = " = new MinMaxBounds.Doubles(" := by decide
    simp only [← hopening, ← hnew, String.append_assoc]
    rfl
  | ints =>
    have hopening : "private static final " ++ ("MinMaxBounds.Ints" ++ " ") =
        "private static final MinMaxBounds.Ints " := by decide
    have hnew : " = new " ++ ("MinMaxBounds.Ints" ++ "(") = " = new MinMaxBounds.Ints(" := by decide
    simp only [← hopening, ← hnew, String.append_assoc]
    rfl

section

variable {sort : RangeSort} {r : Range} {b b' : Build}

lemma declareRange_known (h : (b.ranges sort).contains r.text = true) :
    (Node.range r).declareRange sort b = .ok (sort.symbol r.min r.max) b := by
  change r.declare sort b = _
  unfold Range.declare
  simp only [run_bind, run_get, h]
  rfl

lemma declareRange_new {constant : RangeConstant} (h : (b.ranges sort).contains r.text = false)
    (hconstant : RangeConstant.ofRange r = .ok constant) :
    (Node.range r).declareRange sort b =
      .ok (sort.symbol r.min r.max) (b.setRanges sort ((b.ranges sort).set r.text constant)) := by
  change r.declare sort b = _
  unfold Range.declare
  simp only [run_bind, run_get, h, hconstant]
  rfl

lemma declareRange_failed {e : NumberError} (h : (b.ranges sort).contains r.text = false)
    (herror : RangeConstant.ofRange r = .error e) : (Node.range r).declareRange sort b = .error (.number e) b := by
  change r.declare sort b = _
  unfold Range.declare
  simp only [run_bind, run_get, h, herror]
  rfl

/-- A range is named unless its text is new and one of its bounds has no square. -/
lemma exists_declareRange_iff : (∃ name b', (Node.range r).declareRange sort b = .ok name b') ↔
    (b.ranges sort).contains r.text = true ∨
      ∃ minSquare maxSquare, SquareOf r.min minSquare ∧ SquareOf r.max maxSquare := by
  rw [← RangeConstant.exists_ofRange_iff]
  cases hknown : (b.ranges sort).contains r.text with
  | true => exact iff_of_true ⟨_, _, declareRange_known hknown⟩ (.inl rfl)
  | false =>
    cases hconstant : RangeConstant.ofRange r with
    | ok constant => exact iff_of_true ⟨_, _, declareRange_new hknown hconstant⟩ (.inr ⟨constant, rfl⟩)
    | error e =>
      rw [declareRange_failed hknown hconstant]
      simp

end

/-! ## All requests -/

/-- Among the nodes in `U`, two ranges have the same text just if their bounds print the same. -/
def WrittenByBounds (U : Node → Prop) : Prop :=
  ∀ r r', U (.range r) → U (.range r') → (r.text = r'.text ↔ r.PrintsLike r')

/-- After any requests, every registered constant comes from a range in the requests with its text. -/
lemma registered_ranges (rs : List Request) (sort : RangeSort) :
    ((({} : Build).after rs).ranges sort).keys.Nodup ∧
      ∀ entry ∈ ((({} : Build).after rs).ranges sort).entries,
        ∃ r, r.text = entry.1 ∧ Occurs rs (.range r) ∧ RangeConstant.ofRange r = .ok entry.2 :=
  ⟨((extends_after rs).distinct distinct_empty).2 sort, ((extends_after rs).sourced sourced_empty).2 sort⟩

lemma range_symbols_nodup {rs : List Request} (hwritten : WrittenByBounds (Occurs rs)) (sort : RangeSort) :
    ((({} : Build).after rs).symbols (.ranges sort)).Nodup := by
  obtain ⟨hkeys, hsourced⟩ := registered_ranges rs sort
  rw [Registry.keys, List.Nodup, List.pairwise_map] at hkeys
  unfold Build.symbols List.Nodup
  rw [List.pairwise_map]
  refine hkeys.imp_of_mem fun {entry entry'} hentry hentry' hne hsymbol => hne ?_
  obtain ⟨r, htext, hoccurs, hconstant⟩ := hsourced entry hentry
  obtain ⟨r', htext', hoccurs', hconstant'⟩ := hsourced entry' hentry'
  obtain ⟨hmin, hmax⟩ := RangeConstant.bounds_ofRange hconstant
  obtain ⟨hmin', hmax'⟩ := RangeConstant.bounds_ofRange hconstant'
  rw [hmin, hmax, hmin', hmax', RangeSort.symbol_eq_iff] at hsymbol
  rw [← htext, ← htext']
  exact (hwritten r r' hoccurs hoccurs').mpr hsymbol

/-- The name stands for a pair of bounds, and the text gives the constant whatever bounds the name stands for. -/
def RangeSort.IsFaithful (sort : RangeSort) (text name : String) : Prop :=
  (∃ min max, sort.symbol min max = name) ∧ ∀ min max, sort.symbol min max = name → sort.Gives text name min max

lemma RangeConstant.isFaithful {r : Range} {c : RangeConstant} (h : RangeConstant.ofRange r = .ok c)
    (sort : RangeSort) :
    sort.IsFaithful (sort.declaration c) (sort.symbol (c.min.map Bound.value) (c.max.map Bound.value)) := by
  obtain ⟨hmin, hmax⟩ := RangeConstant.bounds_ofRange h
  rw [hmin, hmax]
  refine ⟨⟨_, _, rfl⟩, fun min max hname => ?_⟩
  obtain ⟨hmin', hmax'⟩ := RangeSort.symbol_eq_iff.mp hname
  rw [printedBound_inj hmin', printedBound_inj hmax']
  exact gives_ofRange h sort

/-- Two ranges are given the same name just if their bounds print the same, in whatever builds they are named; and
a range is named unless its text is new and one of its bounds has no square. After any requests in which ranges
have the same text just if their bounds print the same: of the constants of either sort no two have one name, and
each has the bounds that its name stands for, and their squares. -/
theorem range_names_faithful :
    (∀ (sort : RangeSort) (r r' : Range) (b b₁ b' b₁' : Build) (name name' : String),
      (Node.range r).declareRange sort b = .ok name b₁ → (Node.range r').declareRange sort b' = .ok name' b₁' →
        (name = name' ↔ r.PrintsLike r')) ∧
    (∀ (sort : RangeSort) (r : Range) (b : Build), (∃ name b₁, (Node.range r).declareRange sort b = .ok name b₁) ↔
      (b.ranges sort).contains r.text = true ∨
        ∃ minSquare maxSquare, SquareOf r.min minSquare ∧ SquareOf r.max maxSquare) ∧
    ∀ (rs : List Request), WrittenByBounds (Occurs rs) → ∀ sort : RangeSort,
      ((({} : Build).after rs).symbols (.ranges sort)).Nodup ∧
        List.Forall₂ sort.IsFaithful ((({} : Build).after rs).declarations (.ranges sort))
          ((({} : Build).after rs).symbols (.ranges sort)) := by
  refine ⟨fun sort r r' b b₁ b' b₁' name name' hname hname' => ?_, fun sort r b => exists_declareRange_iff,
    fun rs hwritten sort => ⟨range_symbols_nodup hwritten sort, ?_⟩⟩
  · obtain ⟨_, hr, rfl⟩ := declareRange_ok hname
    obtain ⟨_, hr', rfl⟩ := declareRange_ok hname'
    cases hr
    cases hr'
    exact RangeSort.symbol_eq_iff
  · unfold Build.declarations Build.symbols
    rw [List.forall₂_map_left_iff, List.forall₂_map_right_iff, List.forall₂_same]
    intro entry hentry
    obtain ⟨r, -, -, hconstant⟩ := (registered_ranges rs sort).2 entry hentry
    exact RangeConstant.isFaithful hconstant sort

/-! ## Two ranges -/

lemma Number.square_integer {n : Int} (h : (n * n).natAbs < 10 ^ 2) :
    (integer n).square = .ok (integer (n * n)) := by
  have hlimit (k : Nat) (hk : 2 ≤ k) : 10 ^ 2 ≤ 10 ^ k := Nat.pow_le_pow_right (by decide) hk
  exact square_eq_ok_iff.mpr (.integer (lt_of_lt_of_le h (hlimit 4300 (by decide))))

lemma Request.next_range {sort : RangeSort} {r : Range} {constant : RangeConstant} {b : Build}
    (h : (b.ranges sort).contains r.text = false) (hconstant : RangeConstant.ofRange r = .ok constant) :
    (Request.range sort (.range r)).next b = b.setRanges sort ((b.ranges sort).set r.text constant) := by
  rw [Request.next, Request.run, lastState_map, declareRange_new h hconstant, lastState_ok]

def oneToFive : Range := ⟨"1..5", some (.integer 1), some (.integer 5)⟩

def fromMinusOne : Range := ⟨"-1..", some (.integer (-1)), none⟩

def bothRanges : List Request :=
  [.range .doubles (.range oneToFive), .range .doubles (.range fromMinusOne)]

lemma ofRange_oneToFive :
    RangeConstant.ofRange oneToFive = .ok ⟨some ⟨.integer 1, .integer 1⟩, some ⟨.integer 5, .integer 25⟩⟩ := by
  have hone : (Number.integer 1).square = .ok (.integer 1) := Number.square_integer (by decide)
  have hfive : (Number.integer 5).square = .ok (.integer 25) := Number.square_integer (by decide)
  simp [RangeConstant.ofRange, oneToFive, Bound.ofOption, Bound.ofNumber, hone, hfive, bind, Except.bind, pure,
    Except.pure]

lemma ofRange_fromMinusOne :
    RangeConstant.ofRange fromMinusOne = .ok ⟨some ⟨.integer (-1), .integer 1⟩, none⟩ := by
  have hone : (Number.integer (-1)).square = .ok (.integer 1) := Number.square_integer (by decide)
  simp [RangeConstant.ofRange, fromMinusOne, Bound.ofOption, Bound.ofNumber, hone, bind, Except.bind, pure,
    Except.pure]

lemma ranges_after_both : ((({} : Build).after bothRanges).ranges .doubles).entries =
    [("1..5", ⟨some ⟨.integer 1, .integer 1⟩, some ⟨.integer 5, .integer 25⟩⟩),
      ("-1..", ⟨some ⟨.integer (-1), .integer 1⟩, none⟩)] := by
  rw [bothRanges, Build.after_cons, Request.next_range rfl ofRange_oneToFive, Build.after_cons,
    Request.next_range (by decide) ofRange_fromMinusOne]
  rfl

lemma not_printsLike : ¬ oneToFive.PrintsLike fromMinusOne := by
  unfold Range.PrintsLike
  decide

lemma writtenByBounds_both : WrittenByBounds (Occurs bothRanges) := by
  have hranges {r : Range} (h : Occurs bothRanges (.range r)) : r = oneToFive ∨ r = fromMinusOne := by
    have hmem := mem_of_occurs (S := [.range oneToFive, .range fromMinusOne]) (by simp [bothRanges, Request.nodes])
      (by simp [Node.children]) h
    simpa using hmem
  intro r r' hr hr'
  rcases hranges hr with rfl | rfl <;> rcases hranges hr' with rfl | rfl
  · simp [Range.PrintsLike]
  · exact iff_of_false (by decide) not_printsLike
  · exact iff_of_false (by decide) fun h => not_printsLike ⟨h.1.symm, h.2.symm⟩
  · simp [Range.PrintsLike]

theorem two_ranges_named_apart :
    ("Range_Double_1__5" = "Range_Double_negative1__None" ↔ oneToFive.PrintsLike fromMinusOne) ∧
      (({} : Build).after bothRanges).symbols (.ranges .doubles) =
        ["Range_Double_1__5", "Range_Double_negative1__None"] ∧
      ((({} : Build).after bothRanges).symbols (.ranges .doubles)).Nodup ∧
      "private static final MinMaxBounds.Doubles Range_Double_negative1__None = new MinMaxBounds.Doubles("
          ++ "Optional.of((double) -1), Optional.empty(), Optional.of((double) 1), Optional.empty());\n" ∈
        (({} : Build).after bothRanges).declarations (.ranges .doubles) := by
  obtain ⟨hnames, -, hafter⟩ := range_names_faithful
  have hsymbols : (({} : Build).after bothRanges).symbols (.ranges .doubles) =
      ["Range_Double_1__5", "Range_Double_negative1__None"] := by
    rw [Build.symbols, ranges_after_both]
    decide
  obtain ⟨hnodup, hfaithful⟩ := hafter bothRanges writtenByBounds_both .doubles
  refine ⟨?_, hsymbols, hnodup, ?_⟩
  · exact hnames .doubles oneToFive fromMinusOne {} _ {} _ _ _ (declareRange_new rfl ofRange_oneToFive)
      (declareRange_new rfl ofRange_fromMinusOne)
  · rw [hsymbols] at hfaithful
    generalize (({} : Build).after bothRanges).declarations (.ranges .doubles) = texts at hfaithful
    cases hfaithful with
    | cons _ hrest =>
      cases hrest with
      | cons hlast _ =>
        obtain ⟨_, _, hmin, hmax, rfl⟩ := hlast.2 (some (.integer (-1))) none (by decide)
        cases hmin
        cases hmax
        refine List.mem_cons_of_mem _ (List.mem_cons.mpr (.inl ?_))
        decide +kernel

end PackToMod
