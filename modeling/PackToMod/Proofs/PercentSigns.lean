import Mathlib.Data.List.Basic
import PackToMod.Template.Percent

/-!
# Percent signs in a template

A template with one directive of its own can be filled only if every other percent sign in it is doubled.
A single sign starts a directive, which fails, or takes the argument away, or is still unfinished at the
next line break or closing parenthesis, where it fails; and without the argument the template's own directive
fails. `IsSpent` is the state of the scanner that no longer leads to a text.
-/

namespace PackToMod.Percent

variable {argument : Option Argument} {a : Argument} {c : Char} {m : Measure} {stage : Stage} {move : Move}
  {s rest : List Char}

/-- Every percent sign is followed by a second one. -/
def isDoubled : List Char → Bool
  | [] => true
  | [c] => c ≠ '%'
  | c :: d :: rest => if c = '%' then d = '%' && isDoubled rest else isDoubled (d :: rest)

/-- A text with one percent sign in the place of two. -/
def undoubled : List Char → List Char
  | [] => []
  | [c] => [c]
  | c :: d :: rest => if c = '%' then '%' :: undoubled rest else c :: undoubled (d :: rest)

/-! ## Copied text -/

lemma scan_cons (stage : Stage) (argument : Option Argument) (c : Char) (cs : List Char) :
    scan stage argument (c :: cs) = (do
      match ← read argument c stage with
      | .stay stage argument => scan stage argument cs
      | .finish text argument => return text ++ (← scan .text argument cs)) := by
  cases stage <;> cases argument <;> rfl

lemma scan_plain (hc : c ≠ '%') (argument : Option Argument) (cs : List Char) :
    scan .text argument (c :: cs) = (c :: ·) <$> scan .text argument cs := by
  rw [scan_cons, read, if_neg hc]
  rfl

/-- Text without percent signs is copied. -/
lemma scan_append (h : '%' ∉ s) (argument : Option Argument) (rest : List Char) :
    scan .text argument (s ++ rest) = (s ++ ·) <$> scan .text argument rest := by
  induction s with
  | nil => simp
  | cons c s ih =>
    rw [List.mem_cons, not_or] at h
    rw [List.cons_append, scan_plain (Ne.symm h.1), ih h.2]
    simp

/-- Without an argument, text without percent signs is all that is copied. -/
lemma scan_text (h : '%' ∉ s) : scan .text none s = .ok s := by
  have hcopied := scan_append h none []
  rw [List.append_nil] at hcopied
  rw [hcopied]
  exact congrArg Except.ok (List.append_nil s)

lemma scan_sign (argument : Option Argument) (cs : List Char) :
    scan .text argument ('%' :: cs) = scan .opened argument cs := by
  rw [scan_cons, read, if_pos rfl]
  rfl

lemma scan_doubled_sign (argument : Option Argument) (cs : List Char) :
    scan .text argument ('%' :: '%' :: cs) = ('%' :: ·) <$> scan .text argument cs := by
  rw [scan_sign, scan_cons, read, if_pos rfl]
  rfl

/-- The directive for a text. -/
lemma scan_directive (text : String) (cs : List Char) :
    scan .text (some (.text text)) ('%' :: 's' :: cs) = (text.toList ++ ·) <$> scan .text none cs := by
  rw [scan_sign, scan_cons]
  rfl

lemma scan_directive_none (cs : List Char) :
    scan .text none ('%' :: 's' :: cs) = .error .noArgumentLeft := by
  rw [scan_sign, scan_cons]
  rfl

/-- Text with doubled percent signs only is copied with one sign for two, and the argument is left. -/
theorem scan_of_isDoubled (h : isDoubled s = true) (argument : Option Argument) (rest : List Char) :
    scan .text argument (s ++ rest) = (undoubled s ++ ·) <$> scan .text argument rest := by
  fun_induction isDoubled s with
  | case1 => simp [undoubled]
  | case2 c =>
    have hc : c ≠ '%' := by simpa using h
    rw [List.cons_append, scan_plain hc]
    rfl
  | case3 d rest' ih =>
    obtain ⟨rfl, hrest⟩ : d = '%' ∧ isDoubled rest' = true := by simpa using h
    rw [List.cons_append, List.cons_append, scan_doubled_sign, ih hrest, undoubled, if_pos rfl]
    simp
  | case4 c d rest' hc ih =>
    rw [List.cons_append, scan_plain hc, ih h, undoubled, if_neg hc]
    simp

/-! ## Spent arguments -/

/-- A directive has been read beyond its sign. -/
def Stage.isInside : Stage → Bool
  | text | opened => false
  | _ => true

/-- The argument is used, or about to be. -/
def IsSpent (stage : Stage) (argument : Option Argument) : Prop :=
  argument = none ∨ stage.isInside = true

def Move.IsSpent : Move → Prop
  | stay stage argument => Percent.IsSpent stage argument
  | finish _ argument => argument = none

/-- A bind that returns is that of a value. -/
lemma exists_of_bind_eq_ok {ε α β : Type} {x : Except ε α} {f : α → Except ε β} {b : β}
    (h : x >>= f = .ok b) : ∃ a, x = .ok a ∧ f a = .ok b := by
  cases x with
  | error e => cases h
  | ok a => exact ⟨a, rfl, h⟩

lemma readConversion_isSpent (h : readConversion m argument c = .ok move) : move.IsSpent := by
  cases argument with
  | none => exact nomatch h
  | some a =>
    obtain ⟨text, -, hmove⟩ := exists_of_bind_eq_ok h
    cases hmove
    rfl

lemma readLength_isSpent (h : readLength m argument c = .ok move) : move.IsSpent := by
  unfold readLength at h
  split at h
  · cases h
    exact .inr rfl
  · exact readConversion_isSpent h

lemma readPoint_isSpent (h : readPoint m argument c = .ok move) : move.IsSpent := by
  unfold readPoint at h
  split at h
  · cases h
    exact .inr rfl
  · exact readLength_isSpent h

lemma readWidth_isSpent (h : readWidth argument c = .ok move) : move.IsSpent := by
  unfold readWidth at h
  split at h
  · obtain ⟨_, _, hmove⟩ := exists_of_bind_eq_ok h
    cases hmove
    exact .inl rfl
  · split at h
    · cases h
      exact .inr rfl
    · exact readPoint_isSpent h

lemma readFlags_isSpent (h : readFlags argument c = .ok move) : move.IsSpent := by
  unfold readFlags at h
  split at h
  · cases h
    exact .inr rfl
  · exact readWidth_isSpent h

/-- A spent argument stays spent. -/
lemma read_isSpent (hspent : IsSpent stage argument) (h : read argument c stage = .ok move) :
    move.IsSpent := by
  cases stage with
  | text =>
    obtain rfl : argument = none := hspent.resolve_right (by decide)
    rw [read] at h
    cases h
    split
    · exact .inl rfl
    · rfl
  | opened =>
    obtain rfl : argument = none := hspent.resolve_right (by decide)
    rw [read] at h
    split at h
    · cases h
      rfl
    · split at h
      · exact nomatch h
      · exact readFlags_isSpent h
  | flags => exact readFlags_isSpent h
  | width n =>
    rw [read] at h
    split at h
    · obtain ⟨_, _, hmove⟩ := exists_of_bind_eq_ok h
      cases hmove
      exact .inr rfl
    · exact readPoint_isSpent h
  | point m => exact readPoint_isSpent h
  | precisionStart m =>
    rw [read] at h
    split at h
    · obtain ⟨_, _, hmove⟩ := exists_of_bind_eq_ok h
      cases hmove
      exact .inl rfl
    · split at h
      · cases h
        exact .inr rfl
      · exact readLength_isSpent h
  | precision m =>
    rw [read] at h
    split at h
    · obtain ⟨_, _, hmove⟩ := exists_of_bind_eq_ok h
      cases hmove
      exact .inr rfl
    · exact readLength_isSpent h
  | length m => exact readLength_isSpent h
  | conversion m => exact readConversion_isSpent h

/-- Characters that never go on with a directive. -/
def IsBreak (c : Char) : Prop :=
  c = '\n' ∨ c = ')'

instance : DecidablePred IsBreak :=
  fun c => inferInstanceAs (Decidable (c = '\n' ∨ c = ')'))

lemma readConversion_break (hc : IsBreak c) (m : Measure) (argument : Option Argument) :
    ∃ e, readConversion m argument c = .error e := by
  cases argument with
  | none => exact ⟨_, rfl⟩
  | some a => rcases hc with rfl | rfl <;> exact ⟨.unknownConversion, rfl⟩

lemma read_break (hc : IsBreak c) (stage : Stage) (argument : Option Argument) :
    read argument c stage = .ok (.finish [c] argument) ∨ ∃ e, read argument c stage = .error e := by
  have hbreak (m : Measure) := readConversion_break hc m argument
  rcases hc with rfl | rfl <;> cases stage with
  | text => exact .inl rfl
  | opened | flags => exact .inr (hbreak {})
  | width n => exact .inr (hbreak { width := n })
  | point m | precisionStart m | precision m | length m | conversion m => exact .inr (hbreak m)

/-- The scan of `rest` has no result when the argument is used. -/
def Starves (rest : List Char) : Prop :=
  ∃ e, scan .text none rest = .error e

lemma scan_error_of_read {e : Error} (h : read argument c stage = .error e) (cs : List Char) :
    scan stage argument (c :: cs) = .error e := by
  rw [scan_cons, h]
  rfl

lemma scan_error_of_finish {text : List Char} {argument' : Option Argument}
    (h : read argument c stage = .ok (.finish text argument'))
    (hrest : ∃ e, scan .text argument' rest = .error e) : ∃ e, scan stage argument (c :: rest) = .error e := by
  obtain ⟨e, he⟩ := hrest
  refine ⟨e, ?_⟩
  rw [scan_cons, h]
  change (do return text ++ (← scan .text argument' rest)) = _
  rw [he]
  rfl

/-- Once the argument is spent there is no result, whatever stands before the next break. -/
theorem scan_of_isSpent (hspent : IsSpent stage argument) (s : List Char) (hrest : Starves rest) {b : Char}
    (hb : IsBreak b) : ∃ e, scan stage argument (s ++ b :: rest) = .error e := by
  induction s generalizing stage argument with
  | nil =>
    rcases read_break hb stage argument with hread | ⟨e, hread⟩
    · have hnone : argument = none := read_isSpent hspent hread
      refine scan_error_of_finish hread ?_
      rw [hnone]
      exact hrest
    · exact ⟨e, scan_error_of_read hread _⟩
  | cons c s ih =>
    cases hread : read argument c stage with
    | error e => exact ⟨e, scan_error_of_read hread _⟩
    | ok move =>
      have hmove := read_isSpent hspent hread
      cases move with
      | stay stage' argument' =>
        rw [List.cons_append, scan_cons, hread]
        exact ih hmove
      | finish text argument' => exact scan_error_of_finish hread (ih (.inl hmove))

/-- A percent sign that is not doubled starts a directive, after which the argument is spent. -/
lemma scan_single_sign (hc : c ≠ '%') (argument : Option Argument) (s : List Char) (hrest : Starves rest)
    {b : Char} (hb : IsBreak b) : ∃ e, scan .text argument ('%' :: c :: s ++ b :: rest) = .error e := by
  rw [List.cons_append, scan_sign, List.cons_append]
  cases hread : read argument c .opened with
  | error e => exact ⟨e, scan_error_of_read hread _⟩
  | ok move =>
    have hmove : move.IsSpent := by
      rw [read, if_neg hc] at hread
      split at hread
      · exact nomatch hread
      · exact readFlags_isSpent hread
    cases move with
    | stay stage' argument' =>
      rw [scan_cons, hread]
      exact scan_of_isSpent hmove s hrest hb
    | finish text argument' => exact scan_error_of_finish hread (scan_of_isSpent (.inl hmove) s hrest hb)

/-- Text with a single percent sign leaves no result for what needs the argument after the next break. -/
theorem scan_of_not_isDoubled (h : isDoubled s = false) (argument : Option Argument) (hrest : Starves rest)
    {b : Char} (hb : IsBreak b) : ∃ e, scan .text argument (s ++ b :: rest) = .error e := by
  fun_induction isDoubled s with
  | case1 => exact absurd h (by decide)
  | case2 c =>
    obtain rfl : c = '%' := by simpa using h
    obtain ⟨e, he⟩ := readConversion_break hb {} argument
    have hread : read argument b .opened = .error e := by
      rcases hb with rfl | rfl <;> exact he
    rw [List.cons_append, scan_sign]
    exact ⟨e, scan_error_of_read hread _⟩
  | case3 d s ih =>
    by_cases hd : d = '%'
    · have hs : isDoubled s = false := by simpa [hd] using h
      obtain ⟨e, he⟩ := ih hs
      rw [hd, List.cons_append, List.cons_append, scan_doubled_sign, he]
      exact ⟨e, rfl⟩
    · exact scan_single_sign hd argument s hrest hb
  | case4 c d s hc ih =>
    obtain ⟨e, he⟩ := ih h
    rw [List.cons_append, scan_plain hc, he]
    exact ⟨e, rfl⟩

end PackToMod.Percent
