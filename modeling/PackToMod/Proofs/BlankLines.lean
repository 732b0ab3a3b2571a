import Mathlib.Data.List.Basic
import PackToMod.Text.BlankLines

/-!
# Thinning a text part by part

Thinning looks at whole lines, and no line that it takes out reaches over a character that is not blank.
So a text may be cut before such a character and its parts thinned on their own.
-/

namespace PackToMod.Text

variable {sep : Char} {s t : List Char} {pieces rest : List (List Char)} {last first : List Char}

lemma split_append (hs : split sep s = pieces ++ [last]) (ht : split sep t = first :: rest) :
    split sep (s ++ t) = pieces ++ (last ++ first) :: rest := by
  induction s generalizing pieces last with
  | nil =>
    obtain ⟨rfl, hlast⟩ := List.append_inj' ((List.nil_append [[]]).trans hs) rfl
    obtain rfl : [] = last := by simpa using hlast
    exact ht
  | cons c cs ih =>
    obtain ⟨pieces', last', hcs⟩ :=
      (List.eq_nil_or_concat (split sep cs)).resolve_left (split_ne_nil sep cs)
    rw [List.concat_eq_append] at hcs
    have htail := ih hcs
    by_cases hc : c = sep
    · rw [split, if_pos hc, hcs, ← List.cons_append] at hs
      obtain ⟨rfl, hlast⟩ := List.append_inj' hs rfl
      obtain rfl : last' = last := by simpa using hlast
      rw [List.cons_append, split, if_pos hc, htail, List.cons_append]
    · -- The character goes to the first piece, which is also the last one if there are no others.
      cases pieces' with
      | nil =>
        simp only [split, if_neg hc, hcs, List.nil_append] at hs
        obtain ⟨rfl, hlast⟩ := List.append_inj' ((List.nil_append [c :: last']).trans hs) rfl
        obtain rfl : c :: last' = last := by simpa using hlast
        simp only [List.cons_append, split, if_neg hc, htail, List.nil_append]
      | cons piece pieces' =>
        simp only [split, if_neg hc, hcs, List.cons_append] at hs
        rw [← List.cons_append] at hs
        obtain ⟨rfl, hlast⟩ := List.append_inj' hs rfl
        obtain rfl : last' = last := by simpa using hlast
        simp only [List.cons_append, split, if_neg hc, htail]

lemma join_cons_of_ne_nil {sep piece : List Char} (h : pieces ≠ []) :
    join sep (piece :: pieces) = piece ++ sep ++ join sep pieces := by
  cases pieces with
  | nil => exact absurd rfl h
  | cons => rfl

lemma join_append {sep : List Char} (pieces : List (List Char)) :
    join sep (pieces ++ (last ++ first) :: rest) =
      join sep (pieces ++ [last]) ++ join sep (first :: rest) := by
  induction pieces with
  | nil =>
    cases rest with
    | nil => rfl
    | cons => simp [join]
  | cons piece pieces ih =>
    rw [List.cons_append, List.cons_append, join_cons_of_ne_nil (by simp), join_cons_of_ne_nil (by simp), ih]
    simp

lemma thinLines_cons {line : List Char} (h : isBlankLine line = false) :
    thinLines (line :: rest) = line :: thinLines rest := by
  cases rest with
  | nil => rfl
  | cons next rest => rw [thinLines, h, if_neg (by decide)]

/-- Which lines are taken out before a line does not depend on that line, if it is not blank or the last. -/
lemma thinLines_append (lines : List (List Char)) :
    ∃ kept, (∀ line, thinLines (lines ++ [line]) = kept ++ [line]) ∧
      ∀ line rest, isBlankLine line = false →
        thinLines (lines ++ line :: rest) = kept ++ line :: thinLines rest := by
  induction lines using thinLines.induct with
  | case1 first second lines hblank ih =>
    obtain ⟨kept, hlast, hinner⟩ := ih
    refine ⟨second :: kept, fun line => ?_, fun line rest hline => ?_⟩
    · rw [List.cons_append, List.cons_append, thinLines, if_pos hblank, hlast, List.cons_append]
    · rw [List.cons_append, List.cons_append, thinLines, if_pos hblank, hinner line rest hline,
        List.cons_append]
  | case2 first second lines hfull ih =>
    obtain ⟨kept, hlast, hinner⟩ := ih
    refine ⟨first :: kept, fun line => ?_, fun line rest hline => ?_⟩
    · rw [List.cons_append, List.cons_append, thinLines, if_neg hfull, ← List.cons_append, hlast,
        List.cons_append]
    · rw [List.cons_append, List.cons_append, thinLines, if_neg hfull, ← List.cons_append,
        hinner line rest hline, List.cons_append]
  | case3 lines hshort =>
    -- At most one line: whether it stays depends on itself, as another line follows.
    cases lines with
    | nil => exact ⟨[], fun line => rfl, fun line rest hline => thinLines_cons hline⟩
    | cons first lines =>
      cases lines with
      | cons second lines => exact absurd rfl (hshort first second lines)
      | nil =>
        by_cases hblank : isBlankLine first = true
        · refine ⟨[], fun line => ?_, fun line rest hline => ?_⟩
          · rw [List.cons_append, List.nil_append, thinLines, if_pos hblank]
            rfl
          · rw [List.cons_append, List.nil_append, thinLines, if_pos hblank]
            rfl
        · rw [Bool.not_eq_true] at hblank
          refine ⟨[first], fun line => ?_, fun line rest hline => ?_⟩
          · rw [List.cons_append, thinLines_cons hblank]
            rfl
          · rw [List.cons_append, thinLines_cons hblank, List.nil_append, thinLines_cons hline]
            rfl

/-- A text may be cut before a character that is not blank. -/
theorem thinBlankLines_append {c : Char} (hc : isBlank c = false) (s t : List Char) :
    thinBlankLines (s ++ c :: t) = thinBlankLines s ++ thinBlankLines (c :: t) := by
  have hbreak : c ≠ '\n' := by
    rintro rfl
    exact absurd hc (by decide)
  obtain ⟨first, rest, ht⟩ := List.exists_cons_of_ne_nil (split_ne_nil '\n' t)
  have hct : split '\n' (c :: t) = (c :: first) :: rest := by
    rw [split, if_neg hbreak, ht]
  obtain ⟨pieces, last, hs⟩ := (List.eq_nil_or_concat (split '\n' s)).resolve_left (split_ne_nil '\n' s)
  rw [List.concat_eq_append] at hs
  have hline : isBlankLine (last ++ c :: first) = false := by
    simp [isBlankLine, hc]
  unfold thinBlankLines
  rw [split_append hs hct, hct, hs]
  -- The first line is never taken out, so thinning starts after it.
  cases pieces with
  | nil =>
    simp only [List.nil_append]
    exact join_append []
  | cons piece pieces =>
    obtain ⟨kept, hlast, hinner⟩ := thinLines_append pieces
    simp only [List.cons_append]
    rw [hlast, hinner _ _ hline, ← List.cons_append, ← List.cons_append]
    exact join_append _

lemma split_of_notMem (h : sep ∉ s) : split sep s = [s] := by
  induction s with
  | nil => rfl
  | cons c s ih =>
    rw [List.mem_cons, not_or] at h
    obtain ⟨hc, hs⟩ := h
    rw [split, if_neg (Ne.symm hc), ih hs]

/-- A text may also be cut on its first line, which is never taken out. -/
lemma thinBlankLines_append_first (hs : '\n' ∉ s) (t : List Char) :
    thinBlankLines (s ++ t) = s ++ thinBlankLines t := by
  have hline : split '\n' s = [] ++ [s] := split_of_notMem hs
  obtain ⟨first, rest, ht⟩ := List.exists_cons_of_ne_nil (split_ne_nil '\n' t)
  unfold thinBlankLines
  rw [split_append hline ht, ht]
  exact join_append []

/-- A single line is left as it is, with its line break. -/
lemma thinBlankLines_line (h : '\n' ∉ s) : thinBlankLines (s ++ ['\n']) = s ++ ['\n'] := by
  have hbreak : thinBlankLines ['\n'] = ['\n'] := by decide
  rw [thinBlankLines_append_first h, hbreak]

lemma thinBlankLines_of_notMem (hs : '\n' ∉ s) : thinBlankLines s = s := by
  have hcut := thinBlankLines_append_first hs []
  rw [List.append_nil] at hcut
  exact hcut.trans (List.append_nil s)

lemma split_append_cons (s t : List Char) : split sep (s ++ sep :: t) = split sep s ++ split sep t := by
  obtain ⟨pieces, last, hs⟩ := (List.eq_nil_or_concat (split sep s)).resolve_left (split_ne_nil sep s)
  have ht : split sep (sep :: t) = [] :: split sep t := if_pos rfl
  rw [List.concat_eq_append] at hs
  rw [split_append hs ht, hs, List.append_nil, List.append_assoc]
  rfl

/-- A piece without separators is one of those that a text is split into. -/
lemma mem_split (hs : sep ∉ s) (before after : List Char) :
    s ∈ split sep (before ++ sep :: (s ++ sep :: after)) := by
  rw [split_append_cons, split_append_cons, split_of_notMem hs]
  exact List.mem_append_right _ (List.mem_append_left _ List.mem_cons_self)

end PackToMod.Text
