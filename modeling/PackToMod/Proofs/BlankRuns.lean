import Mathlib.Data.List.SplitBy
import PackToMod.Proofs.BlankLines

/-!
# Runs of blank lines

Thinning goes by lines. On characters it is a substitution: scanning from the left, every stretch of a line
break, blanks and a line break that begins where the last one ended or later becomes one line break, the
stretch being as short as possible. As the line break that ends a stretch is used up with it, the next line
always stays, and of every run of blank lines between the first line and the last one every second line is
left. All other lines stay.
-/

namespace PackToMod.Text

variable {s t ws ws' rest rest' line u : List Char}

/-! ## Substitution -/

/-- At its beginning `s` matches a line break, as few blanks as possible and a line break; `rest` follows.
Line breaks are blanks themselves. -/
structure Matches (s ws rest : List Char) : Prop where
  text : s = '\n' :: ws ++ '\n' :: rest
  blank : ∀ c ∈ ws, isBlank c = true
  shortest : ∀ ws' rest', s = '\n' :: ws' ++ '\n' :: rest' → (∀ c ∈ ws', isBlank c = true) →
    ws.length ≤ ws'.length

/-- `t` is `s` with a line break for every match, the leftmost first and without overlaps. -/
inductive Substituted : List Char → List Char → Prop
  | stop : Substituted [] []
  | hit {s ws rest t : List Char} (hmatch : Matches s ws rest) (hrest : Substituted rest t) :
    Substituted s ('\n' :: t)
  | skip {c : Char} {s t : List Char} (hmatch : ∀ ws rest, ¬ Matches (c :: s) ws rest)
    (hrest : Substituted s t) : Substituted (c :: s) (c :: t)

lemma Matches.unique (h : Matches s ws rest) (h' : Matches s ws' rest') : ws = ws' ∧ rest = rest' := by
  have hlength : ws.length = ws'.length :=
    Nat.le_antisymm (h.shortest _ _ h'.text h'.blank) (h'.shortest _ _ h.text h.blank)
  have htexts : ws ++ '\n' :: rest = ws' ++ '\n' :: rest' := List.cons_inj_right _ |>.mp (h.text.symm.trans h'.text)
  obtain ⟨hws, hrest⟩ := List.append_inj htexts hlength
  exact ⟨hws, (List.cons.inj hrest).2⟩

lemma Substituted.unique {t t' : List Char} (h : Substituted s t) (h' : Substituted s t') : t = t' := by
  induction h generalizing t' with
  | stop =>
    cases h' with
    | stop => rfl
    | hit hmatch _ => cases hmatch.text
  | hit hmatch _ ih =>
    cases h' with
    | stop => cases hmatch.text
    | hit hmatch' hrest' =>
      obtain ⟨-, rfl⟩ := hmatch.unique hmatch'
      rw [ih hrest']
    | skip hno _ => exact absurd hmatch (hno _ _)
  | skip hno _ ih =>
    cases h' with
    | hit hmatch' _ => exact absurd hmatch' (hno _ _)
    | skip _ hrest' => rw [ih hrest']

/-- The first line is a prefix of whatever stands before a line break. -/
lemma isPrefix_of_break (hline : '\n' ∉ line) (h : line ++ '\n' :: u = ws ++ '\n' :: rest) : line <+: ws := by
  rcases List.append_eq_append_iff.mp h with ⟨more, hws, -⟩ | ⟨more, hline', hrest⟩
  · exact ⟨more, hws.symm⟩
  · cases more with
    | nil => exact ⟨[], by simpa using hline'⟩
    | cons c more =>
      -- The line would hold the line break after the blanks.
      obtain ⟨rfl, -⟩ := List.cons.inj hrest
      exact absurd (hline' ▸ by simp) hline

lemma matches_of_blank (hline : '\n' ∉ line) (hblank : isBlankLine line = true) :
    Matches ('\n' :: (line ++ '\n' :: u)) line u where
  text := rfl
  blank := List.all_eq_true.mp hblank
  shortest _ _ h _ := (isPrefix_of_break hline (List.cons.inj h).2).length_le

lemma isBlankLine_of_matches (hline : '\n' ∉ line) (h : Matches ('\n' :: (line ++ '\n' :: u)) ws rest) :
    isBlankLine line = true := by
  have hbefore := isPrefix_of_break hline (List.cons.inj h.text).2
  exact List.all_eq_true.mpr fun c hc => h.blank c (hbefore.subset hc)

/-! ## Thinning is the substitution -/

lemma split_line (hline : '\n' ∉ line) (u : List Char) :
    split '\n' (line ++ '\n' :: u) = line :: split '\n' u := by
  rw [split_append_cons, split_of_notMem hline, List.singleton_append]

lemma thinLines_ne_nil {lines : List (List Char)} (h : lines ≠ []) : thinLines lines ≠ [] := by
  match lines, h with
  | [line], _ => exact List.cons_ne_nil _ _
  | line :: next :: rest, _ =>
    rw [thinLines]
    split <;> exact List.cons_ne_nil _ _

lemma thinBlankLines_break (s : List Char) :
    thinBlankLines ('\n' :: s) = '\n' :: join ['\n'] (thinLines (split '\n' s)) := by
  have hsplit : split '\n' ('\n' :: s) = [] :: split '\n' s := if_pos rfl
  unfold thinBlankLines
  rw [hsplit]
  exact join_cons_of_ne_nil (thinLines_ne_nil (split_ne_nil _ _))

lemma thinBlankLines_of_split {first : List Char} {lines : List (List Char)} (h : split '\n' s = first :: lines) :
    thinBlankLines s = join ['\n'] (first :: thinLines lines) := by
  unfold thinBlankLines
  rw [h]

/-- A blank line between two line breaks goes, and the scan goes on after the second one. -/
lemma thinBlankLines_hit (hline : '\n' ∉ line) (hblank : isBlankLine line = true) (u : List Char) :
    thinBlankLines ('\n' :: (line ++ '\n' :: u)) = '\n' :: thinBlankLines u := by
  obtain ⟨first, lines, hu⟩ := List.exists_cons_of_ne_nil (split_ne_nil '\n' u)
  rw [thinBlankLines_break, split_line hline, hu, thinLines, if_pos hblank, thinBlankLines_of_split hu]

lemma thinBlankLines_skip (hline : '\n' ∉ line) (hfull : isBlankLine line = false) (u : List Char) :
    thinBlankLines ('\n' :: (line ++ '\n' :: u)) = '\n' :: thinBlankLines (line ++ '\n' :: u) := by
  rw [thinBlankLines_break, thinBlankLines_of_split (split_line hline u), split_line hline, thinLines_cons hfull]

lemma thinBlankLines_lastBreak (hs : '\n' ∉ s) : thinBlankLines ('\n' :: s) = '\n' :: thinBlankLines s := by
  rw [thinBlankLines_break, thinBlankLines_of_notMem hs, split_of_notMem hs]
  rfl

lemma substituted_thinBlankLines (s : List Char) : Substituted s (thinBlankLines s) := by
  match s with
  | [] => exact .stop
  | c :: s =>
    by_cases hbreak : c = '\n'
    · subst hbreak
      by_cases hs : '\n' ∈ s
      · -- What follows the line break is a line that another one ends.
        obtain ⟨line, u, rfl, hline⟩ := List.eq_append_cons_of_mem hs
        by_cases hblank : isBlankLine line = true
        · rw [thinBlankLines_hit hline hblank]
          exact .hit (matches_of_blank hline hblank) (substituted_thinBlankLines u)
        · rw [thinBlankLines_skip hline (Bool.eq_false_iff.mpr hblank)]
          refine .skip (fun ws rest h => hblank (isBlankLine_of_matches hline h)) ?_
          exact substituted_thinBlankLines (line ++ '\n' :: u)
      · rw [thinBlankLines_lastBreak hs]
        refine .skip (fun ws rest h => hs ?_) (substituted_thinBlankLines s)
        rw [(List.cons.inj h.text).2]
        simp
    · have hfirst : '\n' ∉ [c] := fun h => hbreak (List.mem_singleton.mp h).symm
      have hthin : thinBlankLines (c :: s) = c :: thinBlankLines s := thinBlankLines_append_first hfirst s
      rw [hthin]
      exact .skip (fun ws rest h => hbreak (List.cons.inj h.text).1) (substituted_thinBlankLines s)
termination_by s.length

/-! ## Lines -/

lemma notMem_of_mem_split {sep : Char} {piece : List Char} (h : piece ∈ split sep s) : sep ∉ piece := by
  induction s generalizing piece with
  | nil =>
    rw [List.mem_singleton.mp h]
    exact List.not_mem_nil
  | cons c s ih =>
    obtain ⟨first, pieces, hs⟩ := List.exists_cons_of_ne_nil (split_ne_nil sep s)
    rw [hs] at ih
    by_cases hc : c = sep
    · rw [split, if_pos hc, hs] at h
      rcases List.mem_cons.mp h with rfl | h
      · exact List.not_mem_nil
      · exact ih h
    · rw [split, if_neg hc, hs] at h
      rcases List.mem_cons.mp h with rfl | h
      · exact List.not_mem_cons_of_ne_of_not_mem (Ne.symm hc) (ih List.mem_cons_self)
      · exact ih (List.mem_cons_of_mem _ h)

lemma split_join {sep : Char} {pieces : List (List Char)} (hne : pieces ≠ [])
    (h : ∀ piece ∈ pieces, sep ∉ piece) : split sep (join [sep] pieces) = pieces := by
  induction pieces with
  | nil => exact absurd rfl hne
  | cons piece pieces ih =>
    obtain ⟨hpiece, hpieces⟩ := List.forall_mem_cons.mp h
    by_cases hlast : pieces = []
    · rw [hlast]
      exact split_of_notMem hpiece
    · rw [join_cons_of_ne_nil hlast, List.append_assoc, List.singleton_append, split_append_cons,
        split_of_notMem hpiece, ih hlast hpieces, List.singleton_append]

lemma thinLines_sublist (lines : List (List Char)) : (thinLines lines).Sublist lines := by
  induction lines using thinLines.induct with
  | case1 line next rest hblank ih =>
    rw [thinLines, if_pos hblank]
    exact (ih.cons_cons next).cons line
  | case2 line next rest hfull ih =>
    rw [thinLines, if_neg hfull]
    exact ih.cons_cons line
  | case3 lines hshort =>
    rw [thinLines]
    exact hshort

/-- The lines of a thinned text. -/
lemma split_thinBlankLines {first : List Char} {lines : List (List Char)} (h : split '\n' s = first :: lines) :
    split '\n' (thinBlankLines s) = first :: thinLines lines := by
  rw [thinBlankLines_of_split h]
  refine split_join (List.cons_ne_nil _ _) fun line hline => ?_
  have hsublist := (thinLines_sublist lines).cons_cons first
  exact notMem_of_mem_split (h ▸ hsublist.subset hline)

/-- No line is lost that is not blank. -/
lemma filter_full_thinLines (lines : List (List Char)) :
    (thinLines lines).filter (fun line => !isBlankLine line) = lines.filter fun line => !isBlankLine line := by
  induction lines using thinLines.induct with
  | case1 line next rest hblank ih =>
    rw [thinLines, if_pos hblank, List.filter_cons, ih]
    simp [hblank, List.filter_cons]
  | case2 line next rest hfull ih =>
    rw [thinLines, if_neg hfull, List.filter_cons, List.filter_cons, ih]
  | case3 lines hshort =>
    rw [thinLines]
    exact hshort

/-! ## Every second line of a run -/

/-- The second, the fourth, … of a list. -/
def everySecond {α : Type} : List α → List α
  | [] => []
  | [_] => []
  | _ :: b :: rest => b :: everySecond rest

lemma length_everySecond {α : Type} (l : List α) : (everySecond l).length = l.length / 2 := by
  induction l using everySecond.induct with
  | case1 => simp [everySecond]
  | case2 a => simp [everySecond]
  | case3 a b rest ih =>
    simp only [everySecond, List.length_cons, ih]
    omega

lemma getElem?_everySecond {α : Type} (l : List α) (i : Nat) : (everySecond l)[i]? = l[2 * i + 1]? := by
  induction l using everySecond.induct generalizing i with
  | case1 => rfl
  | case2 a => rfl
  | case3 a b rest ih =>
    cases i with
    | zero => rfl
    | succ i =>
      rw [everySecond, List.getElem?_cons_succ, ih]
      rfl

/-- Of blank lines every second one is left, if a line follows that stays. -/
lemma thinLines_blank_append {run rest : List (List Char)} (hrun : ∀ line ∈ run, isBlankLine line = true)
    (hstays : thinLines (line :: rest) = line :: thinLines rest) :
    thinLines (run ++ line :: rest) = everySecond run ++ thinLines (line :: rest) := by
  induction run using everySecond.induct with
  | case1 => rfl
  | case2 a =>
    rw [List.forall_mem_singleton] at hrun
    rw [List.singleton_append, thinLines, if_pos hrun, hstays]
    rfl
  | case3 a b run ih =>
    rw [List.forall_mem_cons, List.forall_mem_cons] at hrun
    rw [List.cons_append, List.cons_append, thinLines, if_pos hrun.1, ih hrun.2.2]
    rfl

lemma thinLines_full_append {run : List (List Char)} (hrun : ∀ line ∈ run, isBlankLine line = false)
    (lines : List (List Char)) : thinLines (run ++ lines) = run ++ thinLines lines := by
  induction run with
  | nil => rfl
  | cons line run ih =>
    obtain ⟨hline, hrest⟩ := List.forall_mem_cons.mp hrun
    rw [List.cons_append, thinLines_cons hline, ih hrest, List.cons_append]

/-- Both lines are blank, or neither is. -/
def alike (line next : List Char) : Bool :=
  isBlankLine line == isBlankLine next

/-- What is left of a run of lines that are all blank, or of which none is. -/
def thinRun (run : List (List Char)) : List (List Char) :=
  if run.all isBlankLine then everySecond run else run

lemma isBlankLine_eq_of_isChain {run : List (List Char)} (h : (line :: run).IsChain fun a b => alike a b = true) :
    ∀ other ∈ line :: run, isBlankLine other = isBlankLine line := by
  induction run generalizing line with
  | nil => simp
  | cons next run ih =>
    rw [List.isChain_cons_cons, alike, beq_iff_eq] at h
    rw [List.forall_mem_cons]
    exact ⟨rfl, fun other hother => (ih h.2 other hother).trans h.1.symm⟩

/-- Thinning goes run by run. -/
lemma thinLines_runs {runs : List (List (List Char))} (hne : [] ∉ runs)
    (halike : ∀ run ∈ runs, run.IsChain fun a b => alike a b = true)
    (hends : runs.IsChain fun a b => ∃ ha hb, alike (a.getLast ha) (b.head hb) = false) (last : List Char) :
    thinLines (runs.flatten ++ [last]) = runs.flatMap thinRun ++ [last] := by
  induction runs with
  | nil => rfl
  | cons run runs ih =>
    rw [List.mem_cons, not_or] at hne
    obtain ⟨hrun, hruns⟩ := List.forall_mem_cons.mp halike
    obtain ⟨line, lines, rfl⟩ := List.exists_cons_of_ne_nil (Ne.symm hne.1)
    have hsame := isBlankLine_eq_of_isChain hrun
    have hrest := ih hne.2 hruns hends.tail
    rw [List.flatten_cons, List.append_assoc, List.flatMap_cons, List.append_assoc, ← hrest]
    by_cases hblank : isBlankLine line = true
    · have hall : ∀ other ∈ line :: lines, isBlankLine other = true := fun other hother =>
        (hsame other hother).trans hblank
      have hthin : thinRun (line :: lines) = everySecond (line :: lines) :=
        if_pos (List.all_eq_true.mpr hall)
      rw [hthin]
      cases runs with
      | nil => exact thinLines_blank_append hall rfl
      | cons next runs =>
        -- The next run begins with a line that is not blank, which stays.
        rw [List.isChain_cons_cons] at hends
        obtain ⟨⟨hlast, hhead, hother⟩, -⟩ := hends
        obtain ⟨full, nextLines, rfl⟩ := List.exists_cons_of_ne_nil hhead
        have hfull : isBlankLine full = false := by
          rw [alike, hall _ (List.getLast_mem hlast)] at hother
          simpa using hother
        exact thinLines_blank_append hall (thinLines_cons hfull)
    · have hall : ∀ other ∈ line :: lines, isBlankLine other = false := fun other hother =>
        (hsame other hother).trans (Bool.eq_false_iff.mpr hblank)
      have hthin : thinRun (line :: lines) = line :: lines :=
        if_neg fun h => hblank (List.all_eq_true.mp h line List.mem_cons_self)
      rw [hthin, thinLines_full_append hall]

lemma thinLines_append_last (inner : List (List Char)) (last : List Char) :
    thinLines (inner ++ [last]) = (inner.splitBy alike).flatMap thinRun ++ [last] := by
  have hruns := thinLines_runs (List.nil_notMem_splitBy alike inner) (fun _ => List.isChain_of_mem_splitBy)
    (List.isChain_getLast_head_splitBy alike inner) last
  rwa [List.flatten_splitBy] at hruns

/-! ## All texts -/

/-- The thinned text is the only one that the substitution gives. It has the first line, the last line and all
lines that are not blank, in their order; and between the first line and the last one, every second line of
each run of blank lines. -/
theorem blank_runs_halved (s : List Char) :
    (∀ t, Substituted s t ↔ t = thinBlankLines s) ∧
      let lines := split '\n' s
      let kept := split '\n' (thinBlankLines s)
      kept.head? = lines.head? ∧ kept.getLast? = lines.getLast? ∧
        (kept.filter fun line => !isBlankLine line) = (lines.filter fun line => !isBlankLine line) ∧
        kept = lines.take 1 ++ (lines.tail.dropLast.splitBy alike).flatMap thinRun ++ lines.tail.getLast?.toList ∧
        ∀ run : List (List Char), (everySecond run).length = run.length / 2 ∧
          ∀ i, (everySecond run)[i]? = run[2 * i + 1]? := by
  have hscan : ∀ t, Substituted s t ↔ t = thinBlankLines s := by
    refine fun t => ⟨fun h => h.unique (substituted_thinBlankLines s), ?_⟩
    rintro rfl
    exact substituted_thinBlankLines s
  refine ⟨hscan, ?_⟩
  intro lines kept
  obtain ⟨first, rest, hlines⟩ : ∃ first rest, lines = first :: rest :=
    List.exists_cons_of_ne_nil (split_ne_nil '\n' s)
  have hkept : kept = first :: thinLines rest := split_thinBlankLines hlines
  rw [hkept, hlines]
  refine ⟨rfl, ?_, ?_, ?_, fun run => ⟨length_everySecond run, getElem?_everySecond run⟩⟩
  · rcases List.eq_nil_or_concat rest with rfl | ⟨inner, last, rfl⟩
    · rfl
    · rw [List.concat_eq_append, thinLines_append_last, ← List.cons_append, ← List.cons_append,
        List.getLast?_concat, List.getLast?_concat]
  · rw [List.filter_cons, List.filter_cons, filter_full_thinLines]
  · rcases List.eq_nil_or_concat rest with rfl | ⟨inner, last, rfl⟩
    · rfl
    · rw [List.concat_eq_append, thinLines_append_last]
      simp

end PackToMod.Text
