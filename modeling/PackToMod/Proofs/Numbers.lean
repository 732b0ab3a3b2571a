import Mathlib.Data.List.Perm.Subperm
import Mathlib.Data.List.Range
import PackToMod.Proofs.Registries
import PackToMod.Proofs.Symbols

/-!
# Numbers of a build

All numbered symbols of a build take their numbers from one counter. `Build.numbers` lists the numbers
that the entries of all registries introduce. `Counts b b'` is what one stretch of work may do to them:
it adds numbers from the old counter on, each once, and stays below the new counter. A number that is
taken first and introduced after other work has been done is covered by `Counts.reserve`.
-/

namespace PackToMod

/-- The number of the variable that a step assigns. -/
def TagStep.number? : TagStep → Option Nat
  | assign _ (.variable _ n) _ => some n
  | _ => none

/-- The numbers of all variables, the root among them, that the program of a tag assigns. -/
def TagConstant.numbers (t : TagConstant) : List Nat :=
  t.steps.filterMap TagStep.number?

namespace Build

/-- The numbers that the entries of a build introduce, once for each introduction. -/
def numbers (b : Build) : List Nat :=
  b.methods.entries.map (·.2.number) ++ b.selectors.entries.map (·.2.number)
    ++ b.patches.entries.map (·.2.number) ++ b.blockPredicates.entries.map (·.2)
    ++ b.tags.entries.flatMap (·.2.numbers)

/-- No number is introduced twice, and the next one is new. -/
def Numbered (b : Build) : Prop :=
  b.numbers.Nodup ∧ ∀ n ∈ b.numbers, n < b.counter

structure Counts (b b' : Build) : Prop where
  counter : b.counter ≤ b'.counter
  older : ∀ n ∈ b'.numbers, n < b.counter → n ∈ b.numbers
  numbered : b.Numbered → b'.Numbered

namespace Counts

variable {b b₁ b₂ : Build}

lemma of_numbers_eq (hcounter : b.counter ≤ b₁.counter) (hnumbers : b₁.numbers = b.numbers) :
    Counts b b₁ where
  counter := hcounter
  older n hn _ := hnumbers ▸ hn
  numbered h := by
    refine ⟨hnumbers ▸ h.1, fun n hn => ?_⟩
    have hlt := h.2 n (hnumbers ▸ hn)
    omega

lemma refl (b : Build) : Counts b b :=
  of_numbers_eq le_rfl rfl

lemma trans (h₁ : Counts b b₁) (h₂ : Counts b₁ b₂) : Counts b b₂ where
  counter := h₁.counter.trans h₂.counter
  older n hn hlt := h₁.older n (h₂.older n hn (hlt.trans_le h₁.counter)) hlt
  numbered h := h₂.numbered (h₁.numbered h)

/-- New numbers from the old counter up to the new one. -/
lemma of_new {new : List Nat} (hcounter : b.counter ≤ b₁.counter)
    (hnumbers : b₁.numbers.Perm (b.numbers ++ new)) (hnodup : new.Nodup)
    (hnew : ∀ n ∈ new, b.counter ≤ n ∧ n < b₁.counter) : Counts b b₁ where
  counter := hcounter
  older n hn hlt := by
    rcases List.mem_append.mp (hnumbers.mem_iff.mp hn) with hold | hmem
    · exact hold
    · have hle := (hnew n hmem).1
      omega
  numbered h := by
    refine ⟨hnumbers.nodup_iff.mpr (List.nodup_append.mpr ⟨h.1, hnodup, ?_⟩), fun n hn => ?_⟩
    · intro n hn k hk heq
      have hlt := h.2 n hn
      have hle := (hnew k hk).1
      omega
    · rcases List.mem_append.mp (hnumbers.mem_iff.mp hn) with hold | hmem
      · have hlt := h.2 n hold
        omega
      · exact (hnew n hmem).2

/-- A number that is taken before other work and introduced after it. -/
lemma reserve (h : Counts { b with counter := b.counter + 1 } b₁)
    (hcounter : b₁.counter = b₂.counter) (hnumbers : b₂.numbers.Subperm (b.counter :: b₁.numbers)) :
    Counts b b₂ where
  counter := by
    have hle : b.counter + 1 ≤ b₁.counter := h.counter
    omega
  older n hn hlt := by
    rcases List.mem_cons.mp (hnumbers.subset hn) with heq | hmem
    · omega
    · exact h.older n hmem (Nat.lt_succ_of_lt hlt)
  numbered hb := by
    have hb₁ : b₁.Numbered := h.numbered ⟨hb.1, fun n hn => Nat.lt_succ_of_lt (hb.2 n hn)⟩
    have hle : b.counter + 1 ≤ b₁.counter := h.counter
    -- The other work started above the number taken first, so it cannot have introduced it.
    have habsent : b.counter ∉ b₁.numbers := by
      intro hmem
      have hold : b.counter ∈ b.numbers := h.older _ hmem (Nat.lt_succ_self _)
      exact absurd (hb.2 _ hold) (lt_irrefl _)
    refine ⟨?_, fun n hn => ?_⟩
    · obtain ⟨l, hperm, hsub⟩ := hnumbers
      exact hperm.nodup_iff.mp ((List.nodup_cons.mpr ⟨habsent, hb₁.1⟩).sublist hsub)
    · rcases List.mem_cons.mp (hnumbers.subset hn) with heq | hmem
      · omega
      · have hlt := hb₁.2 n hmem
        omega

end Counts

end Build

/-! ## Numbers of a tag -/

/-- The numbers read off a result are all that were free before and are taken after it, in order. -/
def TakesAll {α : Type} (read : α → List Nat) (n : Nat) : EStateM.Result Fault Nat α → Prop
  | .ok a n' => n ≤ n' ∧ read a = List.range' n (n' - n)
  | .error _ n' => n ≤ n'

def stepNumbers (steps : List TagStep) : List Nat :=
  steps.filterMap TagStep.number?

namespace TakesAll

/-- A container takes one number and leaves the following ones to its parts. -/
lemma container {isLocal : Bool} {type : TagType} {value : TagExpression} {n : Nat}
    {x : NumberingM (List TagStep)} (h : TakesAll stepNumbers (n + 1) (x (n + 1))) :
    TakesAll TagConstant.numbers n ((do
      return ⟨.variable type n, .assign isLocal (.variable type n) value :: (← x)⟩ :
        NumberingM TagConstant) (n + 1)) := by
  change TakesAll TagConstant.numbers n (EStateM.bind x _ (n + 1))
  unfold EStateM.bind
  cases hx : x (n + 1) with
  | error f n' =>
    rw [hx] at h
    exact Nat.le_of_succ_le h
  | ok steps n' =>
    rw [hx] at h
    obtain ⟨hle, hsteps⟩ := h
    have hsucc : n' - n = n' - (n + 1) + 1 := by omega
    refine ⟨by omega, ?_⟩
    rw [hsucc, List.range'_succ, ← hsteps]
    rfl

/-- A part, and the step that links it to its container, go before the other parts. -/
lemma part {n : Nat} {x : NumberingM TagConstant} {y : NumberingM (List TagStep)}
    (link : TagTerm → TagStep) (hlink : ∀ t, (link t).number? = none)
    (hx : TakesAll TagConstant.numbers n (x n)) (hy : ∀ n, TakesAll stepNumbers n (y n)) :
    TakesAll stepNumbers n ((do
      let part ← x
      return part.steps ++ link part.root :: (← y) : NumberingM (List TagStep)) n) := by
  change TakesAll stepNumbers n (EStateM.bind x (fun part => EStateM.bind y _) n)
  unfold EStateM.bind
  cases hpart : x n with
  | error f n' =>
    rw [hpart] at hx
    exact hx
  | ok part n' =>
    rw [hpart] at hx
    obtain ⟨hle, hnumbers⟩ := hx
    have hrest := hy n'
    dsimp only
    cases hsteps : y n' with
    | error f m =>
      rw [hsteps] at hrest
      exact hle.trans hrest
    | ok steps m =>
      rw [hsteps] at hrest
      obtain ⟨hle', hnumbers'⟩ := hrest
      have hsplit : List.range' n (m - n) = List.range' n (n' - n) ++ List.range' n' (m - n') := by
        have happend := @List.range'_append_1 n (n' - n) (m - n')
        rw [Nat.add_sub_cancel' hle] at happend
        rw [happend]
        congr 1
        omega
      refine ⟨hle.trans hle', ?_⟩
      rw [hsplit, ← hnumbers, ← hnumbers']
      change (part.steps ++ link part.root :: steps).filterMap TagStep.number? = _
      rw [List.filterMap_append, List.filterMap_cons_none (hlink _)]
      rfl

end TakesAll

/-- The variables of a tag, its elements and its entries are numbered one after the other. -/
lemma lower_takesAll :
    (∀ isLocal node n, TakesAll TagConstant.numbers n (Node.lowerTag isLocal node n)) ∧
    (∀ target elements n, TakesAll stepNumbers n (lowerElements target elements n)) ∧
    ∀ target entries n, TakesAll stepNumbers n (lowerEntries target entries n) := by
  refine Node.lowerTag.mutual_induct
    (fun isLocal node => ∀ n, TakesAll TagConstant.numbers n (node.lowerTag isLocal n))
    (fun target elements => ∀ n, TakesAll stepNumbers n (lowerElements target elements n))
    (fun target entries => ∀ n, TakesAll stepNumbers n (lowerEntries target entries n))
    ?flag ?compound ?list ?unknown ?scalar ?other ?noElements ?element ?noEntries ?entry
  case flag =>
    intro isLocal text value n
    unfold Node.lowerTag
    exact ⟨le_rfl, by simp [TagConstant.numbers]⟩
  case compound =>
    intro isLocal text entries ih n
    rw [Node.lowerTag]
    exact TakesAll.container (ih n (n + 1))
  case list =>
    intro isLocal text elements ih n
    rw [Node.lowerTag]
    exact TakesAll.container (ih n (n + 1))
  case unknown =>
    intro isLocal text value hvalue n
    rw [Node.lowerTag, hvalue]
    exact le_rfl
  case scalar =>
    intro isLocal text value type hvalue n
    rw [Node.lowerTag, hvalue]
    refine ⟨Nat.le_succ n, ?_⟩
    rw [Nat.add_sub_cancel_left]
    rfl
  case other =>
    intro isLocal node hflag hcompound hlist hscalar n
    rw [Node.lowerTag.eq_def]
    split
    · exact (hflag _ _ rfl).elim
    · exact (hcompound _ _ rfl).elim
    · exact (hlist _ _ rfl).elim
    · exact (hscalar _ _ rfl).elim
    · exact le_rfl
  case noElements =>
    intro target n
    rw [lowerElements]
    exact ⟨le_rfl, by simp [stepNumbers]⟩
  case element =>
    intro target value elements ihvalue ih n
    rw [lowerElements]
    exact TakesAll.part _ (fun _ => rfl) (ihvalue n) ih
  case noEntries =>
    intro target n
    rw [lowerEntries]
    exact ⟨le_rfl, by simp [stepNumbers]⟩
  case entry =>
    intro target key value entries ihvalue ih n
    rw [lowerEntries]
    exact TakesAll.part _ (fun _ => rfl) (ihvalue n) ih

/-- The program of a tag assigns every number that it has taken, each once. -/
theorem lowerTag_numbers (isLocal : Bool) (node : Node) (n : Nat) :
    TakesAll TagConstant.numbers n (node.lowerTag isLocal n) :=
  lower_takesAll.1 isLocal node n

end PackToMod
