import Mathlib.Data.List.Basic
import PackToMod.Build

/-!
# Symbols of methods

A method is stored as text. The symbol that it declares and the symbol that its statement calls are
read off the two texts, and the number of the method off the former. For a method made from collected
output both symbols are the same, and they are the symbol of its number.
-/

namespace PackToMod

/-- The text up to the first occurrence of a character. -/
def Text.upTo (c : Char) (s : String) : String :=
  String.ofList (s.toList.takeWhile (· ≠ c))

/-- The text after the last occurrence of a character. -/
def Text.afterLast (c : Char) (s : String) : String :=
  String.ofList (s.toList.reverse.takeWhile (· ≠ c)).reverse

lemma Text.upTo_eq {c : Char} {s before : String} (hs : before.toList ++ [c] <+: s.toList)
    (h : c ∉ before.toList) : upTo c s = before := by
  obtain ⟨after, hafter⟩ := hs
  have hbefore : ∀ a ∈ before.toList, decide (a ≠ c) = true := by
    intro a ha
    exact decide_eq_true fun he => h (he ▸ ha)
  unfold upTo
  rw [← hafter, List.append_assoc, List.takeWhile_append_of_pos hbefore]
  simp

lemma Text.afterLast_eq {c : Char} {s after : String} (hs : c :: after.toList <:+ s.toList)
    (h : c ∉ after.toList) : afterLast c s = after := by
  obtain ⟨before, hbefore⟩ := hs
  have hafter : ∀ a ∈ after.toList.reverse, decide (a ≠ c) = true := by
    intro a ha
    exact decide_eq_true fun he => h (he ▸ List.mem_reverse.mp ha)
  unfold afterLast
  rw [← hbefore, List.reverse_append, List.reverse_cons, List.append_assoc,
    List.takeWhile_append_of_pos hafter]
  simp

/-- The method that a statement calls: what stands before its arguments. -/
def calledSymbol (statement : String) : String :=
  Text.upTo '(' statement

namespace Method

/-- The name in the head of a method: the last word before its parameters. -/
def declaredSymbol (m : Method) : String :=
  Text.afterLast ' ' (Text.upTo '(' m.code)

/-- The number in the name of a method. -/
def number (m : Method) : Nat :=
  Nat.ofDigitChars 10 (m.declaredSymbol.toList.drop "command_".length) 0

end Method

lemma toList_numbered (head : String) (n : Nat) :
    (head ++ toString n).toList = head.toList ++ Nat.toDigits 10 n := by
  rw [String.toList_append, Nat.toString_eq_repr, Nat.toList_repr]

lemma notMem_numbered {c : Char} {head : String} (n : Nat) (h : c ∉ head.toList)
    (hdigit : c.isDigit = false) : c ∉ (head ++ toString n).toList := by
  rw [toList_numbered, List.mem_append, not_or]
  refine ⟨h, fun hmem => ?_⟩
  have hd := Nat.isDigit_of_mem_toDigits (by omega) (by omega) hmem
  rw [hdigit] at hd
  exact absurd hd (by decide)

lemma toString_nat_injective {m n : Nat} (h : toString m = toString n) : m = n := by
  have hdigits (n : Nat) : (toString n).toList = Nat.toDigits 10 n := Nat.toList_repr
  calc m = Nat.ofDigitChars 10 (toString m).toList 0 := by
        rw [hdigits, Nat.ofDigitChars_ten_toDigits]
    _ = Nat.ofDigitChars 10 (toString n).toList 0 := by rw [h]
    _ = n := by rw [hdigits, Nat.ofDigitChars_ten_toDigits]

/-- The number at the end of a name is what comes after the last underscore. -/
lemma afterLast_numbered (opening : String) (n : Nat) :
    Text.afterLast '_' (opening ++ "_" ++ toString n) = toString n := by
  refine Text.afterLast_eq ⟨opening.toList, by simp⟩ ?_
  have hdigits : '_' ∉ ("" ++ toString n).toList := notMem_numbered n (by decide) (by decide)
  rwa [String.empty_append] at hdigits

lemma eq_of_numbered {opening opening' : String} {n n' : Nat}
    (h : opening ++ "_" ++ toString n = opening' ++ "_" ++ toString n') : n = n' := by
  refine toString_nat_injective ?_
  rw [← afterLast_numbered opening n, h, afterLast_numbered]

section

variable (n : Nat) (text output : String) (macros : List String)
  (needsDispatcher needsMacros : Bool) (returns : Returns)

lemma declaredSymbol_ofOutput :
    (Method.ofOutput n text output macros needsDispatcher needsMacros returns).declaredSymbol =
      methodSymbol n := by
  obtain ⟨head, hhead⟩ : ∃ head, head =
      "private static " ++ (if returns = .maybe then "MaybeReturn" else "int") ++ " " := ⟨_, rfl⟩
  have hparen : '(' ∉ (head ++ methodSymbol n).toList := by
    have hnot : '(' ∉ head.toList := by
      rw [hhead]
      split <;> decide
    rw [String.toList_append, List.mem_append, not_or]
    exact ⟨hnot, notMem_numbered n (by decide) (by decide)⟩
  have hcode : (head ++ methodSymbol n).toList ++ ['('] <+:
      (Method.ofOutput n text output macros needsDispatcher needsMacros returns).code.toList := by
    unfold Method.ofOutput methodCode signature
    dsimp only
    rw [← hhead]
    simp only [String.toList_append, List.append_assoc, List.prefix_append_right_inj]
    exact List.prefix_append _ _
  unfold Method.declaredSymbol
  rw [Text.upTo_eq hcode hparen]
  refine Text.afterLast_eq ?_ (notMem_numbered n (by decide) (by decide))
  rw [hhead, String.toList_append, String.toList_append, List.append_assoc]
  exact List.suffix_append _ _

lemma number_ofOutput :
    (Method.ofOutput n text output macros needsDispatcher needsMacros returns).number = n := by
  unfold Method.number
  rw [declaredSymbol_ofOutput, methodSymbol, toList_numbered]
  exact Nat.ofDigitChars_ten_toDigits

lemma calledSymbol_ofOutput :
    calledSymbol (Method.ofOutput n text output macros needsDispatcher needsMacros .never).statement =
      methodSymbol n := by
  refine Text.upTo_eq ?_ (notMem_numbered n (by decide) (by decide))
  simp only [Method.ofOutput, callStatement, call, String.toList_append, List.append_assoc,
    List.prefix_append_right_inj]
  exact List.prefix_append _ _

end

end PackToMod
