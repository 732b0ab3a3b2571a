import PackToMod.Proofs.BalancedExecute
import PackToMod.Proofs.Declarations

/-!
# Generated code is well bracketed

A method is balanced if the output of its command is. The output is written by a handler, which closes what
it opens, or it is the code that leaves the command to the dispatcher, with the fault and the syntax tree in
comments. By induction along the nesting of commands every compilation keeps the methods of the build
balanced, and the initialisers of its constants are balanced because of what they are made from.
-/

namespace PackToMod

open Build DraftM Text

variable {U : Node → Prop} {b : Build}

/-! ## Methods -/

lemma parameters_balanced (needsDispatcher needsMacros : Bool) :
    ∀ p ∈ parameters needsDispatcher needsMacros, Balanced p.type ∧ Balanced p.name := by
  cases needsDispatcher <;> cases needsMacros <;> decide

lemma signature_balanced {symbol : String} (hsymbol : Balanced symbol) (needsDispatcher needsMacros : Bool) :
    Balanced (signature symbol (parameters needsDispatcher needsMacros)) := by
  have hparameters : Balanced (sepBy ", " ((parameters needsDispatcher needsMacros).map fun p =>
      p.type ++ " " ++ p.name)) := by
    refine Balanced.sepBy (Shaped.balanced (by decide)) fun text htext => ?_
    obtain ⟨p, hp, rfl⟩ := List.mem_map.mp htext
    obtain ⟨htype, hname⟩ := parameters_balanced _ _ p hp
    exact Shaped.balanced (by decide)
  unfold signature
  exact Shaped.balanced (by decide)

lemma call_balanced {symbol : String} (hsymbol : Balanced symbol) (needsDispatcher needsMacros : Bool) :
    Balanced (call symbol (parameters needsDispatcher needsMacros)) := by
  have hparameters : Balanced (sepBy ", " ((parameters needsDispatcher needsMacros).map Parameter.name)) := by
    refine Balanced.sepBy (Shaped.balanced (by decide)) fun text htext => ?_
    obtain ⟨p, hp, rfl⟩ := List.mem_map.mp htext
    exact (parameters_balanced _ _ p hp).2
  unfold call
  exact Shaped.balanced (by decide)

set_option maxRecDepth 2000 in
lemma methodCode_balanced {signature body : String} (hsignature : Balanced signature) (hbody : Balanced body)
    (returns : Returns) : Balanced (methodCode signature returns body) := by
  unfold methodCode
  split_ifs <;> exact Shaped.balanced (by decide)

lemma callStatement_balanced {call text : String} (hcall : Balanced call) (htext : Balanced text)
    (returns : Returns) : Balanced (callStatement call returns text) := by
  unfold callStatement
  split <;> exact Shaped.balanced (by decide)

lemma isBalanced_ofOutput {text output : String} (htext : Balanced text) (houtput : Balanced output) (n : Nat)
    (macros : List String) (needsDispatcher needsMacros : Bool) (returns : Returns) :
    (Method.ofOutput n text output macros needsDispatcher needsMacros returns).IsBalanced := by
  have hsymbol : Balanced (methodSymbol n) := by
    have hn := (bracketless_nat n).balanced
    unfold methodSymbol
    exact Shaped.balanced (by decide)
  have hbody : Balanced (String.ofList (thinBlankLines output.toList)) := by
    refine ⟨?_⟩
    rw [Nests, String.toList_ofList, nest_thinBlankLines]
    exact houtput.nests_nil
  constructor
  · exact methodCode_balanced (signature_balanced hsymbol _ _) hbody returns
  · exact callStatement_balanced (call_balanced hsymbol _ _) htext returns

/-! ## Commands left to the dispatcher -/

lemma dispatchCode_balanced {f : Fault} {text dump output : String} (hmessage : Balanced f.message)
    (htext : Bracketless text.toList) (hdump : Balanced dump) (h : dispatchCode f text dump = .ok output) :
    Balanced output := by
  by_cases hdoubled : Percent.isDoubled f.message.toList ∧ Percent.isDoubled dump.toList
  · have hmessage := balanced_undoubled hmessage hdoubled.1
    have hdump := balanced_undoubled hdump hdoubled.2
    have hliteral : Balanced (literalOf text) := by
      refine Bracketless.balanced ?_
      rw [literalOf, String.toList_ofList]
      exact bracketless_literal htext
    have hlabel : Balanced f.kind.label := by
      cases f.kind <;> decide
    have hcomment : dispatchComment f dump = "\n            // <class '" ++ f.kind.label ++ "'>: "
        ++ String.ofList (Percent.undoubled f.message.toList) ++ "\n" ++ "            /*\n"
        ++ String.ofList (Percent.undoubled dump.toList) ++ "\n" ++ "            " := by
      refine String.toList_injective ?_
      unfold dispatchComment Fault.opening commentOpening
      simp only [String.toList_append, String.toList_ofList, List.append_assoc]
      rfl
    rw [dispatchCode_of_isDoubled hdoubled.1 hdoubled.2] at h
    cases h
    rw [hcomment]
    unfold dispatchLine
    exact Shaped.balanced (by decide)
  · obtain ⟨e, he⟩ := dispatchCode_of_single_sign hdoubled text
    rw [he] at h
    cases h

/-! ## Compilations -/

lemma Text.subset_join {piece : List Char} {pieces : List (List Char)} (h : piece ∈ pieces) (sep : List Char) :
    piece ⊆ join sep pieces := by
  fun_induction join sep pieces with
  | case1 => cases h
  | case2 other =>
    rw [List.mem_singleton.mp h]
    exact List.Subset.refl _
  | case3 other others _ ih =>
    rcases List.mem_cons.mp h with rfl | hothers
    · exact fun c hc => List.mem_append_left _ (List.mem_append_left _ hc)
    · exact fun c hc => List.mem_append_right _ (ih hothers hc)

lemma splitColons_bracketless {identifier : String} (h : Bracketless identifier.toList) :
    ∀ word ∈ splitColons identifier, Bracketless word.toList := by
  intro word hword
  obtain ⟨piece, hpiece, rfl⟩ := List.mem_map.mp hword
  have hsubset := subset_join hpiece [':']
  rw [join_split] at hsubset
  rw [String.toList_ofList]
  exact h.of_subset hsubset

/-- The command asks for two regions to differ. -/
def Node.comparesUnless : Node → Bool
  | .command _ identifier _ _ => ["execute", "unless", "blocks"].isPrefixOf (splitColons identifier)
  | _ => false

lemma Build.Tidy.register {text : String} {m : Method} (hb : b.Tidy) (hm : m.IsBalanced) :
    (b.register text m).Tidy := by
  intro entry hentry
  rcases Registry.mem_set hentry with rfl | hold
  · exact hm
  · exact hb entry hold

lemma compileOther_tidy (node : Node) (hb : b.Tidy) : Build.EndsTidily (compileOther node b) := by
  unfold compileOther Node.key
  cases htext : node.text? with
  | none => exact ⟨balanced_empty, hb⟩
  | some text =>
    cases hget : b.methods.get? text with
    | none =>
      simp only [BuildM.require, run_bind, run_pure, run_get, hget]
      exact ⟨balanced_empty, hb⟩
    | some m =>
      simp only [BuildM.require, run_bind, run_pure, run_get, hget]
      exact ⟨hb _ (Registry.mem_of_get? hget), hb⟩

section

variable {compiled : List String} {operands : List Operand} {text identifier dump : String}

lemma compileWith_tidy (hclean : Unbracketed U) (hU : DownClosed U) {arguments : List Node}
    (h : U (.command text identifier arguments dump))
    (hregions : (Node.command text identifier arguments dump).comparesUnless = false)
    (hs : (startDraft compiled operands identifier).Within U) (hb : b.Tidy)
    (hcalls : (startFrame compiled operands identifier b).CallsTidily U)
    (hreturns : (startFrame compiled operands identifier b).NeverReturns U) :
    Build.EndsTidily (compileWith compiled operands text identifier dump b) := by
  have hstrings := hclean _ h
  have htext : Bracketless text.toList := hstrings text (by simp [Node.strings])
  have hidentifier : Bracketless identifier.toList := hstrings identifier (by simp [Node.strings])
  have hdump : Bracketless dump.toList := hstrings dump (by simp [Node.strings])
  cases habsent : b.methods.get? text with
  | some m =>
    rw [compileWith_hit habsent]
    exact ⟨hb _ (Registry.mem_of_get? habsent), hb⟩
  | none =>
    have hwriting : (startFrame compiled operands identifier b).Writing U [] :=
      ⟨hs, splitColons_bracketless hidentifier, balanced_empty.nests []⟩
    have hwords : ¬["execute", "unless", "blocks"] <+: splitColons identifier := by
      rw [← List.isPrefixOf_iff_prefix]
      exact Bool.eq_false_iff.mp hregions
    have hdone := commands_tidy hclean hU hwriting hb hcalls hreturns hwords
    cases hrun : next commands (startFrame compiled operands identifier b) with
    | ok a s =>
      rw [hrun] at hdone
      have hm : (s.draft.method b.counter text).IsBalanced := isBalanced_ofOutput htext.balanced hdone.1 ..
      rw [compileWith_native dump habsent hrun]
      exact ⟨hm, Build.Tidy.register hdone.2 hm⟩
    | error f s =>
      rw [hrun] at hdone
      obtain ⟨hmessage, hbuild⟩ := hdone
      cases hf : f.isDispatched with
      | false =>
        rw [compileWith_failing dump habsent hrun hf]
        exact ⟨hmessage, hbuild⟩
      | true =>
        cases hcode : dispatchCode f text dump with
        | error e =>
          rw [compileWith_unfilled habsent hrun hf hcode]
          exact ⟨balanced_empty, hbuild⟩
        | ok output =>
          have houtput := dispatchCode_balanced hmessage htext hdump.balanced hcode
          rw [compileWith_left habsent hrun hf hcode]
          exact ⟨isBalanced_ofOutput htext.balanced houtput .., Build.Tidy.register hbuild
            (isBalanced_ofOutput htext.balanced houtput ..)⟩

end

/-- Every compilation, of a node at any depth of nesting. -/
theorem compile_tidy (hclean : Unbracketed U) (hU : DownClosed U)
    (hregions : ∀ node, U node → node.comparesUnless = false) (compiled : List String) {node : Node} (h : U node)
    (hsound : b.Sound) (hb : b.Tidy) : Build.EndsTidily (node.compile compiled b) := by
  induction node using Node.argumentInduction generalizing b with
  | part node hpart =>
    rw [hpart.compile_eq]
    exact compileOther_tidy node hb
  | command text identifier arguments dump ih =>
    have hstart : (startDraft compiled (operandsOf compiled arguments) identifier).IsOn compiled arguments := rfl
    have harguments : ∀ node ∈ arguments, U node := hU _ h
    have hyield := hstart.operandsYield fun node hnode b' hb' =>
      compile_yields hU compiled (harguments node hnode) hb'
    rw [Node.compile]
    refine compileWith_tidy hclean hU h (hregions _ h) (hstart.within harguments) hb ?_
      (hyield.neverReturns (s := startFrame _ _ _ b) hsound)
    intro o ho s₁ hpass
    obtain ⟨node, hnode, rfl⟩ := exists_of_mem_operandsOf ho
    exact ih node hnode (harguments node hnode) (hpass.build.sound hsound) (hpass.tidy hb)

/-! ## All requests -/

lemma Request.next_tidy (hclean : Unbracketed U) (hU : DownClosed U)
    (hregions : ∀ node, U node → node.comparesUnless = false) {r : Request} (hr : ∀ node ∈ r.nodes, U node)
    (hsound : b.Sound) (hb : b.Tidy) : (r.next b).Tidy := by
  by_cases hcompile : ∃ compiled node, r = .compile compiled node
  · obtain ⟨compiled, node, rfl⟩ := hcompile
    have hend := compile_tidy hclean hU hregions compiled (hr node List.mem_cons_self) hsound hb
    unfold Request.next
    rw [run, lastState_map]
    cases hrun : node.compile compiled b with
    | ok m b' =>
      rw [hrun] at hend
      exact hend.2
    | error f b' =>
      rw [hrun] at hend
      exact hend.2
  · have hquiet : Quiet U b (r.next b) :=
      Request.run_keeps hU hr (fun compiled node hr => hcompile ⟨compiled, node, hr⟩) b
    exact hb.of_methods_eq hquiet.methods_eq

lemma Build.after_tidy (hclean : Unbracketed U) (hU : DownClosed U)
    (hregions : ∀ node, U node → node.comparesUnless = false) {rs : List Request}
    (hrs : ∀ r ∈ rs, ∀ node ∈ r.nodes, U node) (hsound : b.Sound) (hb : b.Tidy) : (b.after rs).Tidy := by
  induction rs generalizing b with
  | nil => exact hb
  | cons r rs ih =>
    obtain ⟨hr, hrest⟩ := List.forall_mem_cons.mp hrs
    exact ih hrest (r.next_grows hU hr hsound).2 (r.next_tidy hclean hU hregions hr hsound hb)

/-- Whatever is requested, in any order and whether or not it fails: if no string in the requests has a
bracket and no command asks for two regions to differ, then all methods, the statements that call them and
all initialisers have their parentheses and braces properly nested. -/
theorem generated_code_balanced (rs : List Request)
    (hstrings : ∀ node, Occurs rs node → ∀ s ∈ node.strings, Bracketless s.toList)
    (hregions : ∀ node, Occurs rs node → node.comparesUnless = false) :
    (∀ entry ∈ (({} : Build).after rs).methods.entries, Balanced entry.2.code ∧ Balanced entry.2.statement) ∧
    (∀ entry ∈ (({} : Build).after rs).staticTags.entries, Balanced entry.2.initialiser) ∧
    (∀ entry ∈ (({} : Build).after rs).staticPatches.entries, Balanced entry.2.initialiser) ∧
    ∀ entry ∈ (({} : Build).after rs).staticSelectors.entries, Balanced entry.2.initialiser := by
  have hU := downClosed_occurs rs
  have hrs := occurs_of_mem_nodes rs
  have hempty : ({} : Build).Tidy := fun _ h => absurd h List.not_mem_nil
  have htidy := Build.after_tidy hstrings hU hregions hrs Build.sound_empty hempty
  have hderived := (Build.after_grows hU hrs Build.sound_empty).1.derived derived_empty
  obtain ⟨htags, hpatches, hselectors⟩ := Build.inStep_after rs
  rw [htags, hpatches, hselectors]
  refine ⟨fun entry hentry => ?_, hderived.balanced hstrings hU⟩
  exact ⟨(htidy entry hentry).code, (htidy entry hentry).statement⟩

def selfSelector : Node := .selector "@s" "s" []

def killSelf : Node := .command "kill @s" "kill:targets" [selfSelector] "AstCommand"

/-- A command inside a loop over selected entities. -/
def cowHunt : Node :=
  .command "execute as @e[type=cow] run kill @s" "execute:as:targets:subcommand" [cowSelector, killSelf] "AstCommand"

lemma cowHunt_strings (node : Node) (h : Occurs [.compile [] cowHunt, .find true false selfSelector] node) :
    (∀ s ∈ node.strings, Bracketless s.toList) ∧ node.comparesUnless = false := by
  have hmem : node ∈ [cowHunt, cowSelector, .location cowLocation, killSelf, selfSelector] := by
    refine mem_of_occurs ?_ ?_ h
    · simp [Request.nodes]
    · simp [cowHunt, cowSelector, killSelf, selfSelector, Node.children]
  have hall : ∀ node ∈ [cowHunt, cowSelector, .location cowLocation, killSelf, selfSelector],
      (∀ s ∈ node.strings, Bracketless s.toList) ∧ node.comparesUnless = false := by
    decide
  exact hall node hmem

theorem cow_hunt_balanced :
    (∀ node, Occurs [.compile [] cowHunt, .find true false selfSelector] node →
      (∀ s ∈ node.strings, Bracketless s.toList) ∧ node.comparesUnless = false) ∧
    (∀ entry ∈ (({} : Build).after [.compile [] cowHunt, .find true false selfSelector]).methods.entries,
      Balanced entry.2.code ∧ Balanced entry.2.statement) ∧
    ∀ entry ∈ (({} : Build).after [.compile [] cowHunt, .find true false selfSelector]).staticSelectors.entries,
      Balanced entry.2.initialiser := by
  have hbalanced := generated_code_balanced [.compile [] cowHunt, .find true false selfSelector]
    (fun node h => (cowHunt_strings node h).1) fun node h => (cowHunt_strings node h).2
  exact ⟨cowHunt_strings, hbalanced.1, hbalanced.2.2.2⟩

end PackToMod
