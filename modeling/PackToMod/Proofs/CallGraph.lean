import Mathlib.Logic.Relation
import PackToMod.Proofs.BlankLines
import PackToMod.Proofs.Requests

/-!
# Calls between methods

A method calls another one when `execute` has put a call of a subcommand into its body. Methods are
registered innermost first, so such a call goes to an earlier entry; caller and callee take the same
parameters, so whatever the call passes on is at hand. This needs that no command is nested in one with
the same text: the outer one would take the place of the inner one.
-/

namespace PackToMod

open Build DraftM

/-! ## Nested commands -/

def Node.arguments : Node → List Node
  | .command _ _ arguments _ => arguments
  | _ => []

/-- The node itself, its arguments, their arguments and so on. -/
def Node.Contains : Node → Node → Prop :=
  Relation.ReflTransGen fun command argument => argument ∈ command.arguments

/-- No command has the text of a command nested in it. -/
def Node.Unrepeated (root : Node) : Prop :=
  ∀ outer argument inner, root.Contains outer → argument ∈ outer.arguments → argument.Contains inner →
    ¬inner.IsPart → inner.text? ≠ outer.text?

lemma Node.Unrepeated.argument {root node : Node} (h : root.Unrepeated) (hnode : node ∈ root.arguments) :
    node.Unrepeated :=
  fun outer argument inner houter => h outer argument inner (.head hnode houter)

variable {b b' : Build} {compiled : List String} {text identifier dump : String} {arguments : List Node}

lemma Node.not_isPart_command : ¬(Node.command text identifier arguments dump).IsPart :=
  fun h => h text identifier arguments dump rfl

/-! ## The methods during a compilation -/

lemma startFrame_neverReturns (hb : b.Sound) :
    (startFrame compiled (operandsOf compiled arguments) identifier b).NeverReturns (fun _ => True) := by
  have hstart : (startDraft compiled (operandsOf compiled arguments) identifier).IsOn compiled arguments := rfl
  exact (hstart.operandsYield fun node _ b' hb' => compile_yields_true compiled node hb').neverReturns hb

/-- A handler leaves the methods as they are, or as the compilation of one argument does. -/
lemma commands_methods (identifier : String) (hb : b.Sound) :
    let s := lastState (next commands (startFrame compiled (operandsOf compiled arguments) identifier b))
    s.build.methods = b.methods ∨ ∃ node ∈ arguments, ∃ b₀ : Build, b₀.methods = b.methods ∧
      s.build.methods = (lastState (node.compile compiled b₀)).methods := by
  rcases commands_cases downClosed_true (fun _ _ => trivial) (startFrame_neverReturns hb) with
    ⟨hpass, -⟩ | ⟨o, ho, s₁, closing, hpass, -, hrun⟩
  · exact .inl hpass.build.methods_eq
  · obtain ⟨node, hnode, rfl⟩ := exists_of_mem_operandsOf ho
    refine .inr ⟨node, hnode, s₁.build, hpass.build.methods_eq, ?_⟩
    rw [hrun, lastState_map]
    unfold callOperand
    dsimp only
    cases node.compile compiled s₁.build with
    | ok m b' => rfl
    | error f b' => rfl

/-- The methods of a build after a command has been compiled that had none: at most one argument is
compiled before the method of the command itself is registered or the compilation fails. -/
lemma compile_methods (compiled : List String) (identifier : String) (arguments : List Node) (dump : String)
    (hb : b.Sound) (hnew : b.methods.get? text = none) :
    ∃ methods, (methods = b.methods ∨ ∃ node ∈ arguments, ∃ b₀ : Build, b₀.methods = b.methods ∧
        methods = (lastState (node.compile compiled b₀)).methods) ∧
      ((∃ f b', Node.compile compiled (.command text identifier arguments dump) b = .error f b' ∧
          b'.methods = methods) ∨
        ∃ m b', Node.compile compiled (.command text identifier arguments dump) b = .ok m b' ∧
          b'.methods = methods.set text m) := by
  refine ⟨_, commands_methods identifier hb, ?_⟩
  rw [Node.compile]
  cases hrun : next commands (startFrame compiled (operandsOf compiled arguments) identifier b) with
  | ok a s => exact .inr ⟨_, _, compileWith_native dump hnew hrun, rfl⟩
  | error f s =>
    rcases compileWith_faulty dump hnew hrun with ⟨f', hfail⟩ | ⟨output, hleft⟩
    · exact .inl ⟨f', _, hfail, rfl⟩
    · exact .inr ⟨_, _, hleft, rfl⟩

/-! ## Where methods come from -/

/-- A compilation of a command. -/
structure Compilation where
  compiled : List String
  text : String
  identifier : String
  arguments : List Node
  dump : String
  before : Build

namespace Compilation

def command (c : Compilation) : Node :=
  .command c.text c.identifier c.arguments c.dump

/-- The compilation was the first of its text, and has put `m` behind the entries `older`. -/
structure Registers (c : Compilation) (older : List (String × Method)) (m : Method) : Prop where
  unrepeated : c.command.Unrepeated
  absent : c.before.methods.get? c.text = none
  earlier : c.before.methods.entries <+: older
  stored : ∃ after, c.command.compile c.compiled c.before = .ok m after ∧
    after.methods.entries = older ++ [(c.text, m)]

end Compilation

/-- Every entry comes from a compilation that found no more than the entries before it. -/
def Registry.Traced (methods : Registry Method) : Prop :=
  ∀ older text m newer, methods.entries = older ++ (text, m) :: newer →
    ∃ c : Compilation, c.text = text ∧ c.Registers older m

lemma Registry.Traced.append {methods : Registry Method} (h : methods.Traced) {c : Compilation} {m : Method}
    (hc : c.Registers methods.entries m) (habsent : c.text ∉ methods.keys) :
    (methods.set c.text m).Traced := by
  intro older text m' newer hentries
  rw [Registry.entries_set_of_absent m habsent] at hentries
  rcases List.eq_nil_or_concat newer with rfl | ⟨newer, last, rfl⟩
  · obtain ⟨rfl, hlast⟩ := List.append_inj' hentries rfl
    cases hlast
    exact ⟨c, rfl, hc⟩
  · rw [List.concat_eq_append, ← List.cons_append, ← List.append_assoc] at hentries
    obtain ⟨hold, -⟩ := List.append_inj' hentries rfl
    exact h older text m' newer hold

/-- What a compilation of `node` does to the methods. -/
structure Node.Adds (node : Node) (before after : Registry Method) : Prop where
  entries : before.entries <+: after.entries
  keys : ∀ key ∈ after.keys, key ∈ before.keys ∨
    ∃ inner, node.Contains inner ∧ ¬inner.IsPart ∧ inner.text? = some key
  traced : node.Unrepeated → before.Traced → after.Traced

lemma Node.Adds.refl (node : Node) (methods : Registry Method) : node.Adds methods methods :=
  ⟨List.prefix_rfl, fun _ h => .inl h, fun _ h => h⟩

lemma Node.Adds.of_argument {root node : Node} {before after : Registry Method}
    (hnode : node ∈ root.arguments) (h : node.Adds before after) : root.Adds before after where
  entries := h.entries
  keys key hkey := by
    rcases h.keys key hkey with hold | ⟨inner, hinner, hcommand⟩
    · exact .inl hold
    · exact .inr ⟨inner, .head hnode hinner, hcommand⟩
  traced hroot := h.traced (hroot.argument hnode)

/-- Compiling an argument of a command registers nothing under the text of the command. -/
lemma Node.Adds.absent {root node : Node} {before after : Registry Method} (h : node.Adds before after)
    (hroot : root.Unrepeated) (hnode : node ∈ root.arguments) (htext : root.text? = some text)
    (hnew : text ∉ before.keys) : text ∉ after.keys := by
  intro hmem
  rcases h.keys text hmem with hold | ⟨inner, hinner, hcommand, hinnerText⟩
  · exact hnew hold
  · exact hroot root node inner .refl hnode hinner hcommand (hinnerText.trans htext.symm)

/-- Registering the method of a command after the work on its arguments. -/
lemma Compilation.adds_register {c : Compilation} {methods : Registry Method} {m : Method} {after : Build}
    (h : c.command.Adds c.before.methods methods) (habsent : c.before.methods.get? c.text = none)
    (hfree : c.command.Unrepeated → c.text ∉ methods.keys)
    (hcompile : c.command.compile c.compiled c.before = .ok m after)
    (hafter : after.methods = methods.set c.text m) :
    c.command.Adds c.before.methods (methods.set c.text m) where
  entries := Registry.prefix_set m h.entries (Registry.get?_eq_none_iff.mp habsent)
  keys key hkey := by
    rcases Registry.mem_keys_set hkey with rfl | hold
    · exact .inr ⟨c.command, .refl, Node.not_isPart_command, rfl⟩
    · exact h.keys key hold
  traced hroot hbefore := by
    refine (h.traced hroot hbefore).append ⟨hroot, habsent, h.entries, after, hcompile, ?_⟩ (hfree hroot)
    rw [hafter, Registry.entries_set_of_absent m (hfree hroot)]

theorem compile_adds {node : Node} (hb : b.Sound) :
    node.Adds b.methods (lastState (node.compile compiled b)).methods := by
  induction node using Node.argumentInduction generalizing b with
  | part node hpart =>
    rw [hpart.compile_eq]
    rcases compileOther_cases (b := b) node with ⟨-, m, -, -, hrun⟩ | ⟨f, n, -, hrun⟩
    · rw [hrun]
      exact .refl node b.methods
    · rw [hrun]
      exact .refl node b.methods
  | command text identifier arguments dump ih =>
    cases hget : b.methods.get? text with
    | some m =>
      rw [Node.compile, compileWith_hit hget]
      exact .refl _ b.methods
    | none =>
      -- What the work on the arguments has added comes first. Without repeated texts it leaves the text of
      -- the command free, so that its method goes to the end.
      obtain ⟨methods, hmethods, hend⟩ := compile_methods compiled identifier arguments dump hb hget
      have hnew : text ∉ b.methods.keys := Registry.get?_eq_none_iff.mp hget
      obtain ⟨hadds, hfree⟩ : (Node.command text identifier arguments dump).Adds b.methods methods ∧
          ((Node.command text identifier arguments dump).Unrepeated → text ∉ methods.keys) := by
        rcases hmethods with rfl | ⟨node, hnode, b₀, hb₀, rfl⟩
        · exact ⟨.refl _ _, fun _ => hnew⟩
        · have hnested := ih node hnode (hb.of_methods_eq hb₀)
          rw [hb₀] at hnested
          exact ⟨.of_argument hnode hnested, fun hroot => hnested.absent hroot hnode rfl hnew⟩
      rcases hend with ⟨f, b', hrun, hb'⟩ | ⟨m, b', hrun, hb'⟩
      · rw [hrun, lastState_error, hb']
        exact hadds
      · rw [hrun, lastState_ok, hb']
        exact Compilation.adds_register (c := ⟨compiled, text, identifier, arguments, dump, b⟩)
          hadds hget hfree hrun hb'

/-- After any requests in which commands are nested without repeating a text, every method is traced. -/
theorem after_traced {rs : List Request}
    (hrs : ∀ compiled node, .compile compiled node ∈ rs → node.Unrepeated) (hb : b.Sound)
    (htraced : b.methods.Traced) : (b.after rs).methods.Traced := by
  induction rs generalizing b with
  | nil => exact htraced
  | cons r rs ih =>
    rw [Build.after_cons]
    refine ih (fun compiled node hmem => hrs compiled node (List.mem_cons_of_mem _ hmem))
      (r.next_extends hb).2 ?_
    by_cases hcompile : ∃ compiled node, r = .compile compiled node
    · obtain ⟨compiled, node, rfl⟩ := hcompile
      unfold Request.next
      rw [Request.run, lastState_map]
      exact (compile_adds hb).traced (hrs compiled node List.mem_cons_self) htraced
    · have hquiet : Quiet (fun _ => True) b (r.next b) :=
        r.run_keeps downClosed_true (fun _ _ => trivial)
          (fun compiled node hr => hcompile ⟨compiled, node, hr⟩) b
      rw [hquiet.methods_eq]
      exact htraced

/-! ## Calls in bodies -/

/-- A text as it stands in a body. -/
def thinned (s : String) : String :=
  String.ofList (Text.thinBlankLines s.toList)

lemma thinned_append {s t : String} {c : Char} {rest : List Char} (ht : t.toList = c :: rest)
    (hc : Text.isBlank c = false) : thinned (s ++ t) = thinned s ++ thinned t := by
  unfold thinned
  rw [String.toList_append, ht, Text.thinBlankLines_append hc, String.ofList_append]

/-- What closes a block is not thinned, and neither is the text before it affected by it. -/
lemma thinned_append_closing (s : String) {closing : String} (h : IsClosing closing) :
    thinned (s ++ closing) = thinned s ++ closing := by
  rcases h with rfl | rfl | rfl
  · rw [String.append_empty, String.append_empty]
  · rw [thinned_append (c := '}') (t := forkClosing) rfl (by decide)]
    rfl
  · rw [thinned_append (c := '}') (t := guardClosing) rfl (by decide)]
    rfl

/-- The body in the code of a method, below its parameters: the source, the dispatcher and the macros if they are
needed. Methods return an `int`, whatever the command. -/
def Method.HasBody (m : Method) (body : String) : Prop :=
  m.code = "private static int command_" ++ toString m.number ++ "(CommandSourceStack source"
    ++ (if m.needsDispatcher then ", CommandDispatcher<CommandSourceStack> dispatcher" else "")
    ++ (if m.needsMacros then ", CompoundTag marcos" else "")
    ++ ") throws CommandSyntaxException \x7b\n            int result = 0;\n            " ++ body
    ++ "\n            return (result);\n        \x7d\n    \n"

/-- The names of the parameters of a method. -/
def Method.parameterNames (m : Method) : List String :=
  ["source"] ++ (if m.needsDispatcher then ["dispatcher"] else []) ++ (if m.needsMacros then ["marcos"] else [])

/-- The statement of a method calls it with the names of the parameters that its code declares. -/
structure Method.Matches (text : String) (m : Method) : Prop where
  statement : m.statement =
    "command_" ++ toString m.number ++ "(" ++ ", ".intercalate m.parameterNames ++ "); // " ++ text ++ "\n"
  code : ∃ body, m.HasBody body
  returns : m.returns = .never

lemma signature_parameters (n : Nat) (needsDispatcher needsMacros : Bool) :
    signature (methodSymbol n) (parameters needsDispatcher needsMacros) =
      "command_" ++ toString n ++ "(CommandSourceStack source"
        ++ (if needsDispatcher then ", CommandDispatcher<CommandSourceStack> dispatcher" else "")
        ++ (if needsMacros then ", CompoundTag marcos" else "") ++ ")" := by
  have hparameters : "(" ++ Text.sepBy ", " ((parameters needsDispatcher needsMacros).map fun p =>
      p.type ++ " " ++ p.name) = "(CommandSourceStack source"
        ++ (if needsDispatcher then ", CommandDispatcher<CommandSourceStack> dispatcher" else "")
        ++ (if needsMacros then ", CompoundTag marcos" else "") := by
    cases needsDispatcher <;> cases needsMacros <;> decide +kernel
  calc
    _ = "command_" ++ toString n ++ ("(" ++ Text.sepBy ", " ((parameters needsDispatcher needsMacros).map fun p =>
          p.type ++ " " ++ p.name)) ++ ")" := by
      unfold signature methodSymbol
      simp only [String.append_assoc]
    _ = _ := by
      rw [hparameters]
      simp only [String.append_assoc]

lemma hasBody_ofOutput (n : Nat) (text output : String) (macros : List String)
    (needsDispatcher needsMacros : Bool) :
    (Method.ofOutput n text output macros needsDispatcher needsMacros .never).HasBody (thinned output) := by
  have hhead : "private static " ++ "int" ++ " " = "private static int " := by decide
  have hname : "private static int " ++ "command_" = "private static int command_" := by decide
  have hclosing : ")" ++ " throws CommandSyntaxException \x7b\n            int result = 0;\n            " =
      ") throws CommandSyntaxException \x7b\n            int result = 0;\n            " := by decide
  have htail : "\n            return " ++ ("(" ++ "result);\n        \x7d\n    \n") =
      "\n            return (result);\n        \x7d\n    \n" := by decide
  unfold Method.HasBody
  rw [number_ofOutput]
  unfold Method.ofOutput methodCode
  dsimp only
  rw [if_neg (by decide), if_neg (by decide), hhead, signature_parameters, ← hname, ← hclosing, ← htail]
  simp only [String.append_assoc]
  rfl

lemma Method.IsFor.matches {m : Method} (h : m.IsFor text) : m.Matches text := by
  have hreturns := h.returns
  obtain ⟨output, hm⟩ := h
  have hnames : Text.sepBy ", " ((parameters m.needsDispatcher m.needsMacros).map Parameter.name) =
      ", ".intercalate m.parameterNames := by
    unfold parameterNames
    cases m.needsDispatcher <;> cases m.needsMacros <;> decide
  have hclosing : ")" ++ "; // " = "); // " := by decide
  refine ⟨?_, ⟨thinned output, ?_⟩, hreturns⟩
  · rw [← hnames, ← hclosing]
    conv_lhs => rw [hm]
    unfold Method.ofOutput callStatement call methodSymbol
    simp only [String.append_assoc]
  · rw [hm]
    exact hasBody_ofOutput ..

lemma Method.Matches.statement_toList {m : Method} (h : m.Matches text) :
    ∃ rest, m.statement.toList = 'c' :: rest := by
  rw [h.statement]
  simp only [String.toList_append, List.append_assoc]
  exact ⟨_, rfl⟩

/-- `execute` has handled the command without a fault, and a subcommand is among the words that follow. -/
def Compilation.CallsSubcommand (c : Compilation) : Prop :=
  ∃ words a s, Text.splitColons c.identifier = executeWord :: words ∧ subcommandWord ∈ words ∧
    next commands (startFrame c.compiled (operandsOf c.compiled c.arguments) c.identifier c.before) = .ok a s

/-- What `m` has to do with a method that its body calls. -/
structure Method.Calls (m callee : Method) : Prop where
  needsDispatcher : callee.needsDispatcher = m.needsDispatcher
  needsMacros : callee.needsMacros = m.needsMacros
  passed : ∀ name ∈ callee.parameterNames, name ∈ m.parameterNames
  body : ∃ lead closing, m.HasBody (lead ++ thinned callee.statement ++ closing)

/-- A command handled by `execute` around a subcommand, and the method that was called for it. -/
lemma Compilation.CallsSubcommand.run {c : Compilation} (h : c.CallsSubcommand) (hb : c.before.Sound)
    (habsent : c.before.methods.get? c.text = none) :
    ∃ node ∈ c.arguments, ∃ b₀ b₁ : Build, ∃ callee m : Method, b₀.methods = c.before.methods ∧
      node.compile c.compiled b₀ = .ok callee b₁ ∧
      c.command.compile c.compiled c.before = .ok m (b₁.register c.text m) ∧
      ∃ output closing, IsClosing closing ∧ ∃ macros, m = .ofOutput c.before.counter c.text
        (output ++ callee.statement ++ closing) macros callee.needsDispatcher callee.needsMacros .never := by
  obtain ⟨words, a, s, hwords, hsubcommand, hrun⟩ := h
  rcases commands_cases downClosed_true (fun _ _ => trivial) (startFrame_neverReturns hb) with
    ⟨-, hskip⟩ | ⟨o, ho, s₁, closing, hpass, hclosing, hcall⟩
  · exact absurd hsubcommand (hskip words a s hwords hrun)
  · obtain ⟨node, hnode, rfl⟩ := exists_of_mem_operandsOf ho
    have hcompiled := compileWith_native c.dump habsent hrun
    rw [hcall] at hrun
    obtain ⟨_, hcalled, -⟩ := run_map_eq_ok hrun
    obtain ⟨callee, b₁, hcallee, rfl⟩ := callOperand_eq_ok hcalled
    have hreturns : s₁.draft.returns = .never := hpass.returns
    refine ⟨node, hnode, s₁.build, b₁, callee, _, hpass.build.methods_eq, hcallee, hcompiled,
      s₁.draft.output, closing, hclosing, s₁.draft.macros, ?_⟩
    rw [Draft.method, Frame.calling, hreturns]

lemma hasBody_around {m callee : Method} {n : Nat} {output closing : String} {macros : List String}
    (hcallee : ∃ rest, callee.statement.toList = 'c' :: rest) (hclosing : IsClosing closing)
    (hm : m = .ofOutput n text (output ++ callee.statement ++ closing) macros callee.needsDispatcher
      callee.needsMacros .never) :
    m.HasBody (thinned output ++ thinned callee.statement ++ closing) := by
  obtain ⟨rest, hrest⟩ := hcallee
  rw [← thinned_append hrest (by decide), ← thinned_append_closing _ hclosing, hm]
  exact hasBody_ofOutput ..

/-- The method that a command calls for its subcommand was registered before the command's own. -/
theorem Compilation.Registers.callee {c : Compilation} {older : List (String × Method)} {m : Method}
    (h : c.Registers older m) (hb : c.before.Sound) (hcalls : c.CallsSubcommand) :
    ∃ callee ∈ older, (∃ node ∈ c.arguments, node.text? = some callee.1) ∧ m.Calls callee.2 := by
  obtain ⟨node, hnode, b₀, b₁, callee, m', hb₀, hcallee, hcompile, output, closing, hclosing, macros, hm⟩ :=
    hcalls.run hb h.absent
  obtain ⟨after, hafter, hentries⟩ := h.stored
  rw [hcompile] at hafter
  cases hafter
  have hsound₀ : b₀.Sound := hb.of_methods_eq hb₀
  have hyields := compile_yields_true c.compiled node hsound₀
  have hadds : node.Adds b₀.methods (lastState (node.compile c.compiled b₀)).methods := compile_adds hsound₀
  rw [hcallee] at hyields hadds
  obtain ⟨-, hsound₁, text, htext, hget⟩ := hyields
  -- The entries before the caller's own are those that the compilation of the argument has left.
  have hnew : c.text ∉ b₀.methods.keys := by
    rw [hb₀]
    exact Registry.get?_eq_none_iff.mp h.absent
  have hfree : c.text ∉ b₁.methods.keys := hadds.absent h.unrepeated hnode rfl hnew
  have holder : b₁.methods.entries = older := by
    rw [Build.register, Registry.entries_set_of_absent m hfree] at hentries
    exact List.append_cancel_right hentries
  have hmem := Registry.mem_of_get? hget
  have hstatement := (hsound₁ _ hmem).matches.statement_toList
  have hdispatcher : m.needsDispatcher = callee.needsDispatcher := by
    rw [hm]
    rfl
  have hmacros : m.needsMacros = callee.needsMacros := by
    rw [hm]
    rfl
  refine ⟨(text, callee), holder ▸ hmem, ⟨node, hnode, htext⟩, hdispatcher.symm, hmacros.symm, ?_,
    thinned output, closing, hasBody_around hstatement hclosing hm⟩
  unfold Method.parameterNames
  rw [hdispatcher, hmacros]
  exact fun name hname => hname

lemma Method.notMem_parameterNames (m : Method) : '\n' ∉ (", ".intercalate m.parameterNames).toList := by
  unfold parameterNames
  cases m.needsDispatcher <;> cases m.needsMacros <;> decide

/-- A statement for a text of one line stands in a body as it is. -/
lemma Method.Matches.thinned_statement {m : Method} (h : m.Matches text) (htext : '\n' ∉ text.toList) :
    thinned m.statement = m.statement := by
  have hbreak : ("\n" : String).toList = ['\n'] := by decide
  have hsymbol : '\n' ∉ ("command_" ++ toString m.number).toList := notMem_numbered m.number (by decide) (by decide)
  have hline : '\n' ∉ ("command_" ++ toString m.number ++ "(" ++ ", ".intercalate m.parameterNames ++ "); // "
      ++ text).toList := by
    rw [String.toList_append, String.toList_append, String.toList_append, String.toList_append]
    simp only [List.mem_append, not_or]
    exact ⟨⟨⟨⟨hsymbol, by decide⟩, m.notMem_parameterNames⟩, by decide⟩, htext⟩
  rw [h.statement, thinned, String.toList_append, hbreak, Text.thinBlankLines_line hline, String.ofList_append,
    String.ofList_toList]

/-- After any requests, every method is called with the parameters that it declares, and a method that
calls one for a subcommand calls an earlier one, to which it passes what it was passed itself. The call
stands in the body with its blank lines thinned out as those of all the body are. -/
theorem calls_match_declarations (rs : List Request)
    (hrs : ∀ compiled node, .compile compiled node ∈ rs → node.Unrepeated)
    (older newer : List (String × Method)) (text : String) (m : Method)
    (hentry : (({} : Build).after rs).methods.entries = older ++ (text, m) :: newer) :
    m.Matches text ∧ (∃ c : Compilation, c.text = text ∧ c.Registers older m) ∧
      ∀ c : Compilation, c.text = text → c.Registers older m → c.CallsSubcommand →
        ∃ callee ∈ older, (∃ node ∈ c.arguments, node.text? = some callee.1) ∧ m.Calls callee.2 ∧
          ('\n' ∉ callee.1.toList → thinned callee.2.statement = callee.2.statement) := by
  have hsound : (({} : Build).after rs).Sound :=
    (Build.sound_empty.after_extends rs).2
  have htraced := after_traced hrs Build.sound_empty fun older text m newer h =>
    absurd h.symm (List.append_ne_nil_of_right_ne_nil older (List.cons_ne_nil _ _))
  have hmatches : ∀ entry ∈ older ++ (text, m) :: newer, entry.2.Matches entry.1 := by
    intro entry hmem
    rw [← hentry] at hmem
    exact (hsound entry hmem).matches
  refine ⟨hmatches (text, m) (by simp), htraced older text m newer hentry, ?_⟩
  intro c _ hc hcalls
  have hbefore : c.before.Sound := by
    intro entry hmem
    refine hsound entry ?_
    rw [hentry]
    exact List.mem_append_left _ (hc.earlier.subset hmem)
  obtain ⟨callee, hcallee, hargument, hcall⟩ := hc.callee hbefore hcalls
  refine ⟨callee, hcallee, hargument, hcall, ?_⟩
  exact (hmatches callee (List.mem_append_left _ hcallee)).thinned_statement

/-! ## A text with a blank line -/

/-- `execute run` around a command that has a method of its own. -/
lemma next_run {s : Frame} {o : Operand} {m : Method}
    (hwords : s.draft.words = ["execute", "run", "subcommand"]) (hoperands : s.draft.operands = [o])
    (htext : o.node.text? = some text) (hcompile : o.compile s.build = .ok m b)
    (hreturns : m.returns = .never) :
    next commands s = .ok (some ⟨⟩) (Frame.calling { s with draft := { s.draft with
      words := []
      operands := []
      output := s.draft.output ++ comment "execute" ++ comment "run" ++ comment text } } b m "") := by
  obtain ⟨build, words, operands⟩ := s
  obtain rfl : words = ["execute", "run", "subcommand"] := hwords
  obtain rfl : operands = [o] := hoperands
  have hcalled : ∀ d, runSubcommand o ⟨build, d⟩ =
      .ok { outcome := .finished } (Frame.calling ⟨build, d⟩ b m "") :=
    fun d => runSubcommand_ok hcompile hreturns
  rw [next_plain rfl rfl, run_map, execute, run_bind, next_plain rfl rfl, run_map, run_pure]
  simp only [Option.getD_some, finish]
  rw [if_neg (by decide), run_bind, run_bind, next_operand rfl rfl rfl htext, run_map, hcalled]
  simp [emit, modifyDraft, Draft.append, Frame.calling]

/-- A line without parts. -/
def lineCommand (text : String) : Node :=
  .command text "mecha" [] ""

def lineMethod (n : Nat) (text : String) : Method :=
  .ofOutput n text ("dispatcher.execute(dispatcher.parse(" ++ Text.sepBy " + " [] ++ ", source));") [] true true
    .never

lemma lineCommand_compile (compiled : List String) (h : b.methods.get? text = none) :
    (lineCommand text).compile compiled b = .ok (lineMethod b.counter text)
      (Build.register { b with counter := b.counter + 1 } text (lineMethod b.counter text)) := by
  have hrun : next commands (startFrame compiled [] "mecha" b) = .ok (some ⟨⟩)
      ⟨{ b with counter := b.counter + 1 }, {
        words := []
        operands := []
        compiled
        output := "dispatcher.execute(dispatcher.parse(" ++ Text.sepBy " + " [] ++ ", source));"
        needsDispatcher := true
        needsMacros := true }⟩ := rfl
  rw [lineCommand, Node.compile, operandsOf, compileWith_native "" h hrun]
  rfl

/-- The compilation of an empty build's first command, which runs a line. -/
def runLineCompilation (outer text : String) : Compilation :=
  ⟨[], outer, "execute:run:subcommand", [lineCommand text], "", {}⟩

def runLineMethod (outer text : String) : Method :=
  .ofOutput 0 outer (comment "execute" ++ comment "run" ++ comment text ++ (lineMethod 1 text).statement)
    [] true true .never

lemma runLine_next (text : String) :
    next commands (startFrame [] (operandsOf [] [lineCommand text]) "execute:run:subcommand" {}) =
      .ok (some ⟨⟩) ⟨Build.register { counter := 2 } text (lineMethod 1 text),
        { words := [], operands := [], output := comment "execute" ++ comment "run" ++ comment text
            ++ (lineMethod 1 text).statement, needsDispatcher := true, needsMacros := true }⟩ := by
  rw [next_run rfl rfl rfl (lineCommand_compile [] rfl) rfl]
  simp [Frame.calling, startFrame, startDraft, lineMethod, Method.ofOutput]

lemma runLine_unrepeated {outer : String} (h : outer ≠ text) :
    (runLineCompilation outer text).command.Unrepeated := by
  intro command argument inner hcommand hargument hinner _ htext
  have hline : ∀ node, (lineCommand text).Contains node → node = lineCommand text := by
    intro node hnode
    rcases hnode.cases_head with hself | ⟨next, hnext, -⟩
    · exact hself.symm
    · exact absurd hnext List.not_mem_nil
  rcases hcommand.cases_head with rfl | ⟨next, hnext, hrest⟩
  · obtain rfl := List.mem_singleton.mp hargument
    rw [hline inner hinner] at htext
    exact h (Option.some.inj htext).symm
  · obtain rfl := List.mem_singleton.mp hnext
    rw [hline command hrest] at hargument
    exact absurd hargument List.not_mem_nil

lemma runLine_entries {outer : String} (h : outer ≠ text) :
    (((Build.register { counter := 2 } text (lineMethod 1 text)).register outer
      (runLineMethod outer text)).methods.entries) =
      [(text, lineMethod 1 text), (outer, runLineMethod outer text)] :=
  Registry.entries_set_of_absent _ fun hmem => h (List.mem_singleton.mp hmem)

lemma runLine_compile (outer text : String) :
    (runLineCompilation outer text).command.compile [] {} = .ok (runLineMethod outer text)
      ((Build.register { counter := 2 } text (lineMethod 1 text)).register outer
        (runLineMethod outer text)) := by
  unfold Compilation.command runLineCompilation
  dsimp only
  rw [Node.compile, compileWith_native "" rfl (runLine_next text)]
  rfl

lemma runLine_after {outer : String} (h : outer ≠ text) :
    (({} : Build).after [.compile [] (runLineCompilation outer text).command]).methods.entries =
      [(text, lineMethod 1 text), (outer, runLineMethod outer text)] := by
  have hafter : ({} : Build).after [.compile [] (runLineCompilation outer text).command] =
      lastState ((runLineCompilation outer text).command.compile [] {}) := lastState_map ..
  rw [hafter, runLine_compile, lastState_ok]
  exact runLine_entries h

lemma runLine_registers {outer : String} (h : outer ≠ text) :
    (runLineCompilation outer text).Registers [(text, lineMethod 1 text)] (runLineMethod outer text) :=
  ⟨runLine_unrepeated h, rfl, List.nil_prefix, _, runLine_compile outer text, runLine_entries h⟩

lemma runLine_callsSubcommand (outer text : String) :
    (runLineCompilation outer text).CallsSubcommand := by
  have hwords : Text.splitColons "execute:run:subcommand" = ["execute", "run", "subcommand"] := by decide
  exact ⟨["run", "subcommand"], _, _, hwords, by decide, runLine_next text⟩

/-- A command that runs a line of a function. -/
theorem run_line_call_matches :
    ∃ callee ∈ [("$say $(name)", lineMethod 1 "$say $(name)")],
      (runLineMethod "execute run $say $(name)" "$say $(name)").Calls callee.2 ∧
        thinned callee.2.statement = callee.2.statement := by
  have hne : "execute run $say $(name)" ≠ "$say $(name)" := by decide
  obtain ⟨-, -, hcallee⟩ := calls_match_declarations
    [.compile [] (runLineCompilation "execute run $say $(name)" "$say $(name)").command]
    (fun compiled node hmem => by
      cases List.mem_singleton.mp hmem
      exact runLine_unrepeated hne)
    [("$say $(name)", lineMethod 1 "$say $(name)")] [] _ _ (runLine_after hne)
  obtain ⟨callee, hmem, -, hcalls, hthinned⟩ :=
    hcallee _ rfl (runLine_registers hne) (runLine_callsSubcommand _ _)
  refine ⟨callee, hmem, hcalls, hthinned ?_⟩
  cases List.mem_singleton.mp hmem
  decide

/-- A statement whose text has a blank line does not stand in the body of the method that makes the call
as it was stored. -/
theorem stored_statement_not_in_body :
    let c := runLineCompilation "execute run a\n\nb" "a\n\nb"
    ∃ callee caller, (({} : Build).after [.compile [] c.command]).methods.entries =
        [("a\n\nb", callee), ("execute run a\n\nb", caller)] ∧
      c.Registers [("a\n\nb", callee)] caller ∧ c.CallsSubcommand ∧
      ¬callee.statement.toList <:+: caller.code.toList := by
  have hne : "execute run a\n\nb" ≠ "a\n\nb" := by decide
  refine ⟨_, _, runLine_after hne, runLine_registers hne, runLine_callsSubcommand _ _, fun hinfix => ?_⟩
  -- The stored statement has two line breaks after an `a`, and the code nowhere has.
  have hbreaks : ['a', '\n', '\n'] <:+: (lineMethod 1 "a\n\nb").statement.toList := by decide +kernel
  refine absurd (hbreaks.trans hinfix) ?_
  have hbody := hasBody_ofOutput 0 "execute run a\n\nb" (comment "execute" ++ comment "run" ++ comment "a\n\nb"
    ++ (lineMethod 1 "a\n\nb").statement) [] true true
  rw [Method.HasBody, number_ofOutput] at hbody
  rw [runLineMethod, hbody]
  unfold thinned lineMethod Method.ofOutput callStatement call methodSymbol comment
  simp only [String.toList_append, String.toList_ofList]
  decide +kernel

end PackToMod
