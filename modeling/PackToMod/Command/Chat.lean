import PackToMod.Draft

/-!
# Chat messages and lines with variables
-/

namespace PackToMod

open DraftM

/-- Broadcasts a message as a player's or as the system's. -/
def sayCode (text : String) : String :=
  "\n        PlayerChatMessage chatMessage;\n        if (source.isPlayer())"
    ++ "\n            chatMessage = PlayerChatMessage.unsigned("
    ++ "Objects.requireNonNull(source.getPlayer()).getUUID(), \"" ++ text
    ++ "\");\n        else\n            chatMessage = PlayerChatMessage.system(\"" ++ text
    ++ "\");\n        PlayerList playerList = source.getServer().getPlayerList();"
    ++ "\n        playerList.broadcastChatMessage(chatMessage, source, "
    ++ "ChatType.bind(ChatType.SAY_COMMAND, source));\n    "

/-- The text of a message: that of its first fragment. -/
def Node.messageText : Node → Except Fault String
  | message _ [] => .error .emptyMessage
  | message _ (fragment :: _) =>
    match fragment.value? with
    | some text => .ok text.render
    | none => .error .noSuchPart
  | _ => .error .noSuchPart

/-- The body of `say` is its broadcast alone, without comments. -/
def say : DraftM Unit := do
  let text ← operand "message" fun node => BuildM.ofExcept id node.messageText
  match text with
  | some text => modifyDraft fun d => { d with output := sayCode text }
  | none => pure ()

/-- A line with variables, as the terms of a text expression, and its variables in order. -/
def lineTerms : List Node → Except Fault (List String × List String)
  | [] => .ok ([], [])
  | .word _ .lineText text :: rest => do
    let (terms, names) ← lineTerms rest
    return (("\"" ++ text ++ "\"") :: terms, names)
  | .word _ .lineVariable name :: rest => do
    let (terms, names) ← lineTerms rest
    return (("marcos.get(\"" ++ name ++ "\").toString()") :: terms, name :: names)
  | _ :: _ => .error .notALinePart

/-- A line with variables is put together when it runs and left to the dispatcher. -/
def runLine : DraftM Unit := do
  let (terms, names) ← onBuild <| BuildM.ofExcept id <|
    lineTerms ((← get).draft.operands.map Operand.node)
  modifyDraft fun d =>
    { d with
      output := "dispatcher.execute(dispatcher.parse(" ++ Text.sepBy " + " terms ++ ", source));"
      macros := names
      needsMacros := true
      needsDispatcher := true }

end PackToMod
