import PackToMod.Compile
import PackToMod.Pack
import PackToMod.Proofs.CallGraph
import PackToMod.Proofs.Declarations
import PackToMod.Proofs.Dispatch
import PackToMod.Proofs.History
import PackToMod.Proofs.Nesting
import PackToMod.Proofs.UnknownConstructs
import PackToMod.Proofs.BraceTemplates
import PackToMod.Proofs.FunctionCalls
import PackToMod.Proofs.DecimalText
import PackToMod.Proofs.ShortestDecimals
import PackToMod.Proofs.BinaryText
import PackToMod.Proofs.TagPrograms
import PackToMod.Proofs.TagInitialisers
import PackToMod.Proofs.Brackets
import PackToMod.Proofs.BalancedConstants
import PackToMod.Proofs.BalancedExpressions
import PackToMod.Proofs.BalancedHandlers
import PackToMod.Proofs.BalancedExecute
import PackToMod.Proofs.BalancedCode
import PackToMod.Proofs.StaticBlock
import PackToMod.Proofs.CompiledFunctions
import PackToMod.Proofs.SelectorUses
import PackToMod.Proofs.SelectorMeaning
import PackToMod.Proofs.SelectorConstraints
import PackToMod.Proofs.FailedBuilds
import PackToMod.Proofs.PackRuns
import PackToMod.Proofs.LocationNames
import PackToMod.Proofs.ComponentPatches
import PackToMod.Proofs.BlockPredicates
import PackToMod.Proofs.TagFields
import PackToMod.Proofs.ConditionLocals
import PackToMod.Proofs.MacroVariables
import PackToMod.Proofs.AppendOnly
import PackToMod.Proofs.LineExpressions
import PackToMod.Proofs.Readings
import PackToMod.Proofs.Broadcasts
import PackToMod.Proofs.Listings
import PackToMod.Proofs.BlankRuns
import PackToMod.Proofs.RangeNames
