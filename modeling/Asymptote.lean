import Asymptote.Command.Arguments
import Asymptote.Command.Run
import Asymptote.Complexity
import Asymptote.Config
import Asymptote.Consensus
import Asymptote.Decimal
import Asymptote.Engine
import Asymptote.Feature.Algorithms
import Asymptote.Feature.Basic
import Asymptote.Feature.Structures
import Asymptote.FileTree
import Asymptote.Glob
import Asymptote.GroundTruth.Dataset
import Asymptote.GroundTruth.Table
import Asymptote.Hazard.Recognizers
import Asymptote.Hazard.Table
import Asymptote.Json
import Asymptote.Language
import Asymptote.Loop.Basic
import Asymptote.Loop.Forest
import Asymptote.Main
import Asymptote.Pattern
import Asymptote.Project
import Asymptote.Proofs.Complexity.Layout
import Asymptote.Proofs.Complexity.Product
import Asymptote.Proofs.Complexity.ProductGrowth
import Asymptote.Proofs.Complexity.Terms
import Asymptote.Proofs.Consensus.ClaimRecord
import Asymptote.Proofs.Consensus.Confidence
import Asymptote.Proofs.Consensus.Confirmation
import Asymptote.Proofs.Consensus.Displacement
import Asymptote.Proofs.Consensus.Foremost
import Asymptote.Proofs.Consensus.Presence
import Asymptote.Proofs.Consensus.Progression
import Asymptote.Proofs.Consensus.Record
import Asymptote.Proofs.Engine.AuditTrail
import Asymptote.Proofs.Engine.Authority
import Asymptote.Proofs.Engine.ClaimCheck
import Asymptote.Proofs.Engine.CommentLine
import Asymptote.Proofs.Engine.SpaceFigures
import Asymptote.Proofs.Engine.TripleTruth
import Asymptote.Proofs.Feature.Algorithms
import Asymptote.Proofs.Feature.Amortized
import Asymptote.Proofs.Feature.Coherence
import Asymptote.Proofs.Feature.Structures
import Asymptote.Proofs.FileTree
import Asymptote.Proofs.GroundTruth.Acceptance
import Asymptote.Proofs.GroundTruth.Closest
import Asymptote.Proofs.GroundTruth.Document
import Asymptote.Proofs.GroundTruth.Lookup
import Asymptote.Proofs.GroundTruth.StoredTitle
import Asymptote.Proofs.GroundTruth.Title
import Asymptote.Proofs.Hazard.Disabled
import Asymptote.Proofs.Hazard.Family
import Asymptote.Proofs.Hazard.View
import Asymptote.Proofs.Loop.Arguments
import Asymptote.Proofs.Loop.Depth
import Asymptote.Proofs.Loop.EmptyLine
import Asymptote.Proofs.Loop.Exit
import Asymptote.Proofs.Loop.ForCount
import Asymptote.Proofs.Loop.Forest
import Asymptote.Proofs.Loop.Growth
import Asymptote.Proofs.Loop.Work
import Asymptote.Proofs.Order
import Asymptote.Proofs.Pattern.BlankLine
import Asymptote.Proofs.Pattern.Fit
import Asymptote.Proofs.Pattern.Group
import Asymptote.Proofs.Pattern.Phrase
import Asymptote.Proofs.Pattern.Search
import Asymptote.Proofs.Pattern.Word
import Asymptote.Proofs.Project
import Asymptote.Proofs.Snippet.Arguments
import Asymptote.Proofs.Snippet.Block
import Asymptote.Proofs.Snippet.Bracket
import Asymptote.Proofs.Snippet.Call
import Asymptote.Proofs.Snippet.CommentLine
import Asymptote.Proofs.Snippet.EmptyLine
import Asymptote.Proofs.Snippet.Hidden
import Asymptote.Proofs.Snippet.LineBreak
import Asymptote.Proofs.Snippet.OwnLine
import Asymptote.Proofs.Snippet.Pass
import Asymptote.Proofs.Snippet.SelfCall
import Asymptote.Proofs.Text.Case
import Asymptote.Proofs.Text.Lowering
import Asymptote.Proofs.Text.Parts
import Asymptote.Proofs.Text.Trim
import Asymptote.Proofs.Verdict.Candidates
import Asymptote.Proofs.Verdict.Clamp
import Asymptote.Proofs.Verdict.Constant
import Asymptote.Proofs.Verdict.Exponential
import Asymptote.Proofs.Verdict.LoopClass
import Asymptote.Proofs.Verdict.Space
import Asymptote.Proofs.Verdict.Verification
import Asymptote.Report
import Asymptote.Snippet
import Asymptote.Text.Basic
import Asymptote.Text.Table.Letter
import Asymptote.Text.Table.Mark
import Asymptote.Verdict.Basic
import Asymptote.Verdict.Space
import Asymptote.Verdict.Time
