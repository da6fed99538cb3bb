import RuleCap.Json.Listing
import RuleCap.Json.Settings
import RuleCap.Main
import RuleCap.Shelf
import RuleCap.Proofs.LineBreaks
import RuleCap.Proofs.LineKinds
import RuleCap.Proofs.MarkerLine
import RuleCap.Proofs.HeaderAndBody
import RuleCap.Proofs.ReadBack
import RuleCap.Proofs.Retrim
import RuleCap.Proofs.Decimal
import RuleCap.Proofs.Spelling
import RuleCap.Proofs.Obtainable
import RuleCap.Proofs.WordCount
import RuleCap.Proofs.FileTrees
import RuleCap.Proofs.Jobs
import RuleCap.Proofs.Runs
import RuleCap.Proofs.LimitWord
import RuleCap.Proofs.Overflow
import RuleCap.Proofs.PlainNumbers
import RuleCap.Proofs.OneScalar
import RuleCap.Proofs.PlainLimits
import RuleCap.Proofs.WrittenLimits
import RuleCap.Proofs.Calendar
import RuleCap.Proofs.InstantText
import RuleCap.Proofs.RecordFields
import RuleCap.Proofs.Records
import RuleCap.Proofs.LineDecomposition
import RuleCap.Proofs.LineSeams
import RuleCap.Proofs.EarlyStop
import RuleCap.Session
import RuleCap.Proofs.Journals
import RuleCap.Proofs.ShelfSessions
import RuleCap.Proofs.FolderSessions
import RuleCap.Proofs.EffectivePrefixes
import RuleCap.Proofs.LineAccounts
import RuleCap.Proofs.LossyDecoding
import RuleCap.Proofs.DamagedLines
import RuleCap.Proofs.CommandWords
import RuleCap.Proofs.HelpWords
import RuleCap.Proofs.ArgumentOrder
import RuleCap.Proofs.LineChunks
import RuleCap.Proofs.MarkerText
import RuleCap.Proofs.MarkerShape
import RuleCap.Proofs.NumeralTrims
