import TemplateBundler.Main
import TemplateBundler.PositionIndex.Exchange
import TemplateBundler.Proofs.Bundle
import TemplateBundler.Proofs.CommandLine
import TemplateBundler.Proofs.Diagnosis
import TemplateBundler.Proofs.Processor.Answer
import TemplateBundler.Proofs.Processor.Call
import TemplateBundler.Proofs.Queue.Delivery
import TemplateBundler.Proofs.Queue.Shutdown
import TemplateBundler.Proofs.RequirePath
import TemplateBundler.Proofs.ShownPath
import TemplateBundler.Proofs.Target
import TemplateBundler.Queue.Batch
import TemplateBundler.Proofs.PositionIndex.Exchange
import TemplateBundler.Proofs.Json.Grammar
import TemplateBundler.Proofs.Json.Skipping
import TemplateBundler.Proofs.Schema.Meaning
import TemplateBundler.Proofs.Failure
import TemplateBundler.Proofs.Decimal.Fraction
import TemplateBundler.Proofs.Decimal.Sign
import TemplateBundler.Proofs.Schema.Misfit
import TemplateBundler.Proofs.Processor.Misfit
import TemplateBundler.Proofs.Path.Walk
import TemplateBundler.Proofs.RelativePath.Climbing
import TemplateBundler.Proofs.Message
import TemplateBundler.Proofs.Excerpt.Window
import TemplateBundler.Proofs.Excerpt.Alignment
import TemplateBundler.Proofs.LineTable.Ranges
import TemplateBundler.Proofs.LineTable.Checked
import TemplateBundler.Proofs.PositionIndex.Lookup
import TemplateBundler.Proofs.Processor.Outcome
import TemplateBundler.Proofs.Text.Truncation
import TemplateBundler.Proofs.TargetName
