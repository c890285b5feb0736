import PromptWeave.Draw.Script
import PromptWeave.Main
import PromptWeave.Proofs.Chain.Independence
import PromptWeave.Proofs.Chain.Line
import PromptWeave.Proofs.Chain.Lock
import PromptWeave.Proofs.Node.Exchange
import PromptWeave.Proofs.Node.Refusal
import PromptWeave.Proofs.Node.Relay
import PromptWeave.Proofs.Node.Reported
import PromptWeave.Proofs.Tags.History
import PromptWeave.Proofs.Wire.Separated
import PromptWeave.Proofs.Draw.Replay
import PromptWeave.Proofs.Template.Places
import PromptWeave.Proofs.Text.Pieces
import PromptWeave.Proofs.Template.Alternatives
import PromptWeave.Proofs.Template.Reading
import PromptWeave.Proofs.Command.Printed
import PromptWeave.Proofs.Template.SingleLine
import PromptWeave.Proofs.Tags.Interleave
import PromptWeave.Proofs.Template.Layout
import PromptWeave.Proofs.Template.Plain
import PromptWeave.Proofs.Template.Spacing
import PromptWeave.Proofs.Text.Spaced
import PromptWeave.Proofs.Tags.Survivors
import PromptWeave.Proofs.Chain.Conservation
import PromptWeave.Proofs.Node.Selection
import PromptWeave.Proofs.Node.Gap
import PromptWeave.Proofs.Tags.Rejoined
import PromptWeave.Proofs.Wire.Canonical
import PromptWeave.Proofs.Wire.Version
import PromptWeave.Proofs.Draw.Scripted
import PromptWeave.Proofs.Template.BarRows
import PromptWeave.Proofs.Chain.Trace
import PromptWeave.Proofs.Node.Registered
