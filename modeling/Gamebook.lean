import Gamebook.Builder
import Gamebook.Choices
import Gamebook.Command.Check
import Gamebook.Command.Info
import Gamebook.Command.Line
import Gamebook.Command.Load
import Gamebook.Command.Play
import Gamebook.Command.Play.Progress
import Gamebook.Command.Play.Turn
import Gamebook.Dict
import Gamebook.Edit
import Gamebook.Environment
import Gamebook.Error
import Gamebook.Expression
import Gamebook.Files
import Gamebook.Host
import Gamebook.Host.Scripted
import Gamebook.Host.Terminal
import Gamebook.Main
import Gamebook.Number.Binary64
import Gamebook.Number.Shortest
import Gamebook.Proofs.Calls
import Gamebook.Proofs.ChoiceLaws
import Gamebook.Proofs.Faults
import Gamebook.Proofs.Joined
import Gamebook.Proofs.Links
import Gamebook.Proofs.Moves
import Gamebook.Proofs.ReaderCalls
import Gamebook.Proofs.ReaderLaws
import Gamebook.Proofs.ReaderStates
import Gamebook.Proofs.Sections
import Gamebook.Proofs.SourceTexts
import Gamebook.Proofs.Walks
import Gamebook.Proofs.Written
import Gamebook.Reader
import Gamebook.Script
import Gamebook.Session
import Gamebook.Slot.Kind
import Gamebook.Source.Diagnostic
import Gamebook.Source.Line
import Gamebook.Source.Outline
import Gamebook.Source.Parser
import Gamebook.Source.Report
import Gamebook.Story
import Gamebook.Story.Node
import Gamebook.Story.Scope
import Gamebook.Text.Blank
import Gamebook.Text.Color
import Gamebook.Text.Columns
import Gamebook.Text.Emoji
import Gamebook.Text.Glyph
import Gamebook.Text.Numeral
import Gamebook.Text.Pieces
import Gamebook.Text.Quoted
import Gamebook.Text.Style
import Gamebook.Text.Substitution
import Gamebook.Text.Table
import Gamebook.Text.Utf8
import Gamebook.Text.Width
import Gamebook.Value
import Gamebook.Value.Document
import Gamebook.Proofs.SlotRuns
import Gamebook.Proofs.SlotForms
import Gamebook.Proofs.FloatSlots
import Gamebook.Proofs.ReportPlaces
import Gamebook.Proofs.TerminalRuns
import Gamebook.Proofs.Rounds
import Gamebook.Proofs.Retries
import Gamebook.Proofs.Endings
import Gamebook.Proofs.Positions
import Gamebook.Proofs.Policies
import Gamebook.Proofs.LinkedOptions
import Gamebook.Proofs.Encoding
import Gamebook.Proofs.Prompts
import Gamebook.Story.Index
import Gamebook.Proofs.Markers
import Gamebook.Proofs.NodeStore
import Gamebook.Proofs.Building
import Gamebook.Proofs.Visits
import Gamebook.Proofs.Presses
import Gamebook.Proofs.Consent
import Gamebook.Proofs.Menus
import Gamebook.Proofs.Occurrences
import Gamebook.Proofs.Bindings
import Gamebook.Proofs.Patterns
import Gamebook.Proofs.OptionLines
