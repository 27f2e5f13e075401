import VideoTerminal.Main
import VideoTerminal.Proofs.Checked.Terminal
import VideoTerminal.Proofs.Control.Sequence
import VideoTerminal.Proofs.Control.Strings
import VideoTerminal.Proofs.Control.Truncation
import VideoTerminal.Proofs.Grid.EraseRect
import VideoTerminal.Proofs.Grid.Exchange
import VideoTerminal.Proofs.Grid.InsertDelete
import VideoTerminal.Proofs.Grid.Widths
import VideoTerminal.Proofs.Mouse.Motion
import VideoTerminal.Proofs.Palette.Nearest
import VideoTerminal.Proofs.Scrollback.Bounded
import VideoTerminal.Proofs.Selection.Words
import VideoTerminal.Proofs.Session.TabStops
import VideoTerminal.Proofs.Terminal.AlternateScreen
import VideoTerminal.Proofs.Terminal.AnchoredView
import VideoTerminal.Proofs.Terminal.Clipboard
import VideoTerminal.Proofs.Terminal.CopiedText
import VideoTerminal.Proofs.Terminal.DirtyRows
import VideoTerminal.Proofs.Terminal.DraggedRange
import VideoTerminal.Proofs.Terminal.HighlightedText
import VideoTerminal.Proofs.Terminal.LastColumn
import VideoTerminal.Proofs.Terminal.Pasting
import VideoTerminal.Proofs.Terminal.PositionReport
import VideoTerminal.Proofs.Terminal.ReadySelection
import VideoTerminal.Proofs.Terminal.Renditions
import VideoTerminal.Proofs.Terminal.Repetition
import VideoTerminal.Proofs.Terminal.Reset
import VideoTerminal.Proofs.Terminal.Resize
import VideoTerminal.Proofs.Terminal.ResizedView
import VideoTerminal.Proofs.Terminal.SelectedRows
import VideoTerminal.Proofs.Terminal.SelectedText
import VideoTerminal.Proofs.Terminal.Stale
import VideoTerminal.Proofs.Terminal.Tracks
import VideoTerminal.Proofs.Text.Resynchronization
import VideoTerminal.Proofs.Text.Segmentation
