import TerminalDialogs.Main
import TerminalDialogs.Key.Name
import TerminalDialogs.Screen.Name
import TerminalDialogs.Session.Hosted
import TerminalDialogs.Session.Piped
import TerminalDialogs.Styled.Stream
import TerminalDialogs.Widget.Screen
import TerminalDialogs.Proofs.Styled.Cells
import TerminalDialogs.Proofs.Styled.Cut
import TerminalDialogs.Proofs.Text.Utf8
import TerminalDialogs.Proofs.Session.History
import TerminalDialogs.Proofs.Session.Standing
import TerminalDialogs.Proofs.Styled.Stream
import TerminalDialogs.Proofs.Session.Replies
import TerminalDialogs.Proofs.Session.Generations
import TerminalDialogs.Proofs.Session.LateMessages
import TerminalDialogs.Proofs.Text.Rows
import TerminalDialogs.Proofs.Styled.Whole
import TerminalDialogs.Proofs.Styled.Sequence
import TerminalDialogs.Proofs.Styled.Ground
import TerminalDialogs.Proofs.Styled.Restore
import TerminalDialogs.Proofs.Screen.Paint
import TerminalDialogs.Proofs.Screen.Look
import TerminalDialogs.Proofs.Modal.Composite
import TerminalDialogs.Proofs.Widget.Kinds
import TerminalDialogs.Proofs.Widget.Protocol
import TerminalDialogs.Proofs.Session.Frame
import TerminalDialogs.Proofs.Session.Keys
import TerminalDialogs.Proofs.Control.Service
import TerminalDialogs.Proofs.Control.Records
import TerminalDialogs.Proofs.Screen.Drawn
import TerminalDialogs.Proofs.Table.Cells
import TerminalDialogs.Proofs.Files.Names
import TerminalDialogs.Proofs.Options.Texts
import TerminalDialogs.Proofs.Widget.Typing
import TerminalDialogs.Proofs.Widget.Presentable
import TerminalDialogs.Proofs.Widget.Fits.Drawn
import TerminalDialogs.Proofs.Widget.Fits.Pager
import TerminalDialogs.Proofs.Widget.Fits.Table
import TerminalDialogs.Proofs.Modal.Fits
import TerminalDialogs.Proofs.Modal.Picture
import TerminalDialogs.Proofs.Session.Echo
import TerminalDialogs.Proofs.Session.Secret
import TerminalDialogs.Proofs.Modal.Frame
import TerminalDialogs.Proofs.Session.Follow
import TerminalDialogs.Proofs.Session.Loop
import TerminalDialogs.Proofs.Session.Ended
import TerminalDialogs.Proofs.Screen.Bare
import TerminalDialogs.Proofs.Table.Bare
import TerminalDialogs.Proofs.Widget.Colors
import TerminalDialogs.Proofs.Files.Places
import TerminalDialogs.Proofs.Widget.Picked
import TerminalDialogs.Proofs.Styled.Written
import TerminalDialogs.Proofs.Styled.Fitted
import TerminalDialogs.Proofs.Widget.Indexed
import TerminalDialogs.Proofs.Widget.FlatText
import TerminalDialogs.Proofs.Fuzzy.Embedding
import TerminalDialogs.Proofs.Widget.Focus
import TerminalDialogs.Proofs.Widget.OnScreen
import TerminalDialogs.Proofs.Widget.Switched
import TerminalDialogs.Proofs.Widget.Chosen
import TerminalDialogs.Proofs.Widget.Narrowed
import TerminalDialogs.Proofs.Text.Words
import TerminalDialogs.Proofs.Fuzzy.Ranking
import TerminalDialogs.Proofs.Styled.Wrap
import TerminalDialogs.Proofs.Widget.Wrapped
import TerminalDialogs.Proofs.Prompt.Picks
import TerminalDialogs.Proofs.Prompt.Lines
import TerminalDialogs.Proofs.Prompt.Answers
import TerminalDialogs.Proofs.Prompt.Choice
import TerminalDialogs.Proofs.Widget.Masked
import TerminalDialogs.Proofs.Table.Share
import TerminalDialogs.Proofs.Table.Delimited
import TerminalDialogs.Proofs.Files.Parents
import TerminalDialogs.Proofs.Files.Upward
import TerminalDialogs.Proofs.Widget.Ascent
import TerminalDialogs.Proofs.Widget.Return
import TerminalDialogs.Proofs.Styled.Released
import TerminalDialogs.Proofs.Session.Scrollback
import TerminalDialogs.Proofs.Widget.Window
import TerminalDialogs.Proofs.Fuzzy.Adjacency
import TerminalDialogs.Proofs.Json.Cut
import TerminalDialogs.Proofs.Json.ReadBack
import TerminalDialogs.Proofs.Json.Record
import TerminalDialogs.Proofs.Control.Answers
import TerminalDialogs.Proofs.Session.Duration
import TerminalDialogs.Proofs.Styled.Runs
import TerminalDialogs.Proofs.Viewport
