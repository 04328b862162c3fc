import Wordbook.Hex
import Wordbook.Text.Blank
import Wordbook.Text.Field
import Wordbook.Text.Case.Table
import Wordbook.Text.Case
import Wordbook.Text.Escape.Table
import Wordbook.Entry
import Wordbook.Entry.Line
import Wordbook.Entry.Clean
import Wordbook.Entry.Clean.FirstOccurrence
import Wordbook.Entry.Render
import Wordbook.Entry.Search
import Wordbook.Encoding.Utf8
import Wordbook.Encoding.Utf16
import Wordbook.Encoding.Korean.Table
import Wordbook.Encoding.Korean
import Wordbook.Encoding
import Wordbook.Text.Ascii
import Wordbook.Profile
import Wordbook.Config
import Wordbook.Store
import Wordbook.Number.Binary64
import Wordbook.Number.Decimal
import Wordbook.Json.Value
import Wordbook.Json.Read
import Wordbook.Json.Write
import Wordbook.Text.Escape
import Wordbook.Json.Expect
import Wordbook.Path
import Wordbook.Disk
import Wordbook.Storage
import Wordbook.Sync
import Wordbook.Session
import Wordbook.Protocol.Request
import Wordbook.Protocol.Response
import Wordbook.Protocol.Handle
import Wordbook.Cli
import Wordbook.Main
import Wordbook.Proofs.Disk.Tree
import Wordbook.Proofs.Sync.Effects
import Wordbook.Proofs.Session.Steps
import Wordbook.Proofs.Protocol.Step
import Wordbook.Proofs.Protocol.Refusal
import Wordbook.Proofs.Protocol.DiskFrame
import Wordbook.Proofs.Encoding.RoundTrip
import Wordbook.Proofs.Text.Written
import Wordbook.Proofs.Entry.Normal
import Wordbook.Proofs.Entry.Lines
import Wordbook.Proofs.Entry.ReadClean
import Wordbook.Proofs.Entry.Search
import Wordbook.Proofs.Session.StableSave
import Wordbook.Proofs.Protocol.SyncedStore
import Wordbook.Proofs.Store.ListView
import Wordbook.Proofs.Encoding.Detect
import Wordbook.Proofs.Encoding.Korean
import Wordbook.Proofs.Protocol.ReportedEncoding
