import EpubLibrary.Archive.Bzip2
import EpubLibrary.Archive.Inflate
import EpubLibrary.Archive.Lzma
import EpubLibrary.Archive.PrefixCode
import EpubLibrary.Archive.Zip
import EpubLibrary.Bits
import EpubLibrary.Bytes
import EpubLibrary.Catalog.Bookmarks
import EpubLibrary.Catalog.Derive
import EpubLibrary.Catalog.DigestSet
import EpubLibrary.Catalog.Error
import EpubLibrary.Catalog.Import
import EpubLibrary.Catalog.Reconcile
import EpubLibrary.Catalog.Row
import EpubLibrary.Catalog.Store
import EpubLibrary.Catalog.Tables
import EpubLibrary.CommandLine
import EpubLibrary.CommandLine.Description
import EpubLibrary.Epub.Book
import EpubLibrary.Epub.Error
import EpubLibrary.Epub.Manifest
import EpubLibrary.Epub.Metadata
import EpubLibrary.Epub.Navigation
import EpubLibrary.Epub.Package
import EpubLibrary.Epub.Toc
import EpubLibrary.Files.Tree
import EpubLibrary.Files.Walk
import EpubLibrary.Format
import EpubLibrary.Hash.Crc32
import EpubLibrary.Hash.Sha1
import EpubLibrary.Hash.Sha256
import EpubLibrary.Hash.Xxh64
import EpubLibrary.Html.Elements
import EpubLibrary.Html.Encoding
import EpubLibrary.Html.Entity
import EpubLibrary.Html.Event
import EpubLibrary.Html.Node
import EpubLibrary.Html.Normalize
import EpubLibrary.Html.Printer
import EpubLibrary.Html.Prune
import EpubLibrary.Html.Token
import EpubLibrary.Html.Tree
import EpubLibrary.Identity
import EpubLibrary.Main
import EpubLibrary.Number.Binary64
import EpubLibrary.Number.Decimal
import EpubLibrary.Path
import EpubLibrary.Payload
import EpubLibrary.Scan.Loop
import EpubLibrary.Scan.Summary
import EpubLibrary.Settings.Config
import EpubLibrary.Settings.EnvFile
import EpubLibrary.Settings.Environment
import EpubLibrary.Text.Blank
import EpubLibrary.Text.Charset.Basic
import EpubLibrary.Text.Charset.Japanese
import EpubLibrary.Text.Charset.Korean
import EpubLibrary.Text.Charset.Names
import EpubLibrary.Text.Charset.Simplified
import EpubLibrary.Text.Charset.SingleByte
import EpubLibrary.Text.Charset.Tables
import EpubLibrary.Text.Charset.Traditional
import EpubLibrary.Text.Charset.Unicode
import EpubLibrary.Text.DecimalDigit
import EpubLibrary.Text.IntegerLiteral
import EpubLibrary.Text.Percent
import EpubLibrary.Text.Pieces
import EpubLibrary.Text.Printable
import EpubLibrary.Text.Quoted
import EpubLibrary.Text.Utf8
import EpubLibrary.Uuid
import EpubLibrary.Xml.Instruction
import EpubLibrary.Xml.Name
import EpubLibrary.Xml.Prolog
import EpubLibrary.Xml.Reference
import EpubLibrary.Xml.Tag
import EpubLibrary.Xml.Tree
import EpubLibrary.Zstd.Frame
import EpubLibrary.Zstd.Fse
import EpubLibrary.Zstd.Huffman
import EpubLibrary.Zstd.Literals
import EpubLibrary.Zstd.Sequences
import EpubLibrary.Zstd.Writer
import EpubLibrary.Proofs.Catalog.Valid
import EpubLibrary.Proofs.Catalog.Import
import EpubLibrary.Proofs.Catalog.Reachable
import EpubLibrary.Proofs.Catalog.Derive
import EpubLibrary.Proofs.Catalog.Fresh
import EpubLibrary.Proofs.Scan.Claims
import EpubLibrary.Proofs.Scan.Ledger
import EpubLibrary.Proofs.Catalog.Growth
import EpubLibrary.Proofs.Scan.Rescan
import EpubLibrary.Proofs.Scan.History
import EpubLibrary.Proofs.Epub.Leads
import EpubLibrary.Proofs.Scan.Outcome
import EpubLibrary.Proofs.Text.Utf8
import EpubLibrary.Proofs.ReadBack
import EpubLibrary.Proofs.Number.Value
import EpubLibrary.Proofs.Scan.Fate
import EpubLibrary.Proofs.Calls
import EpubLibrary.Proofs.FailedSave
import EpubLibrary.Proofs.Structure
import EpubLibrary.Proofs.Bookmarks
import EpubLibrary.Proofs.Catalog.Reconcile
import EpubLibrary.Proofs.Html.Idempotence
import EpubLibrary.Proofs.Html.Ink
import EpubLibrary.Proofs.Identity
import EpubLibrary.Proofs.Scan.Mirrored
import EpubLibrary.Proofs.Scan.SharedOutcome
import EpubLibrary.Proofs.Path
import EpubLibrary.Proofs.Text.Percent
import EpubLibrary.Proofs.Epub.Target
import EpubLibrary.Proofs.Epub.Toc
import EpubLibrary.Proofs.Epub.Extract
import EpubLibrary.Proofs.Zstd.Layout
import EpubLibrary.Proofs.Damage
import EpubLibrary.Proofs.Scan.Dispatch
import EpubLibrary.Proofs.Files.Follow
import EpubLibrary.Proofs.Files.Reach
import EpubLibrary.Proofs.Files.Order
import EpubLibrary.Proofs.Files.Built
import EpubLibrary.Proofs.Files.Walk
import EpubLibrary.Proofs.Canonical
import EpubLibrary.Proofs.Text.Utf16
import EpubLibrary.Proofs.Html.Decoding
import EpubLibrary.Proofs.Settings.Load
