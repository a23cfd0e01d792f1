import PageScript.Cosmos.Timeouts
import PageScript.Main
import PageScript.Proofs.CSharp.Agreement
import PageScript.Proofs.FoldedTable
import PageScript.Script.Cursor
import PageScript.Proofs.Compile.Causality
import PageScript.Proofs.Compile.Secrecy
import PageScript.Proofs.Script.Faults
import PageScript.Proofs.Script.Recovery
import PageScript.Proofs.CSharp.LiteralSafety
import PageScript.Proofs.Compile.Quoting
import PageScript.Proofs.Script.Extents
import PageScript.Proofs.Script.Gaps
import PageScript.Proofs.Script.Layout
import PageScript.Proofs.Script.Lookahead
import PageScript.Proofs.Script.Locality
import PageScript.Proofs.Script.Joining
import PageScript.Proofs.Cosmos.Payload
import PageScript.Proofs.Cosmos.FirstDocument
import PageScript.Proofs.Compile.Isolation
import PageScript.Proofs.Compile.WellFormed
import PageScript.Proofs.Compile.EnvMark
import PageScript.Proofs.Compile.LastWrite
import PageScript.Proofs.Compile.Spelling
import PageScript.Proofs.Compile.AccountKey
import PageScript.Proofs.Running
import PageScript.Proofs.Script.Diagnostics
import PageScript.Proofs.Script.Grouping
import PageScript.Proofs.Compile.Expansion
import PageScript.Proofs.Compile.References
import PageScript.Proofs.Compile.Replay
import PageScript.Proofs.Compile.Relevance
import PageScript.Proofs.Compile.EnvAssignment
import PageScript.Proofs.Compile.History
import PageScript.Proofs.Cosmos.ConnectionString
import PageScript.Proofs.Compile.Top
import PageScript.Proofs.Script.Chains
import PageScript.Proofs.Compile.IntegerLiterals
import PageScript.Proofs.Page
import PageScript.Proofs.Codec.Base64
import PageScript.Proofs.Codec.Percent
import PageScript.Proofs.Cosmos.Signature
import PageScript.Proofs.Calendar
import PageScript.Proofs.Codec.Punycode
import PageScript.Proofs.Url.Host
import PageScript.Proofs.Url.Address
import PageScript.Proofs.Url.Join
import PageScript.Proofs.Cosmos.Request
import PageScript.Proofs.Script.Cursor
import PageScript.Proofs.TableRuns
import PageScript.Proofs.Settings
