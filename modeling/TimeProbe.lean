import TimeProbe.Aead.Aes
import TimeProbe.Aead.Block
import TimeProbe.Aead.Cipher
import TimeProbe.Aead.Cmac
import TimeProbe.Aead.Siv
import TimeProbe.Binary64.Basic
import TimeProbe.Binary64.Reading
import TimeProbe.Binary64.Shortest
import TimeProbe.Bytes
import TimeProbe.Case.Basic
import TimeProbe.Case.Registry
import TimeProbe.Case.Summary
import TimeProbe.Catalog.All
import TimeProbe.Catalog.Basic
import TimeProbe.Catalog.Extensions
import TimeProbe.Catalog.KeyExchange
import TimeProbe.Catalog.Nts
import TimeProbe.Cli.Arguments
import TimeProbe.Cli.Command
import TimeProbe.Cli.Options
import TimeProbe.Config.Environment
import TimeProbe.Config.Path
import TimeProbe.Config.RunConfig
import TimeProbe.Config.TargetName
import TimeProbe.Config.Timeout
import TimeProbe.Entropy
import TimeProbe.Expect
import TimeProbe.Fault
import TimeProbe.KeyExchange.Record
import TimeProbe.KeyExchange.Request
import TimeProbe.KeyExchange.Response
import TimeProbe.KeyExchange.Session
import TimeProbe.Logging
import TimeProbe.Main
import TimeProbe.Network.Chunk
import TimeProbe.Network.Endpoint
import TimeProbe.Network.Exchange
import TimeProbe.Network.Moment
import TimeProbe.Network.Run
import TimeProbe.Network.Stream
import TimeProbe.Network.World
import TimeProbe.Nts.Authenticator
import TimeProbe.Nts.Cookies
import TimeProbe.Nts.Link
import TimeProbe.Nts.Liveness
import TimeProbe.Nts.Protection
import TimeProbe.Nts.SessionSource
import TimeProbe.Outcome
import TimeProbe.Packet.Basic
import TimeProbe.Packet.Extension
import TimeProbe.Packet.Poll
import TimeProbe.Packet.Raw
import TimeProbe.Packet.Timestamp
import TimeProbe.Proofs.AuthenticatorField
import TimeProbe.Proofs.FieldSequence
import TimeProbe.Proofs.PacketCodec
import TimeProbe.Proofs.SealedParts
import TimeProbe.Proofs.SealedText
import TimeProbe.Proofs.Words
import TimeProbe.Report.Basic
import TimeProbe.Report.Console
import TimeProbe.Runner
import TimeProbe.Settings
import TimeProbe.Target
import TimeProbe.Text.Blank
import TimeProbe.Text.Digit
import TimeProbe.Text.Numeral
import TimeProbe.Text.Printable
import TimeProbe.Text.Punycode
import TimeProbe.Text.Quoted
import TimeProbe.Text.Split
import TimeProbe.Text.Uppercase
import TimeProbe.Tls.Host
import TimeProbe.Tls.Stream
import TimeProbe.Tls.Wire
import TimeProbe.Value
import TimeProbe.Proofs.WireGrammar
import TimeProbe.Proofs.ProtectedRequest
import TimeProbe.Proofs.RawLayout
import TimeProbe.Proofs.ProtectedConnection
import TimeProbe.Proofs.ReplyCorrelation
import TimeProbe.Proofs.CookieConservation
import TimeProbe.Proofs.CaseRuns
import TimeProbe.Proofs.CaseSelection
import TimeProbe.Proofs.PacketRoundTrip
import TimeProbe.Proofs.StreamSteps
import TimeProbe.Proofs.JarSteps
import TimeProbe.Proofs.SessionLedger
import TimeProbe.Proofs.RecordSequence
import TimeProbe.Proofs.PieceDraws
import TimeProbe.Proofs.AnswerScan
import TimeProbe.Proofs.ClosingTime
import TimeProbe.Proofs.ReplyWait
import TimeProbe.Proofs.ExchangeOutcome
import TimeProbe.Proofs.InvalidReplies
import TimeProbe.Proofs.CaseOutcomes
import TimeProbe.Proofs.RememberedFailure
import TimeProbe.Proofs.ConnectionSteps
import TimeProbe.Proofs.Inventory
import TimeProbe.Proofs.Veil
import TimeProbe.Proofs.SettledInventory
import TimeProbe.Proofs.OneServer
import TimeProbe.Proofs.RefusedCases
import TimeProbe.Proofs.SkippedCases
import TimeProbe.Proofs.TargetSetup
import TimeProbe.Proofs.RecordCodec
import TimeProbe.Proofs.Negotiation
import TimeProbe.Proofs.CookieReserve
import TimeProbe.Proofs.SparingCatalog
import TimeProbe.Proofs.AnsweredPoll
import TimeProbe.Proofs.LiveServer
import TimeProbe.Proofs.ReplyAuthenticity
import TimeProbe.Proofs.StreamedReport
import TimeProbe.Proofs.ResponseFold
import TimeProbe.Proofs.ProposedOnly
import TimeProbe.Proofs.CipherExactness
import TimeProbe.Proofs.BufferedRecords
import TimeProbe.Proofs.OctetCorrelation
import TimeProbe.Proofs.TlsHandshake
import TimeProbe.Proofs.TlsOpening
import TimeProbe.Proofs.TlsCutOff
import TimeProbe.Proofs.FinishedExchange
import TimeProbe.Proofs.ReliableServers
import TimeProbe.Proofs.PlainVerdicts
import TimeProbe.Proofs.ProtectedAnswers
import TimeProbe.Proofs.ProtectedVerdicts
import TimeProbe.Proofs.ReportHistory
import TimeProbe.Proofs.TargetForms
import TimeProbe.Proofs.RequestRoundTrip
import TimeProbe.Proofs.RaisedFailures
import TimeProbe.Proofs.BuiltSteps
import TimeProbe.Proofs.ElementarySteps
import TimeProbe.Proofs.EndpointSteps
import TimeProbe.Proofs.HeededLimits
import TimeProbe.Proofs.HeededSteps
import TimeProbe.Proofs.HeededWaits
import TimeProbe.Proofs.HomemadeFaults
import TimeProbe.Proofs.KeptProperties
import TimeProbe.Proofs.OrdinaryWorlds
import TimeProbe.Proofs.RunSteps
import TimeProbe.Proofs.ScriptFaults
import TimeProbe.Proofs.TimelyWorlds
import TimeProbe.Proofs.UnseenChanges
import TimeProbe.Proofs.TlsSteps
import TimeProbe.Proofs.TlsTalk
import TimeProbe.Proofs.TickRounding
