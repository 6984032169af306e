import Council.Protocol
import Council.CappedAppend
import Council.TextReveal
import Council.DebateReducer
import Council.DebatePlayer
import Council.PlayerRuns
import Council.Playbill
import Council.TurnOrder
import Council.Interleavings
import Council.Spoken
import Council.WireStream
import Council.FaithfulReplay
import Council.FailureTurns
import Council.UseDebate
import Council.SessionPhases
import Council.SessionIsolation
import Council.Machines
import Council.Orchestration
import Council.DebateShape
import Council.Unwinding
import Council.StreamWords
import Council.DebateContent
import Council.HeardRounds
import Council.EmptyTurns
import Council.ZaiProvider
import Council.Truncation
import Council.RateBound
import Council.Middleware
import Council.Admission
import Council.DailyLimit
import Council.AskWire
import Council.AskChecks
import Council.LiveStatus
import Council.SkipToLive
import Council.StageViews
import Council.StageAgreement
import Council.HandleSession
import Council.SessionRuns
import Council.Route
import Council.SlotHostage
import Council.StreamLimit
import Council.FanOut
import Council.RoundGrammar
import Council.SessionGrammar
import Council.EventWire
import Council.EventAgreement
import Council.TextChunks
import Council.SseReader
import Council.KeyIsolation
import Council.AskBytes
import Council.GoStrings
import Council.NetAddr
import Council.ClientIP
import Council.AddressKeys
import Council.LoadConfig
import Council.JsonText
import Council.ClientBounds
import Council.ErrorBanner
import Council.JsonWriting
import Council.EventText
import Council.AskText
import Council.Broadcast
import Council.Screen
import Council.WholeSystem
import Council.ReadAsSaid
import Council.LeftAlone
import Council.PageShell
import Council.UseSmoothText
import Council.TranscriptGrid
import Council.RequestText
import Council.LimiterMap
import Council.WholeSite
import Council.StageFrameloop
import Council.ModelToPage
import Council.PageAnswers
