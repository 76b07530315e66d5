import StatementWalk.Main
import StatementWalk.Proofs.NormalForm
import StatementWalk.Script.Engine
import StatementWalk.Script.Resource
import StatementWalk.Script.Statement
import StatementWalk.Value.SqlType
import StatementWalk.Walk.Resolve
import StatementWalk.Proofs.RowReading
import StatementWalk.Proofs.OutcomeForm
import StatementWalk.Proofs.OutcomeReading
import StatementWalk.Proofs.Course
import StatementWalk.Proofs.Moving
import StatementWalk.Proofs.WalkCourse
import StatementWalk.Proofs.CellText
import StatementWalk.Proofs.OutcomeReport
import StatementWalk.Proofs.EveryOutcome
import StatementWalk.Proofs.Transcript
import StatementWalk.Proofs.NoticeCodes
import StatementWalk.Proofs.WalkTranscript
import StatementWalk.Proofs.WarningTrouble
import StatementWalk.Proofs.WalkParts
import StatementWalk.Proofs.Agreement
import StatementWalk.Proofs.Recording
import StatementWalk.Proofs.CallProtocol
import StatementWalk.Proofs.WalkProtocol
import StatementWalk.Proofs.PlainCells
import StatementWalk.Proofs.SessionAgreement
import StatementWalk.Proofs.CursorCalls
import StatementWalk.Proofs.ReusedStatement
import StatementWalk.Proofs.EngineCalls
import StatementWalk.Proofs.RunCalls
import StatementWalk.Proofs.ConnectionRun
import StatementWalk.Proofs.OutcomeView
import StatementWalk.Proofs.BoundHandles
import StatementWalk.Proofs.ResultJson
import StatementWalk.Proofs.TableText
import StatementWalk.Proofs.IntegerColumns
import StatementWalk.Proofs.MessageTags
import StatementWalk.Proofs.IntegerText
import StatementWalk.Proofs.CellFaults
import StatementWalk.Proofs.RowDelivery
import StatementWalk.Proofs.Corrections
import StatementWalk.Proofs.CellReading
import StatementWalk.Proofs.DeclaredTypes
import StatementWalk.Proofs.TextColumns
import StatementWalk.Proofs.TemporalCells
import StatementWalk.Proofs.SettledCells
import StatementWalk.Proofs.Utf8Text
import StatementWalk.Proofs.LargeObjectReads
import StatementWalk.Proofs.WrappedTimestamps
import StatementWalk.Proofs.IsoAgreement
import StatementWalk.Proofs.DateAgreement
import StatementWalk.Proofs.NoticeDraining
import StatementWalk.Proofs.Reporting
import StatementWalk.Proofs.TaggedMessages
import StatementWalk.Proofs.CaseFolding
import StatementWalk.Proofs.ColumnLookup
import StatementWalk.Proofs.SingleValue
import StatementWalk.Proofs.CurrentRow
import StatementWalk.Proofs.EngineLifetime
