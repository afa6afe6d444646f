import SultanPass.Library.Rounding
import SultanPass.Library.JsonText
import SultanPass.Library.OrderedMap
import SultanPass.Library.KeyedTable
import SultanPass.Library.ExceptLoop
import SultanPass.Library.Reordering
import SultanPass.Library.Program
import SultanPass.Library.Session
import SultanPass.Library.CommitLog
import SultanPass.Library.CheckThenInsert
import SultanPass.Schema
import SultanPass.AssessmentScoreService
import SultanPass.RequestHandlers
import SultanPass.ScoreTotals
import SultanPass.RequestEffects
import SultanPass.Operations
import SultanPass.ConcurrentRequests
import SultanPass.DashboardController
import SultanPass.AssessmentController
import SultanPass.CategoryScores
import SultanPass.AnswerRoundTrip
import SultanPass.StatusOrder
import SultanPass.ResponseHistory
import SultanPass.CompletedScores
import SultanPass.ScoreSynchrony
import SultanPass.PercentileScores
import SultanPass.WholeAssessmentScores
import SultanPass.ConcurrentGrading
import SultanPass.Library.Calendar
import SultanPass.Library.FormData
import SultanPass.Library.GuardedRun
import SultanPass.Library.LoadThenAct
import SultanPass.FaithfulAuthoring
import SultanPass.AssessmentAvailability
import SultanPass.EvaluationDashboards
import SultanPass.LegacyScale
import SultanPass.MaintenanceScope
import SultanPass.RefreshedRows
import SultanPass.NeutralRecalculation
import SultanPass.AssessmentBuilder
import SultanPass.BuilderIndices
import SultanPass.BuilderSubmission
import SultanPass.BuilderWeights
import SultanPass.PasswordResetRequestController
import SultanPass.ResetDecisions
import SultanPass.Library.Overwriting
import SultanPass.RecalculationScopes
import SultanPass.Library.IndexedTable
import SultanPass.Library.Validation
import SultanPass.Users
import SultanPass.UserController
import SultanPass.ImportAccounting
import SultanPass.ImportDefaults
import SultanPass.ImportedPasswords
import SultanPass.AuthController
import SultanPass.AdministratorRemains
import SultanPass.AccountResets
import SultanPass.PendingRequests
import SultanPass.SetLocale
import SultanPass.TemporaryPasswords
import SultanPass.LanguageController
import SultanPass.AssessmentTitles
import SultanPass.ExamineePerformance
import SultanPass.ScoreOrder
import SultanPass.BetterAnswers
import SultanPass.BlankCategories
import SultanPass.NeutralBlanks
import SultanPass.GradingFrame
import SultanPass.Library.SelectedSums
import SultanPass.GradingScreens
import SultanPass.GradedMarks
import SultanPass.SubmittedSelections
import SultanPass.Library.OrderBy
import SultanPass.TakeScreen
import SultanPass.TakeProgress
import SultanPass.Paging
import SultanPass.AvailabilityWindow
import SultanPass.Library.FailingWrites
import SultanPass.FailedResetRequests
import SultanPass.FlashedPasswords
import SultanPass.GradingLists
import SultanPass.Library.Pattern
import SultanPass.Library.JsonDecoding
import SultanPass.Library.JsonNesting
import SultanPass.LocalAIService
import SultanPass.Library.JsonDocuments
import SultanPass.JsonReplies
import SultanPass.AIResponse
import SultanPass.Library.Weaving
import SultanPass.ResponsePatterns
import SultanPass.InjectedMarkup
import SultanPass.ComparisonParts
import SultanPass.ComparisonMarkup
import SultanPass.SwallowedAnswers
import SultanPass.AnsweredQuestions
import SultanPass.DailyCompletions
import SultanPass.QuestionOrder
import SultanPass.AIAssistantController
import SultanPass.ComparedCandidates
import SultanPass.Library.Routing
import SultanPass.Routes
import SultanPass.Application
import SultanPass.AccountHistory
import SultanPass.ReferencedRows
import SultanPass.AccountReferences
import SultanPass.AuthoredReferences
import SultanPass.ReferentialIntegrity
import SultanPass.ResponseOwnership
import SultanPass.DashboardCharts
import SultanPass.StrengthsChart
import SultanPass.AcceptedForms
import SultanPass.BuilderLanguages
import SultanPass.Library.InsertLoop
import SultanPass.StoreOutcome
import SultanPass.CreatedForms
