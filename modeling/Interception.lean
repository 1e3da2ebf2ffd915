import Interception.Unicode.Case
import Interception.Unicode.Category
import Interception.Unicode.Script
import Interception.Regex.Search
import Interception.Regex.Meaning
import Interception.Json.Printer
import Interception.Json.Reader
import Interception.Text
import Interception.PatternError
import Interception.Ant.Cache
import Interception.Route
import Interception.Path.Lookup
import Interception.View
import Interception.Duration
import Interception.Dispatcher
import Interception.Interceptor.Logging
import Interception.Interceptor.Timeout
import Interception.Interceptor.Web
import Interception.View.Json
import Interception.Testing.Matchers
import Interception.Testing.Handler
import Interception.Testing.Views
import Interception.Proofs.Path.Spelling
import Interception.Proofs.Path.Context
import Interception.Proofs.Path.Stability
import Interception.Proofs.Guard
import Interception.Proofs.Accounting
import Interception.Proofs.Attribution
import Interception.Proofs.Ant.Extraction
import Interception.Proofs.Ant.Glob
import Interception.Proofs.Ant.Decomposition
import Interception.Proofs.Ant.UriTemplate
import Interception.Proofs.Ant.RoundTrip
import Interception.Proofs.Ant.Faults
import Interception.Proofs.Ant.Replacement
import Interception.Proofs.Ant.Generalization
import Interception.Proofs.Ant.Caching
import Interception.Proofs.Ant.Braces
import Interception.Proofs.Ant.LetterCase
import Interception.Proofs.Ant.Constraint
import Interception.Proofs.Echo
import Interception.Proofs.PassThrough
import Interception.Proofs.AllOrNothing
import Interception.Proofs.ViewStage
import Interception.Proofs.JsonDocument
import Interception.Proofs.Limits
import Interception.Proofs.Confinement
import Interception.Proofs.FailedRendering
