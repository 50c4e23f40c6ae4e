import Jmap.Form
import Jmap.Operation.Report
import Jmap.Session.Cache.Timeline
import Jmap.Session.Loader
import Jmap.Transport.Http
import Jmap.Proofs.Cache.Entries
import Jmap.Proofs.Cache.Traffic
import Jmap.Proofs.Cache.Soundness
import Jmap.Proofs.Cache.SingleFlight
import Jmap.Proofs.Batch
import Jmap.Proofs.Correlation
import Jmap.Proofs.Lookup
import Jmap.Proofs.Cache.Barrier
import Jmap.Proofs.Cache.Freshness
import Jmap.Proofs.Cache.Capacity
import Jmap.Proofs.Cache.Staleness
import Jmap.Proofs.Text.Utf8
import Jmap.Proofs.Json.Wire
import Jmap.Proofs.Json.Record
import Jmap.Proofs.Json.Text
import Jmap.Proofs.Json.Stable
import Jmap.Proofs.RequestText
import Jmap.Proofs.References
import Jmap.Proofs.Survey
import Jmap.Proofs.Task
import Jmap.Proofs.Command
import Jmap.Proofs.Decoding
import Jmap.Proofs.Answered
import Jmap.Proofs.DefaultAccount
import Jmap.Proofs.Date.Text
import Jmap.Proofs.Json.StableTypes
import Jmap.Proofs.Payload
import Jmap.Proofs.Cache.Forgetting
import Jmap.Proofs.Declared
import Jmap.Proofs.Received
import Jmap.Proofs.Submission
import Jmap.Proofs.Creation
import Jmap.Proofs.Text.Percent
import Jmap.Proofs.Template
import Jmap.Proofs.TemplateValues
import Jmap.Proofs.Url.Path
import Jmap.Proofs.Url.Web
import Jmap.Proofs.TemplatePath
import Jmap.Proofs.Context
import Jmap.Proofs.BoundStream
import Jmap.Proofs.Deadline
import Jmap.Proofs.Session
import Jmap.Proofs.Card
import Jmap.Proofs.Json.Absent
import Jmap.Proofs.Outcome
import Jmap.Proofs.Toml.Document
import Jmap.Proofs.Config
import Jmap.Proofs.Base64
import Jmap.Proofs.Delivery
import Jmap.Proofs.Race
import Jmap.Proofs.Cache.Reaping
import Jmap.Proofs.Cache.Timeline
