import InAppMessaging.Configuration.Json
import InAppMessaging.Eligibility.Json
import InAppMessaging.Engine.App
import InAppMessaging.Engine.Rehearsal
import InAppMessaging.Host.Json
import InAppMessaging.Host.Tally
import InAppMessaging.Logging
import InAppMessaging.Proofs.Catalog.Queueing
import InAppMessaging.Proofs.Eligibility.Departing
import InAppMessaging.Proofs.Eligibility.History
import InAppMessaging.Proofs.Eligibility.Refinement
import InAppMessaging.Proofs.Eligibility.Tokens
import InAppMessaging.Proofs.Engine.Capping
import InAppMessaging.Proofs.Engine.Course
import InAppMessaging.Proofs.Engine.Identity
import InAppMessaging.Proofs.Engine.Polling
import InAppMessaging.Proofs.Engine.WritingOff
import InAppMessaging.Proofs.Pipeline.Callbacks
import InAppMessaging.Proofs.Pipeline.Elements
import InAppMessaging.Proofs.Pipeline.Nesting
import InAppMessaging.Proofs.Pipeline.Orderly
import InAppMessaging.Proofs.Pipeline.Recall
import InAppMessaging.Proofs.Pipeline.Refusal
import InAppMessaging.Proofs.Pipeline.Repetition
import InAppMessaging.Proofs.Preferences.Reopening
import InAppMessaging.Proofs.Realtime.Convergence
import InAppMessaging.Proofs.Realtime.Policy
import InAppMessaging.Proofs.Store.CallStack
import InAppMessaging.Proofs.Store.Subscriptions
import InAppMessaging.Proofs.Surface.Following
import InAppMessaging.Proofs.Surface.TearingDown
import InAppMessaging.Realtime.Json
import InAppMessaging.Proofs.Keyed
import InAppMessaging.Proofs.Session.Successive
import InAppMessaging.Proofs.Realtime.Deadline
import InAppMessaging.Proofs.Realtime.Framing
import InAppMessaging.Proofs.Message.Layout
import InAppMessaging.Proofs.Realtime.Request
import InAppMessaging.Proofs.Route
import InAppMessaging.Proofs.Session.Differing
