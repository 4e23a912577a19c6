import AlertRelay.Desktop
import AlertRelay.Main
import AlertRelay.Permission.Text
import AlertRelay.Program
import AlertRelay.Scripted
import AlertRelay.Search
import AlertRelay.Proofs.Desk.Worker
import AlertRelay.Proofs.Engine.Run
import AlertRelay.Proofs.Session.Handover
import AlertRelay.Proofs.Session.Stored
import AlertRelay.Proofs.Feed.Line
import AlertRelay.Proofs.Desk.Alike
import AlertRelay.Proofs.Session.Alike
import AlertRelay.Proofs.Feed.Course
import AlertRelay.Proofs.Session.Independence
import AlertRelay.Proofs.Desk.Attempts
import AlertRelay.Proofs.Session.Watch
import AlertRelay.Proofs.Session.Order
import AlertRelay.Proofs.Desk.Calls
import AlertRelay.Proofs.Session.Licence
import AlertRelay.Proofs.Feed.Grammar
import AlertRelay.Proofs.Engine.Members
import AlertRelay.Proofs.Feed.Acceptance
import AlertRelay.Proofs.Feed.Repeated
import AlertRelay.Proofs.Feed.RoundTrip
import AlertRelay.Proofs.Desk.Registration
import AlertRelay.Proofs.Desk.Failures
import AlertRelay.Proofs.Session.Tags
import AlertRelay.Proofs.Session.Failures
import AlertRelay.Proofs.Session.Change
import AlertRelay.Proofs.Desktop.Arguments
import AlertRelay.Proofs.Engine.Order
import AlertRelay.Proofs.Settings.Loading
import AlertRelay.Proofs.Session.Reasons
import AlertRelay.Proofs.Origin.Scope
import AlertRelay.Proofs.Origin.Secure
