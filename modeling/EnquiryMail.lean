import EnquiryMail.Main
import EnquiryMail.Proofs.Session.Transcript
import EnquiryMail.Server.Host
import EnquiryMail.Server.Launch
import EnquiryMail.Smtp.Drill
import EnquiryMail.Smtp.Scripted
import EnquiryMail.Proofs.Session.Plan
import EnquiryMail.Proofs.Session.Conformance
import EnquiryMail.Proofs.Connection.Protection
import EnquiryMail.Proofs.Net.Course
import EnquiryMail.Proofs.Net.Drift
import EnquiryMail.Proofs.Net.Confidentiality
import EnquiryMail.Proofs.Mail.Unbroken
import EnquiryMail.Proofs.Mail.Receiver
import EnquiryMail.Proofs.Mail.Payload
import EnquiryMail.Proofs.Session.Decoding
import EnquiryMail.Proofs.Number.Exact
import EnquiryMail.Proofs.Connection.Reception
import EnquiryMail.Proofs.Session.Alike
import EnquiryMail.Proofs.Session.Turn
import EnquiryMail.Proofs.Net.Answering
import EnquiryMail.Proofs.Net.Refinement
import EnquiryMail.Proofs.Connection.Intake
import EnquiryMail.Proofs.Connection.Clocked
import EnquiryMail.Proofs.Connection.Framing
import EnquiryMail.Proofs.Connection.Boundary
import EnquiryMail.Proofs.Connection.Deadline
import EnquiryMail.Proofs.Connection.Holdings
import EnquiryMail.Proofs.Net.Holdings
import EnquiryMail.Proofs.Net.Waiting
import EnquiryMail.Proofs.Net.Release
import EnquiryMail.Proofs.Session.Agreement
import EnquiryMail.Proofs.Http.Windows
import EnquiryMail.Proofs.Http.Allowance
import EnquiryMail.Proofs.Session.Parallel
import EnquiryMail.Proofs.Connection.Masked
import EnquiryMail.Proofs.Net.Own
import EnquiryMail.Proofs.Net.Twins
import EnquiryMail.Proofs.Net.Discretion
import EnquiryMail.Proofs.Net.Single
import EnquiryMail.Proofs.Enquiry.FanOut
import EnquiryMail.Proofs.Config.Schema
import EnquiryMail.Proofs.Config.Readiness
import EnquiryMail.Proofs.Server.Course
import EnquiryMail.Proofs.Server.Listeners
import EnquiryMail.Proofs.Server.Shutdown
import EnquiryMail.Proofs.Mail.Stuffing
import EnquiryMail.Proofs.Mail.Word
import EnquiryMail.Proofs.Session.Login
import EnquiryMail.Proofs.Connection.Closing
import EnquiryMail.Proofs.Number.Spelling
import EnquiryMail.Proofs.Json.Reading
import EnquiryMail.Proofs.Log.Silence
import EnquiryMail.Proofs.Net.Calm
import EnquiryMail.Proofs.Session.Accepted
import EnquiryMail.Proofs.Cli.Document
import EnquiryMail.Proofs.Named
import EnquiryMail.Proofs.Log.Listing
import EnquiryMail.Proofs.Enquiry.Sendable
import EnquiryMail.Proofs.Json.Line
import EnquiryMail.Proofs.Log.Lines
import EnquiryMail.Proofs.Http.Trace
import EnquiryMail.Proofs.Log.Ancestry
import EnquiryMail.Proofs.Log.Loading
import EnquiryMail.Proofs.Text.Words
import EnquiryMail.Proofs.Session.Capabilities
import EnquiryMail.Proofs.Enquiry.Timing
import EnquiryMail.Proofs.Time.Calendar
import EnquiryMail.Proofs.Time.Header
import EnquiryMail.Proofs.Enquiry.Coercion
import EnquiryMail.Proofs.Enquiry.Layout
import EnquiryMail.Proofs.Mail.Lexeme
import EnquiryMail.Proofs.Text.Pieces
import EnquiryMail.Proofs.Mail.Mailbox
import EnquiryMail.Proofs.Mail.Sender
import EnquiryMail.Proofs.Time.Order
import EnquiryMail.Proofs.Connection.Place
