import SharedTodo.Command.Basic
import SharedTodo.Command.Execution
import SharedTodo.Command.Usage
import SharedTodo.Config.Basic
import SharedTodo.Config.Value
import SharedTodo.Config.Variable
import SharedTodo.Console
import SharedTodo.Delivery
import SharedTodo.Directory
import SharedTodo.Documents
import SharedTodo.Error
import SharedTodo.Exchange.Access
import SharedTodo.Exchange.Change
import SharedTodo.Exchange.Create
import SharedTodo.Exchange.Finish
import SharedTodo.Exchange.Link
import SharedTodo.Exchange.Listing
import SharedTodo.Exchange.Reassign
import SharedTodo.Identifier.IssueId
import SharedTodo.Identifier.Names
import SharedTodo.InputError
import SharedTodo.Issue.Basic
import SharedTodo.Issue.ListText
import SharedTodo.Issue.Listed
import SharedTodo.Json.Codec
import SharedTodo.Json.Number
import SharedTodo.Json.Problem
import SharedTodo.Json.Record
import SharedTodo.Json.Scan
import SharedTodo.Json.Text
import SharedTodo.Lists.Entry
import SharedTodo.Lists.Kind
import SharedTodo.Lists.UserLists
import SharedTodo.Main
import SharedTodo.Naming
import SharedTodo.Notification
import SharedTodo.Number.Binary64
import SharedTodo.Number.Shortest
import SharedTodo.Preferences.Basic
import SharedTodo.Preferences.Stored
import SharedTodo.Program
import SharedTodo.Proofs.Command.Lines
import SharedTodo.Proofs.Documents
import SharedTodo.Proofs.Exchange.Access
import SharedTodo.Proofs.Exchange.Actionable
import SharedTodo.Proofs.Exchange.Arrangement
import SharedTodo.Proofs.Exchange.Balance
import SharedTodo.Proofs.Exchange.Bumping
import SharedTodo.Proofs.Exchange.Bystanders
import SharedTodo.Proofs.Exchange.Canonical
import SharedTodo.Proofs.Exchange.Chronicle
import SharedTodo.Proofs.Exchange.Conduct
import SharedTodo.Proofs.Exchange.Consistency
import SharedTodo.Proofs.Exchange.Content
import SharedTodo.Proofs.Exchange.CutShort
import SharedTodo.Proofs.Exchange.Deletion
import SharedTodo.Proofs.Exchange.Delivery
import SharedTodo.Proofs.Exchange.Editing
import SharedTodo.Proofs.Exchange.Effects
import SharedTodo.Proofs.Exchange.GivingUp
import SharedTodo.Proofs.Exchange.HandingOver
import SharedTodo.Proofs.Exchange.Interleaving
import SharedTodo.Proofs.Exchange.Inversion
import SharedTodo.Proofs.Exchange.Legible
import SharedTodo.Proofs.Exchange.Links
import SharedTodo.Proofs.Exchange.Listing
import SharedTodo.Proofs.Exchange.Mirroring
import SharedTodo.Proofs.Exchange.Operations
import SharedTodo.Proofs.Exchange.Ownership
import SharedTodo.Proofs.Exchange.Popping
import SharedTodo.Proofs.Exchange.Progress
import SharedTodo.Proofs.Exchange.Race
import SharedTodo.Proofs.Exchange.Reassigned
import SharedTodo.Proofs.Exchange.Received
import SharedTodo.Proofs.Exchange.Records
import SharedTodo.Proofs.Exchange.Reliance
import SharedTodo.Proofs.Exchange.Runs
import SharedTodo.Proofs.Exchange.SentTodo
import SharedTodo.Proofs.Exchange.Sequential
import SharedTodo.Proofs.Exchange.Stored
import SharedTodo.Proofs.Exchange.Task
import SharedTodo.Proofs.Exchange.Undoing
import SharedTodo.Proofs.Exchange.UserErrors
import SharedTodo.Proofs.Json.Lawful
import SharedTodo.Proofs.Json.Number
import SharedTodo.Proofs.Json.Sources
import SharedTodo.Proofs.Lists.Alteration
import SharedTodo.Proofs.Lists.ListSet
import SharedTodo.Proofs.Lists.Order
import SharedTodo.Proofs.Lists.Revision
import SharedTodo.Proofs.Naming
import SharedTodo.Proofs.Notification.Coverage
import SharedTodo.Proofs.Notification.Offers
import SharedTodo.Proofs.Notification.Reassignment
import SharedTodo.Proofs.Notification.Telling
import SharedTodo.Proofs.Preferences.Blocking
import SharedTodo.Proofs.Preferences.Claims
import SharedTodo.Proofs.Preferences.Reminder
import SharedTodo.Proofs.Program.Agreement
import SharedTodo.Proofs.Program.Contested
import SharedTodo.Proofs.Program.Ensures
import SharedTodo.Proofs.Program.Keeps
import SharedTodo.Proofs.Request.Healthy
import SharedTodo.Proofs.Request.Refusal
import SharedTodo.Proofs.Request.Sending
import SharedTodo.Proofs.Request.UserErrors
import SharedTodo.Proofs.Text.Decimal
import SharedTodo.Proofs.Text.Words
import SharedTodo.Proofs.Time.Elapsed
import SharedTodo.Proofs.Time.Rfc3339
import SharedTodo.Proofs.Update.Attempt
import SharedTodo.Proofs.Update.Interference
import SharedTodo.Proofs.Update.Serial
import SharedTodo.Request.Basic
import SharedTodo.Request.Body
import SharedTodo.Request.Handling
import SharedTodo.Services
import SharedTodo.Session
import SharedTodo.Store
import SharedTodo.Table
import SharedTodo.Text.Ascii
import SharedTodo.Text.Blank
import SharedTodo.Text.Quoted
import SharedTodo.Text.Shown
import SharedTodo.Time.Civil
import SharedTodo.Time.Instant
import SharedTodo.Time.Rfc3339
import SharedTodo.Toml.Document
import SharedTodo.Toml.Scalar
import SharedTodo.Toml.Table
import SharedTodo.Toml.Text
import SharedTodo.Update
import SharedTodo.World
