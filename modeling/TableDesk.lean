import TableDesk.Confirmation.Recorded
import TableDesk.Main
import TableDesk.Proofs.Form
import TableDesk.Proofs.Page.Run
import TableDesk.Proofs.Group
import TableDesk.Proofs.Page.Checks
import TableDesk.Proofs.Confirmation
import TableDesk.Proofs.Confirmation.Delivery
import TableDesk.Proofs.Modal
import TableDesk.Proofs.Session.Reachable
import TableDesk.Proofs.Store
import TableDesk.Proofs.Session.Change
import TableDesk.Proofs.Session.Deletion
import TableDesk.Proofs.Input.Bindings
import TableDesk.Proofs.Session.Offer
import TableDesk.Proofs.Session.Failure
import TableDesk.Proofs.Session.Listing
import TableDesk.Proofs.Session.Translation
import TableDesk.Proofs.Disk
import TableDesk.Proofs.Json.Literal
import TableDesk.Proofs.Json.RoundTrip
import TableDesk.Proofs.Table
import TableDesk.Proofs.Store.Reopening
import TableDesk.Proofs.Group.Plugins
import TableDesk.Proofs.Page.WellFormed
import TableDesk.Proofs.Message.Arguments
import TableDesk.Proofs.Text.Lines
import TableDesk.Proofs.Text.Wrap
import TableDesk.Proofs.Text.Wrap.Unbroken
import TableDesk.Proofs.Group.Partition
import TableDesk.Proofs.Group.Rows
import TableDesk.Proofs.Page.Reload
import TableDesk.Proofs.Page.Activation
import TableDesk.Proofs.Text.Fit
import TableDesk.Proofs.Text.Width
import TableDesk.Proofs.Text.Cluster
import TableDesk.Proofs.Screen.Row
import TableDesk.Proofs.Screen.Drawing
import TableDesk.Proofs.Screen.Words
import TableDesk.Proofs.Screen.Spans
import TableDesk.Proofs.View.DialogBox
import TableDesk.Proofs.View.Buttons
import TableDesk.Proofs.Page.Checking
import TableDesk.Proofs.Session.Isolation
import TableDesk.Proofs.Session.Keys
import TableDesk.Proofs.Session.FailedDeletion
import TableDesk.Proofs.Store.Algebra
import TableDesk.Proofs.Confirmation.Activation
import TableDesk.Proofs.Session.LanguageSwitch
import TableDesk.Proofs.Session.Report
import TableDesk.Proofs.Text.Quotation
import TableDesk.Proofs.View.ListRow
import TableDesk.Proofs.View.TableList
import TableDesk.Proofs.Settings
import TableDesk.Proofs.Text.Wrap.BlankLines
import TableDesk.Proofs.Page.Navigation
import TableDesk.Proofs.Modal.Run
import TableDesk.Proofs.Form.Toggles
