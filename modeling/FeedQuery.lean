import FeedQuery.Main
import FeedQuery.Proofs.AccessToken
import FeedQuery.Proofs.Compiled.Clauses
import FeedQuery.Proofs.Compiled.Grouping
import FeedQuery.Proofs.Compiled.Layout
import FeedQuery.Proofs.Compiled.Messages
import FeedQuery.Proofs.Compiled.Print
import FeedQuery.Proofs.Compiled.Schema
import FeedQuery.Proofs.Compiled.Suffix
import FeedQuery.Proofs.Completion
import FeedQuery.Proofs.Diagnostics
import FeedQuery.Proofs.Http
import FeedQuery.Proofs.Program
import FeedQuery.Proofs.Row.Dotted
import FeedQuery.Proofs.Row.Leaves
import FeedQuery.Proofs.Session.Intact
import FeedQuery.Proofs.Session.Profile
import FeedQuery.Proofs.Session.Report
import FeedQuery.Proofs.Table
import FeedQuery.Proofs.Table.Render
import FeedQuery.Proofs.Text.Casing
import FeedQuery.Proofs.Token.Cover
import FeedQuery.Proofs.Trace.Marks
import FeedQuery.Proofs.Tree.Json
