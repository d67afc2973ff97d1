import GrantKeeper.Claim.Basic
import GrantKeeper.Claim.Normal
import GrantKeeper.Claim.Stored
import GrantKeeper.Claim.Text
import GrantKeeper.Client.Basic
import GrantKeeper.Client.Directory
import GrantKeeper.Config.Arguments
import GrantKeeper.Config.Encoding
import GrantKeeper.Config.EnvFile
import GrantKeeper.Config.Option
import GrantKeeper.Config.Percent
import GrantKeeper.Config.Settings
import GrantKeeper.Config.Source
import GrantKeeper.Database.Address
import GrantKeeper.Database.Engine
import GrantKeeper.Database.Preparation
import GrantKeeper.Database.Query
import GrantKeeper.Database.Schema
import GrantKeeper.Failure
import GrantKeeper.Form.Checked
import GrantKeeper.Form.Field
import GrantKeeper.Grant.Authorization
import GrantKeeper.Grant.Invalidation
import GrantKeeper.Grant.Normal
import GrantKeeper.Grant.Rule
import GrantKeeper.Grant.ScopeSet
import GrantKeeper.Grant.Slot
import GrantKeeper.Grant.Token
import GrantKeeper.Introspection.ClaimTime
import GrantKeeper.Introspection.Decision
import GrantKeeper.Introspection.Verdict
import GrantKeeper.Journal
import GrantKeeper.Json.Reader
import GrantKeeper.Json.Writer
import GrantKeeper.Log.Level
import GrantKeeper.Log.Record
import GrantKeeper.Main
import GrantKeeper.Number.Binary64
import GrantKeeper.Number.Decimal
import GrantKeeper.Number.Reader
import GrantKeeper.Number.RealText
import GrantKeeper.Number.Shortest
import GrantKeeper.Number.Whole
import GrantKeeper.Service
import GrantKeeper.Startup
import GrantKeeper.Store.Basic
import GrantKeeper.Store.Column
import GrantKeeper.Store.Loaded
import GrantKeeper.Store.Lookup
import GrantKeeper.Store.Row
import GrantKeeper.Store.Saving
import GrantKeeper.Store.Written
import GrantKeeper.Text.Blank
import GrantKeeper.Text.Case
import GrantKeeper.Text.Digit
import GrantKeeper.Text.Pieces
import GrantKeeper.Text.Printable
import GrantKeeper.Text.Quoted
import GrantKeeper.Text.Word
import GrantKeeper.Time.Calendar
import GrantKeeper.Time.Epoch
import GrantKeeper.Time.Iso
import GrantKeeper.Time.Moment
import GrantKeeper.Time.Rfc3339
import GrantKeeper.Time.Timestamp
import GrantKeeper.Proofs.Number.Digits
import GrantKeeper.Proofs.Number.Rounding
import GrantKeeper.Proofs.Number.Shortest
import GrantKeeper.Proofs.Json.Number
import GrantKeeper.Proofs.Claim.Keys
import GrantKeeper.Proofs.Claim.Stored
import GrantKeeper.Proofs.Grant.NormalForm
import GrantKeeper.Proofs.Introspection.Active
import GrantKeeper.Proofs.Service.Introspection
import GrantKeeper.Proofs.Service.Revocation
import GrantKeeper.Proofs.Service.TokenLookup
import GrantKeeper.Proofs.Service.Hint
import GrantKeeper.Proofs.Claim.Parts
import GrantKeeper.Proofs.Claim.Writable
import GrantKeeper.Proofs.Claim.Reading
import GrantKeeper.Proofs.Service.Saving
import GrantKeeper.Proofs.Claim.Normal
import GrantKeeper.Proofs.Claim.Reordering
import GrantKeeper.Proofs.Json.Read
import GrantKeeper.Proofs.Claim.Codec
import GrantKeeper.Proofs.Time.Calendar
import GrantKeeper.Proofs.Time.IsoText
import GrantKeeper.Proofs.Number.Integral
import GrantKeeper.Proofs.Time.Epoch
import GrantKeeper.Proofs.Introspection.Stored
import GrantKeeper.Proofs.Service.StoredVerdict
import GrantKeeper.Proofs.Grant.AccessFields
import GrantKeeper.Proofs.Store.Loading
import GrantKeeper.Proofs.Service.ForeignRows
import GrantKeeper.Proofs.Introspection.Response
import GrantKeeper.Proofs.Service.Saved
import GrantKeeper.Proofs.Service.Scopes
import GrantKeeper.Proofs.Service.Editing
import GrantKeeper.Proofs.Service.ClaimColumns
import GrantKeeper.Proofs.Service.Clients
import GrantKeeper.Proofs.Service.Resaving
import GrantKeeper.Proofs.Service.Reordering
import GrantKeeper.Proofs.Service.Reachable
import GrantKeeper.Proofs.Json.Overlong
import GrantKeeper.Proofs.Claim.Lenient
import GrantKeeper.Proofs.Introspection.Window
import GrantKeeper.Proofs.Introspection.Projection
import GrantKeeper.Proofs.Store.Renaming
import GrantKeeper.Proofs.Service.Opacity
import GrantKeeper.Proofs.Introspection.ClaimFaults
import GrantKeeper.Proofs.Introspection.TimeSpellings
import GrantKeeper.Proofs.Introspection.Invalidation
import GrantKeeper.Proofs.Introspection.Copies
import GrantKeeper.Proofs.Service.Invalidation
import GrantKeeper.Proofs.Service.StoredRows
import GrantKeeper.Proofs.Config.Percent
import GrantKeeper.Proofs.Config.Credentials
