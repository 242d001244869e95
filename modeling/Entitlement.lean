import Entitlement.Action.Lemmas
import Entitlement.CommandLine
import Entitlement.Main
import Entitlement.Files.Tree
import Entitlement.Proofs.EdgeLog.Agreement
import Entitlement.Proofs.EdgeLog.History
import Entitlement.Proofs.Roster.Agreement
import Entitlement.Proofs.Roster.Drawn
import Entitlement.Proofs.Roster.Listing
import Entitlement.Proofs.Roster.Refinement
import Entitlement.Proofs.Store.Soundness
import Entitlement.Proofs.Action.Reading
import Entitlement.Proofs.Action.Writing
import Entitlement.Proofs.Service.Operation
import Entitlement.Proofs.Service.Graph
import Entitlement.Proofs.Action.Answering
import Entitlement.Proofs.Loading.Ends
import Entitlement.Proofs.Loading.Exactness
import Entitlement.Proofs.Text.Lowering
import Entitlement.Proofs.Text.Digits
import Entitlement.Proofs.Yaml.Number
import Entitlement.Proofs.Credential.Base64
import Entitlement.Proofs.Calendar
import Entitlement.Proofs.Path
import Entitlement.Proofs.Delegation.Search
import Entitlement.Proofs.Acl.Exact
import Entitlement.Proofs.Acl.Roles
import Entitlement.Proofs.Delegation.Delegators
import Entitlement.Proofs.Acl.Dynamic
import Entitlement.Proofs.Acl.Turbine
import Entitlement.Proofs.Acl.SameAnswers
import Entitlement.Proofs.Store.Frame
import Entitlement.Proofs.Session.Freshness
import Entitlement.Proofs.Session.Invalidation
import Entitlement.Proofs.Roster.History
import Entitlement.Proofs.Action.Atomic
import Entitlement.Proofs.Granting.Atomicity
import Entitlement.Proofs.Granting.Replacement
import Entitlement.Proofs.Seed.Checking
import Entitlement.Proofs.Seed.Populating
import Entitlement.Proofs.Seed.Connecting
import Entitlement.Proofs.Seed.Application
import Entitlement.Proofs.Granting.LastCall
import Entitlement.Proofs.Seed.Bearing
import Entitlement.Proofs.Seed.Decision
import Entitlement.Proofs.Session.Derivation
import Entitlement.Proofs.Session.Opening
import Entitlement.Proofs.Session.History
import Entitlement.Proofs.Action.Composing
import Entitlement.Proofs.Action.Forwarding
import Entitlement.Proofs.Service.Failing
import Entitlement.Proofs.Action.Spending
import Entitlement.Proofs.Granting.Removal
import Entitlement.Proofs.Service.Creation
import Entitlement.Proofs.Store.Mirroring
import Entitlement.Proofs.Action.Matching
import Entitlement.Proofs.Service.Secrecy
import Entitlement.Proofs.Loading.Totality
import Entitlement.Proofs.Loading.Remaining
import Entitlement.Proofs.Loading.TwoEnds
import Entitlement.Proofs.Service.Departure
import Entitlement.Proofs.Delegation.Visits
import Entitlement.Proofs.Roster.Arranged
import Entitlement.Proofs.Acl.Order
import Entitlement.Proofs.Acl.Fresh
import Entitlement.Proofs.Store.Renaming
import Entitlement.Proofs.Service.Renaming
import Entitlement.Proofs.Service.Growth
import Entitlement.Proofs.Seed.Reapplying
import Entitlement.Proofs.Seed.Counting
import Entitlement.Proofs.Seed.Reordering
import Entitlement.Proofs.Roster.Combination
import Entitlement.Proofs.Action.Meeting
import Entitlement.Proofs.Granting.Exchange
import Entitlement.Proofs.Action.Hinging
import Entitlement.Proofs.Acl.Outdated
import Entitlement.Proofs.Store.Users
import Entitlement.Proofs.Password.Checking
import Entitlement.Proofs.Password.Setting
import Entitlement.Proofs.Password.History
import Entitlement.Proofs.Roster.Copies
import Entitlement.Proofs.Acl.Scopes
import Entitlement.Proofs.Acl.Stocked
import Entitlement.Proofs.Acl.AnyGroup
import Entitlement.Proofs.Store.Order
import Entitlement.Proofs.Service.Listing
import Entitlement.Proofs.Service.Anonymity
