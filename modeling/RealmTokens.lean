import RealmTokens.Cluster.Directory
import RealmTokens.Cluster.Discovery
import RealmTokens.Cluster.Flight
import RealmTokens.Cluster.Validation
import RealmTokens.Digest.Fingerprint
import RealmTokens.Digest.Sha256
import RealmTokens.Disk.Basic
import RealmTokens.Disk.Fault
import RealmTokens.Disk.Path
import RealmTokens.Disk.Protocol
import RealmTokens.Distinct
import RealmTokens.Domain.Ascii
import RealmTokens.Domain.Characters
import RealmTokens.Domain.HostName
import RealmTokens.Domain.Label
import RealmTokens.Domain.Mapping
import RealmTokens.Domain.Punycode
import RealmTokens.Exchange.Client
import RealmTokens.Exchange.Message
import RealmTokens.Exchange.Status
import RealmTokens.Failure
import RealmTokens.Json.Basic
import RealmTokens.Json.Decode
import RealmTokens.Json.Printer
import RealmTokens.Json.Reader
import RealmTokens.Json.Text
import RealmTokens.Proofs.Cluster.Answers
import RealmTokens.Proofs.Cluster.AuthorityHosts
import RealmTokens.Proofs.Cluster.History
import RealmTokens.Proofs.Cluster.LoneCall
import RealmTokens.Proofs.Cluster.PreferredHost
import RealmTokens.Proofs.Cluster.SingleFlight
import RealmTokens.Proofs.Cluster.Symmetry
import RealmTokens.Proofs.Cluster.Validations
import RealmTokens.Proofs.Disk.Calls
import RealmTokens.Proofs.Disk.Paths
import RealmTokens.Proofs.Disk.Resolution
import RealmTokens.Proofs.Domain.Names
import RealmTokens.Proofs.Domain.Punycode
import RealmTokens.Proofs.Exchange.Answers
import RealmTokens.Proofs.Json.Documents
import RealmTokens.Proofs.Json.Records
import RealmTokens.Proofs.Json.Strings
import RealmTokens.Proofs.Json.Texts
import RealmTokens.Proofs.Lists
import RealmTokens.Proofs.Realm.Legs
import RealmTokens.Proofs.Realm.Search
import RealmTokens.Proofs.Realm.Trust
import RealmTokens.Proofs.Store.CrashAtomicity
import RealmTokens.Proofs.Store.Persistence
import RealmTokens.Proofs.Store.RoundTrip
import RealmTokens.Proofs.Store.Saving
import RealmTokens.Proofs.Store.Snapshot
import RealmTokens.Proofs.Text.Characters
import RealmTokens.Proofs.Text.Decimal
import RealmTokens.Proofs.Text.Lowercase
import RealmTokens.Proofs.Time.Calendar
import RealmTokens.Proofs.Time.InstantText
import RealmTokens.Proofs.Token.Codec
import RealmTokens.Proofs.Token.Collision
import RealmTokens.Proofs.Token.Filing
import RealmTokens.Proofs.Url.Addresses
import RealmTokens.Proofs.Url.Hosts
import RealmTokens.Realm.Registration
import RealmTokens.Realm.Trust
import RealmTokens.Realm.WebFinger
import RealmTokens.Settings
import RealmTokens.Store.Basic
import RealmTokens.Store.Entries
import RealmTokens.Store.Query
import RealmTokens.Store.Snapshot
import RealmTokens.Text.Blank
import RealmTokens.Text.CanonicalForms
import RealmTokens.Text.CodePoints
import RealmTokens.Text.Composition
import RealmTokens.Text.Digits
import RealmTokens.Text.LetterCase
import RealmTokens.Text.Lowercase
import RealmTokens.Text.Quoted
import RealmTokens.Text.Utf8
import RealmTokens.Text.Visible
import RealmTokens.Time.Calendar
import RealmTokens.Time.Instant
import RealmTokens.Time.InstantText
import RealmTokens.Time.Span
import RealmTokens.Token.Codec
import RealmTokens.Token.Entry
import RealmTokens.Token.Key
import RealmTokens.Url.Address
import RealmTokens.Url.Basic
import RealmTokens.Url.Edit
import RealmTokens.Url.Host
import RealmTokens.Url.Parse
import RealmTokens.Url.Path
import RealmTokens.Url.Percent
import RealmTokens.Proofs.Disk.Ways
import RealmTokens.Proofs.Store.Neighbours
import RealmTokens.Proofs.Store.Writable
import RealmTokens.Proofs.Store.Delegation
import RealmTokens.Proofs.Exchange.Correlation
import RealmTokens.Proofs.Exchange.Policy
import RealmTokens.Proofs.Url.Authorities
import RealmTokens.Proofs.Realm.Links
import RealmTokens.Proofs.Domain.ComparedForms
import RealmTokens.Proofs.Domain.HostLists
import RealmTokens.Proofs.Json.Fronts
import RealmTokens.Proofs.Store.TornSnapshot
import RealmTokens.Proofs.Store.UserClearing
import RealmTokens.Proofs.Disk.Bits
import RealmTokens.Proofs.Store.Privacy
import RealmTokens.Proofs.Text.WordEnds
import RealmTokens.Proofs.Token.Spelling
import RealmTokens.Proofs.Time.Sums
import RealmTokens.Proofs.Store.Entries
import RealmTokens.Proofs.Store.Expiry
import RealmTokens.Proofs.Cluster.RepeatedRewriting
import RealmTokens.Proofs.Store.Classification
import RealmTokens.Proofs.Url.Assembled
import RealmTokens.Proofs.Url.Forms
import RealmTokens.Proofs.Domain.Reread
import RealmTokens.Proofs.Domain.Tables
import RealmTokens.Proofs.Domain.Capitals
import RealmTokens.Proofs.Cluster.DiscoveryQuestions
import RealmTokens.Proofs.Url.Paths
import RealmTokens.Proofs.Realm.RegistrationUrls
import RealmTokens.Proofs.Realm.Domains
import RealmTokens.Proofs.Domain.Ideographs
import RealmTokens.Proofs.Realm.WebFingerUrls
import RealmTokens.Proofs.Settings.Reloading
