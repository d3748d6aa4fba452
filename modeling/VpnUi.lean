import VpnUi.Address.BlockAllocation
import VpnUi.Address.BlockSpec
import VpnUi.Address.ClientIp
import VpnUi.Address.Normalize
import VpnUi.Address.NormalizeSpec
import VpnUi.Address.Range
import VpnUi.Address.Windows
import VpnUi.BackEnd.Evolution
import VpnUi.BackEnd.Frames
import VpnUi.BackEnd.Generators
import VpnUi.BackEnd.Maintenance
import VpnUi.BackEnd.Mirror
import VpnUi.BackEnd.MirrorRuns
import VpnUi.BackEnd.Planned
import VpnUi.BackEnd.Prerouting
import VpnUi.Daemon.ProcManager
import VpnUi.Daemon.Restarts
import VpnUi.Daemon.Supervision
import VpnUi.Form.Reopen
import VpnUi.Foundation.Interleave
import VpnUi.Foundation.Json
import VpnUi.Foundation.Marshal
import VpnUi.Foundation.NameSupply
import VpnUi.Foundation.Regex
import VpnUi.Foundation.Script
import VpnUi.Foundation.Table
import VpnUi.Foundation.Transition
import VpnUi.OpenVpn.BlockFiles
import VpnUi.OpenVpn.ConnectHook
import VpnUi.OpenVpn.DeviceCap
import VpnUi.OpenVpn.HookFiles
import VpnUi.OpenVpn.OwnSession
import VpnUi.OpenVpn.SessionId
import VpnUi.Panel.Checked
import VpnUi.Panel.CheckedSpec
import VpnUi.Panel.Client
import VpnUi.Panel.CopyClients
import VpnUi.Panel.CopyNames
import VpnUi.Panel.Expansion
import VpnUi.Panel.Inbound
import VpnUi.Panel.Limits
import VpnUi.Panel.Listeners
import VpnUi.Panel.Logins
import VpnUi.Panel.Machine
import VpnUi.Panel.Operations
import VpnUi.Panel.OperationsSpec
import VpnUi.Panel.Passwords
import VpnUi.Panel.Separation
import VpnUi.Panel.Teardown
import VpnUi.Panel.TunnelAddress
import VpnUi.Panel.VpnRange
import VpnUi.Panel.VpnRangeSpec
import VpnUi.Radius.Alias
import VpnUi.Radius.Auth
import VpnUi.Radius.BlankPassword
import VpnUi.Radius.Conservation
import VpnUi.Radius.Coverage
import VpnUi.Radius.Identity
import VpnUi.Radius.Isolation
import VpnUi.Radius.Lookup
import VpnUi.Radius.UserLimitCap
import VpnUi.Server.ImportDb
import VpnUi.Server.ImportSafety
import VpnUi.Server.LegacyDb
import VpnUi.Store.Accounts
import VpnUi.Store.AddTraffic
import VpnUi.Store.Background
import VpnUi.Store.Bulk
import VpnUi.Store.BulkDelete
import VpnUi.Store.BulkSpec
import VpnUi.Store.Clocks
import VpnUi.Store.Concurrent
import VpnUi.Store.CopyFresh
import VpnUi.Store.Correspondence
import VpnUi.Store.Credit
import VpnUi.Store.Database
import VpnUi.Store.Depleted
import VpnUi.Store.DepletedSpec
import VpnUi.Store.Effects
import VpnUi.Store.Enforced
import VpnUi.Store.Failure
import VpnUi.Store.FormSave
import VpnUi.Store.Frozen
import VpnUi.Store.KeyedClient
import VpnUi.Store.Mirror
import VpnUi.Store.MirrorBulk
import VpnUi.Store.MirrorRemoval
import VpnUi.Store.MirrorSteps
import VpnUi.Store.MirrorTraffic
import VpnUi.Store.Renewal
import VpnUi.Store.Requests
import VpnUi.Store.SetterSpec
import VpnUi.Store.Telegram
import VpnUi.Store.TrafficCrash
import VpnUi.Store.TrafficJob
import VpnUi.Sub.Agreement
import VpnUi.Sub.LinkEndpoints
import VpnUi.Sub.Links
import VpnUi.Sub.Profiles
import VpnUi.Sub.SameEndpoints
import VpnUi.Sub.Subscription
import VpnUi.WebSocket.Deadlock
import VpnUi.WebSocket.Delivery
import VpnUi.WebSocket.Hub
import VpnUi.WebSocket.Zombie
import VpnUi.Xray.Config
import VpnUi.Xray.ManualStop
import VpnUi.Xray.Service
import VpnUi.Xray.SingleCore
import VpnUi.Xray.SkippedRestart
import VpnUi.Xray.Routing
import VpnUi.Xray.Stats
import VpnUi.Radius.KillSessions
import VpnUi.Radius.RoutingMap
import VpnUi.Job.ClientIps
import VpnUi.Job.IpLimitRuns
import VpnUi.Job.AccessLog
import VpnUi.Job.IpLimitClock
import VpnUi.Foundation.Like
import VpnUi.Foundation.Fields
import VpnUi.Foundation.Float64
import VpnUi.Job.IpLimit
import VpnUi.Panel.ClientUrl
import VpnUi.BackEnd.Validation
import VpnUi.Form.XHttp
import VpnUi.Geo.Guard
import VpnUi.Sub.Remark
import VpnUi.Sub.ExternalEntries
import VpnUi.Sub.ClashProfile
import VpnUi.Sub.EntryIndependence
import VpnUi.Sub.ClashNames
import VpnUi.Store.CredentialSearch
import VpnUi.Store.Migration
import VpnUi.Store.MigrationDomains
import VpnUi.Store.MigrationRows
import VpnUi.Store.MigrationClients
import VpnUi.Store.MigrationMeaning
import VpnUi.Geo.Files
import VpnUi.Geo.Downloads
import VpnUi.Geo.Resources
import VpnUi.Geo.Consistency
import VpnUi.Foundation.Encoder
import VpnUi.Xray.Generate
import VpnUi.Xray.MapOrder
import VpnUi.Xray.Backstop
import VpnUi.Update.Version
import VpnUi.Address.Canonical
import VpnUi.Foundation.TextSearch
import VpnUi.Nft.CounterText
import VpnUi.Server.AutoHttps
import VpnUi.Sub.SearchOrder
import VpnUi.Server.Seeder
import VpnUi.BackEnd.Modprobe
import VpnUi.BackEnd.Bootloader
import VpnUi.Foundation.JsonSyntax
import VpnUi.Foundation.JsonReader
import VpnUi.Foundation.JsonCompact
import VpnUi.Xray.Template
import VpnUi.Update.SelfUpdate
import VpnUi.Settings.Runs
import VpnUi.Radius.ClientAddress
import VpnUi.Telegram.Callbacks
import VpnUi.Access.Sessions
import VpnUi.Job.LdapSync
import VpnUi.Xray.ClientPath
