import ModAuthOpenidc.IndexChain
import ModAuthOpenidc.ExpiringMap
import ModAuthOpenidc.KeyedList
import ModAuthOpenidc.Base64Url
import ModAuthOpenidc.Base64
import ModAuthOpenidc.ScriptLiteral
import ModAuthOpenidc.Cache.Shm
import ModAuthOpenidc.Cache.ShmInvariant
import ModAuthOpenidc.Cache.ShmCalls
import ModAuthOpenidc.Cache.ShmReachable
import ModAuthOpenidc.Cache.ShmRefinement
import ModAuthOpenidc.Json
import ModAuthOpenidc.Text
import ModAuthOpenidc.Http.Cookie
import ModAuthOpenidc.Http.Browser
import ModAuthOpenidc.Session.Store
import ModAuthOpenidc.Session.Logout
import ModAuthOpenidc.Proto.State
import ModAuthOpenidc.Proto.StateBinding
import ModAuthOpenidc.CaseTable
import ModAuthOpenidc.Proto.IdToken
import ModAuthOpenidc.Proto.Response
import ModAuthOpenidc.Proto.Provenance
import ModAuthOpenidc.Proto.Acceptance
import ModAuthOpenidc.Session.State
import ModAuthOpenidc.Session.Caches
import ModAuthOpenidc.Proto.Userinfo
import ModAuthOpenidc.Handle.Refresh
import ModAuthOpenidc.Handle.Userinfo
import ModAuthOpenidc.Handle.Response
import ModAuthOpenidc.Handle.Requests
import ModAuthOpenidc.Handle.Identity
import ModAuthOpenidc.Handle.Rotation
import ModAuthOpenidc.Handle.Sharing
import ModAuthOpenidc.Handle.Interleaving
import ModAuthOpenidc.Handle.TokenRecord
import ModAuthOpenidc.OAuth.Token
import ModAuthOpenidc.OAuth.Runs
import ModAuthOpenidc.SecondaryIndex
import ModAuthOpenidc.Handle.LogoutIndex
import ModAuthOpenidc.Util.Jwt
import ModAuthOpenidc.Cache.Facade
import ModAuthOpenidc.Handle.RefreshCallers
import ModAuthOpenidc.Handle.RefreshRace
import ModAuthOpenidc.Handle.RefreshOnce
import ModAuthOpenidc.Scrub
import ModAuthOpenidc.Http.ChunkedCookie
import ModAuthOpenidc.Http.Form
import ModAuthOpenidc.WebUrl
import ModAuthOpenidc.Redirect
import ModAuthOpenidc.ReplayGuard
import ModAuthOpenidc.Handle.Backchannel
import ModAuthOpenidc.Handle.Replay
import ModAuthOpenidc.Session.RoundTrip
import ModAuthOpenidc.Handle.Inactivity
import ModAuthOpenidc.Ledger
import ModAuthOpenidc.Metrics.Document
import ModAuthOpenidc.Metrics.Counters
import ModAuthOpenidc.Metrics.Merge
import ModAuthOpenidc.Metrics.Conservation
import ModAuthOpenidc.Cache.ShmEviction
import ModAuthOpenidc.WordExpr
import ModAuthOpenidc.Cache.ShmLayout
import ModAuthOpenidc.Cache.KeySize
import ModAuthOpenidc.Throttle
import ModAuthOpenidc.Metadata.Files
import ModAuthOpenidc.Metadata.Jwks
import ModAuthOpenidc.Metadata.Providers
import ModAuthOpenidc.Metadata.ProviderSafety
import ModAuthOpenidc.Proto.Jwks
import ModAuthOpenidc.FileTable
import ModAuthOpenidc.Cache.File
import ModAuthOpenidc.Cache.FileNames
import ModAuthOpenidc.Cache.FileRuns
import ModAuthOpenidc.Proto.StateCookies
import ModAuthOpenidc.Http.CookieLimit
import ModAuthOpenidc.Handle.RefreshAgreement
import ModAuthOpenidc.TextSearch
import ModAuthOpenidc.Util.Query
import ModAuthOpenidc.Http.FormEncode
import ModAuthOpenidc.Http.StripCookies
import ModAuthOpenidc.Http.RedactBody
import ModAuthOpenidc.Http.RedactJson
import ModAuthOpenidc.Http.RedactSecrets
import ModAuthOpenidc.Handle.Authz
import ModAuthOpenidc.Handle.Access
import ModAuthOpenidc.Handle.Admission
import ModAuthOpenidc.Words
import ModAuthOpenidc.Util.Appinfo
import ModAuthOpenidc.Util.AppinfoDecode
import ModAuthOpenidc.Util.AppinfoClash
import ModAuthOpenidc.Cache.Timeouts
import ModAuthOpenidc.Proto.KeySelection
import ModAuthOpenidc.Proto.Audience
import ModAuthOpenidc.Proto.CompositeClaims
import ModAuthOpenidc.Metrics.Recorder
import ModAuthOpenidc.Proto.RequestParams
import ModAuthOpenidc.Proto.RequestConservation
import ModAuthOpenidc.Handle.Discovery
import ModAuthOpenidc.Handle.DiscoveryPage
import ModAuthOpenidc.Handle.DiscoveryResponse
import ModAuthOpenidc.Util.AppinfoTables
import ModAuthOpenidc.Util.Base64
import ModAuthOpenidc.Util.Html
import ModAuthOpenidc.SipHash
import ModAuthOpenidc.Cache.ShmSipHash
import ModAuthOpenidc.Util.AppinfoLatin1
import ModAuthOpenidc.Cfg.HexKey
import ModAuthOpenidc.ByteBuffer
import ModAuthOpenidc.Replacement
import ModAuthOpenidc.Util.PcreSubst
import ModAuthOpenidc.Exposition
import ModAuthOpenidc.ExpositionWriter
import ModAuthOpenidc.Metrics.Prometheus
import ModAuthOpenidc.Metrics.PrometheusRows
import ModAuthOpenidc.Metrics.Produced
import ModAuthOpenidc.Metrics.PrometheusEntries
import ModAuthOpenidc.Metrics.PrometheusNames
import ModAuthOpenidc.Metrics.PrometheusFaithful
import ModAuthOpenidc.Histories
import ModAuthOpenidc.Threads
import ModAuthOpenidc.Cache.RedisPool
import ModAuthOpenidc.Cache.RedisCustody
import ModAuthOpenidc.Cache.RedisSafety
import ModAuthOpenidc.Http.Curl
import ModAuthOpenidc.Http.CurlPool
import ModAuthOpenidc.Http.PostBody
