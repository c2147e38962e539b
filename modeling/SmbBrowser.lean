import SmbBrowser.Base.Program
import SmbBrowser.Native.Accounting
import SmbBrowser.Native.Text
import SmbBrowser.Native.Header
import SmbBrowser.Native.Requests
import SmbBrowser.Native.FileHelpers
import SmbBrowser.Native.MessageIds
import SmbBrowser.Native.ReportedIds
import SmbBrowser.Native.AllocatedIds
import SmbBrowser.Native.SessionIds
import SmbBrowser.Native.DisjointIds
import SmbBrowser.Crypto.Aes
import SmbBrowser.Crypto.Sha256
import SmbBrowser.Base.Splice
import SmbBrowser.Base.KeyStream
import SmbBrowser.Crypto.Modes
import SmbBrowser.Native.Signing
import SmbBrowser.Native.Encryption
import SmbBrowser.Native.Transports
import SmbBrowser.Native.Connector
import SmbBrowser.Native.Layering
import SmbBrowser.Native.EncryptedRequests
import SmbBrowser.Native.Handshake
import SmbBrowser.Native.ErrorCodes
import SmbBrowser.Native.Establishment
import SmbBrowser.Native.ConnectPolicies
import SmbBrowser.Native.Exceptions
import SmbBrowser.Native.Throwing
import SmbBrowser.Native.NeverThrows
import SmbBrowser.Native.Handles
import SmbBrowser.Native.TransformRoundTrip
import SmbBrowser.Native.SignatureRoundTrip
import SmbBrowser.Native.CopyHandles
import SmbBrowser.Native.Nonces
import SmbBrowser.Native.ConnectProtocol
import SmbBrowser.Native.RequestLayout
import SmbBrowser.Native.ResponseBounds
import SmbBrowser.Base.Segments
import SmbBrowser.Core.Types
import SmbBrowser.Dfs.Paths
import SmbBrowser.Dfs.PathSegments
import SmbBrowser.Dfs.Client
import SmbBrowser.Dfs.Failover
import SmbBrowser.Dfs.CacheLookup
import SmbBrowser.Dfs.FoundThrough
import SmbBrowser.Dfs.Rebase
import SmbBrowser.Qt.Json
import SmbBrowser.Storage.Repositories
import SmbBrowser.Application.ConnectionService
import SmbBrowser.Application.Atomicity
import SmbBrowser.Application.Credentials
import SmbBrowser.Core.PathNormalizer
import SmbBrowser.Crypto.Sodium
import SmbBrowser.Application.ImportExport
import SmbBrowser.Application.RoundTrip
import SmbBrowser.Base.Transitions
import SmbBrowser.Application.OperationQueue
import SmbBrowser.Ui.CopyOrMove
import SmbBrowser.Ui.OpenFiles
import SmbBrowser.Base.FiniteMap
import SmbBrowser.Qt.Base64
import SmbBrowser.Credentials.Vault
import SmbBrowser.Credentials.VaultText
import SmbBrowser.Credentials.VaultMap
import SmbBrowser.Credentials.VaultFailures
import SmbBrowser.Base.Unicode
import SmbBrowser.Native.TextRoundTrip
import SmbBrowser.Base.Glob
import SmbBrowser.Native.Wildcard
import SmbBrowser.Native.Traces
import SmbBrowser.Native.Listing
import SmbBrowser.Native.CopyTiles
import SmbBrowser.Base.Links
import SmbBrowser.Native.EntryChains
import SmbBrowser.Native.ExtendedAttributes
import SmbBrowser.Native.EntryLists
import SmbBrowser.Application.OperationStates
import SmbBrowser.Ui.Navigation
import SmbBrowser.Client.NativeSmbClient
import SmbBrowser.Client.Traces
import SmbBrowser.Client.Download
import SmbBrowser.Base.BigEndian
import SmbBrowser.Crypto.Rfc4493
import SmbBrowser.Crypto.CcmBounds
import SmbBrowser.Native.HeaderRoundTrip
import SmbBrowser.Native.NegotiateContexts
import SmbBrowser.Native.CreditCharges
import SmbBrowser.Base.Der
import SmbBrowser.Native.SpnegoToken
import SmbBrowser.Native.SpnegoRoundTrip
import SmbBrowser.Native.NtlmMessages
import SmbBrowser.Native.NtlmCrypto
import SmbBrowser.Native.DirectTcp
import SmbBrowser.Native.TcpConnections
import SmbBrowser.Native.AuthenticatedRequests
import SmbBrowser.Native.RpcBounds
import SmbBrowser.Native.RpcRequests
import SmbBrowser.Native.ShareReservations
import SmbBrowser.Base.StandsAt
import SmbBrowser.Native.Reading
import SmbBrowser.Native.ShareRoundTrip
import SmbBrowser.Dfs.Resolver
import SmbBrowser.Native.ReferralRoundTrip
import SmbBrowser.Dfs.ConsumedPrefix
import SmbBrowser.Base.Guarded
import SmbBrowser.Dfs.Rename
import SmbBrowser.Dfs.CacheLifetime
import SmbBrowser.Application.ImportIds
import SmbBrowser.Base.Uri
import SmbBrowser.Core.UriRoundTrip
import SmbBrowser.Native.InterimReplies
import SmbBrowser.Dfs.Idempotence
import SmbBrowser.Core.Identity
import SmbBrowser.Native.TargetInfo
import SmbBrowser.Base.BreadthFirst
import SmbBrowser.Base.Eviction
import SmbBrowser.Base.Replacement
import SmbBrowser.Core.LogSanitizer
import SmbBrowser.Core.SecretMasking
import SmbBrowser.Application.RecursiveSearch
import SmbBrowser.Application.CacheDirectory
import SmbBrowser.Application.TempFileCache
import SmbBrowser.Core.SecretOverlaps
import SmbBrowser.Base.FileTree
import SmbBrowser.Native.FileServer
import SmbBrowser.Native.RecursiveDelete
import SmbBrowser.Native.LinkDelete
import SmbBrowser.Base.Refinement
import SmbBrowser.Native.FileSystem
import SmbBrowser.Client.Shares
import SmbBrowser.Client.Upload
import SmbBrowser.Client.CopyFiles
import SmbBrowser.Client.MoveFiles
import SmbBrowser.Client.Granting
import SmbBrowser.Base.IteratedHash
import SmbBrowser.Crypto.Md
import SmbBrowser.Crypto.HashCollisions
import SmbBrowser.Native.DerivedKeys
import SmbBrowser.Native.NtlmV2TokenProvider
import SmbBrowser.Native.NtlmAgreement
import SmbBrowser.Base.Interleaving
import SmbBrowser.Dfs.Transfer
import SmbBrowser.Dfs.Concurrent
import SmbBrowser.Dfs.Namespace
