import AssetCache.Asset.MessageJson
import AssetCache.Asset.Resolver
import AssetCache.Client
import AssetCache.Store.HitRate
import AssetCache.Proofs.Program.Contract
import AssetCache.Proofs.Program.History
import AssetCache.Proofs.Service.Interleaving
import AssetCache.Proofs.Digest.Hash
import AssetCache.Proofs.Entry.BlobPath
import AssetCache.Proofs.Digest.Registry
import AssetCache.Proofs.Service.Integrity
import AssetCache.Proofs.Store.Steps
import AssetCache.Proofs.Asset.Steps
import AssetCache.Proofs.Asset.BufferCap
import AssetCache.Proofs.Asset.Download
import AssetCache.Proofs.Service.Settled
import AssetCache.Proofs.Asset.Report
import AssetCache.Proofs.Asset.Hit
import AssetCache.Proofs.Service.Marks
import AssetCache.Proofs.Service.Entries
import AssetCache.Proofs.Service.Refusal
import AssetCache.Proofs.Service.Updates
import AssetCache.Proofs.Asset.FirstSuccess
import AssetCache.Proofs.Store.Notes
import AssetCache.Proofs.Asset.Footprint
import AssetCache.Proofs.Asset.Streaming
import AssetCache.Proofs.Store.ReadBack
import AssetCache.Proofs.Store.Decision
import AssetCache.Proofs.Store.Location
import AssetCache.Proofs.Store.Names
import AssetCache.Proofs.Service.Turns
import AssetCache.Proofs.Service.WriteThrough
import AssetCache.Proofs.Service.Origin
import AssetCache.Proofs.Store.Reference
import AssetCache.Proofs.Store.Refinement
import AssetCache.Proofs.Asset.Candidates
import AssetCache.Proofs.Asset.Lookup
import AssetCache.Proofs.Asset.Persistence
import AssetCache.Proofs.Asset.HiddenSizes
import AssetCache.Proofs.Service.Admission
import AssetCache.Proofs.Text.Utf8
import AssetCache.Proofs.Text.Base64
import AssetCache.Proofs.Text.Hex
import AssetCache.Proofs.Digest.Checksum
import AssetCache.Proofs.Digest.Registration
import AssetCache.Proofs.Entry.InstanceKey
import AssetCache.Proofs.Store.ActionResults
import AssetCache.Proofs.Digest.Chunks
import AssetCache.Proofs.Asset.ChecksumName
import AssetCache.Proofs.Asset.LastChecksum
import AssetCache.Proofs.Asset.Substitution
import AssetCache.Proofs.Asset.MessageJson
import AssetCache.Proofs.Text.Utf8Reading
import AssetCache.Proofs.Text.Blank
import AssetCache.Proofs.Text.Decimal
import AssetCache.Proofs.Config.Environment
import AssetCache.Proofs.Config.Client
import AssetCache.Proofs.Digest.Recognition
