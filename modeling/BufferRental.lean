import BufferRental.Pool
import BufferRental.ClearMode
import BufferRental.Pool.Bucket
import BufferRental.Pool.Planned
import BufferRental.Pool.Registry
import BufferRental.Population
import BufferRental.Buffer
import BufferRental.Buffer.View
import BufferRental.Ownership
import BufferRental.Settings
import BufferRental.Pool.Visit
import BufferRental.Session
import BufferRental.Session.World
import BufferRental.Number.Binary64
import BufferRental.Element.Footprint
import BufferRental.Element.Kind
import BufferRental.Proofs.Custody
import BufferRental.Proofs.SessionCustody
import BufferRental.Proofs.SessionBalance
import BufferRental.Proofs.Growth
import BufferRental.Proofs.CutShort
import BufferRental.Proofs.ListView
import BufferRental.Proofs.Preservation
import BufferRental.Proofs.Shelves
import BufferRental.Proofs.Clearing
import BufferRental.Proofs.Spares
import BufferRental.Proofs.Agreement
import BufferRental.Proofs.Refusal
import BufferRental.Proofs.Stock
import BufferRental.Proofs.Relay
import BufferRental.Proofs.Reuse
import BufferRental.Proofs.Blame
import BufferRental.Proofs.LastOwner
import BufferRental.Proofs.KindsApart
import BufferRental.Proofs.ClearDecision
import BufferRental.Proofs.Admission
import BufferRental.Proofs.OneLoan
import BufferRental.Proofs.LengthsApart
import BufferRental.Proofs.CopyPaths
import BufferRental.Proofs.BulkCopy
import BufferRental.Proofs.GrantedLength
import BufferRental.Proofs.Consumption
import BufferRental.Proofs.ShortGrant
import BufferRental.Proofs.GrowthCost
import BufferRental.Proofs.SizeHint
import BufferRental.Proofs.Lockstep
import BufferRental.Proofs.Annotation
import BufferRental.Proofs.Chronicle
