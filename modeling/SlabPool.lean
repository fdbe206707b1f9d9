import SlabPool.ItemPool.Session
import SlabPool.Shelf.Session
import SlabPool.Slab.Session
import SlabPool.Vacancies.Session
import SlabPool.Proofs.Accounting
import SlabPool.Proofs.Confluence
import SlabPool.Proofs.Exactness
import SlabPool.Proofs.GrowthRule
import SlabPool.Proofs.Mapping
import SlabPool.Proofs.Petition
import SlabPool.Proofs.Placement
import SlabPool.Proofs.Progression
import SlabPool.Proofs.Refinement
import SlabPool.Proofs.Renewal
import SlabPool.Proofs.Reservation
import SlabPool.Proofs.Restoration
import SlabPool.Proofs.Retirement
import SlabPool.Proofs.Shelving
import SlabPool.Proofs.Verdict
import SlabPool.Proofs.Frame
import SlabPool.Proofs.Tally
import SlabPool.Proofs.Sequence
import SlabPool.Proofs.Iteration
import SlabPool.Proofs.Alike
import SlabPool.Proofs.Clearance
import SlabPool.Proofs.Hint
import SlabPool.Proofs.Chronicle
import SlabPool.Proofs.Dimensions
import SlabPool.Proofs.RoundTrip
import SlabPool.Proofs.Agreement
import SlabPool.Proofs.Custody
