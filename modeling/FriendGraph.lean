import FriendGraph.Main
import FriendGraph.Notification.Queue
import FriendGraph.Session
import FriendGraph.Store.Seeding
import FriendGraph.Proofs.Drift
import FriendGraph.Proofs.Atomicity
import FriendGraph.Proofs.Blocking
import FriendGraph.Proofs.PairShape
import FriendGraph.Proofs.Questions
import FriendGraph.Proofs.Import
import FriendGraph.Proofs.Bonds
import FriendGraph.Proofs.Refinement
import FriendGraph.Proofs.Announcement
import FriendGraph.Proofs.History
import FriendGraph.Proofs.Locality
import FriendGraph.Proofs.Confinement
import FriendGraph.Proofs.Commuting
import FriendGraph.Proofs.Convergence
import FriendGraph.Proofs.Adding
import FriendGraph.Proofs.Removing
import FriendGraph.Proofs.Barring
import FriendGraph.Proofs.Requests
import FriendGraph.Proofs.Hops
import FriendGraph.Proofs.Fetching
import FriendGraph.Proofs.Overlay
import FriendGraph.Proofs.Paths
import FriendGraph.Proofs.Distinct
import FriendGraph.Proofs.Sources
import FriendGraph.Proofs.Settings
import FriendGraph.Proofs.Asking
import FriendGraph.Proofs.Locating
import FriendGraph.Proofs.Parameters
import FriendGraph.Proofs.Written
import FriendGraph.Proofs.Payload
import FriendGraph.Proofs.Queueing
import FriendGraph.Proofs.Forms
import FriendGraph.Proofs.FirstPage
import FriendGraph.Proofs.Grammar
import FriendGraph.Proofs.Reading
import FriendGraph.Proofs.Decoding
import FriendGraph.Proofs.Spelling
import FriendGraph.Proofs.Variables
import FriendGraph.Proofs.Batching
