import SemanticNetwork.ElementType.Named
import SemanticNetwork.ElementType.Text
import SemanticNetwork.Memory.Context
import SemanticNetwork.Memory.Report
import SemanticNetwork.Pattern.Cursor
import SemanticNetwork.Payload.Text
import SemanticNetwork.Payload.Wire
import SemanticNetwork.Wire.Json
import SemanticNetwork.Adjacency
import SemanticNetwork.Proofs.Store.Tracking
import SemanticNetwork.Proofs.Store.Consistency
import SemanticNetwork.Proofs.Store.Erasure
import SemanticNetwork.Proofs.ElementType.Kinds
import SemanticNetwork.Proofs.ElementType.Stored
import SemanticNetwork.Proofs.Run
import SemanticNetwork.Proofs.Store.Creation
import SemanticNetwork.Proofs.Template.Growth
import SemanticNetwork.Proofs.Store.Queries
import SemanticNetwork.Proofs.Network.Session
import SemanticNetwork.Proofs.Network.Contents
import SemanticNetwork.Proofs.Network.Generation
import SemanticNetwork.Proofs.Template.Building
import SemanticNetwork.Proofs.Pattern.Rows
import SemanticNetwork.Proofs.Template.Valuation
import SemanticNetwork.Proofs.Template.Satisfaction
import SemanticNetwork.Proofs.Template.Matching
import SemanticNetwork.Proofs.Template.Search
import SemanticNetwork.Proofs.Template.Origins
import SemanticNetwork.Proofs.Template.Making
import SemanticNetwork.Proofs.Store.Dependency
import SemanticNetwork.Proofs.Network.Erasure
import SemanticNetwork.Proofs.Memory.Naming
import SemanticNetwork.Proofs.Memory.Usage
import SemanticNetwork.Proofs.Network.Unravelling
import SemanticNetwork.Proofs.Memory.Labels
import SemanticNetwork.Proofs.Template.Announcement
import SemanticNetwork.Proofs.Memory.Following
import SemanticNetwork.Proofs.Memory.Attaching
import SemanticNetwork.Proofs.Memory.Lookup
import SemanticNetwork.Proofs.Memory.Names
import SemanticNetwork.Proofs.Memory.Refinement
import SemanticNetwork.Proofs.Memory.Reaping
import SemanticNetwork.Proofs.Template.Parameters
import SemanticNetwork.Proofs.Event.Desk
import SemanticNetwork.Proofs.Event.Delivery
import SemanticNetwork.Proofs.Event.Registry
import SemanticNetwork.Proofs.Event.Ledger
import SemanticNetwork.Proofs.Network.Turns
import SemanticNetwork.Proofs.Network.Exhaustion
import SemanticNetwork.Proofs.Memory.Delivery
import SemanticNetwork.Proofs.Memory.Accounts
import SemanticNetwork.Proofs.Store.News
import SemanticNetwork.Proofs.Template.Reporting
import SemanticNetwork.Proofs.Network.Recording
import SemanticNetwork.Proofs.Network.Chronicle
import SemanticNetwork.Proofs.Memory.Chronicle
import SemanticNetwork.Proofs.Pattern.Triples
import SemanticNetwork.Proofs.Pattern.Quintuples
import SemanticNetwork.Proofs.Memory.Walking
import SemanticNetwork.Proofs.Memory.Latecomers
import SemanticNetwork.Proofs.Template.Interning
import SemanticNetwork.Proofs.Template.Rediscovery
import SemanticNetwork.Proofs.Template.Reuse
import SemanticNetwork.Proofs.Network.Recurrence
import SemanticNetwork.Proofs.Memory.Typing
import SemanticNetwork.Proofs.Network.Restoring
import SemanticNetwork.Proofs.Memory.Assigning
import SemanticNetwork.Proofs.Memory.Keeping
import SemanticNetwork.Proofs.Memory.Refusal
import SemanticNetwork.Proofs.Memory.Rollback
import SemanticNetwork.Proofs.Memory.Guarding
import SemanticNetwork.Proofs.Network.Batches
import SemanticNetwork.Proofs.Template.Relations
import SemanticNetwork.Proofs.Template.Foresight
import SemanticNetwork.Proofs.Template.Membership
import SemanticNetwork.Proofs.Template.Reconstruction
import SemanticNetwork.Proofs.Template.Faithfulness
import SemanticNetwork.Proofs.Network.Cloning
import SemanticNetwork.Proofs.Template.Within
import SemanticNetwork.Proofs.Memory.Seeding
import SemanticNetwork.Proofs.Payload.Rereading
import SemanticNetwork.Proofs.Template.Reordering
import SemanticNetwork.Proofs.Template.Ordering
import SemanticNetwork.Proofs.Template.Variables
import SemanticNetwork.Proofs.Template.Tables
