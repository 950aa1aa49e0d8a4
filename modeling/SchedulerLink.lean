import SchedulerLink.Main
import SchedulerLink.Rehearsal.Stage
import SchedulerLink.Proofs.Scene
import SchedulerLink.Proofs.StageScene
import SchedulerLink.Proofs.Opening
import SchedulerLink.Proofs.Connecting
import SchedulerLink.Proofs.Course
import SchedulerLink.Proofs.Budget
import SchedulerLink.Proofs.Resending
import SchedulerLink.Proofs.Deeds
import SchedulerLink.Proofs.Custody
import SchedulerLink.Proofs.Holding
import SchedulerLink.Proofs.Alike
import SchedulerLink.Proofs.Restart
import SchedulerLink.Proofs.Fuel
import SchedulerLink.Proofs.Abandoning
import SchedulerLink.Proofs.Json.Fields
import SchedulerLink.Proofs.Json.Number
import SchedulerLink.Proofs.Json.Spelling
import SchedulerLink.Proofs.Json.RoundTrip
import SchedulerLink.Proofs.Json.Layout
import SchedulerLink.Proofs.Json.Skipping
import SchedulerLink.Proofs.Json.Wording
import SchedulerLink.Proofs.Json.Parts
import SchedulerLink.Proofs.Serverset.Carrying
import SchedulerLink.Proofs.Serverset.Unpacking
import SchedulerLink.Proofs.Codec.Envelope
import SchedulerLink.Proofs.Codec.Names
import SchedulerLink.Proofs.Codec.Call
import SchedulerLink.Proofs.Codec.Reply
import SchedulerLink.Proofs.Codec.Acceptance
import SchedulerLink.Proofs.Codec.Keeping
import SchedulerLink.Proofs.Numbering
import SchedulerLink.Proofs.Rounds
import SchedulerLink.Proofs.Destination
import SchedulerLink.Proofs.Failover
import SchedulerLink.Proofs.Correspondence
import SchedulerLink.Proofs.StageCorrespondence
import SchedulerLink.Proofs.Fitting
import SchedulerLink.Proofs.Padding
import SchedulerLink.Proofs.Answering
import SchedulerLink.Proofs.Discovery
import SchedulerLink.Proofs.Serverset.Inspection
import SchedulerLink.Proofs.Serverset.Election
import SchedulerLink.Proofs.Serverset.Polling
import SchedulerLink.Proofs.Serverset.Spoiling
import SchedulerLink.Proofs.Serverset.Registries
import SchedulerLink.Proofs.Ending
import SchedulerLink.Proofs.Timeless
import SchedulerLink.Proofs.LongerWait
import SchedulerLink.Proofs.Meaning
import SchedulerLink.Proofs.Remembering
import SchedulerLink.Proofs.Latency
import SchedulerLink.Proofs.Backoff
import SchedulerLink.Proofs.Tries
import SchedulerLink.Proofs.Reopening
import SchedulerLink.Proofs.Capping
import SchedulerLink.Proofs.Channel.Headers
import SchedulerLink.Proofs.Command.Modes
import SchedulerLink.Proofs.Command.Calling
import SchedulerLink.Proofs.Http.Delivering
import SchedulerLink.Proofs.Http.Performing
import SchedulerLink.Proofs.Http.Buffering
import SchedulerLink.Proofs.Text.Words
import SchedulerLink.Proofs.Login.Layout
import SchedulerLink.Proofs.Login.Blocks
