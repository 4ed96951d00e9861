import TrafficReplay.Main
import TrafficReplay.Proofs.Loading.Names
import TrafficReplay.Proofs.Loading.Reading
import TrafficReplay.Proofs.Loading.Follows
import TrafficReplay.Proofs.Loading.Walk
import TrafficReplay.Proofs.Loading.Files
import TrafficReplay.Proofs.Loading.GlobalRules
import TrafficReplay.Proofs.Loading.Demands
import TrafficReplay.Proofs.Replay.Conservation
import TrafficReplay.Proofs.Traffic.Freezing
import TrafficReplay.Proofs.Replay.Acceptance
import TrafficReplay.Proofs.Loading.Locking
import TrafficReplay.Proofs.Replay.Accounts
import TrafficReplay.Proofs.Replay.Shifts
import TrafficReplay.Proofs.Loading.Interning
import TrafficReplay.Proofs.Replay.Verifying
import TrafficReplay.Proofs.Loading.SideBySide
import TrafficReplay.Proofs.Loading.AllowList
import TrafficReplay.Proofs.Loading.Sections
import TrafficReplay.Proofs.Loading.Mirroring
import TrafficReplay.Proofs.Traffic.Batch
import TrafficReplay.Proofs.Replay.Targets
import TrafficReplay.Proofs.Replay.Rationing
import TrafficReplay.Proofs.Loading.Stages
import TrafficReplay.Proofs.Loading.Alongside
import TrafficReplay.Proofs.Loading.AtOnce
import TrafficReplay.Proofs.Loading.Directories
import TrafficReplay.Proofs.Loading.Rejection
import TrafficReplay.Proofs.Traffic.Refusals
import TrafficReplay.Proofs.Loading.Origins
import TrafficReplay.Proofs.Loading.Precedence
import TrafficReplay.Proofs.Loading.Sizes
import TrafficReplay.Proofs.Replay.Rounding
import TrafficReplay.Proofs.Replay.Pacing
import TrafficReplay.Proofs.Replay.Urls
import TrafficReplay.Proofs.Loading.RuleBlocks
import TrafficReplay.Proofs.Replay.ReportedEntries
import TrafficReplay.Proofs.Replay.Doubling
import TrafficReplay.Proofs.Replay.Exchanges
import TrafficReplay.Proofs.Replay.Recording
import TrafficReplay.Proofs.Replay.Schedule
import TrafficReplay.Proofs.Traffic.Keys
import TrafficReplay.Proofs.Replay.Bodies
import TrafficReplay.Proofs.Replay.TargetLists
import TrafficReplay.Proofs.Replay.Headers
import TrafficReplay.Proofs.Replay.RoundRobin
import TrafficReplay.Proofs.Loading.Openings
import TrafficReplay.Proofs.Loading.Listing
import TrafficReplay.Proofs.Traffic.RuleSets
import TrafficReplay.Proofs.Loading.FieldLists
import TrafficReplay.Proofs.Yaml.Views
import TrafficReplay.Proofs.Yaml.Unfolding
import TrafficReplay.Proofs.Loading.Levels
