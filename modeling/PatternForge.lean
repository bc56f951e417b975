import PatternForge.Workshop.Run
import PatternForge.Proofs.Dialogue
import PatternForge.Proofs.Course
import PatternForge.Proofs.Language
import PatternForge.Proofs.Tracing
import PatternForge.Proofs.Replay
import PatternForge.Proofs.Runs
import PatternForge.Proofs.Recorder
import PatternForge.Proofs.Hierarchy
import PatternForge.Proofs.Histories
import PatternForge.Proofs.Causality
import PatternForge.Proofs.Failure
import PatternForge.Proofs.Discipline
import PatternForge.Proofs.Planting
import PatternForge.Proofs.Canonical
import PatternForge.Proofs.Reseeding
import PatternForge.Proofs.Misbehaviour
import PatternForge.Proofs.Ancestry
import PatternForge.Proofs.Limit
import PatternForge.Proofs.Progress
import PatternForge.Proofs.Loading
import PatternForge.Proofs.Residues
import PatternForge.Proofs.Evenness
import PatternForge.Proofs.Containment
import PatternForge.Proofs.Scripting
import PatternForge.Proofs.FixedTrees
import PatternForge.Proofs.Period
import PatternForge.Proofs.Playback
import PatternForge.Proofs.Labels
import PatternForge.Proofs.Nesting
import PatternForge.Proofs.Pouring
import PatternForge.Proofs.Rewriting
import PatternForge.Proofs.Lengths
import PatternForge.Proofs.Weights
import PatternForge.Proofs.Snapshots
