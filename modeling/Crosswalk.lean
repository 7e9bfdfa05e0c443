import Crosswalk.Declaration
import Crosswalk.Live.Execution
import Crosswalk.Main
import Crosswalk.Proofs.Live.Program
import Crosswalk.Proofs.Plan.Synthesis
import Crosswalk.Proofs.Live.Agreement
import Crosswalk.Proofs.Optionality
import Crosswalk.Proofs.Live.Construction
import Crosswalk.Proofs.Live.Typing
import Crosswalk.Proofs.Text.Names
import Crosswalk.Proofs.Files.Lookup
import Crosswalk.Proofs.Registry.Units
import Crosswalk.Proofs.SourceUnit
import Crosswalk.Proofs.Registry.Reading
import Crosswalk.Proofs.Walk
import Crosswalk.Proofs.Resolution
import Crosswalk.Proofs.Expansion.Reporting
import Crosswalk.Proofs.Registry.History
import Crosswalk.Proofs.Expansion.Resolvers
import Crosswalk.Proofs.Emission.Containment
import Crosswalk.Proofs.Live.Copying
import Crosswalk.Proofs.Live.Account
import Crosswalk.Proofs.Live.Separation
import Crosswalk.Proofs.Live.Repetition
import Crosswalk.Proofs.Live.Invocation
import Crosswalk.Proofs.Text.Composition
import Crosswalk.Proofs.Emission.Shadowing
import Crosswalk.Proofs.Decoration
import Crosswalk.Proofs.Expansion.Targets
import Crosswalk.Proofs.Files.Standing
import Crosswalk.Proofs.Locality
import Crosswalk.Proofs.Registry.Stopping
import Crosswalk.Proofs.Expansion.Stopping
import Crosswalk.Proofs.Hierarchy
import Crosswalk.Proofs.Plan.Written
import Crosswalk.Proofs.Live.Effects
import Crosswalk.Proofs.Live.Omission
import Crosswalk.Proofs.FieldMapping.Fit
import Crosswalk.Proofs.Plan.Modes
import Crosswalk.Proofs.Plan.Softness
import Crosswalk.Proofs.Expansion.Softness
import Crosswalk.Proofs.FieldMapping.Depth
import Crosswalk.Proofs.Live.Defaults
import Crosswalk.Proofs.Live.Reordering
import Crosswalk.Proofs.Live.Identity
import Crosswalk.Proofs.Expansion.WantedModes
import Crosswalk.Proofs.TargetPath.Grammar
import Crosswalk.Proofs.Registry.Registration
import Crosswalk.Proofs.Registry.Ingestion
import Crosswalk.Proofs.Registry.Listing
import Crosswalk.Proofs.Walk.Uniqueness
import Crosswalk.Proofs.TargetPath.RoundTrip
import Crosswalk.Proofs.Request.Accounting
import Crosswalk.Proofs.Hierarchy.Inheritance
import Crosswalk.Proofs.Code.Placement
import Crosswalk.Proofs.FieldMapping.Elevation
import Crosswalk.Proofs.Diagnostics.Accumulation
import Crosswalk.Proofs.Expansion.Lookup
