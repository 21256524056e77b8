import SlotIR.About
import SlotIR.Build.Compilation
import SlotIR.Datum.Equality
import SlotIR.Lowering.Session
import SlotIR.Program.Reading
import SlotIR.Proofs.Checking.Checker
import SlotIR.Proofs.Program.Typed
import SlotIR.Scope.Forest
import SlotIR.Proofs.Checking.Agreement
import SlotIR.Proofs.Checking.Outcome
import SlotIR.Proofs.Emission.Code
import SlotIR.Proofs.Emission.Sound
import SlotIR.Proofs.Emission.Numbering
import SlotIR.Proofs.Target.Names
import SlotIR.Proofs.Structure.Blocks
import SlotIR.Proofs.Structure.ControlFlow
import SlotIR.Proofs.Structure.Temporaries
import SlotIR.Proofs.Structure.Naming
import SlotIR.Proofs.Meaning.Behaviour
import SlotIR.Proofs.Meaning.Source
import SlotIR.Proofs.Meaning.Target
import SlotIR.Proofs.Meaning.Follows
import SlotIR.Proofs.Meaning.Correspondence
import SlotIR.Proofs.Meaning.Expressions
import SlotIR.Proofs.Emission.Assignment
import SlotIR.Proofs.Meaning.Simulation
import SlotIR.Proofs.Meaning.Preservation
import SlotIR.Proofs.Structure.Symbols
import SlotIR.Proofs.Structure.Counter
import SlotIR.Proofs.Lowering.Compositional
import SlotIR.Proofs.Lowering.Frames
import SlotIR.Proofs.Session.Reuse
import SlotIR.Proofs.Scope.Related
import SlotIR.Proofs.Access.Referents
import SlotIR.Proofs.Access.Addresses
import SlotIR.Proofs.Access.Calls
import SlotIR.Proofs.Flow.Paths
import SlotIR.Proofs.Flow.Initialised
import SlotIR.Proofs.Positions.Erasure
import SlotIR.Proofs.Positions.Renaming
import SlotIR.Proofs.Positions.Parallel
import SlotIR.Proofs.Positions.Invariance
import SlotIR.Proofs.Scope.History
import SlotIR.Proofs.Build.Endings
import SlotIR.Proofs.Build.Reports
import SlotIR.Proofs.Structure.Linking
import SlotIR.Proofs.Meaning.Straight
import SlotIR.Proofs.Access.Visibility
import SlotIR.Proofs.Lowering.Transparent
import SlotIR.Proofs.Datum.Equality
import SlotIR.Proofs.Emission.Whole
import SlotIR.Proofs.Program.Equality
import SlotIR.Proofs.Session.Slots
