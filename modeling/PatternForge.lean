import PatternForge.Main
import PatternForge.Proofs.CharSet.Algebra
import PatternForge.Proofs.Confounding.FixedShape
import PatternForge.Proofs.Confounding.Shape
import PatternForge.Proofs.Descent.Levels
import PatternForge.Proofs.Emission.ClassesAllow
import PatternForge.Proofs.Emission.PrintedTrees
import PatternForge.Proofs.Failing.Runs
import PatternForge.Proofs.Generator.CheckedDraws
import PatternForge.Proofs.Matching.Agreement
import PatternForge.Proofs.Reading.CaptureNumbers
import PatternForge.Proofs.Reading.CaseClosed
import PatternForge.Proofs.Reading.ClassDenotation
import PatternForge.Proofs.Reading.Grouping
import PatternForge.Proofs.Reading.InitialFlags
import PatternForge.Proofs.Reading.NestLimits
import PatternForge.Proofs.Replacing.Literals
import PatternForge.Proofs.Widening.Runs
import PatternForge.Proofs.CharSet.Walks
import PatternForge.Proofs.Pattern.Concatenation
import PatternForge.Proofs.RoundTrip.References
import PatternForge.Proofs.Operands.Runs
import PatternForge.Proofs.Emission.Exchange
import PatternForge.Proofs.CharSet.Edits
import PatternForge.Proofs.Generator.Samples
import PatternForge.Proofs.CommandLine.Printing
import PatternForge.Proofs.Pattern.Traversal
import PatternForge.Proofs.Reading.GroupNames
import PatternForge.Proofs.CommandLine.OptionOrder
import PatternForge.Proofs.Replacing.Cases
