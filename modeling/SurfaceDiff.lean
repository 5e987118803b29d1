import SurfaceDiff.Main
import SurfaceDiff.Proofs.Archive.Closure
import SurfaceDiff.Proofs.Archive.Packing
import SurfaceDiff.Proofs.ClassFile.Extent
import SurfaceDiff.Proofs.ClassFile.RoundTrip
import SurfaceDiff.Proofs.Command.JsonOutput
import SurfaceDiff.Proofs.Comparison.BodySwitch
import SurfaceDiff.Proofs.Comparison.Chain
import SurfaceDiff.Proofs.Comparison.Conservation
import SurfaceDiff.Proofs.Comparison.Duplicates
import SurfaceDiff.Proofs.Comparison.Erasure
import SurfaceDiff.Proofs.Comparison.Invariance
import SurfaceDiff.Proofs.Comparison.Mirror
import SurfaceDiff.Proofs.Comparison.Session
import SurfaceDiff.Proofs.Comparison.Shape
import SurfaceDiff.Proofs.Grouping.Canonical
import SurfaceDiff.Proofs.Partition
import SurfaceDiff.Proofs.Text.Chunks
