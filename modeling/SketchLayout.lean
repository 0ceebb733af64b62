import SketchLayout.Main
import SketchLayout.Pattern.Setting
import SketchLayout.Proofs.Capacity
import SketchLayout.Proofs.CenterWords
import SketchLayout.Proofs.Exchange
import SketchLayout.Proofs.Fill
import SketchLayout.Proofs.JobFiles
import SketchLayout.Proofs.JobRuns
import SketchLayout.Proofs.Layers
import SketchLayout.Proofs.Machine
import SketchLayout.Proofs.Partition
import SketchLayout.Proofs.Settled
import SketchLayout.Proofs.Inference
import SketchLayout.Proofs.Agreement
import SketchLayout.Proofs.Independence
import SketchLayout.Proofs.Shift
import SketchLayout.Proofs.Resolution
import SketchLayout.Proofs.Moves
import SketchLayout.Proofs.Corners
import SketchLayout.Proofs.Drafts
import SketchLayout.Proofs.TileBounds
import SketchLayout.Proofs.Spread
import SketchLayout.Proofs.FlatExtents
import SketchLayout.Proofs.ReportPages
import SketchLayout.Proofs.Tables
import SketchLayout.Proofs.GridLines
import SketchLayout.Proofs.Objections
import SketchLayout.Proofs.AcceptedTiles
import SketchLayout.Proofs.GridSpellings
import SketchLayout.Proofs.AxisWords
import SketchLayout.Proofs.DimensionTexts
import SketchLayout.Proofs.SavedSettings
import SketchLayout.Proofs.Resizing
import SketchLayout.Proofs.Colours
