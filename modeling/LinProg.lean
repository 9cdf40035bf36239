import LinProg.Lp.Reader
import LinProg.Matrix.Attribute
import LinProg.Matrix.File
import LinProg.Matrix.Solve
import LinProg.Model.Objective
import LinProg.Model.Rows
import LinProg.Model.Solution
import LinProg.Model.Variables
import LinProg.Solver.Run
import LinProg.Workspace
import LinProg.Proofs.Number.Binary64
import LinProg.Proofs.Lp.ReadBack
import LinProg.Proofs.Matrix.RoundTrip
import LinProg.Proofs.Session.RangeRow
import LinProg.Proofs.Session.UpdateMode
import LinProg.Proofs.Matrix.Indexed
import LinProg.Proofs.Session.World
import LinProg.Proofs.Matrix.Solve
import LinProg.Proofs.Session.InstalledObjective
import LinProg.Proofs.Session.ListedVariables
import LinProg.Proofs.Session.OutputStatus
import LinProg.Proofs.NamePool.Run
import LinProg.Proofs.Report.Glpk
import LinProg.Proofs.Solver.Chain
import LinProg.Proofs.Matrix.Listing
import LinProg.Proofs.Model.RangeBounds
import LinProg.Proofs.Session.RowMeaning
import LinProg.Proofs.Session.Replacement
import LinProg.Proofs.Session.ComposedColumn
import LinProg.Proofs.Lp.Expression
import LinProg.Proofs.Lp.TrailingSigns
import LinProg.Proofs.Lp.DeclaredNames
import LinProg.Proofs.Lp.DeclaredBounds
import LinProg.Proofs.Lp.BoundSpelling
import LinProg.Proofs.Expr.Formula
import LinProg.Proofs.Solver.KeptFile
import LinProg.Proofs.Number.Overflow
import LinProg.Proofs.Lp.RowNames
import LinProg.Proofs.Matrix.Batch
import LinProg.Proofs.Session.TwoSidedRange
import LinProg.Proofs.Solver.CommandLine
import LinProg.Proofs.Lp.RelationScan
