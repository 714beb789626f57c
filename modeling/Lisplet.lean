import Lisplet.Interpreter
import Lisplet.Precedence.Formula
import Lisplet.Proofs.Confinement
import Lisplet.Proofs.Division
import Lisplet.Proofs.Erasure
import Lisplet.Proofs.FileImports
import Lisplet.Proofs.Layout
import Lisplet.Proofs.Locations
import Lisplet.Proofs.Powers
import Lisplet.Proofs.Reprinting
import Lisplet.Scope.Printer
import Lisplet.Settings
import Lisplet.Proofs.Lookups
import Lisplet.Proofs.HostCalls
import Lisplet.Proofs.Crossing
import Lisplet.Proofs.Operands
import Lisplet.Proofs.Operators
import Lisplet.Proofs.Comparisons
import Lisplet.Proofs.AdapterChains
import Lisplet.Proofs.NumberWords
import Lisplet.Proofs.PrintedClosures
import Lisplet.Proofs.OperatorTrees
import Lisplet.Proofs.LineIndex
import Lisplet.Proofs.Lookahead
import Lisplet.Proofs.EndsOfInput
import Lisplet.Proofs.MathCalls
