import Cardiac.CommandLine.Disk
import Cardiac.Main
import Cardiac.Proofs.Loading.Survival
import Cardiac.Proofs.Loading.Respelled
import Cardiac.Proofs.Machine.Outcome
import Cardiac.Proofs.Machine.Readiness
import Cardiac.Proofs.Machine.Running
import Cardiac.Proofs.Debugger.Ticking
import Cardiac.Proofs.Assembly.Outcomes
import Cardiac.Proofs.Listing.Reassembly
import Cardiac.Proofs.Machine.Course
import Cardiac.Proofs.Machine.Limits
import Cardiac.Proofs.Machine.Tracing
import Cardiac.Proofs.Machine.Exhaustion
import Cardiac.Proofs.Stored.Reloading
import Cardiac.Proofs.Cards.Written
import Cardiac.Proofs.Cards.Pairs
import Cardiac.Proofs.Cards.Saved
import Cardiac.Proofs.Machine.Returning
import Cardiac.Proofs.Stored.Layout
import Cardiac.Proofs.CommandLine.Assembling
import Cardiac.Proofs.Machine.Unseen
import Cardiac.Proofs.Cards.Output
import Cardiac.Proofs.Debugger.Controls
import Cardiac.Proofs.Assembly.Verdict
import Cardiac.Proofs.Debugger.Breakpoints
import Cardiac.Proofs.Assembly.Operands
import Cardiac.Proofs.Assembly.Renaming
import Cardiac.Proofs.Cards.Values
import Cardiac.Proofs.Cards.Offences
import Cardiac.Proofs.Assembly.Bounds
import Cardiac.Proofs.Assembly.Correspondence
import Cardiac.Proofs.Assembly.Spacing
import Cardiac.Proofs.Loading.Order
import Cardiac.Proofs.Machine.Conservation
import Cardiac.Proofs.Machine.Range
import Cardiac.Proofs.Loading.EntryPoint
import Cardiac.Proofs.Debugger.Window
import Cardiac.Proofs.Debugger.Scrolling
import Cardiac.Proofs.Screen.Lines
import Cardiac.Proofs.Screen.Board
import Cardiac.Proofs.Screen.Cards
