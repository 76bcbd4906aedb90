import OverlayControl.Main
import OverlayControl.Proofs.Toml.Document
import OverlayControl.Proofs.Utf8
import OverlayControl.Simulation.Engine
import OverlayControl.Simulation.Host
import OverlayControl.Proofs.Settings.Document
import OverlayControl.Proofs.Path
import OverlayControl.Proofs.Settings.Save
import OverlayControl.Proofs.Settings.Ledger
import OverlayControl.Proofs.FileTree.Storage
import OverlayControl.Proofs.Privilege
import OverlayControl.Proofs.Settings.LostRecord
import OverlayControl.Proofs.Settings.Declared
import OverlayControl.Proofs.Settings.Account
import OverlayControl.Proofs.Session.Sends
import OverlayControl.Proofs.Session.TierGate
import OverlayControl.Proofs.Session.Malformed
import OverlayControl.Proofs.Session.ReadOnly
import OverlayControl.Proofs.Json
import OverlayControl.Proofs.Rule.Listing
import OverlayControl.Proofs.Rule.Engine
import OverlayControl.Proofs.Rule.Table
import OverlayControl.Proofs.Rule.Refinement
import OverlayControl.Proofs.Rule.Blank
import OverlayControl.Proofs.Rule.Submission
import OverlayControl.Proofs.Rule.Document
import OverlayControl.Proofs.Socket.Run
import OverlayControl.Proofs.Socket.PathField
import OverlayControl.Proofs.Connection.Lifecycle
import OverlayControl.Proofs.Connection.Grant
import OverlayControl.Proofs.Shell.Words
import OverlayControl.Proofs.Socket.Decoding
import OverlayControl.Proofs.Module.Declaration
import OverlayControl.Proofs.Mount.Reconcile
import OverlayControl.Proofs.Connection.Version
import OverlayControl.Proofs.Rule.Firsts
import OverlayControl.Proofs.Rule.Failure
import OverlayControl.Proofs.Module.Views
import OverlayControl.Proofs.Settings.Change
import OverlayControl.Proofs.Socket.Header
import OverlayControl.Proofs.Verdict.LeadingWord
import OverlayControl.Proofs.Session.Status
import OverlayControl.Proofs.ClientConfig
