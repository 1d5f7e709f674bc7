import SettingsForm.Files.Store
import SettingsForm.Main
import SettingsForm.Proofs.Schema.History
import SettingsForm.Proofs.Session.Ancestors
import SettingsForm.Proofs.Session.Finish
import SettingsForm.Proofs.Session.Replay
import SettingsForm.Proofs.Session.Shape
import SettingsForm.Proofs.Wire.RoundTrip
import SettingsForm.Wire.Printer
import SettingsForm.Proofs.Session.Invariant
import SettingsForm.Proofs.Session.Lineage
import SettingsForm.Proofs.Session.Typing
import SettingsForm.Proofs.Session.Reopening
import SettingsForm.Proofs.Script.Screen
import SettingsForm.Proofs.Script.Grouping
import SettingsForm.Proofs.Script.Course
import SettingsForm.Proofs.Script.Order
import SettingsForm.Proofs.Script.Edits
import SettingsForm.Proofs.Session.Calls
import SettingsForm.Proofs.Session.Forms
import SettingsForm.Proofs.Store.Paths
import SettingsForm.Proofs.Script.Again
import SettingsForm.Proofs.Schema.Refusal
import SettingsForm.Proofs.Session.Editing
import SettingsForm.Proofs.Session.Display
import SettingsForm.Proofs.Store.Effect
import SettingsForm.Proofs.Session.IndexedEntry
import SettingsForm.Proofs.Store.Repetition
import SettingsForm.Proofs.Session.Toggle
import SettingsForm.Proofs.Session.EditEnd
import SettingsForm.Proofs.Wire.Grammar
import SettingsForm.Proofs.Contract.Leniency
import SettingsForm.Proofs.Script.Leniency
import SettingsForm.Proofs.Wire.Faults
import SettingsForm.Proofs.Wire.Stripping
import SettingsForm.Proofs.Script.Flattening
import SettingsForm.Proofs.Session.Access
import SettingsForm.Proofs.Files.Path
import SettingsForm.Proofs.Number.Integers
import SettingsForm.Proofs.Files.Store
import SettingsForm.Proofs.Command.Apply
