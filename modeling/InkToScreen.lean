import InkToScreen.Imaging.Scripted
import InkToScreen.Main
import InkToScreen.Proofs.Files.Folders
import InkToScreen.Proofs.Run.Ends
import InkToScreen.Proofs.Conversion.Opening
import InkToScreen.Proofs.Conversion.Rendering
import InkToScreen.Proofs.Conversion.RenderingTranscripts
import InkToScreen.Proofs.Conversion.Storing
import InkToScreen.Proofs.Conversion.Course
import InkToScreen.Proofs.Conversion.Effect
import InkToScreen.Proofs.Conversion.Decision
import InkToScreen.Proofs.Conversion.Failures
import InkToScreen.Proofs.Conversion.Reports
import InkToScreen.Proofs.Conversion.Dialogue
import InkToScreen.Proofs.Conversion.Steps
import InkToScreen.Proofs.Conversion.Records
import InkToScreen.Proofs.Conversion.Backstop
import InkToScreen.Proofs.Conversion.StepsTaken
import InkToScreen.Proofs.Conversion.StepsOfCourse
import InkToScreen.Proofs.Conversion.Order
import InkToScreen.Proofs.Conversion.Handles
import InkToScreen.Proofs.Files.OutputNames
import InkToScreen.Proofs.Files.Beside
import InkToScreen.Proofs.Run.Agree
import InkToScreen.Proofs.Run.Steady
import InkToScreen.Proofs.Conversion.Unused
import InkToScreen.Proofs.Conversion.Twins
import InkToScreen.Proofs.Conversion.Repeat
import InkToScreen.Proofs.Files.Updates
import InkToScreen.Proofs.Conversion.Commute
import InkToScreen.Proofs.Conversion.Reopening
import InkToScreen.Proofs.CommandLine.Given
import InkToScreen.Proofs.CommandLine.Layers
import InkToScreen.Proofs.CommandLine.Runs
import InkToScreen.Proofs.CommandLine.FatalCode
import InkToScreen.Proofs.CommandLine.Verbosity
import InkToScreen.Proofs.CommandLine.Written
import InkToScreen.Proofs.Settings.History
import InkToScreen.Proofs.Settings.RoundTrip
import InkToScreen.Proofs.Conversion.AttemptTranscripts
import InkToScreen.Proofs.Conversion.Accounts
import InkToScreen.Proofs.Conversion.OutputFaults
import InkToScreen.Proofs.Conversion.Saving
import InkToScreen.Proofs.Conversion.Warnings
import InkToScreen.Proofs.Text.Spellings
import InkToScreen.Proofs.Conversion.NameCheck
import InkToScreen.Proofs.Conversion.Handover
import InkToScreen.Proofs.Settings.Faults
import InkToScreen.Proofs.CommandLine.SameMeaning
import InkToScreen.Proofs.Settings.Composition
import InkToScreen.Proofs.Settings.CaseMixtures
import InkToScreen.Proofs.Conversion.OpenInputs
import InkToScreen.Proofs.Conversion.Landing
