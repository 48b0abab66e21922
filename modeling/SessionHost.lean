import SessionHost.Main
import SessionHost.Session.Attempts
import SessionHost.Session.Rehearsed
import SessionHost.Proofs.Protocol.History
import SessionHost.Proofs.Protocol.Decoding
import SessionHost.Proofs.Session.Feeding
import SessionHost.Proofs.Session.Forwarding
import SessionHost.Proofs.Session.Sent
import SessionHost.Proofs.Text.Utf8
import SessionHost.Proofs.Session.Acceptance
import SessionHost.Proofs.Engine.Course
import SessionHost.Proofs.Engine.Agreement
import SessionHost.Proofs.Session.Launching
import SessionHost.Proofs.Session.Starting
import SessionHost.Proofs.Protocol.Refusal
import SessionHost.Proofs.Session.Diagnosis
import SessionHost.Proofs.Session.Trials
import SessionHost.Proofs.Session.Panics
import SessionHost.Proofs.Engine.Visits
import SessionHost.Proofs.FileSystem.Writing
import SessionHost.Proofs.Toml.Quoting
import SessionHost.Proofs.Toml.Strings
import SessionHost.Proofs.Toml.Lines
import SessionHost.Proofs.Config.Saving
import SessionHost.Proofs.Session.Interleaving
import SessionHost.Proofs.Config.Keeping
import SessionHost.Proofs.Engine.Answers
import SessionHost.Proofs.Command.Opening
import SessionHost.Proofs.Engine.Relisting
import SessionHost.Proofs.Config.Pointing
import SessionHost.Proofs.Command.Redirecting
import SessionHost.Proofs.Command.Rereading
import SessionHost.Proofs.Console.Progress
import SessionHost.Proofs.Protocol.Counting
import SessionHost.Proofs.Engine.Records
import SessionHost.Proofs.Text.Order
import SessionHost.Proofs.Engine.Scanning
import SessionHost.Proofs.Engine.Confinement
import SessionHost.Proofs.Console.Recording
import SessionHost.Proofs.Command.Verbosity
import SessionHost.Proofs.Command.Logbook
import SessionHost.Proofs.Config.Mapping
import SessionHost.Proofs.Command.Failures
import SessionHost.Proofs.Session.Crossing
import SessionHost.Proofs.Console.Bars
import SessionHost.Proofs.Command.Clearing
import SessionHost.Proofs.Protocol.Reading
