import RevealGates.Json.Decode
import RevealGates.Main
import RevealGates.Proofs.Evaluation
import RevealGates.Proofs.Reveal
import RevealGates.Proofs.Evaluation.Events
import RevealGates.Proofs.Evaluation.SameCourse
import RevealGates.Proofs.Session
import RevealGates.Proofs.Program
import RevealGates.Proofs.Toml.DistinctKeys
import RevealGates.Proofs.Toml.Layout
import RevealGates.Proofs.Settings.FirstFault
import RevealGates.Proofs.Program.ExitCode
import RevealGates.Proofs.Program.TextAndJson
import RevealGates.Proofs.Settings.Warnings
import RevealGates.Proofs.CommandLine.Spelling
import RevealGates.Proofs.CommandLine.WrittenReports
import RevealGates.Proofs.Files.Enclosing
import RevealGates.Proofs.Settings.Search
import RevealGates.Proofs.Program.StarterFile
import RevealGates.Proofs.CommandLine.WordByWord
import RevealGates.Proofs.CommandLine.AddedOptions
import RevealGates.Proofs.CommandLine.AddedGates
import RevealGates.Proofs.Program.GateFlags
import RevealGates.Proofs.Report.Looks
import RevealGates.Proofs.Report.ReadBack
import RevealGates.Proofs.Settings.LaidOut
import RevealGates.Proofs.Settings.Starter
import RevealGates.Proofs.Settings.LaterGates
import RevealGates.Proofs.Program.Expectation
import RevealGates.Proofs.Settings.Suggestion
import RevealGates.Proofs.Settings.GateDecoders
import RevealGates.Proofs.Report.Columns
import RevealGates.Proofs.CommandLine.GivenPath
import RevealGates.Proofs.Bits.Refusals
import RevealGates.Proofs.Program.Colours
