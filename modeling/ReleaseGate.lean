import ReleaseGate.Archive.Checksum
import ReleaseGate.Archive.Inflate
import ReleaseGate.Archive.Zip
import ReleaseGate.Bytes
import ReleaseGate.ChangeModel
import ReleaseGate.Cli.Arguments
import ReleaseGate.Cli.Flag
import ReleaseGate.Cli.Help
import ReleaseGate.Cli.Run
import ReleaseGate.Clock
import ReleaseGate.Comparison
import ReleaseGate.Data
import ReleaseGate.Digest
import ReleaseGate.ErrorCode
import ReleaseGate.ExclusionList
import ReleaseGate.Failure
import ReleaseGate.Files.Change
import ReleaseGate.Files.Fault
import ReleaseGate.Files.RealPath
import ReleaseGate.Files.Tree
import ReleaseGate.Files.Walk
import ReleaseGate.Gate.AndroidArchive
import ReleaseGate.Gate.Artifacts
import ReleaseGate.Gate.Candidate
import ReleaseGate.Gate.Engine
import ReleaseGate.Gate.Run
import ReleaseGate.LibraryError
import ReleaseGate.Location
import ReleaseGate.Machine
import ReleaseGate.Main
import ReleaseGate.Net.Client
import ReleaseGate.Net.Redirect
import ReleaseGate.Policy
import ReleaseGate.Proofs.Archive.Unpacking
import ReleaseGate.Proofs.Cli.ExitStatus
import ReleaseGate.Proofs.Cli.Quiet
import ReleaseGate.Proofs.Digest
import ReleaseGate.Proofs.ExclusionList
import ReleaseGate.Proofs.Failing
import ReleaseGate.Proofs.Files.Edits
import ReleaseGate.Proofs.Files.FoldedWay
import ReleaseGate.Proofs.Files.NullCharacter
import ReleaseGate.Proofs.Files.Passage
import ReleaseGate.Proofs.Files.RealPlace
import ReleaseGate.Proofs.Files.Trail
import ReleaseGate.Proofs.Gate.AndroidArchive
import ReleaseGate.Proofs.Gate.Archives
import ReleaseGate.Proofs.Gate.Artifacts
import ReleaseGate.Proofs.Gate.Downloads
import ReleaseGate.Proofs.Gate.Engine
import ReleaseGate.Proofs.Gate.ExclusionArgument
import ReleaseGate.Proofs.Gate.FailedFetch
import ReleaseGate.Proofs.Gate.Failures
import ReleaseGate.Proofs.Gate.Faults
import ReleaseGate.Proofs.Gate.FileUri
import ReleaseGate.Proofs.Gate.FindFiles
import ReleaseGate.Proofs.Gate.FirstRelease
import ReleaseGate.Proofs.Gate.Footprint
import ReleaseGate.Proofs.Gate.InnerArchive
import ReleaseGate.Proofs.Gate.Locations
import ReleaseGate.Proofs.Gate.Outcome
import ReleaseGate.Proofs.Gate.PrintedBump
import ReleaseGate.Proofs.Gate.RemoteFetch
import ReleaseGate.Proofs.Gate.Reports
import ReleaseGate.Proofs.Gate.StagedName
import ReleaseGate.Proofs.Gate.ToolAnswer
import ReleaseGate.Proofs.Gate.VersionFaults
import ReleaseGate.Proofs.Gate.WrittenReports
import ReleaseGate.Proofs.Location.Escapes
import ReleaseGate.Proofs.Location.Segment
import ReleaseGate.Proofs.Net.Chain
import ReleaseGate.Proofs.Net.Client
import ReleaseGate.Proofs.Path
import ReleaseGate.Proofs.Policy
import ReleaseGate.Proofs.Releases
import ReleaseGate.Proofs.Report.ClassOrder
import ReleaseGate.Proofs.Report.Lossless
import ReleaseGate.Proofs.Report.Markup
import ReleaseGate.Proofs.Report.Printed
import ReleaseGate.Proofs.RequiredBump
import ReleaseGate.Proofs.Runs
import ReleaseGate.Proofs.SameFiles
import ReleaseGate.Proofs.Text.Case
import ReleaseGate.Proofs.Text.Lines
import ReleaseGate.Proofs.Text.Stretches
import ReleaseGate.Proofs.Text.Utf8
import ReleaseGate.Proofs.ToolReport
import ReleaseGate.Proofs.Version
import ReleaseGate.Proofs.Xml.Addresses
import ReleaseGate.Report.Page
import ReleaseGate.Report.Text
import ReleaseGate.Schema.Check
import ReleaseGate.Schema.Issue
import ReleaseGate.Schema.Records
import ReleaseGate.Settings
import ReleaseGate.Text.Ascii
import ReleaseGate.Text.Case
import ReleaseGate.Text.Lines
import ReleaseGate.Text.Number
import ReleaseGate.Text.Utf8
import ReleaseGate.ToolReport
