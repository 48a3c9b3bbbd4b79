import TreeScan.Ast.Encode
import TreeScan.Main
import TreeScan.Proofs.Ast.Declarations
import TreeScan.Proofs.Ast.DottedNames
import TreeScan.Proofs.Ast.Extent
import TreeScan.Proofs.Ast.RoundTrip
import TreeScan.Proofs.Ast.TypeTexts
import TreeScan.Proofs.Command.Listing
import TreeScan.Proofs.Command.Outlining
import TreeScan.Proofs.Outline.Edits
import TreeScan.Proofs.Outline.Runs
import TreeScan.Proofs.Scan.Escape
import TreeScan.Proofs.Scan.Leftovers
import TreeScan.Proofs.Scan.Outward
import TreeScan.Proofs.Scan.Panics
import TreeScan.Proofs.Scan.Passive
import TreeScan.Proofs.Scan.Sightings
import TreeScan.Proofs.Scan.Survey
import TreeScan.Proofs.Source.History
import TreeScan.Proofs.Source.Location
import TreeScan.Proofs.Scan.Excerpts
import TreeScan.Proofs.Scan.Concession
import TreeScan.Proofs.Scan.TextOrder
import TreeScan.Proofs.Scan.Calm
import TreeScan.Proofs.Scan.Entries
import TreeScan.Proofs.Scan.Queries
import TreeScan.Proofs.Source.Narrowing
import TreeScan.Proofs.Report.Labels
import TreeScan.Proofs.Report.Messages
import TreeScan.Proofs.Scan.Accounts
