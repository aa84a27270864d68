import RefPages.Main
import RefPages.Proofs.Command.Accepted
import RefPages.Proofs.Harvest.Outcome
import RefPages.Proofs.Harvest.PageEnding
import RefPages.Proofs.Harvest.Pages
import RefPages.Proofs.Index.Listed
import RefPages.Proofs.Page.Parts
import RefPages.Proofs.Page.Raw
import RefPages.Proofs.Page.Regions
import RefPages.Proofs.Page.Reworded
import RefPages.Proofs.Page.Traced
import RefPages.Proofs.Page.Written.Extract
import RefPages.Proofs.Prose.Staged
import RefPages.Proofs.Report.Entries
import RefPages.Proofs.Report.Json
import RefPages.Proofs.Report.Plain
import RefPages.Proofs.Report.Room
import RefPages.Proofs.Run.Endings
import RefPages.Proofs.Scan.Balance
import RefPages.Proofs.Scan.Content
import RefPages.Proofs.Scan.LeastLines
import RefPages.Proofs.Scan.Session
import RefPages.Proofs.Text.Canonical
import RefPages.Report.Sink
import RefPages.Scan.Buffer
