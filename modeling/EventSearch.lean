import EventSearch.Main
import EventSearch.Cli.Folder
import EventSearch.Proofs.LuceneRoundTrip
import EventSearch.Proofs.CriterionRoundTrip
import EventSearch.Proofs.BucketWindow
import EventSearch.Proofs.CellCriteria
import EventSearch.Proofs.CellFilters
import EventSearch.Proofs.CellTexts
import EventSearch.Proofs.CriterionLeftover
import EventSearch.Proofs.Drilldown
import EventSearch.Proofs.QueryMeaning
import EventSearch.Proofs.ToldTimestamps
import EventSearch.Proofs.AmbientWindow
import EventSearch.Proofs.BucketComponents
import EventSearch.Proofs.TimeGroups
import EventSearch.Proofs.LuceneSpelling
import EventSearch.Proofs.OpenQuotes
import EventSearch.Proofs.LuceneReprint
import EventSearch.Proofs.CriterionLinks
import EventSearch.Proofs.CriteriaLinks
import EventSearch.Proofs.ChartCounts
import EventSearch.Proofs.LuceneMeaning
import EventSearch.Proofs.SinglePass
import EventSearch.Proofs.Paging
import EventSearch.Proofs.GroupColumns
import EventSearch.Proofs.Complements
import EventSearch.Proofs.NegatedTests
import EventSearch.Proofs.WrittenTests
import EventSearch.Proofs.Partitions
import EventSearch.Proofs.IntegerFilters
import EventSearch.Proofs.CellOrder
import EventSearch.Proofs.WildcardTerms
import EventSearch.Proofs.RequestFaults
import EventSearch.Proofs.CombinedCriteria
import EventSearch.Proofs.ChartSteps
import EventSearch.Proofs.RebuiltTimes
import EventSearch.Proofs.MarkedResults
import EventSearch.Proofs.LinkParameters
import EventSearch.Proofs.LinkAddresses
import EventSearch.Proofs.SurfaceColumns
import EventSearch.Proofs.DatasetHistory
import EventSearch.Proofs.BareExtent
