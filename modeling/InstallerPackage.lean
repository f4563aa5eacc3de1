import InstallerPackage.Container.Image
import InstallerPackage.Database.Draft
import InstallerPackage.Proofs.Addressing
import InstallerPackage.Proofs.Image.Outlines
import InstallerPackage.Proofs.Image.Parts
import InstallerPackage.Proofs.Spelling
import InstallerPackage.Report
import InstallerPackage.Summary.PropertySet
import InstallerPackage.Proofs.Paths
import InstallerPackage.Proofs.Image.Loading
import InstallerPackage.Proofs.Packages
import InstallerPackage.Proofs.Image.RoundTrip
import InstallerPackage.Proofs.Database.Pools
import InstallerPackage.Proofs.Database.Drafts
import InstallerPackage.Proofs.Database.Columns
import InstallerPackage.Proofs.Database.Rows
import InstallerPackage.Proofs.Database.RoundTrip
import InstallerPackage.Proofs.Database.Folders
import InstallerPackage.Proofs.LoadFailures
import InstallerPackage.Proofs.Calls
import InstallerPackage.Proofs.InstalledFiles
import InstallerPackage.Proofs.ListDamage
import InstallerPackage.Proofs.SummaryStreams
import InstallerPackage.Proofs.RowCounts
import InstallerPackage.Proofs.SiblingOrder
import InstallerPackage.Proofs.Walks
import InstallerPackage.Proofs.AppendedBytes
import InstallerPackage.Proofs.DanglingLinks
import InstallerPackage.Proofs.StepLimits
import InstallerPackage.Proofs.ShorterReads
import InstallerPackage.Proofs.SectorLists
import InstallerPackage.Proofs.Zones
import InstallerPackage.Proofs.Database.Companions
import InstallerPackage.Proofs.Database.ColumnLists
import InstallerPackage.Proofs.Summary.Entries
import InstallerPackage.Proofs.Summary.Order
import InstallerPackage.Proofs.Summary.Written
import InstallerPackage.Proofs.Database.Lookups
import InstallerPackage.Proofs.Database.Separators
import InstallerPackage.Proofs.StoredNames
import InstallerPackage.Proofs.SizeTexts
