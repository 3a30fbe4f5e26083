import ServiceCatalog.Main
import ServiceCatalog.Storage.FileTree
import ServiceCatalog.Symbol.Check
import ServiceCatalog.Proofs.ServiceFile
import ServiceCatalog.Proofs.ServiceLines
import ServiceCatalog.Proofs.Rewriting
import ServiceCatalog.Proofs.NamedServices
import ServiceCatalog.Proofs.Registration
import ServiceCatalog.Proofs.Subtyping
import ServiceCatalog.Proofs.Nesting
import ServiceCatalog.Proofs.DistinctNames
import ServiceCatalog.Proofs.Findings
import ServiceCatalog.Proofs.Scanning
import ServiceCatalog.Proofs.QuietScan
import ServiceCatalog.Proofs.ScanRecord
import ServiceCatalog.Proofs.ScanCourse
import ServiceCatalog.Proofs.ScanAccounts
import ServiceCatalog.Proofs.CheckedTables
import ServiceCatalog.Proofs.CatalogMerge
import ServiceCatalog.Proofs.MergeOrder
import ServiceCatalog.Proofs.RepeatedMerge
import ServiceCatalog.Proofs.SessionRun
import ServiceCatalog.Proofs.SessionHistory
import ServiceCatalog.Proofs.QuietRun
import ServiceCatalog.Proofs.CleanCompilation
import ServiceCatalog.Proofs.DeclaredNames
import ServiceCatalog.Proofs.DeclarationOrder
import ServiceCatalog.Proofs.SingleRound
import ServiceCatalog.Proofs.Paths
import ServiceCatalog.Proofs.FileTrees
import ServiceCatalog.Proofs.FolderMaking
import ServiceCatalog.Proofs.FolderConfinement
import ServiceCatalog.Proofs.FolderMerge
import ServiceCatalog.Proofs.StoreRefinement
import ServiceCatalog.Proofs.FolderMirror
import ServiceCatalog.Proofs.JsonText
import ServiceCatalog.Proofs.SymbolTableText
import ServiceCatalog.Proofs.ConfigText
