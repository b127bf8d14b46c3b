import UdsCatalog.Main
import UdsCatalog.Settings.Document
import UdsCatalog.Proofs.Catalog.Fields
import UdsCatalog.Proofs.Numeral.Hex
import UdsCatalog.Proofs.Generation.Agreement
import UdsCatalog.Proofs.Generation.Enumerators
import UdsCatalog.Proofs.Generation.Variables
import UdsCatalog.Proofs.Generation.Numbers
import UdsCatalog.Proofs.Catalog.LoadedLayouts
import UdsCatalog.Proofs.Generation.Constants
import UdsCatalog.Proofs.Generation.Literals
import UdsCatalog.Proofs.Generation.Names
import UdsCatalog.Proofs.Generation.ClassNames
import UdsCatalog.Proofs.Files.Tree
import UdsCatalog.Proofs.Files.Named
import UdsCatalog.Proofs.Template.Agreement
import UdsCatalog.Proofs.Template.Renaming
import UdsCatalog.Proofs.Template.StandAlone
import UdsCatalog.Proofs.Generation.Output
import UdsCatalog.Proofs.Generation.Interrupted
import UdsCatalog.Proofs.Generation.Modes
import UdsCatalog.Proofs.Generation.Effect
import UdsCatalog.Proofs.Generation.Spared
import UdsCatalog.Proofs.CommandLine.Run
import UdsCatalog.Proofs.Settings.Layers
import UdsCatalog.Proofs.Settings.Loading
import UdsCatalog.Proofs.Settings.Sources
import UdsCatalog.Proofs.Toml.Quotes
import UdsCatalog.Proofs.Toml.Document
import UdsCatalog.Proofs.Settings.Saved
import UdsCatalog.Proofs.Catalog.Rejections
import UdsCatalog.Proofs.Definition.Outcomes
import UdsCatalog.Proofs.Definition.Violations
import UdsCatalog.Proofs.Generation.ServiceTable
import UdsCatalog.Proofs.Catalog.SharedNames
import UdsCatalog.Proofs.Text.Backslashes
import UdsCatalog.Proofs.Catalog.Magnitudes
import UdsCatalog.Proofs.Catalog.Codes
import UdsCatalog.Proofs.Catalog.Sizes
import UdsCatalog.Proofs.Catalog.NameHistory
import UdsCatalog.Proofs.Text.Snake
import UdsCatalog.Proofs.Numeral.Scanning
