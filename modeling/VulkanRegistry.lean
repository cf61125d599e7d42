import VulkanRegistry.Catalog.Basic
import VulkanRegistry.Command.Program
import VulkanRegistry.Index.Basic
import VulkanRegistry.Main
import VulkanRegistry.Markup.Document
import VulkanRegistry.Naming.TypeName
import VulkanRegistry.Naming.VariantName
import VulkanRegistry.Proofs.Catalog.AddedExtension
import VulkanRegistry.Proofs.Catalog.AddedTags
import VulkanRegistry.Proofs.Catalog.FirstFault
import VulkanRegistry.Proofs.Catalog.LastDeclarations
import VulkanRegistry.Proofs.Catalog.Likeness
import VulkanRegistry.Proofs.Catalog.OrderIndependence
import VulkanRegistry.Proofs.Catalog.Partition
import VulkanRegistry.Proofs.Command.Completeness
import VulkanRegistry.Proofs.Command.Configuration
import VulkanRegistry.Proofs.Command.ExitStatus
import VulkanRegistry.Proofs.Command.SwitchNames
import VulkanRegistry.Proofs.Naming.Boundary
import VulkanRegistry.Proofs.Naming.Convention
import VulkanRegistry.Proofs.Naming.EmptyVariant
import VulkanRegistry.Proofs.Naming.OwnerPrefix
import VulkanRegistry.Proofs.Naming.TypeName
import VulkanRegistry.Proofs.Registry.MalformedNumber
import VulkanRegistry.Proofs.Report.Alignment
import VulkanRegistry.Proofs.Report.Contributors
import VulkanRegistry.Proofs.Report.DetailText
import VulkanRegistry.Proofs.Report.DocumentEssence
import VulkanRegistry.Proofs.Report.DocumentSummary
import VulkanRegistry.Proofs.Report.ExtendedGroups
import VulkanRegistry.Proofs.Report.Filter
import VulkanRegistry.Proofs.Report.TableText
import VulkanRegistry.Registry.OfElement
import VulkanRegistry.Report.Detail
import VulkanRegistry.Report.Table
import VulkanRegistry.Storage.FileTree
