import LinkedSchema.GoPackage
import LinkedSchema.Main
import LinkedSchema.Proofs.Ancestry
import LinkedSchema.Proofs.Comments
import LinkedSchema.Proofs.Confinement
import LinkedSchema.Proofs.Diagnostics
import LinkedSchema.Proofs.EnumRules
import LinkedSchema.Proofs.ExtensionKeys
import LinkedSchema.Proofs.FileLists
import LinkedSchema.Proofs.Generation
import LinkedSchema.Proofs.GoPackage
import LinkedSchema.Proofs.Identifiers
import LinkedSchema.Proofs.Naming
import LinkedSchema.Proofs.Oneofs
import LinkedSchema.Proofs.References
import LinkedSchema.Proofs.Rewriting
import LinkedSchema.Proofs.Rendering
import LinkedSchema.Proofs.TypeLinks
