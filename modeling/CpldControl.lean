import CpldControl.Chip.Binding
import CpldControl.Chip.Layout
import CpldControl.Proofs.ExactErrors
import CpldControl.Proofs.SavedTexts
import CpldControl.Proofs.BringUp
import CpldControl.Proofs.LogAgreement
import CpldControl.Proofs.BusDiscipline
import CpldControl.Proofs.IdentitySnapshot
import CpldControl.Proofs.Inquiries
import CpldControl.Proofs.SeparateBuses
import CpldControl.Proofs.ReorderedChanges
import CpldControl.Proofs.HandleBinding
import CpldControl.Proofs.CapableAdapters
import CpldControl.Proofs.LiteralGrammar
import CpldControl.Proofs.StoredNumbers
import CpldControl.Proofs.CageAddressing
import CpldControl.Proofs.NameLookup
import CpldControl.Proofs.RefusalOrder
import CpldControl.Proofs.ModifyChains
import CpldControl.Proofs.CatalogReading
import CpldControl.Proofs.LayoutAgreement
import CpldControl.Proofs.ErrorMessages
