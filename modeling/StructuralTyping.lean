import StructuralTyping.Contract.Load
import StructuralTyping.Diagnosis.Finding
import StructuralTyping.Json.Reader
import StructuralTyping.Session
import StructuralTyping.Toml.Printer
import StructuralTyping.World.Change
import StructuralTyping.Proofs.Acyclicity
import StructuralTyping.Proofs.Lookup
import StructuralTyping.Proofs.Diagnosis
import StructuralTyping.Proofs.Application
import StructuralTyping.Proofs.Visibility
import StructuralTyping.Proofs.Persistence
import StructuralTyping.Proofs.TomlPrinting
import StructuralTyping.Proofs.Succession
import StructuralTyping.Proofs.TomlContracts
import StructuralTyping.Proofs.InterfaceHistory
import StructuralTyping.Proofs.Calls
import StructuralTyping.Proofs.JsonItems
import StructuralTyping.Proofs.Misfits
import StructuralTyping.Proofs.JsonRoutes
import StructuralTyping.Proofs.Splicing
import StructuralTyping.Proofs.Ancestry
import StructuralTyping.Proofs.Inheritance
import StructuralTyping.Proofs.TomlMisfits
import StructuralTyping.Proofs.Demands
import StructuralTyping.Proofs.Messages
import StructuralTyping.Proofs.ValuePrinting
import StructuralTyping.Proofs.DiagnosisText
import StructuralTyping.Proofs.JsonFaults
import StructuralTyping.Proofs.JsonPrefixes
import StructuralTyping.Proofs.JsonRepetition
import StructuralTyping.Proofs.FileNames
import StructuralTyping.Proofs.ContractFiles
import StructuralTyping.Proofs.Interchange
import StructuralTyping.Proofs.Provenance
