import SchemaGuard.Main
import SchemaGuard.Proofs.Addresses
import SchemaGuard.Proofs.Builtins
import SchemaGuard.Proofs.CheckedOutput
import SchemaGuard.Proofs.Clashes
import SchemaGuard.Proofs.DistinctValues
import SchemaGuard.Proofs.Grouping
import SchemaGuard.Proofs.Hygiene
import SchemaGuard.Proofs.Indifference
import SchemaGuard.Proofs.Inlining
import SchemaGuard.Proofs.InliningCycles
import SchemaGuard.Proofs.LegalNames
import SchemaGuard.Proofs.Literals
import SchemaGuard.Proofs.MergedProperties
import SchemaGuard.Proofs.RecordedLine
import SchemaGuard.Proofs.Refusals
import SchemaGuard.Proofs.SearchOrder
import SchemaGuard.Proofs.Specifiers
import SchemaGuard.Proofs.Whereabouts
