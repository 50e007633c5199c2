import EnumCodegen.Main
import EnumCodegen.Proofs.Code.Constants
import EnumCodegen.Proofs.Code.Independence
import EnumCodegen.Proofs.Code.Legality
import EnumCodegen.Proofs.Code.TypePath
import EnumCodegen.Proofs.Code.WireNames
import EnumCodegen.Proofs.Code.XmlNodes
import EnumCodegen.Proofs.Generation.Dependence
import EnumCodegen.Proofs.Generation.Log
import EnumCodegen.Proofs.Generation.Parameter
import EnumCodegen.Proofs.Generation.Relocation
import EnumCodegen.Proofs.GraphQL.DefinedTypes
import EnumCodegen.Proofs.Path.Cleaning
import EnumCodegen.Proofs.Plugin.Answer
import EnumCodegen.Proofs.Plugin.Exchange
import EnumCodegen.Proofs.Sample.Documents
import EnumCodegen.Proofs.Schema.Comments
import EnumCodegen.Proofs.Schema.Enums
import EnumCodegen.Proofs.Schema.Part
import EnumCodegen.Proofs.WireNames.Conventional
import EnumCodegen.Proofs.WireNames.Stability
