import TargetAbi.Json.Decoding
import TargetAbi.Json.Reader
import TargetAbi.Main
import TargetAbi.Proofs.Command.Arguments
import TargetAbi.Proofs.Command.Paint
import TargetAbi.Proofs.Command.Vector
import TargetAbi.Proofs.Config.FamilyName
import TargetAbi.Proofs.Constant.Reduction
import TargetAbi.Proofs.Constant.Reinterpret
import TargetAbi.Proofs.Constant.Run
import TargetAbi.Proofs.Constant.Scratch
import TargetAbi.Proofs.Json.Constant
import TargetAbi.Proofs.Json.Facts
import TargetAbi.Proofs.Json.TypeRefGrammar
import TargetAbi.Proofs.Layout.Alignment
import TargetAbi.Proofs.Literal.FloatBits
import TargetAbi.Proofs.Literal.FloatText
import TargetAbi.Proofs.Literal.HexBits
import TargetAbi.Proofs.Literal.IntegerText
import TargetAbi.Proofs.Symbol
import TargetAbi.Proofs.Symbol.PrefixedName
import TargetAbi.Proofs.TypeRef
