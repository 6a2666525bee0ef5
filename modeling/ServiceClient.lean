import ServiceClient.Client.Call
import ServiceClient.Client.Gadgets
import ServiceClient.Client.Widgets
import ServiceClient.Http.Exchange
import ServiceClient.Main
import ServiceClient.Proofs.Client.CutResponse
import ServiceClient.Proofs.Client.WidgetDecoders
import ServiceClient.Proofs.Client.WidgetRoundTrip
import ServiceClient.Proofs.Generator.AliasExpansion
import ServiceClient.Proofs.Generator.Assembly
import ServiceClient.Proofs.Generator.Closure
import ServiceClient.Proofs.Schema.Loading
import ServiceClient.Proofs.Codec.Bounds
import ServiceClient.Proofs.Codec.Locality
import ServiceClient.Proofs.Markup.Children
import ServiceClient.Proofs.Codec.Siblings
import ServiceClient.Proofs.Codec.ChildOrder
import ServiceClient.Proofs.Generator.ReservedNames
import ServiceClient.Proofs.Generator.DefinedNames
import ServiceClient.Proofs.Generator.WireNames
import ServiceClient.Proofs.Generator.ListDecoders
import ServiceClient.Proofs.Generator.MapDecoders
import ServiceClient.Proofs.Generator.CodecAgreement
import ServiceClient.Proofs.Markup.Spelled
import ServiceClient.Proofs.Schema.TableOrder
import ServiceClient.Proofs.Client.GadgetMembers
import ServiceClient.Proofs.Client.WholeDocument
import ServiceClient.Proofs.Generator.Scopes
import ServiceClient.Proofs.Generator.RequestSetup
import ServiceClient.Proofs.Client.Answers
import ServiceClient.Proofs.Files.Atomic
import ServiceClient.Proofs.Client.GadgetFlattening
import ServiceClient.Proofs.Http.PathValues
import ServiceClient.Proofs.Generator.Recursion
import ServiceClient.Proofs.Generator.Identifiers
import ServiceClient.Proofs.Wire.Substitution
import ServiceClient.Proofs.Generator.Faults
import ServiceClient.Proofs.Json.FirstMembers
import ServiceClient.Proofs.Wire.ScalarText
import ServiceClient.Proofs.Generator.DocLines
import ServiceClient.Proofs.Client.EncodedBelow
import ServiceClient.Proofs.Text.SnakeCase
import ServiceClient.Proofs.Markup.OpenElements
import ServiceClient.Proofs.Markup.Skipping
import ServiceClient.Proofs.Wire.Puts
