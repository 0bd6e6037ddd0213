import RestModel.Main
import RestModel.Proofs.Compilation.Closure
import RestModel.Proofs.Compilation.Requires
import RestModel.Proofs.JavaScript.Folding
import RestModel.Proofs.Endpoint
import RestModel.Proofs.Registry.Refolding
import RestModel.Proofs.Registry.Reordering
import RestModel.Proofs.Compilation.Reordering
import RestModel.Proofs.Naming
import RestModel.Proofs.Schema.Substitution
import RestModel.Proofs.Schema.Member
import RestModel.Proofs.Schema.Emission
import RestModel.Proofs.Compilation.OwnTypes
import RestModel.Proofs.Compilation.Collections
import RestModel.Proofs.Xml.Attribute
import RestModel.Proofs.Xml.Markup
import RestModel.Proofs.Xml.RoundTrip
import RestModel.Proofs.Xml.Truncation
import RestModel.Proofs.Command.Skipping
import RestModel.Proofs.Compilation.Artifacts
import RestModel.Proofs.Compilation.Delegation
import RestModel.Proofs.Registry.References
import RestModel.Proofs.Command.Repeating
import RestModel.Proofs.JavaScript.Index
import RestModel.Proofs.Resource.Commuting
import RestModel.Proofs.Schema.Enumeration
import RestModel.Proofs.Schema.Declaration
import RestModel.Proofs.Schema.Registration
import RestModel.Proofs.Path.Resource
import RestModel.Proofs.Path.Require
import RestModel.Proofs.Resource.Recording
import RestModel.Proofs.Schema.Documentation
import RestModel.Proofs.Schema.Place
import RestModel.Proofs.Schema.Definition
import RestModel.Proofs.Xml.Stripping
import RestModel.Proofs.Stripping
import RestModel.Proofs.Path.Simplest
import RestModel.Proofs.Registry.Method
import RestModel.Proofs.Descriptor.Constructor
import RestModel.Proofs.Compilation.SelfDelegation
import RestModel.Proofs.Compilation.TypeLabels
import RestModel.Proofs.JavaScript.Comment
import RestModel.Proofs.JavaScript.Binding
import RestModel.Proofs.JavaScript.ConstructorTemplate
import RestModel.Proofs.Endpoint.Reordering
import RestModel.Proofs.Registry.Keyed
