import RestModel.Options
import RestModel.Yaml.Decode

/-!
# Reading options

The options of a project stand in a YAML document.  Every section and every field may be left out.
-/

namespace RestModel

open Yaml

/-- A field that holds a text. -/
def textField {ρ : Type} (document : Document) (name : String) (set : String → ρ → ρ) :
    Document.FieldDecoder ρ where
  name := name
  decode path parts := do
    let (text, behind) ← document.decodeText "a string" path parts
    return (set text, behind)

/-- A field that holds a section of options. -/
def sectionField {ρ σ : Type} (name : String) (decoder : Decoder σ) (set : σ → ρ → ρ) :
    Document.FieldDecoder ρ where
  name := name
  decode path parts := do
    let (value, behind) ← decoder path parts
    return (set value, behind)

/-- Read the options on naming. -/
def NamingOptions.decode (document : Document) : Decoder NamingOptions :=
  document.decodeRecord "struct NamingConfig" [
    textField document "home_namespace"
      (fun text options => { options with homeNamespace := text }),
    textField document "list_suffix" (fun text options => { options with listSuffix := text })]
    Options.default.naming

/-- Read the options on methods. -/
def MethodOptions.decode (document : Document) : Decoder MethodOptions :=
  document.decodeRecord "struct HttpConfig" [
    textField document "read_method" (fun text options => { options with readMethod := text }),
    sectionField "success_statuses" (document.decodeSequence (document.decodeText "a string"))
      (fun statuses options => { options with successStatuses := statuses })]
    Options.default.methods

/-- Read the options on client code. -/
def ClientOptions.decode (document : Document) : Decoder ClientOptions :=
  document.decodeRecord "struct ClientConfig" [
    textField document "model_base" (fun text options => { options with modelBase := text }),
    textField document "collection_base"
      (fun text options => { options with collectionBase := text })]
    Options.default.client

namespace Options

/-- Read all options. -/
def decode (document : Document) : Decoder Options :=
  document.decodeRecord "struct WadlgenConfig" [
    textField document "api_root" (fun text options => { options with apiRoot := text }),
    textField document "client_output" (fun text options => { options with clientOutput := text }),
    textField document "server_output" (fun text options => { options with serverOutput := text }),
    sectionField "naming" (NamingOptions.decode document)
      (fun naming options => { options with naming := naming }),
    sectionField "http" (MethodOptions.decode document)
      (fun methods options => { options with methods := methods }),
    sectionField "client" (ClientOptions.decode document)
      (fun client options => { options with client := client })]
    .default

/-- The options that a text states. -/
def ofText (text : String) : Except DecodeError Options :=
  let document := Document.ofText text
  document.decode .default (decode document)

end Options

end RestModel
