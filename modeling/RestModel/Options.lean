/-!
# Options

What a project can choose about naming, resource methods and generated code, with the choices made
where it says nothing.
-/

namespace RestModel

/-- How type names are derived and matched. -/
structure NamingOptions where
  /-- A target namespace that holds this marker is the home namespace. -/
  homeNamespace : String
  /-- The part of a name that marks a list type. -/
  listSuffix : String
  deriving DecidableEq

/-- Which methods and statuses count. -/
structure MethodOptions where
  readMethod : String
  successStatuses : List String
  deriving DecidableEq

/-- The names that generated client code builds on. -/
structure ClientOptions where
  modelBase : String
  collectionBase : String
  deriving DecidableEq

/-- The choices of a project. -/
structure Options where
  /-- The directory that is searched for documents. -/
  apiRoot : String
  clientOutput : String
  serverOutput : String
  naming : NamingOptions
  methods : MethodOptions
  client : ClientOptions
  deriving DecidableEq

/-- The choices of a project that says nothing. -/
def Options.default : Options where
  apiRoot := "wadl"
  clientOutput := "models"
  serverOutput := "wadltypegen"
  naming := ⟨"polycom", "-list"⟩
  methods := ⟨"GET", ["200"]⟩
  client := ⟨"PlcmModel", "PlcmCollection"⟩

instance : Inhabited Options := ⟨.default⟩

/-- The text of a file that states the default choices. -/
def Options.defaultText : String :=
  "# wadlgen configuration\n" ++
  "api_root: wadl            # searched recursively for .xsd and .wadl files\n" ++
  "client_output: models     # *-model.js and *-enum.js\n" ++
  "server_output: wadltypegen  # constructors and index.js\n" ++
  "\n" ++
  "naming:\n" ++
  "  home_namespace: polycom  # namespaces without this marker get a file-name prefix\n" ++
  "  list_suffix: -list       # plcm-user-list is folded into plcm-user\n" ++
  "\n" ++
  "http:\n" ++
  "  read_method: GET\n" ++
  "  success_statuses: [\"200\"]\n" ++
  "\n" ++
  "client:\n" ++
  "  model_base: PlcmModel\n" ++
  "  collection_base: PlcmCollection\n"

end RestModel
