import RestModel.Proofs.JavaScript.Delegation
import RestModel.Proofs.Template

/-!
# The template of a constructor

One template renders both forms of a constructor, with a switch for the parts of a module.  It falls
into three templates.  Only the outer ones read the switch, so the middle one renders the same text
in both forms, and this text is the bare constructor.
-/

namespace RestModel.JavaScript

open Template

/-- The lines of the template. -/
def constructorLines : List String := [
  "\x7b% if server %\x7d",
  "module = module || \x7bexports: \x7b\x7d\x7d;",
  "\x7b% if base %\x7d",
  "var \x7b\x7b base.camel \x7d\x7d = require('\x7b\x7b base.path \x7d\x7d').\x7b\x7b base.camel \x7d\x7d;",
  "",
  "\x7b% endif %\x7d",
  "\x7b% endif %\x7d",
  "var \x7b\x7b name \x7d\x7d = function(\x7b\x7b params \x7d\x7d)",
  "\x7b",
  "\x7b% if base %\x7d",
  "  \x7b\x7b base.camel \x7d\x7d.call(this);",
  "",
  "\x7b% endif %\x7d",
  "\x7b% for field in fields %\x7d",
  "  this['\x7b\x7b field.member \x7d\x7d'] = \x7b\x7b field.param \x7d\x7d; // \x7b\x7b field.comment \x7d\x7d",
  "\x7b% endfor %\x7d",
  "\x7d;",
  "\x7b% if base %\x7d",
  "\x7b\x7b name \x7d\x7d.prototype = new \x7b\x7b base.camel \x7d\x7d();",
  "\x7b\x7b name \x7d\x7d.prototype.constructor = \x7b\x7b name \x7d\x7d;",
  "\x7b% endif %\x7d",
  "\x7b% if server %\x7d",
  "",
  "module.exports.\x7b\x7b name \x7d\x7d = \x7b\x7b name \x7d\x7d;",
  "\x7b% if requires or memberless %\x7d",
  "",
  "\x7b% endif %\x7d",
  "\x7b% for require in requires %\x7d",
  "var \x7b\x7b require.camel \x7d\x7d = require('\x7b\x7b require.path \x7d\x7d').\x7b\x7b require.camel \x7d\x7d;",
  "\x7b% endfor %\x7d",
  "\x7b% if memberless %\x7d",
  "// No constructor is generated for these types; they have no members.",
  "\x7b% for require in memberless %\x7d",
  "//var \x7b\x7b require.camel \x7d\x7d = require('\x7b\x7b require.path \x7d\x7d').\x7b\x7b require.camel \x7d\x7d;",
  "\x7b% endfor %\x7d",
  "\x7b% endif %\x7d",
  "\x7b% endif %\x7d"]

/-! ## Parts -/

/-- A statement that loads a linked type. -/
def linkPiece (front link back : String) (next : Template) : Template :=
  .literal front <| .print [link, "camel"] <| .literal " = require('" <| .print [link, "path"] <|
  .literal "')." <| .print [link, "camel"] <| .literal back next

/-- What stands before the constructor in a module. -/
def headTemplate : Template :=
  .literal "module = module || \x7bexports: \x7b\x7d\x7d;\n" <|
  .given [["base"]] (linkPiece "var " "base" ";\n\n" .done) .done

/-- The call of the base. -/
def callPiece : Template :=
  .literal "  " <| .print ["base", "camel"] <| .literal ".call(this);\n\n" .done

/-- The line of a field. -/
def fieldPiece : Template :=
  .literal "  this['" <| .print ["field", "member"] <| .literal "'] = " <|
  .print ["field", "param"] <| .literal "; // " <| .print ["field", "comment"] <|
  .literal "\n" .done

/-- The statements that put the constructor below its base. -/
def chainPiece : Template :=
  .print ["name"] <| .literal ".prototype = new " <| .print ["base", "camel"] <|
  .literal "();\n" <| .print ["name"] <| .literal ".prototype.constructor = " <|
  .print ["name"] <| .literal ";\n" .done

/-- The constructor itself. -/
def bareTemplate : Template :=
  .literal "var " <| .print ["name"] <| .literal " = function(" <| .print ["params"] <|
  .literal ")\n\x7b\n" <| .given [["base"]] callPiece <| .each "field" ["fields"] fieldPiece <|
  .literal "\x7d;\n" <| .given [["base"]] chainPiece .done

/-- The comment on the types without a constructor. -/
def memberlessPiece : Template :=
  .literal "// No constructor is generated for these types; they have no members.\n" <|
  .each "require" ["memberless"] (linkPiece "//var " "require" ";\n" .done) .done

/-- What stands behind the constructor in a module. -/
def tailTemplate : Template :=
  .literal "\nmodule.exports." <| .print ["name"] <| .literal " = " <| .print ["name"] <|
  .literal ";\n" <|
  .given [["requires"], ["memberless"]] (.literal "\n" .done) <|
  .each "require" ["requires"] (linkPiece "var " "require" ";\n" .done) <|
  .given [["memberless"]] memberlessPiece .done

/-- A part that stands in a module only. -/
def moduleOnly (part : Template) : Template :=
  .given [["server"]] part .done

set_option maxRecDepth 2000 in
/-- The lines read as the three parts, one behind the other. -/
theorem ofLines?_constructorLines : ofLines? constructorLines =
    some ((moduleOnly headTemplate).followedBy
      (bareTemplate.followedBy (moduleOnly tailTemplate))) := by
  simp only [ofLines?, constructorLines, List.flatMap_cons, List.flatMap_nil]
  -- literals are spelled out first, since taking a string apart is slow
  repeat rw [String.toList_ofList]
  rfl

/-! ## Values -/

/-- The value of a link. -/
def linkValue (origin : String) (link : TypeLink) : Value :=
  .record [("camel", .text link.name.camelCase),
    ("path", .text (Path.require origin link.sourceDir link.name.original))]

/-- The value of a field. -/
def fieldValue (field : Field) : Value :=
  .record [("member", .text field.name.original), ("param", .text field.param),
    ("comment", .text (fieldComment field))]

/-- The values that the template gets, without the switch. -/
def constructorScope (record : Record) (constructor : Constructor) : Scope := [
  ("name", .text record.name.camelCase),
  ("params", .text (parameters constructor)),
  ("base", (constructor.base.map (linkValue record.sourceDir)).getD .absent),
  ("fields", .list (constructor.fields.map fieldValue)),
  ("requires", .list (constructor.requires.map (linkValue record.sourceDir))),
  ("memberless", .list (constructor.memberlessRequires.map (linkValue record.sourceDir)))]

/-- The text that the template renders, as a module or bare. -/
def renderConstructor (record : Record) (constructor : Constructor) (asModule : Bool) :
    Option String :=
  (ofLines? constructorLines).bind
    (render (("server", .flag asModule) :: constructorScope record constructor))

/-! ## Texts of the parts -/

variable {scope : Scope} {record : Record} {constructor : Constructor} {origin name : String}
  {link : TypeLink}

theorem valueOf_camel (hname : scope.lookup name = some (linkValue origin link)) :
    valueOf scope [name, "camel"] = .text link.name.camelCase := by
  rw [valueOf, hname]
  rfl

theorem valueOf_path (hname : scope.lookup name = some (linkValue origin link)) :
    valueOf scope [name, "path"] =
      .text (Path.require origin link.sourceDir link.name.original) := by
  rw [valueOf, hname]
  rfl

theorem valueOf_name : valueOf (constructorScope record constructor) ["name"] =
    .text record.name.camelCase := rfl

theorem render_linkPiece {front back : String} {next : Template}
    (hname : scope.lookup name = some (linkValue origin link)) :
    render scope (linkPiece front name back next) = (render scope next).map
      (front ++ link.name.camelCase ++ " = " ++
        requireCall (Path.require origin link.sourceDir link.name.original) link.name.camelCase ++
        back ++ ·) := by
  simp only [linkPiece, render_literal, render_print (valueOf_camel hname),
    render_print (valueOf_path hname), Option.map_map, requireCall]
  congr 1
  funext text
  simp only [Function.comp_apply, String.append_assoc]
  rfl

/-- A statement for each of several links, perhaps behind a mark. -/
theorem render_each_linkPiece {links : List TypeLink} {front mark : String} {next : Template}
    (hlinks : valueOf scope [name] = .list (links.map (linkValue record.sourceDir)))
    (hfront : front = mark ++ "var ") :
    render scope (.each "require" [name] (linkPiece front "require" ";\n" .done) next) =
      (render scope next).map (block (links.map (fun link =>
        line (mark ++ requireStatement record.sourceDir link))) ++ ·) := by
  refine render_each hlinks ?_
  intro link _
  rw [render_linkPiece List.lookup_cons_self, render_done, Option.map_some, hfront]
  simp only [requireStatement, line, String.append_assoc]
  rfl

theorem render_fieldPiece (field : Field) :
    render (("field", fieldValue field) :: scope) fieldPiece = some (fieldLine field) := by
  simp [fieldPiece, render, valueOf, Value.field, fieldValue, List.lookup_cons, fieldLine, line,
    String.append_assoc]

theorem render_callPiece (hbase : scope.lookup "base" = some (linkValue origin link)) :
    render scope callPiece = some (baseCall link) := by
  simp only [callPiece, render_literal, render_print (valueOf_camel hbase), render_done,
    Option.map_some, baseCall, block_cons, block_nil, line, String.append_assoc,
    String.append_empty]
  rfl

theorem render_chainPiece (hbase : (constructorScope record constructor).lookup "base" =
    some (linkValue origin link)) :
    render (constructorScope record constructor) chainPiece =
      some (baseChain record.name.camelCase link) := by
  simp only [chainPiece, render_literal, render_print valueOf_name,
    render_print (valueOf_camel hbase), render_done, Option.map_some, baseChain, block_cons,
    block_nil, line, String.append_assoc, String.append_empty]
  rfl

/-- A section for a link, if there is one. -/
theorem render_given_link {base : Option TypeLink} {text : TypeLink → String}
    {body next : Template}
    (hname : scope.lookup name = some ((base.map (linkValue origin)).getD .absent))
    (hbody : ∀ link, scope.lookup name = some (linkValue origin link) →
      render scope body = some (text link)) :
    render scope (.given [[name]] body next) =
      (render scope next).map ((base.map text).getD "" ++ ·) := by
  have hholds : holds scope [[name]] = base.isSome := by
    rw [holds, List.any_cons, valueOf, hname]
    cases base <;> rfl
  have hsection : holds scope [[name]] = true →
      render scope body = some ((base.map text).getD "") := by
    intro hgiven
    cases base with
    | none => exact absurd (hholds.symm.trans hgiven) Bool.false_ne_true
    | some link => exact hbody link hname
  rw [render_given hsection, hholds]
  cases base <;> rfl

theorem render_headTemplate : render (constructorScope record constructor) headTemplate =
    some (moduleHead record.sourceDir constructor.base) := by
  have hload : ∀ link, (constructorScope record constructor).lookup "base" =
      some (linkValue record.sourceDir link) →
        render (constructorScope record constructor) (linkPiece "var " "base" ";\n\n" .done) =
          some (block [line (requireStatement record.sourceDir link), line ""]) := by
    intro link hlink
    rw [render_linkPiece hlink]
    simp only [render_done, Option.map_some, requireStatement, block_cons, block_nil, line,
      String.append_assoc, String.append_empty]
    rfl
  rw [headTemplate, render_literal, render_given_link rfl hload]
  simp only [render_done, Option.map_some, moduleHead, block_cons, block_nil, String.append_empty]
  rfl

theorem render_bareTemplate : render (constructorScope record constructor) bareTemplate =
    some (bareConstructor record.name.camelCase constructor) := by
  have hparams : valueOf (constructorScope record constructor) ["params"] =
      .text (parameters constructor) := rfl
  have hbase : (constructorScope record constructor).lookup "base" =
      some ((constructor.base.map (linkValue record.sourceDir)).getD .absent) := rfl
  have hfields : valueOf (constructorScope record constructor) ["fields"] =
      .list (constructor.fields.map fieldValue) := rfl
  simp only [bareTemplate, render_literal, render_print valueOf_name, render_print hparams,
    render_given_link hbase (fun _ => render_callPiece),
    render_given_link hbase (fun _ => render_chainPiece),
    render_each hfields (fun field _ => render_fieldPiece field), render_done, Option.map_some,
    bareConstructor, block_cons, block_nil, line, String.append_assoc, String.append_empty]
  rfl

theorem render_memberlessPiece : render (constructorScope record constructor) memberlessPiece =
    some (block [
      line "// No constructor is generated for these types; they have no members.",
      block (constructor.memberlessRequires.map (fun link =>
        line ("//" ++ requireStatement record.sourceDir link)))]) := by
  have hmemberless : valueOf (constructorScope record constructor) ["memberless"] =
      .list (constructor.memberlessRequires.map (linkValue record.sourceDir)) := rfl
  have hcommented : "//var " = "//" ++ "var " := rfl
  rw [memberlessPiece, render_literal, render_each_linkPiece hmemberless hcommented, render_done,
    Option.map_some, Option.map_some, String.append_empty, block_cons, block_cons, block_nil,
    String.append_empty]
  rfl

theorem render_tailTemplate : render (constructorScope record constructor) tailTemplate =
    some (moduleTail record.name.camelCase record.sourceDir constructor.requires
      constructor.memberlessRequires) := by
  have hrequires : valueOf (constructorScope record constructor) ["requires"] =
      .list (constructor.requires.map (linkValue record.sourceDir)) := rfl
  have hmemberless : valueOf (constructorScope record constructor) ["memberless"] =
      .list (constructor.memberlessRequires.map (linkValue record.sourceDir)) := rfl
  have hsome : holds (constructorScope record constructor) [["requires"], ["memberless"]] =
      (!constructor.requires.isEmpty || !constructor.memberlessRequires.isEmpty) := by
    simp [holds, hrequires, hmemberless, Value.isTrue]
  have hcomment : holds (constructorScope record constructor) [["memberless"]] =
      !constructor.memberlessRequires.isEmpty := by
    simp [holds, hmemberless, Value.isTrue]
  have hgap : render (constructorScope record constructor) (.literal "\n" .done) =
      some (line "") := rfl
  have hopening : "\nmodule.exports." = line "" ++ "module.exports." := rfl
  have hclosing : ";\n" = line ";" := rfl
  have hplain : "var " = "" ++ "var " := rfl
  rw [tailTemplate, render_literal, render_print valueOf_name, render_literal,
    render_print valueOf_name, render_literal, render_given (fun _ => hgap), hsome,
    render_each_linkPiece hrequires hplain, render_given (fun _ => render_memberlessPiece),
    hcomment, render_done, hopening, hclosing]
  unfold moduleTail exportStatement
  simp only [Option.map_some, onlyIf, block_cons, block_nil, line, String.append_assoc,
    String.append_empty, String.empty_append]

/-- A part that does not read the switch, in both forms. -/
theorem render_moduleOnly {part : Template} {text : String} (asModule : Bool)
    (hreads : "server" ∉ part.reads)
    (hpart : render (constructorScope record constructor) part = some text) :
    render (("server", .flag asModule) :: constructorScope record constructor) (moduleOnly part) =
      some (onlyIf asModule text) := by
  have hswitch : holds (("server", .flag asModule) :: constructorScope record constructor)
      [["server"]] = asModule := Bool.or_false asModule
  have hinner := (render_cons_of_not_mem_reads (.flag asModule) hreads).trans hpart
  rw [moduleOnly, render_given (fun _ => hinner), hswitch, render_done, Option.map_some,
    String.append_empty, onlyIf]

theorem renderConstructor_eq (record : Record) (constructor : Constructor) (asModule : Bool) :
    renderConstructor record constructor asModule =
      some (onlyIf asModule (moduleHead record.sourceDir constructor.base) ++
        (bareConstructor record.name.camelCase constructor ++
          onlyIf asModule (moduleTail record.name.camelCase record.sourceDir constructor.requires
            constructor.memberlessRequires))) := by
  have hbare : render (("server", .flag asModule) :: constructorScope record constructor)
      bareTemplate = some (bareConstructor record.name.camelCase constructor) :=
    (render_cons_of_not_mem_reads (.flag asModule) (by decide)).trans render_bareTemplate
  rw [renderConstructor, ofLines?_constructorLines, Option.bind_some]
  exact render_followedBy (render_moduleOnly asModule (by decide) render_headTemplate)
    (render_followedBy hbare (render_moduleOnly asModule (by decide) render_tailTemplate))

/-! ## The two forms -/

/-- The template renders both forms of a constructor.  The module is the bare constructor, with a
head that depends on the directory and the base, and a tail that depends on the name, the directory
and the types of the members.  The client code of a record on some path contains the bare
constructor. -/
theorem constructor_forms_share_text {record : Record} {constructor : Constructor}
    (hconstructor : record.constructor = some constructor) :
    (∀ asModule, constructorText? record asModule =
      renderConstructor record constructor asModule) ∧
    ∃ bare, constructorText? record false = some bare ∧
      constructorText? record true = some (moduleHead record.sourceDir constructor.base ++ bare ++
        moduleTail record.name.camelCase record.sourceDir constructor.requires
          constructor.memberlessRequires) ∧
      ∀ client model, record.model = some model →
        ∃ front back, modelText? record client = some (front ++ bare ++ back) := by
  have hbare : constructorText? record false =
      some (bareConstructor record.name.camelCase constructor) := by
    rw [constructorText?, hconstructor]
    rfl
  have hmodule : constructorText? record true = some (
      moduleHead record.sourceDir constructor.base ++
        bareConstructor record.name.camelCase constructor ++
        moduleTail record.name.camelCase record.sourceDir constructor.requires
          constructor.memberlessRequires) := by
    rw [constructorText?, hconstructor, Option.map_some, if_pos rfl, constructorModule, block_cons,
      block_cons, block_cons, block_nil, String.append_empty, String.append_assoc]
  refine ⟨?_, _, hbare, hmodule, ?_⟩
  · intro asModule
    rw [renderConstructor_eq]
    cases asModule with
    | false => simp [hbare, onlyIf]
    | true => simp [hmodule, onlyIf, String.append_assoc]
  · intro client model hmodel
    rw [modelText?, hmodel, Option.map_some, hbare]
    refine ⟨banner record.name.camelCase model.paths,
      block [line "", modelFunction record model client, collectionFunctions record client],
      congrArg some ?_⟩
    simp only [Option.map_some, Option.getD_some, block_cons, block_nil, line, String.append_assoc,
      String.append_empty, String.empty_append]

/-- A user with a base, a role that has members and a marker that has none. -/
def userRecord : Record where
  name := .ofName "plcm-user"
  sourceDir := "users"
  constructor := some {
    fields := [⟨.ofName "user-id", "userIdParam", "string", some "Unique identifier."⟩,
      ⟨.ofName "plcm-role", "plcmRoleParam", "plcm-role", none⟩]
    base := some ⟨.ofName "plcm-entity", "users"⟩
    requires := [⟨.ofName "plcm-role", "roles"⟩]
    memberlessRequires := [⟨.ofName "plcm-marker", ""⟩] }
  model := some {
    url := "/api/users"
    paths := [⟨"/api/users", ["POST"]⟩]
    accessors := ["user-id", "plcm-role"].map .ofMember }
  collection := none

theorem userRecord_forms_share_text : ∃ bare, constructorText? userRecord false = some bare ∧
    constructorText? userRecord true = some (
      moduleHead "users" (some ⟨.ofName "plcm-entity", "users"⟩) ++ bare ++
        moduleTail "plcmUser" "users" [⟨.ofName "plcm-role", "roles"⟩]
          [⟨.ofName "plcm-marker", ""⟩]) ∧
    ∃ front back, modelText? userRecord ⟨"BaseModel", "BaseCollection"⟩ =
      some (front ++ bare ++ back) := by
  obtain ⟨-, bare, hbare, hmodule, hmodel⟩ := constructor_forms_share_text
    (show userRecord.constructor = some _ from rfl)
  refine ⟨bare, hbare, hmodule.trans ?_, hmodel ⟨"BaseModel", "BaseCollection"⟩ _ rfl⟩
  have hname : userRecord.name.camelCase = "plcmUser" := by decide
  rw [hname]
  rfl

end RestModel.JavaScript
