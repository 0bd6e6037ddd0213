import RestModel.JavaScript.Source

/-!
# Constructors

A record with members has a constructor that sets each of them from a parameter.  The bare
constructor stands in client code; server code wraps it into a module that loads the base in front
and the types of the members behind.
-/

namespace RestModel.JavaScript

/-- The comment of a field: its type, and its documentation if it has any. -/
def fieldComment (field : Field) : String :=
  match field.doc with
  | some doc => field.typeLabel ++ " " ++ doc
  | none => field.typeLabel

/-- The line that sets a field. -/
def fieldLine (field : Field) : String :=
  line ("  this['" ++ field.name.original ++ "'] = " ++ field.param ++ "; // " ++
    fieldComment field)

/-- The parameters of a constructor. -/
def parameters (constructor : Constructor) : String :=
  ", ".intercalate (constructor.fields.map Field.param)

/-- The call of the base at the beginning of a constructor. -/
def baseCall (base : TypeLink) : String :=
  block [line ("  " ++ base.name.camelCase ++ ".call(this);"), line ""]

/-- The statements that put a constructor below its base. -/
def baseChain (name : String) (base : TypeLink) : String :=
  block [
    line (name ++ ".prototype = new " ++ base.name.camelCase ++ "();"),
    line (name ++ ".prototype.constructor = " ++ name ++ ";")]

/-- The bare constructor. -/
def bareConstructor (name : String) (constructor : Constructor) : String :=
  block [
    line ("var " ++ name ++ " = function(" ++ parameters constructor ++ ")"),
    line "\x7b",
    (constructor.base.map baseCall).getD "",
    block (constructor.fields.map fieldLine),
    line "\x7d;",
    (constructor.base.map (baseChain name)).getD ""]

/-- What stands before the constructor in a module. -/
def moduleHead (sourceDir : String) (base : Option TypeLink) : String :=
  block [
    line moduleStatement,
    (base.map (fun link => block [line (requireStatement sourceDir link), line ""])).getD ""]

/-- What stands behind the constructor in a module: the export, then the types of the members.  The
types without a constructor are mentioned in a comment only. -/
def moduleTail (name sourceDir : String) (requires memberless : List TypeLink) : String :=
  block [
    line "",
    line (exportStatement name),
    onlyIf (!requires.isEmpty || !memberless.isEmpty) (line ""),
    block (requires.map (fun link => line (requireStatement sourceDir link))),
    onlyIf (!memberless.isEmpty) (block [
      line "// No constructor is generated for these types; they have no members.",
      block (memberless.map (fun link => line ("//" ++ requireStatement sourceDir link)))])]

/-- The constructor of a record as a module. -/
def constructorModule (record : Record) (constructor : Constructor) : String :=
  block [
    moduleHead record.sourceDir constructor.base,
    bareConstructor record.name.camelCase constructor,
    moduleTail record.name.camelCase record.sourceDir constructor.requires
      constructor.memberlessRequires]

/-- The constructor in a record, as a module or bare; a record without members has none. -/
def constructorText? (record : Record) (asModule : Bool) : Option String :=
  record.constructor.map (fun constructor =>
    if asModule then constructorModule record constructor
    else bareConstructor record.name.camelCase constructor)

end RestModel.JavaScript
