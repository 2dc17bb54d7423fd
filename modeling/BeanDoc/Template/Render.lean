import BeanDoc.DocComment.Grammar
import BeanDoc.Template.Context
import BeanDoc.Template.Exec
import BeanDoc.Template.Expansion
import BeanDoc.Template.Parser.Statement

/-! Rendering of comment templates, and the check that a template renders to a documentation
comment. -/

namespace BeanDoc

inductive TemplateFault where
  | form (fault : Template.FormFault) (line : Nat)
  | eval (fault : Template.EvalFault) (line : Nat)
  | comment (fault : DocComment.Fault)
  deriving DecidableEq, Repr

def TemplateFault.message : TemplateFault → String
  | form f line => "invalid template syntax: " ++ Template.describe f.kind f.detail line
  | eval f line => "template rendering failed: " ++ Template.describe f.kind f.detail line
  | comment f => "rendered template is not a valid documentation comment: " ++ f.message

namespace Template

def render (template : String) (c : Context) : Except TemplateFault String :=
  match parse (expand template).toList with
  | .error (f, line) => .error (.form f line)
  | .ok body =>
    match renderStatements c.bindings body with
    | .error (f, line) => .error (.eval f line)
    | .ok text => .ok text

def checkWith {α : Type} (grammar : String → Except DocComment.Fault α) (template : String) :
    Except TemplateFault Unit :=
  match render template .sample with
  | .error f => .error f
  | .ok text =>
    match grammar text with
    | .error f => .error (.comment f)
    | .ok _ => .ok ()

def check (template : String) : Except TemplateFault Unit :=
  checkWith DocComment.parse template

end Template

end BeanDoc
