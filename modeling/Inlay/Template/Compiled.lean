/-
# `Inlay.Template.Compiled` — compiled templates

A compiled template turns data into a fragment.  It was compiled from markup,
or it is a function.
-/
import Inlay.Template.Assembly
import Inlay.Template.Render
import Inlay.Dispatch.Dispatcher

namespace Inlay

inductive CompiledTemplate
  | program (t : Template)
  | native (render : Data.Value → String)

/-- Why a compiled template renders nothing. -/
structure RenderError where
  message : String
  deriving Repr, DecidableEq

def RenderError.display (e : RenderError) : String := "Render error: " ++ e.message

namespace CompiledTemplate

/-- The title of a template that is compiled on its own. -/
def title : String := "template"

/-- Compile markup. -/
def ofMarkup (markup : String) : Except CompileError CompiledTemplate :=
  (Template.compile title markup).map .program

/-- The fragment for data. -/
def render (t : CompiledTemplate) (data : Data.Value) : Except RenderError String :=
  match t with
  | .program t => (t.render data).mapError fun f => ⟨f.message⟩
  | .native f => .ok (f data)

/-- What kind of template it is, for a message. -/
def describe : CompiledTemplate → String
  | .program _ => "CompiledTemplate(<handlebars>)"
  | .native _ => "CompiledTemplate(<fn>)"

/-- Compiling with the given function, rendering as compiled templates do. -/
def engineOf (compile : String → Except CompileError CompiledTemplate) :
    Engine CompiledTemplate where
  compile markup := (compile markup).toOption
  render t data := (t.render data).toOption

def engine : Engine CompiledTemplate := engineOf ofMarkup

end CompiledTemplate

/-- Render a template of a document into the document, and write it; `defaults` are the options. -/
def renderWith (html target key : String) (data : Data.Value) (defaults : Options) : String :=
  let d := Document.parse html
  (Dispatcher.add CompiledTemplate.engine ⟨Cache.empty, defaults⟩ d (d.select target) (.key key)
    data {}).document.write

/-- The same with the usual options. -/
def render (html target key : String) (data : Data.Value) : String :=
  renderWith html target key data {}

end Inlay
