import ClientGen.Emission
import ClientGen.Template.Store

/-!
# Renderers

A file is rendered from its template, or, without templates, as its context in JSON.
-/

namespace ClientGen

inductive Renderer
  | contexts
  | templates (store : TemplateStore)

/-- The context on lines of its own. -/
def contextText (context : Json) : String := context.pretty ++ "\n"

namespace Renderer

def render (r : Renderer) (template : String) (context : Entries Json) : Except Failure String :=
  match r with
  | .contexts => .ok (contextText (.obj context))
  | .templates store => store.render template (.obj context)

end Renderer

end ClientGen
