import ClientGen.Profile.Basic

/-!
# Examples

Of the examples of an operation those are kept that the profile can embed, in its literal form.
-/

namespace ClientGen

variable (p : Profile) (t : Target)

def examplePhase : String := "examples"

def Operation.embedExamples (o : Operation) : Operation :=
  { o with
    examples := (o.examples.filter (p.keepsExample t)).map fun e =>
      { e with text := p.normalizeExample t e.text } }

def Api.embedExamples (api : Api) : Api :=
  { api with
    groups := api.groups.map fun g =>
      { g with operations := g.operations.map (.embedExamples p t) } }

end ClientGen
