import ClientGen.Profile.Basic
import ClientGen.Run.Diagnostic

/-!
# Resources, responses and summaries of groups

A group takes its resource path from its first operation; each operation gets the response that its
method returns and may lose the resource path; the summary tells which usual operations there are.
A group without operations is reported and left alone.
-/

namespace ClientGen

variable (p : Profile) (t : Target)

def groupPhase : String := "group"

/-- A slash and the first segment of a path. -/
def resourcePathOf (path : String) : String :=
  "/" ++ .ofList ((path.toList.dropWhile (· == '/')).takeWhile (· != '/'))

/-- The path below a resource; none if nothing remains, the whole path if it is not below. -/
def stripResourcePath (resource path : String) : Option String :=
  match resource.toList.isPrefixOf? path.toList with
  | some [] | some ['/'] => none
  | some ('/' :: rest) => some (.ofList rest)
  | _ => some path

/-- Tells whether the body is a list from its shape. -/
def Response.markList (r : Response) : Response :=
  { r with isListContainer := r.container == .list }

/-- A success with a body that is no primitive. -/
def Response.hasModelBody (r : Response) : Bool :=
  r.isSuccess && r.dataType.isSome && !r.isPrimitive

/-- The first success with such a body, marked in place; else a text. -/
def firstModelBody (stringType : String) (responses : List Response) : Response × List Response :=
  match responses.findIdx? (·.hasModelBody) with
  | some i =>
    let marked := responses.modify i Response.markList
    ((marked[i]?).getD (.generic stringType), marked)
  | none => (.generic stringType, responses)

/-- The response that a method returns, and the responses with the chosen one updated. A single
response for any status is a text. -/
def selectResponse (stringType : String) (responses : List Response) :
    Response × List Response :=
  match responses with
  | [only] =>
    if only.isWildcard then
      let r := { only with dataType := some stringType }.markList
      (r, [r])
    else firstModelBody stringType responses
  | _ => firstModelBody stringType responses

/-- The operation with its response, and its path below the resource. -/
def Operation.settle (resource : Option String) (o : Operation) : Operation :=
  let (chosen, responses) := selectResponse t.spec.stringType o.responses
  { o with
    responses
    successfulResponse := some chosen
    path :=
      match resource, o.path with
      | some resource, some path =>
        if t.spec.stripResourcePath then stripResourcePath resource path else some path
      | _, path => path }

/-- One more operation in a summary. -/
def GroupSummary.note (s : GroupSummary) (o : Operation) : GroupSummary :=
  let returns := o.successfulResponse.bind (·.dataType)
  match o.operationId with
  | "create" => { s with hasCreate := true }
  | "upsert" => { s with hasUpsert := true }
  | "find" => { s with hasFind := true }
  | "findOne" => { s with hasFindOne := true }
  | "findById" => { s with hasFindById := true }
  | "count" => { s with hasCount := true, countReturnType := returns.getD s.countReturnType }
  | "deleteById" =>
    { s with hasDeleteById := true, deleteReturnType := returns.getD s.deleteReturnType }
  | _ => s

def summarize (operations : List Operation) : GroupSummary :=
  operations.foldl .note
    { countReturnType := t.spec.returnHints.count, deleteReturnType := t.spec.returnHints.delete }

def OperationGroup.settle (g : OperationGroup) : OperationGroup :=
  let resourcePath := (g.operations.head?.bind (·.path)).map resourcePathOf
  let operations := g.operations.map (.settle t resourcePath)
  { g with resourcePath, operations, summary := summarize t operations }

def Api.settleGroups (api : Api) : Api :=
  { api with
    groups := api.groups.map fun g =>
      if g.operations.isEmpty then g else p.finishGroup t (g.settle t) }

def Api.groupDiagnostics (api : Api) : List Diagnostic :=
  (api.groups.filter (·.operations.isEmpty)).map fun g =>
    ⟨.warning, groupPhase, "operation group has no operations", some g.className⟩

end ClientGen
