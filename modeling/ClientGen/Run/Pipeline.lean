import ClientGen.Run.Basic

/-!
# Pipelines

A pipeline applies the phases of every run and then further ones. Plugins act before and after each
phase on the run and on notes of their own; any of them may stop the run.
-/

namespace ClientGen

/-- A run with the notes of its plugins. -/
structure Session (ν : Type) where
  run : Run
  notes : ν

/-- What stopped a session, and the notes made so far. -/
structure Stopped (ν : Type) where
  failure : Failure
  session : Session ν

abbrev Action (ν : Type) := Session ν → Except (Stopped ν) (Session ν)

structure Plugin (ν : Type) where
  before : String → Action ν := fun _ => .ok
  after : String → Action ν := fun _ => .ok

structure Pipeline (ν : Type) where
  plugins : List (Plugin ν) := []
  phases : List Phase := []

namespace Pipeline

variable {ν : Type}

/-- A phase of a session: the plugins before it, the phase, the plugins after it. -/
def step (p : Pipeline ν) (s : Session ν) (phase : Phase) : Except (Stopped ν) (Session ν) := do
  let s ← p.plugins.foldlM (fun s plugin => plugin.before phase.name s) s
  let run ← (phase.apply s.run).mapError fun h => ⟨h.failure, { s with run := h.run }⟩
  p.plugins.foldlM (fun s plugin => plugin.after phase.name s) { s with run }

def run (p : Pipeline ν) (profile : Profile) (document : Document) (config : Config) (notes : ν) :
    Except (Stopped ν) (Session ν) :=
  (Phase.builtin ++ p.phases).foldlM p.step ⟨.start profile document config, notes⟩

end Pipeline

/-- The run of a document without plugins or further phases. -/
def generate (profile : Profile) (document : Document) (config : Config) : Except Failure Run :=
  (Phase.applyAll Phase.builtin (.start profile document config)).mapError (·.failure)

end ClientGen
