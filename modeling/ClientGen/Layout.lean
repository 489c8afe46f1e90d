/-!
# Folders of the output

Every kind of generated file has its folder below the folder of the sources.
-/

namespace ClientGen

/-- Two folders with a slash between them; an empty one is left out. -/
def joinFolder (base child : String) : String :=
  if base.isEmpty then child
  else if child.isEmpty then base
  else .ofList (base.toList.reverse.dropWhile (· == '/')).reverse ++ "/" ++ child

structure Layout where
  source : String
  models : String := "Models"
  apis : String := "APIs"
  auth : String := "Auth"
  util : String := "Util"
  persistence : String := "Realm"
deriving DecidableEq, Repr

namespace Layout

def modelFolder (l : Layout) : String := joinFolder l.source l.models

def apiFolder (l : Layout) : String := joinFolder l.source l.apis

def authFolder (l : Layout) : String := joinFolder l.source l.auth

def utilFolder (l : Layout) : String := joinFolder l.source l.util

def persistenceFolder (l : Layout) : String := joinFolder l.source l.persistence

end Layout

end ClientGen
