import ClientGen.Profile.LoopBack
import ClientGen.Profile.Moya
import ClientGen.Profile.Plain

/-!
# The built-in profiles

The profiles that the command line offers, and all profiles of the library, each in order of
registration.
-/

namespace ClientGen.Registry

def ofList (profiles : List Profile) : Registry := profiles.foldl register {}

/-- Profiles with templates of their own. -/
def clients : Registry := ofList [Swift.profile, Moya.profile, LoopBack.profile]

def builtin : Registry := clients.register Plain.profile

end ClientGen.Registry
