import ClientGen.Failure
import ClientGen.Json.Printer
import ClientGen.Toml.Reader
import ClientGen.Unicode.Blank

/-!
# Options and settings

A config holds the options supplied for a run in the order in which they were first set. A profile
declares options with defaults; resolving a config against them gives the settings: the declared
options first, flags as booleans and texts as strings, then every other option as it was supplied.
-/

namespace ClientGen

structure Config where
  values : Entries Json := []
  distinct : values.keys.Nodup := by simp [Entries.keys]

namespace Config

def set (c : Config) (key : String) (value : Json) : Config :=
  ⟨c.values.put key value, Entries.nodup_keys_put c.distinct key value⟩

def get? (c : Config) (key : String) : Option Json := c.values.get? key

def isEmpty (c : Config) : Bool := c.values.isEmpty

/-- The options of both; those of `later` win and new ones come last. -/
def merge (c later : Config) : Config :=
  ⟨c.values.putAll later.values, Entries.nodup_keys_putAll c.distinct later.values⟩

def ofEntries (entries : Entries Json) : Config := entries.foldl (fun c p => c.set p.1 p.2) {}

/-- The key and the value around the first equals sign; a blank key is none. -/
def splitPair? (pair : String) : Option (String × String) :=
  let cs := pair.toList
  match cs.dropWhile (· != '=') with
  | _ :: value =>
    let key := cs.takeWhile (· != '=')
    if key.all Unicode.isBlank then none
    else some (Unicode.trim (.ofList key), .ofList value)
  | [] => none

/-- Options written as `key=value`; the values stay texts. -/
def ofPairs (pairs : List String) : Except Failure Config :=
  pairs.foldlM (fun c pair =>
    match splitPair? pair with
    | some (key, value) => .ok (c.set key (.str value))
    | none => .error (.invalidOption pair)) {}

/-- The table `options` of a TOML text, if it has one. -/
def ofToml (text : String) : Except Failure Config :=
  match Toml.parse text with
  | none => .error .configText
  | some root => .ok (ofEntries ((Toml.table? root "options").getD []))

end Config

inductive OptionDefault
  | text (s : String)
  | flag (b : Bool)
deriving DecidableEq, Repr

/-- An option that a profile knows. -/
structure ConfigOption where
  name : String
  description : String
  default : OptionDefault
deriving DecidableEq, Repr

def ConfigOption.text (name description default : String) : ConfigOption :=
  ⟨name, description, .text default⟩

def ConfigOption.flag (name description : String) (default : Bool) : ConfigOption :=
  ⟨name, description, .flag default⟩

def ConfigOption.defaultText (o : ConfigOption) : String :=
  match o.default with
  | .text s => s
  | .flag b => if b then "true" else "false"

/-- Only the boolean and the text `true` are true. -/
def isTrue : Json → Bool
  | .bool b => b
  | .str s => s == "true"
  | _ => false

/-- The value of a declared option, from what was supplied for it. -/
def OptionDefault.resolve (default : OptionDefault) (supplied : Option Json) : Json :=
  match default with
  | .flag b => .bool ((supplied.map isTrue).getD b)
  | .text s => .str ((supplied.map Json.text).getD s)

structure Settings where
  values : Entries Json := []
  distinct : values.keys.Nodup := by simp [Entries.keys]

namespace Settings

def get? (s : Settings) (key : String) : Option Json := s.values.get? key

/-- The text of a setting, if it is one. -/
def string? (s : Settings) (key : String) : Option String := (s.get? key).bind Json.string?

def flag (s : Settings) (key : String) : Bool := ((s.get? key).map isTrue).getD false

def set (s : Settings) (key : String) (value : Json) : Settings :=
  ⟨s.values.put key value, Entries.nodup_keys_put s.distinct key value⟩

def declared (options : List ConfigOption) (config : Config) : Settings :=
  options.foldl (fun s o => s.set o.name (o.default.resolve (config.get? o.name))) {}

/-- The settings, then the entries of a config under other keys. -/
def addOthers (s : Settings) (config : Config) : Settings where
  values := s.values ++ config.values.filter fun p => !s.values.hasKey p.1
  distinct := by
    simp only [Entries.keys, List.map_append]
    refine List.nodup_append.2 ⟨s.distinct, ?_, ?_⟩
    · exact config.distinct.sublist (List.filter_sublist.map Prod.fst)
    · rintro key hs _ hc rfl
      obtain ⟨p, hp, rfl⟩ := List.mem_map.1 hs
      obtain ⟨q, hq, hk⟩ := List.mem_map.1 hc
      have := (List.mem_filter.1 hq).2
      simp only [Entries.hasKey, Bool.not_eq_true', List.any_eq_false] at this
      exact this p hp (by simp [hk])

/-- The declared options, then those of the config that no declaration mentions. -/
def resolve (options : List ConfigOption) (config : Config) : Settings :=
  (declared options config).addOthers config

end Settings

end ClientGen
