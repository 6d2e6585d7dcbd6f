import Stencil.Data.Json
import Stencil.Provider.Basic

/-!
# Scripted providers

Providers that answer as they are told, for trying out templates and for observing what is asked of
a provider. A plain provider offers the same candidates for every key and leaves everything else at
its simplest; a scripted one may also break down, hang, fail, object to candidates or embed files.
-/

namespace Stencil

/-- What a scripted provider does when it is called. -/
inductive Behaviour
  | panic
  | hang
  /-- Fails with a message. -/
  | fail (message : Text)
  /-- Offers the key. -/
  | echo
  | offer (candidates : List Candidate)

namespace Scripted

/-- A text as it is and a path as it was written; a record cannot be rendered. -/
def render : Candidate → Except ProviderError Text
  | .text s => .ok s
  | .path p => .ok p.text
  | .record v => .error (.unrenderable (Json.compact v))

/-- Always fails, and repeats its argument. -/
def explode : Filter := fun _ arg =>
  .error (.invalidArgument "explode".toList ("refused ".toList ++ arg.getD "nothing".toList))

/-- The filters of scripted providers. -/
def filters : List (String × Filter) :=
  [("reverse", fun cs _ => .ok cs.reverse), ("drop_first", fun cs _ => .ok (cs.drop 1)),
    ("explode", explode)]

/-- What a call with a key comes to. -/
def discover (behaviour : Behaviour) (key : Text) : Discovery :=
  match behaviour with
  | .panic => .panicked
  | .hang => .pending
  | .fail message => .failed (.commandFailed key message)
  | .echo => .found [.text key]
  | .offer cs => .found cs

/-- A provider with a script: what it does when it is called, what it says about candidates by key,
and whether it embeds files. -/
def provider (behaviour : Behaviour) (verdicts : List (Text × Validation)) (embeds : Bool) :
    Provider where
  description := "scripted".toList
  filterNames := Provider.namesOf filters
  filter? := Provider.ofTable filters
  discover _ _ key := discover behaviour key
  validate _ _ key := (verdicts.lookup key).getD .accepted
  render
  embeds

/-- A provider that offers the same candidates for every key. -/
def plain (candidates : List Candidate) : Provider :=
  .ofDiscovery "plain" [] (fun _ _ _ => .found candidates) render

end Scripted

end Stencil
