import SceneBook.Registry

/-!
# Registration with a host

A host that keeps languages in its own way is handed the plugins of the web languages through a
callback, one after the other, each under its tag.
-/

namespace SceneBook

/-- Takes a plugin that is offered under a tag: what becomes of the host, and whether it fails. -/
abbrev Callback (Host : Type) := Text → Plugin → Host → Host × Except Failure Unit

/-- What a host hands over to be called back: an object with attributes, or a mapping. A name of a
mapping may stand for nothing. -/
inductive Capabilities (Host : Type)
  | object (attribute? : Text → Option (Callback Host))
  | mapping (entries : List (Text × Option (Callback Host)))

namespace Capabilities

variable {Host : Type}

def callback? : Capabilities Host → Text → Option (Callback Host)
  | .object attribute?, name => attribute? name
  | .mapping entries, name => (entries.lookup name).join

/-- The name of the callback that takes plugins. Of the other names none is looked at. -/
def registrar : Text := "provides_language"

/-- Offers plugins under their tags up to the first that is refused, and returns the tags. -/
def offerEach (offer : Callback Host) (host : Host) :
    List Plugin → Host × Except Failure (List Text)
  | [] => (host, .ok [])
  | p :: rest =>
    match offer p.tag p host with
    | (host', .error f) => (host', .error f)
    | (host', .ok ()) =>
      let (final, tags) := offerEach offer host' rest
      (final, tags.map (p.tag :: ·))

/-- Offers the plugins of the web languages to a host that has a callback for them. -/
def offerWeb (c : Capabilities Host) (s : Settings) (host : Host) :
    Host × Except Failure (List Text) :=
  match c.callback? registrar with
  | none => (host, .error (.misuse .noRegistrar))
  | some offer => offerEach offer host (Plugin.web s)

end Capabilities

namespace Registry

/-- The callback of a registry itself. -/
def offer [Limits] : Callback Registry := fun tag p r =>
  match r.provide (.text tag) p with
  | .error f => (r, .error f)
  | .ok r' => (r', .ok ())

/-- A registry as a host: its callback is one of its own attributes. -/
def capabilities [Limits] : Capabilities Registry :=
  .object fun name => if name = Capabilities.registrar then some offer else none

end Registry

end SceneBook
