import CableMap.Address.Ipv4
import CableMap.Oid

/-!
# Walks

A walk asks a host for everything under one identifier.
-/
namespace CableMap

/-- One walk of an identifier's subtree on a host. -/
structure Walk where
  /-- The host that is asked. -/
  host : Ipv4
  /-- The community that the request names. -/
  community : String
  /-- The identifier whose subtree is read. -/
  oid : Oid
  deriving DecidableEq

instance : ToString Walk := ⟨fun walk => s!"{walk.host} {walk.community} {walk.oid}"⟩

end CableMap
