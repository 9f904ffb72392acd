import CableMap.Binding
import CableMap.Walk

/-!
# Known hosts

For every host that was read with success, the bindings it reported last. The hosts stand in the
order of their addresses, each once.
-/
namespace CableMap

/-- The hosts that were read and what each reported last. -/
structure KnownHosts where
  /-- The hosts by rising address. -/
  hosts : List (Ipv4 × List Binding)

namespace KnownHosts

/-- No host was read. -/
def empty : KnownHosts := ⟨[]⟩

/-- Put what a host reported in its place among hosts by rising address. -/
def place (host : Ipv4) (bindings : List Binding) :
    List (Ipv4 × List Binding) → List (Ipv4 × List Binding)
  | [] => [(host, bindings)]
  | (other, kept) :: rest =>
    if host = other then (host, bindings) :: rest
    else if host.toNat < other.toNat then (host, bindings) :: (other, kept) :: rest
    else (other, kept) :: place host bindings rest

/-- The known hosts after one reported. -/
def record (known : KnownHosts) (host : Ipv4) (bindings : List Binding) : KnownHosts :=
  ⟨place host bindings known.hosts⟩

/-- What a host reported last. -/
def bindingsOf? (known : KnownHosts) (host : Ipv4) : Option (List Binding) :=
  known.hosts.lookup host

/-- The addresses of the known hosts. -/
def addresses (known : KnownHosts) : List Ipv4 := known.hosts.map (·.1)

end KnownHosts

end CableMap
