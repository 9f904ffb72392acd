import CableMap.Store.Report

/-!
# Forgetting

What is named by an argument is removed from the store: a device by its address, a port by its
MAC address, or a link by the MAC addresses of its two ports. To remove nothing is a failure.
-/
namespace CableMap.Store

/-- The MAC address that an argument must be. -/
def macArgument (text : String) : StoreM Mac :=
  match Mac.ofString text with
  | .ok mac => pure mac
  | .error error => throw (.argument (.notAMac text error))

/-- The same transaction with nothing logged. -/
def quietly {α : Type} (transaction : StoreM α) : StoreM α :=
  ExceptT.mk fun store => (transaction store).quiet

/-- Remove the link between two ports that arguments name. -/
def forgetLink (target peer : String) : StoreM Bool := do
  let target ← macArgument target
  let a? ← ask (·.portId? target)
  let peer ← macArgument peer
  let b? ← ask (·.portId? peer)
  match a?, b? with
  | some a, some b => unlink a b
  | _, _ => pure false

/-- Remove the device at an address, and tell which. -/
def forgetDevice (address : Ipv4) : StoreM Bool := do
  match ← ask (·.device? address) with
  | some device => print s!"removing {device}"
  | none => pure ()
  removeDevice address .root

/-- Remove what arguments name: with a peer a link, otherwise a device or a port. -/
def forget (target : String) (peer? : Option String) : StoreM Unit :=
  quietly do
    createTables
    let removed ← match peer?, Ipv4.ofString? target with
      | some peer, _ => forgetLink target peer
      | none, some address => forgetDevice address
      | none, none => do removePort (← macArgument target) .root
    unless removed do throw (.argument (.nothingToRemove target))

end CableMap.Store
