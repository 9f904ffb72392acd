import CableMap.Store.Transaction

/-!
# The report of a store

The report prints each device, below it each of its ports with the link at the port, and last the
number of each.
-/
namespace CableMap.Store

/-- A text followed by spaces up to a width. -/
def padEnd (width : Nat) (text : String) : String :=
  text ++ String.ofList (List.replicate (width - text.length) ' ')

/-- A text after spaces up to a width. -/
def padStart (width : Nat) (text : String) : String :=
  String.ofList (List.replicate (width - text.length) ' ') ++ text

/-- The 64 bits of an integer in hexadecimal, at least two digits. -/
def maskText (mask : Int) : String :=
  let digits := Text.hexDigits (mask % 0x10000000000000000).toNat
  "0x" ++ String.ofList (List.replicate (2 - digits.length) '0' ++ digits)

/-- The line of a device. -/
def deviceLine (device : Device) : String :=
  let address := padEnd 16 (toString device.address)
  let name := padEnd 24 device.name
  s!"{address} {name} supported: {maskText device.supported} enabled: {maskText device.enabled}"

/-- What stands at the end of a port's line for its link. -/
def linkText (port : Int) (link : Link) : String :=
  s!"-> port {link.peerOf port} at {link.speed.toNat} bps"

/-- The line of a port. -/
def portLine (port : Port) (link : String) : String :=
  let interface := padStart 4 (toString port.interface)
  let name := padEnd 12 port.name
  let mac := match port.mac? with
    | some mac => toString mac
    | none => "-"
  let speed := padStart 12 (toString port.maxSpeed.toNat)
  let status := padEnd 2 (toString port.status)
  s!"    {interface} {name} {mac} {speed} status {status} {link}"

/-- Print a line. -/
def print (line : String) : StoreM Unit := liftM (Traced.print line)

/-- Report a port. -/
def reportPort (port : Port) : StoreM Unit := do
  match port.id? with
  | none => print (portLine port "")
  | some id =>
    let link? ← ask (·.linkAt? id)
    print (portLine port ((link?.map (linkText id)).getD ""))

/-- Report a device and its ports. -/
def reportDevice (device : Device) : StoreM Unit := do
  print (deviceLine device)
  match device.id? with
  | none => pure ()
  | some id => (← ask (·.portsOf id)).forM reportPort

/-- Report the whole store. -/
def report : StoreM Unit := do
  createTables
  let devices ← ask (·.devices)
  devices.forM reportDevice
  let ports ← ask (·.ports)
  let links ← ask (·.links)
  print s!"{devices.length} devices, {ports.length} ports, {links.length} links"

end CableMap.Store
