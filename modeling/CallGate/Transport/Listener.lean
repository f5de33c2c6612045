import CallGate.Address.Host
import CallGate.Transport.Network

/-! Opening a listener at a host and a port, given in one text. -/

namespace CallGate.Network

variable {ν : Type}

/-- The addresses to try for a text. Only a host that spells no address is looked up. -/
def addresses (network : Network ν) (text : String) (state : ν) :
    Except IoError (List SocketAddress) × ν :=
  match Address.endpoint text with
  | .error cause => (.error cause, state)
  | .ok (.address address) => (.ok [address], state)
  | .ok (.name host port) =>
    match network.lookup host state with
    | (.error cause, state) => (.error cause, state)
    | (.ok found, state) => (.ok (found.map fun (ip, scope) => { ip, port, scope }), state)

/-- Opens the first address that can be listened at. The last failure is the one that counts. -/
def listenAtFirst (network : Network ν) :
    List SocketAddress → (failure : IoError) → ν → Except IoError SocketAddress × ν
  | [], failure, state => (.error failure, state)
  | address :: others, _, state =>
    match network.listen address state with
    | (.error cause, state) => network.listenAtFirst others cause state
    | (.ok (), state) => (.ok address, state)

/-- Opens a listener that never waits, and answers where. -/
def openListener (network : Network ν) (text : String) (state : ν) :
    Except IoError SocketAddress × ν :=
  match network.addresses text state with
  | (.error cause, state) => (.error cause, state)
  | (.ok addresses, state) =>
    match network.listenAtFirst addresses .noAddress state with
    | (.error cause, state) => (.error cause, state)
    | (.ok address, state) =>
      match network.unblock state with
      | (.error cause, state) => (.error cause, state)
      | (.ok (), state) => (.ok address, state)

end CallGate.Network
