import VestingBridge.Packet
import VestingBridge.Stream
import VestingBridge.Table
/-!
# Bridge.Store — what a bridge keeps

A bridge keeps its configuration, the number of the next stream, three registries that its authority fills, its
streams, and the packets that it has applied.  What has never been written is absent.
-/
namespace VestingBridge.Bridge

/-- How far the bridge is on its way into service: it is set up once, and registered with its endpoint once. -/
inductive Lifecycle where
  | uninitialized
  | initialized
  | active
deriving DecidableEq

/-- The stage as a message. -/
def Lifecycle.toJson : Lifecycle → Json
  | uninitialized => .string "uninitialized"
  | initialized => .string "initialized"
  | active => .string "active"

/-- **Who runs the bridge, and where it stands.** -/
structure Config where
  owner : Account
  endpoint : Account
  localChain : ChainId
  admin : Option Account
  authority : Option Account
  lifecycle : Lifecycle
  paused : Bool
deriving DecidableEq

namespace Config

/-- The members of the configuration as a message. -/
def members (c : Config) : List (String × Json) := [
  ("owner", .string c.owner), ("endpoint", .string c.endpoint), ("local_chain_id", .ofWord c.localChain),
  ("admin", .ofOption .string c.admin), ("authority", .ofOption .string c.authority),
  ("lifecycle", c.lifecycle.toJson), ("paused", .bool c.paused)]

/-- The configuration as it is kept. -/
def toJson (c : Config) : Json := .object c.members

end Config

/-- **The storage of a bridge.**
* `remotes`: the trusted address on each chain;
* `remoteCoins`: the address on a chain of the asset that goes by a type here;
* `localCoins`: the type of each key that was ever mapped;
* `assets`: the holding of each type, by the type's key;
* `processed`: the nonce of each packet applied, by the packet's hash. -/
structure Store where
  config : Option Config
  nextStream : Option StreamId
  remotes : Table ChainId WireAddress
  remoteCoins : Table (ChainId × Octets) WireAddress
  localCoins : Table Octets TypeTag
  assets : Table Octets Holding
  streams : Table StreamId Stream
  processed : Table Digest Nonce
  version : Option CodeVersion
deriving DecidableEq

/-- The storage of a bridge that was never called. -/
def Store.empty : Store := ⟨none, none, ∅, ∅, ∅, ∅, ∅, ∅, none⟩

instance : Inhabited Store := ⟨.empty⟩

/-- The storage with a stream under a number. -/
def Store.putStream (s : Store) (id : StreamId) (stream : Stream) : Store :=
  { s with streams := s.streams.insert id stream }

/-- The code of the bridge. -/
def codeVersion : CodeVersion := ⟨"crates.io:stream-bridge", CodeVersion.current⟩

end VestingBridge.Bridge
