import CatalogFeed.Bus.Directory
import CatalogFeed.Catalog.EntityJson
import CatalogFeed.Publish.Link

/-!
# Config — what a feed is told at the start

The bus to publish on, the directory entry of its connection factory, and the properties of the
host.  Only the addresses of the bus are required.  `Config.publisher` and `Config.directoryOf` are
what the other parts make of it.
-/

namespace CatalogFeed

open Json (Shape)

/-- How to reach the bus, and how long to wait for it. -/
structure BrokerConfig where
  brokers : List String
  transactionalId : String := "catalog-notify"
  compression : String := "snappy"
  acks : String := "all"
  messageTimeoutMs : UInt64 := 30000
  topicPartitions : Int32 := 1
  topicReplicationFactor : Int32 := 1
  connectTimeoutMs : UInt64 := 10000
  sendTimeoutMs : UInt64 := 5000
  deriving DecidableEq

/-- The name of a connection factory that is not configured. -/
def defaultFactoryName : String := "ConnectionFactory"

/-- The name under which the connection factory is bound. -/
structure DirectoryConfig where
  connectionFactory : String := defaultFactoryName
  deriving DecidableEq

/-- The host's properties. -/
structure HostConfig where
  properties : Properties := ∅
  deriving DecidableEq

/-- A whole configuration. -/
structure Config where
  broker : BrokerConfig
  directory : DirectoryConfig := {}
  host : HostConfig := {}
  deriving DecidableEq

/-! ## Shapes -/

namespace BrokerConfig

@[reducible] def shape : Shape :=
  .record "BrokerConfig" <|
    required "brokers" (.list .text) <|
    .cons "transactional_id" .text (some (.text "catalog-notify")) <|
    .cons "compression" .text (some (.text "snappy")) <|
    .cons "acks" .text (some (.text "all")) <|
    .cons "message_timeout_ms" .word64 (some (.int 30000)) <|
    .cons "topic_partitions" .int32 (some (.int 1)) <|
    .cons "topic_replication_factor" .int32 (some (.int 1)) <|
    .cons "connect_timeout_ms" .word64 (some (.int 10000)) <|
    .cons "send_timeout_ms" .word64 (some (.int 5000)) .nil

def toRow (c : BrokerConfig) : shape.Value :=
  (c.brokers, c.transactionalId, c.compression, c.acks, c.messageTimeoutMs, c.topicPartitions,
    c.topicReplicationFactor, c.connectTimeoutMs, c.sendTimeoutMs, ())

def ofRow : shape.Value → BrokerConfig
  | (brokers, transactionalId, compression, acks, messageTimeoutMs, topicPartitions,
      topicReplicationFactor, connectTimeoutMs, sendTimeoutMs, ()) =>
    ⟨brokers, transactionalId, compression, acks, messageTimeoutMs, topicPartitions,
      topicReplicationFactor, connectTimeoutMs, sendTimeoutMs⟩

@[simp] theorem ofRow_toRow (c : BrokerConfig) : ofRow c.toRow = c := rfl
@[simp] theorem toRow_ofRow (r : shape.Value) : (ofRow r).toRow = r := rfl

end BrokerConfig

namespace DirectoryConfig

@[reducible] def shape : Shape :=
  .record "DirectoryConfig" <|
    .cons "connection_factory" .text (some (.text defaultFactoryName)) .nil

def toRow (c : DirectoryConfig) : shape.Value := (c.connectionFactory, ())

def ofRow : shape.Value → DirectoryConfig
  | (connectionFactory, ()) => ⟨connectionFactory⟩

@[simp] theorem ofRow_toRow (c : DirectoryConfig) : ofRow c.toRow = c := rfl
@[simp] theorem toRow_ofRow (r : shape.Value) : (ofRow r).toRow = r := rfl

end DirectoryConfig

namespace HostConfig

@[reducible] def shape : Shape := .record "HostConfig" <| propertiesField "properties" .nil

def toRow (c : HostConfig) : shape.Value := (c.properties, ())

def ofRow : shape.Value → HostConfig
  | (properties, ()) => ⟨properties⟩

@[simp] theorem ofRow_toRow (c : HostConfig) : ofRow c.toRow = c := rfl
@[simp] theorem toRow_ofRow (r : shape.Value) : (ofRow r).toRow = r := rfl

end HostConfig

namespace Config

@[reducible] def shape : Shape :=
  .record "Config" <|
    required "broker" BrokerConfig.shape <|
    .cons "directory" DirectoryConfig.shape (some (.record [])) <|
    .cons "host" HostConfig.shape (some (.record [])) .nil

def toRow (c : Config) : shape.Value := (c.broker.toRow, c.directory.toRow, c.host.toRow, ())

def ofRow : shape.Value → Config
  | (broker, directory, host, ()) => ⟨.ofRow broker, .ofRow directory, .ofRow host⟩

@[simp] theorem ofRow_toRow (c : Config) : ofRow c.toRow = c := rfl
@[simp] theorem toRow_ofRow (r : shape.Value) : (ofRow r).toRow = r := rfl

end Config

instance : Documented BrokerConfig := ⟨_, BrokerConfig.toRow, BrokerConfig.ofRow⟩
instance : Documented DirectoryConfig := ⟨_, DirectoryConfig.toRow, DirectoryConfig.ofRow⟩
instance : Documented HostConfig := ⟨_, HostConfig.toRow, HostConfig.ofRow⟩
instance : Documented Config := ⟨_, Config.toRow, Config.ofRow⟩

/-! ## What is made of it -/

namespace BrokerConfig

/-- The nanoseconds in eight tenths of a number of milliseconds: the seconds as a double, times
`0.8` as a double, rounded to a nanosecond with halves to even. -/
def eightTenths (milliseconds : Nat) : Nat :=
  let seconds := (Binary64.ofNat (milliseconds / 1000)).addMagnitudes
    ((Binary64.ofNat (milliseconds % 1000 * 1000000)).div (.ofNat 1000000000))
  match seconds.mul (.ofDecimal false 8 (-1)) with
  | .finite _ mantissa exponent =>
    let (num, den) := Binary64.ratio mantissa exponent
    roundHalfEven (num * 1000000000) den
  | _ => 0

/-- The microseconds that a single call of a client may take within one step of a publish: less than
the step itself, so that the call ends before the step is cut off. -/
def operationTimeoutUs (c : BrokerConfig) : Nat := eightTenths c.sendTimeoutMs.toNat / 1000

end BrokerConfig

namespace Config

/-- The publisher that is configured. -/
def publisher (c : Config) : Publisher :=
  ⟨c.directory.connectionFactory, c.broker.connectTimeoutMs.toNat, c.broker.sendTimeoutMs.toNat⟩

/-- The directory that is configured: one factory under its name. -/
def directoryOf (c : Config) : Bus.Directory :=
  ({} : Bus.Directory).bind c.directory.connectionFactory 0

end Config
end CatalogFeed
