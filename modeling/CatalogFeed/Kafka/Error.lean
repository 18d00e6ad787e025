/-!
# Kafka/Error — failures of the Kafka client

The client has a type of failures of its own.  All that is asked of a failure is its code, whether
it ended a transaction for good, and its text (`KafkaFailure`); from that follows which failures
leave a transactional producer unusable (`KafkaFailure.isFatal`).  `KafkaError` holds what is asked
of a failure, and nothing else.
-/

namespace CatalogFeed

/-- The codes of failures: the three that a producer does not survive, and all others by name. -/
inductive KafkaCode where
  | fatal
  | producerFenced
  | invalidProducerEpoch
  | other (name : String)
  deriving DecidableEq, Repr

/-- The codes after which only a new connection can continue. -/
def KafkaCode.isFatal : KafkaCode → Bool
  | fatal | producerFenced | invalidProducerEpoch => true
  | other _ => false

/-- What is asked of a failure of the client. -/
class KafkaFailure (κ : Type) where
  /-- The code that a failure carries, if it shows one. -/
  code? : κ → Option KafkaCode
  /-- Whether a transactional call has failed in such a way that the producer cannot go on. -/
  transactionFatal : κ → Bool
  message : κ → String

/-- Whether a failure leaves the transactional producer unusable. -/
def KafkaFailure.isFatal {κ : Type} [KafkaFailure κ] (e : κ) : Bool :=
  transactionFatal e || (code? e).any KafkaCode.isFatal

/-- A failure of the client, as far as it is asked for. -/
structure KafkaError where
  code? : Option KafkaCode := none
  transactionFatal : Bool := false
  message : String
  deriving DecidableEq, Repr

instance : KafkaFailure KafkaError where
  code? := KafkaError.code?
  transactionFatal := KafkaError.transactionFatal
  message := KafkaError.message

end CatalogFeed
