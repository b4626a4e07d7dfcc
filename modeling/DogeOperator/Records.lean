import DogeOperator.Network

/-! The records of the durable operator store, as the withdrawal code reads and writes them. -/
namespace DogeOperator.Records
open Bytes

inductive OperatorStatus
  | observed
  | snapshotted
  | constructed
  | signed
  | broadcast
  | confirmed
  | failed
  deriving DecidableEq, Repr

inductive CustodyReservationStatus
  | reserved
  | released
  | broadcast
  | spent
  deriving DecidableEq, Repr

inductive CustodyUtxoStatus
  | available
  | reserved
  | broadcast
  | spent
  deriving DecidableEq, Repr

structure CustodyUtxo where
  /-- Internal byte order. -/
  txid : FixedBytes 32
  vout : UInt32
  amountSats : UInt64
  scriptPubkeyHex : String
  custodyAddress : String
  keyReference : String
  confirmationBlockHash : Option (FixedBytes 32)
  confirmationHeight : Option UInt32
  confirmations : UInt32
  leafIndex : UInt64
  status : CustodyUtxoStatus
  reservationId : Option String
  spendTxid : Option (FixedBytes 32)
  sourceDepositTxid : Option (FixedBytes 32)
  sourceSolanaSignature : Option String
  spendRequestIndex : Option UInt64
  spendProcessSignature : Option String
  originalRecipientAddress : FixedBytes 32
  deriving DecidableEq

structure CustodyReservation where
  reservationId : String
  requiredAmountSats : UInt64
  selectedAmountSats : UInt64
  status : CustodyReservationStatus
  spendTxid : Option (FixedBytes 32)
  requestIndex : Option UInt64
  processSolanaSignature : Option String
  utxos : List CustodyUtxo
  deriving DecidableEq

structure DogecoinTransaction where
  rawHash : FixedBytes 32
  txid : Option (FixedBytes 32)
  rawTransaction : Option ByteString
  status : OperatorStatus
  blockHash : Option (FixedBytes 32)
  blockHeight : Option UInt32
  confirmations : UInt32
  deriving DecidableEq

structure ProcessWithdrawal where
  solanaSignature : String
  solanaSlot : UInt64
  blockTime : Option Int64
  requestStartIndex : UInt64
  requestEndIndex : UInt64
  snapshotRoot : FixedBytes 32
  dogecoinRawHash : FixedBytes 32
  returnOutputIndex : UInt64
  returnOutputAmountSats : UInt64
  oldSpentTxoRoot : FixedBytes 32
  newSpentTxoRoot : FixedBytes 32
  status : OperatorStatus
  deriving DecidableEq

structure SnapshotBatch where
  solanaSignature : String
  solanaSlot : UInt64
  blockTime : Option Int64
  requestStartIndex : UInt64
  requestEndIndex : UInt64
  snapshotRoot : FixedBytes 32
  payload : ByteString
  payloadHash : FixedBytes 32
  wormholeSequence : UInt64
  solanaTransaction : Option ByteString
  unsignedTransaction : Option ByteString
  reservationId : Option String
  status : OperatorStatus
  deriving DecidableEq

structure WithdrawalRequest where
  requestIndex : UInt64
  solanaSignature : String
  solanaSlot : UInt64
  blockTime : Option Int64
  userPubkey : String
  grossAmountSats : UInt64
  feeAmountSats : UInt64
  netAmountSats : UInt64
  addressType : UInt32
  recipient : FixedBytes 20
  status : OperatorStatus
  deriving DecidableEq

/-- One request paid by one Dogecoin transaction. -/
structure RequestMapping where
  requestIndex : UInt64
  processSolanaSignature : String
  dogecoinTxid : FixedBytes 32
  deriving DecidableEq

end DogeOperator.Records
