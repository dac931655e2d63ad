import LiskTransfer.Utf8
import LiskTransfer.Transaction
import LiskTransfer.Payload
import LiskTransfer.Storage
import LiskTransfer.Ledger
import LiskTransfer.Interleaving
import LiskTransfer.Serializability
