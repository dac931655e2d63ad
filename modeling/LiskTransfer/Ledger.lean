import LiskTransfer.Transaction

/-!
# The ledger methods of `Transfer`

`apply` and `undo` (`src/logic/transfer.js:129-175`) credit and debit the recipient through two
calls into `modules.accounts`, each answered through a callback: `setAccountAndGet`, then
`mergeAccountAndGet`. `applyUnconfirmed` and `undoUnconfirmed` (lines 183-195) call back at
once. A method is modelled as the tree of its calls, `AccountsFlow`: a node is a call into the
accounts module, its children are what the callback does with each answer, and a leaf is the
method calling its own callback with an error or none.

The accounts module is not in `src/`; its two calls are modelled from the spec as atomic
updates of a map from address to balances. `modules.rounds.calc` is the parameter `roundsCalc`.
-/

namespace LiskTransfer

/-- An account address, as `trs.recipientId` gives it. -/
abbrev Address := String

/-- The block a transaction is applied in: `block.id` and `block.height` are read. -/
structure Block where
  id : String
  height : Nat
  deriving DecidableEq, Repr

/-- The balances of an account that transfers change. -/
structure Account where
  balance : Int
  u_balance : Int
  deriving DecidableEq, Repr

/-- The diff `mergeAccountAndGet` is given: amounts added to `balance` and `u_balance`, tagged
    with the block and its round. -/
structure AccountDiff where
  address : Address
  balance : Int
  u_balance : Int
  blockId : String
  round : Nat
  deriving DecidableEq, Repr

/-- A transfer method's calls into `modules.accounts`, chained by callbacks. -/
inductive AccountsFlow where
  /-- `modules.accounts.setAccountAndGet({address}, cb)`, answered by `cb(err, account)`. -/
  | setAccountAndGet (address : Address) (cb : Except String Account → AccountsFlow)
  /-- `modules.accounts.mergeAccountAndGet(diff, cb)`, answered by `cb(err)`. -/
  | mergeAccountAndGet (diff : AccountDiff) (cb : Option String → AccountsFlow)
  /-- `setImmediate(cb, err)`: the method calls its own callback. -/
  | done (err : Option String)

section Methods

variable (roundsCalc : Nat → Nat)

/-- The diff `apply` and `undo` merge: `amount` into both balances of the recipient, tagged with
    `block.id` and `modules.rounds.calc(block.height)`. -/
def recipientDiff (trs : Transaction) (block : Block) (amount : Int) : AccountDiff :=
  { address := trs.recipientId, balance := amount, u_balance := amount,
    blockId := block.id, round := roundsCalc block.height }

/-- The body `apply` and `undo` share: `setAccountAndGet` the recipient, return its error, or
    else merge `amount` and return the merge's error. -/
def mergeRecipient (trs : Transaction) (block : Block) (amount : Int) : AccountsFlow :=
  .setAccountAndGet trs.recipientId fun
    | .error err => .done (some err)
    | .ok _ => .mergeAccountAndGet (recipientDiff roundsCalc trs block amount) fun err => .done err

/-- `Transfer.prototype.apply` (lines 129-145): merges `trs.amount`. The `sender` argument is
    not read. -/
def apply (trs : Transaction) (block : Block) : AccountsFlow :=
  mergeRecipient roundsCalc trs block trs.amount

/-- `Transfer.prototype.undo` (lines 159-175): merges `-trs.amount`. -/
def undo (trs : Transaction) (block : Block) : AccountsFlow :=
  mergeRecipient roundsCalc trs block (-trs.amount)

end Methods

/-- `Transfer.prototype.applyUnconfirmed` (lines 183-185): `setImmediate(cb)`. -/
def applyUnconfirmed : AccountsFlow := .done none

/-- `Transfer.prototype.undoUnconfirmed` (lines 193-195): `setImmediate(cb)`. -/
def undoUnconfirmed : AccountsFlow := .done none

/-! ## The accounts module -/

/-- Modelled from the spec: the accounts of `modules.accounts`, by address. -/
abbrev Ledger := Address → Option Account

/-- An account's balances, zero when the account does not exist. -/
def Ledger.get (accounts : Ledger) (address : Address) : Account :=
  (accounts address).getD ⟨0, 0⟩

/-- Modelled from the spec: `setAccountAndGet({address})` creates the account, with zero
    balances, when it does not exist. -/
def Ledger.setAccountAndGet (accounts : Ledger) (address : Address) : Ledger :=
  fun a => if a = address then some (accounts.get address) else accounts a

/-- Modelled from the spec: `mergeAccountAndGet(diff)` adds `diff.balance` and
    `diff.u_balance` to the account's balances. -/
def Ledger.mergeAccountAndGet (accounts : Ledger) (diff : AccountDiff) : Ledger :=
  fun a =>
    if a = diff.address then
      some ⟨(accounts.get a).balance + diff.balance, (accounts.get a).u_balance + diff.u_balance⟩
    else accounts a

@[simp] theorem get_setAccountAndGet (accounts : Ledger) (address a : Address) :
    (accounts.setAccountAndGet address).get a = accounts.get a := by
  by_cases h : a = address <;> simp [Ledger.get, Ledger.setAccountAndGet, h]

@[simp] theorem get_mergeAccountAndGet (accounts : Ledger) (diff : AccountDiff) (a : Address) :
    (accounts.mergeAccountAndGet diff).get a =
      if a = diff.address then
        ⟨(accounts.get a).balance + diff.balance, (accounts.get a).u_balance + diff.u_balance⟩
      else accounts.get a := by
  by_cases h : a = diff.address <;> simp [Ledger.get, Ledger.mergeAccountAndGet, h]

end LiskTransfer
