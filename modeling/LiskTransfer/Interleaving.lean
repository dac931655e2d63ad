import LiskTransfer.Ledger
import Mathlib.Algebra.BigOperators.Group.List
import Mathlib.Algebra.Order.Ring.Nat
import Mathlib.Algebra.Ring.Int.Defs
import Mathlib.Logic.Relation

/-!
# Concurrent `apply` and `undo` calls

Node runs the callbacks of the transfer methods one at a time, but a method that has called
into `modules.accounts` waits for the answer, and any other call may run meanwhile. A `Pool`
is the accounts and the calls in progress, each with the rest of its flow and the answers the
accounts module has given it; a `Step` lets any one of them make its next call, which the
accounts module answers atomically, with the account or with an error.

What a call has credited is decided by those answers: a call that has called back and was
never answered with an error has credited its amount, and any other has credited nothing
(`Thread.settled`). The invariant `Pool.Inv` has a part per thread (`Call.Stage`: where in its
method the call stands, and what it was answered) and a part for the accounts (each holds its
initial balances plus what the threads have credited). From it, `balances_of_reachable`: in
every pool reachable from the start, whatever the order of the steps, each account's `balance`
and `u_balance` are the initial ones plus the amounts of the completed `apply` calls to it,
minus those of the completed `undo` calls; an `apply` and an `undo` of one transfer, once both
have called back without an error, leave every account as it was (`apply_undo_balances`).
-/

namespace LiskTransfer

/-- A call of one of the four ledger methods. -/
inductive Call where
  | apply (trs : Transaction) (block : Block)
  | undo (trs : Transaction) (block : Block)
  | applyUnconfirmed (trs : Transaction)
  | undoUnconfirmed (trs : Transaction)

/-- What a completed call adds to both balances of `address`: `trs.amount` for an `apply` to it,
    `-trs.amount` for an `undo` of one, nothing for the other calls. -/
def Call.credit : Call → Address → Int
  | .apply trs _, address => if trs.recipientId = address then trs.amount else 0
  | .undo trs _, address => if trs.recipientId = address then -trs.amount else 0
  | _, _ => 0

/-- The accounts module's answer to a call: `cb(err, account)` for `setAccountAndGet`, `cb(err)`
    for `mergeAccountAndGet`. -/
inductive Answer where
  | setAccountAndGet (result : Except String Account)
  | mergeAccountAndGet (err : Option String)

/-- Whether an answer reports an error. -/
def Answer.isError : Answer → Bool
  | .setAccountAndGet (.error _) | .mergeAccountAndGet (some _) => true
  | _ => false

/-- Whether a flow has called back, with or without an error. -/
def AccountsFlow.calledBack : AccountsFlow → Bool
  | .done _ => true
  | _ => false

/-- Whether a flow has called back without an error. -/
def AccountsFlow.succeeded : AccountsFlow → Bool
  | .done none => true
  | _ => false

/-- Whether a call has completed: its flow has called back, and none of its calls into the
    accounts module was answered with an error. -/
def AccountsFlow.completed (flow : AccountsFlow) (answers : List Answer) : Bool :=
  flow.calledBack && !answers.any Answer.isError

/-- A call in progress: the call, the rest of its flow, and the answers it has had so far. -/
structure Thread where
  call : Call
  flow : AccountsFlow
  answers : List Answer

/-- What a thread has credited to `address`: its call's credit once it has completed, and
    nothing before that or once the accounts module has answered it with an error. -/
def Thread.settled (t : Thread) (address : Address) : Int :=
  if t.flow.completed t.answers then t.call.credit address else 0

/-- The accounts, and the calls in progress. -/
structure Pool where
  accounts : Ledger
  threads : List Thread

/-- One call of a flow into the accounts module, the module's answer, and the flow's next step:
    `setAccountAndGet` creates the account and answers it, or reports an error and changes
    nothing; `mergeAccountAndGet` merges the diff, or reports an error and changes nothing. -/
inductive FlowStep : Ledger → AccountsFlow → Answer → Ledger → AccountsFlow → Prop
  | setAccountAndGet {accounts : Ledger} {address : Address}
      {cb : Except String Account → AccountsFlow} :
      FlowStep accounts (.setAccountAndGet address cb)
        (.setAccountAndGet (.ok (accounts.get address))) (accounts.setAccountAndGet address)
        (cb (.ok (accounts.get address)))
  | setAccountAndGetError {accounts : Ledger} {address : Address}
      {cb : Except String Account → AccountsFlow} (err : String) :
      FlowStep accounts (.setAccountAndGet address cb) (.setAccountAndGet (.error err)) accounts
        (cb (.error err))
  | mergeAccountAndGet {accounts : Ledger} {diff : AccountDiff}
      {cb : Option String → AccountsFlow} :
      FlowStep accounts (.mergeAccountAndGet diff cb) (.mergeAccountAndGet none)
        (accounts.mergeAccountAndGet diff) (cb none)
  | mergeAccountAndGetError {accounts : Ledger} {diff : AccountDiff}
      {cb : Option String → AccountsFlow} (err : String) :
      FlowStep accounts (.mergeAccountAndGet diff cb) (.mergeAccountAndGet (some err)) accounts
        (cb (some err))

/-- Any one thread makes its next call, and records the answer. -/
inductive Step : Pool → Pool → Prop
  | thread {accounts accounts' : Ledger} {pre post : List Thread} {call : Call}
      {flow flow' : AccountsFlow} {answers : List Answer} {answer : Answer} :
      FlowStep accounts flow answer accounts' flow' →
      Step ⟨accounts, pre ++ ⟨call, flow, answers⟩ :: post⟩
        ⟨accounts', pre ++ ⟨call, flow', answers ++ [answer]⟩ :: post⟩

/-- `amount` added to both balances. -/
def Account.plus (account : Account) (amount : Int) : Account :=
  ⟨account.balance + amount, account.u_balance + amount⟩

@[simp] theorem Account.plus_zero (account : Account) : account.plus 0 = account := by
  simp [Account.plus]

@[simp] theorem Account.plus_plus (account : Account) (x y : Int) :
    (account.plus x).plus y = account.plus (x + y) := by
  simp [Account.plus, Int.add_assoc]

section Stages

variable (roundsCalc : Nat → Nat)

/-- The flow a call runs. -/
def Call.flow : Call → AccountsFlow
  | .apply trs block => LiskTransfer.apply roundsCalc trs block
  | .undo trs block => LiskTransfer.undo roundsCalc trs block
  | .applyUnconfirmed _ => LiskTransfer.applyUnconfirmed
  | .undoUnconfirmed _ => LiskTransfer.undoUnconfirmed

/-- The calls `calls`, none of which has run yet, on the accounts `accounts`. -/
def Pool.start (accounts : Ledger) (calls : List Call) : Pool :=
  ⟨accounts, calls.map fun call => ⟨call, call.flow roundsCalc, []⟩⟩

/-- Where `mergeRecipient trs block amount` stands, and what it has been answered: before its
    first call; waiting on `mergeAccountAndGet` once `setAccountAndGet` has answered an account;
    called back with the error of `setAccountAndGet`; or called back after the merge, with the
    merge's error or without one. -/
inductive RecipientStage (trs : Transaction) (block : Block) (amount : Int) :
    AccountsFlow → List Answer → Prop
  | start : RecipientStage trs block amount (mergeRecipient roundsCalc trs block amount) []
  | merging (account : Account) : RecipientStage trs block amount
      (.mergeAccountAndGet (recipientDiff roundsCalc trs block amount) fun err => .done err)
      [.setAccountAndGet (.ok account)]
  | setFailed (err : String) : RecipientStage trs block amount (.done (some err))
      [.setAccountAndGet (.error err)]
  | merged (account : Account) : RecipientStage trs block amount (.done none)
      [.setAccountAndGet (.ok account), .mergeAccountAndGet none]
  | mergeFailed (account : Account) (err : String) : RecipientStage trs block amount
      (.done (some err)) [.setAccountAndGet (.ok account), .mergeAccountAndGet (some err)]

/-- Where a call stands in its method, and what it has been answered. -/
def Call.Stage : Call → AccountsFlow → List Answer → Prop
  | .apply trs block, flow, answers => RecipientStage roundsCalc trs block trs.amount flow answers
  | .undo trs block, flow, answers =>
    RecipientStage roundsCalc trs block (-trs.amount) flow answers
  | .applyUnconfirmed _, flow, answers => flow = .done none ∧ answers = []
  | .undoUnconfirmed _, flow, answers => flow = .done none ∧ answers = []

/-- What one call into the accounts module does to a flow of `apply` or `undo`: the flow moves
    to its next stage, and the accounts change by what the thread newly credits. -/
theorem recipientStage_step {trs : Transaction} {block : Block} {amount : Int}
    {accounts accounts' : Ledger} {flow flow' : AccountsFlow} {answers : List Answer}
    {answer : Answer} (hstage : RecipientStage roundsCalc trs block amount flow answers)
    (hstep : FlowStep accounts flow answer accounts' flow') :
    RecipientStage roundsCalc trs block amount flow' (answers ++ [answer]) ∧
      ∀ a, accounts'.get a = (accounts.get a).plus
        ((if flow'.completed (answers ++ [answer]) then
            (if trs.recipientId = a then amount else 0) else 0) -
          (if flow.completed answers then (if trs.recipientId = a then amount else 0) else 0)) := by
  cases hstage with
  | start =>
    cases hstep with
    | setAccountAndGet => exact ⟨.merging _, fun a => by simp [AccountsFlow.completed,
        AccountsFlow.calledBack, mergeRecipient]⟩
    | setAccountAndGetError err => exact ⟨.setFailed err, fun a => by simp [AccountsFlow.completed,
        AccountsFlow.calledBack, Answer.isError, mergeRecipient]⟩
  | merging account =>
    cases hstep with
    | mergeAccountAndGet =>
      refine ⟨.merged account, fun a => ?_⟩
      by_cases h : trs.recipientId = a
      · subst h
        simp [AccountsFlow.completed, AccountsFlow.calledBack, Answer.isError, recipientDiff,
          Account.plus]
      · simp [AccountsFlow.completed, AccountsFlow.calledBack, recipientDiff, h, Ne.symm h]
    | mergeAccountAndGetError err => exact ⟨.mergeFailed account err, fun a => by
        simp [AccountsFlow.completed, AccountsFlow.calledBack, Answer.isError]⟩
  | setFailed | merged | mergeFailed => cases hstep

/-- What one call does to a thread: it stays at a stage of its call, and the accounts change by
    what it newly credits. -/
theorem stage_step {call : Call} {accounts accounts' : Ledger} {flow flow' : AccountsFlow}
    {answers : List Answer} {answer : Answer} (hstage : call.Stage roundsCalc flow answers)
    (hstep : FlowStep accounts flow answer accounts' flow') :
    call.Stage roundsCalc flow' (answers ++ [answer]) ∧
      ∀ a, accounts'.get a = (accounts.get a).plus
        (Thread.settled ⟨call, flow', answers ++ [answer]⟩ a -
          Thread.settled ⟨call, flow, answers⟩ a) := by
  cases call with
  | apply trs block | undo trs block =>
    exact recipientStage_step roundsCalc hstage hstep
  | applyUnconfirmed trs | undoUnconfirmed trs =>
    obtain ⟨rfl, -⟩ := hstage
    cases hstep

/-- The pool invariant: every thread stands at a stage of its call, and every account holds its
    balances in `initial` plus what the threads have credited. -/
structure Pool.Inv (initial : Ledger) (pool : Pool) : Prop where
  stage : ∀ t ∈ pool.threads, t.call.Stage roundsCalc t.flow t.answers
  balances : ∀ a, pool.accounts.get a = (initial.get a).plus (pool.threads.map (·.settled a)).sum

theorem Pool.Inv.start (initial : Ledger) (calls : List Call) :
    (Pool.start roundsCalc initial calls).Inv roundsCalc initial := by
  constructor
  · simp only [Pool.start, List.mem_map]
    rintro _ ⟨call, -, rfl⟩
    cases call with
    | apply trs block | undo trs block => exact .start
    | applyUnconfirmed trs | undoUnconfirmed trs => exact ⟨rfl, rfl⟩
  · intro a
    have hsum : ((Pool.start roundsCalc initial calls).threads.map (·.settled a)).sum = 0 := by
      apply List.sum_eq_zero
      simp only [Pool.start, List.map_map, List.mem_map, Function.comp_apply]
      rintro _ ⟨call, -, rfl⟩
      cases call <;> rfl
    rw [hsum, Account.plus_zero]
    rfl

/-- One step of any thread keeps the invariant. -/
theorem Pool.Inv.step {initial : Ledger} {pool pool' : Pool} (hinv : pool.Inv roundsCalc initial)
    (hstep : Step pool pool') : pool'.Inv roundsCalc initial := by
  obtain @⟨accounts, accounts', pre, post, call, flow, flow', answers, answer, hflow⟩ := hstep
  have hstage : call.Stage roundsCalc flow answers := hinv.stage ⟨call, flow, answers⟩ (by simp)
  constructor
  · intro t ht
    simp only [List.mem_append, List.mem_cons] at ht
    rcases ht with ht | rfl | ht
    · exact hinv.stage t (by simp [ht])
    · exact (stage_step roundsCalc hstage hflow).1
    · exact hinv.stage t (by simp [ht])
  · intro a
    rw [(stage_step roundsCalc hstage hflow).2 a, hinv.balances a]
    simp only [List.map_append, List.map_cons, List.sum_append, List.sum_cons, Account.plus_plus]
    congr 1
    omega

/-- Every pool reachable from the start satisfies the invariant. -/
theorem Pool.Inv.of_reachable {initial : Ledger} {calls : List Call} {pool : Pool}
    (hrun : Relation.ReflTransGen Step (Pool.start roundsCalc initial calls) pool) :
    pool.Inv roundsCalc initial := by
  induction hrun with
  | refl => exact Pool.Inv.start roundsCalc initial calls
  | tail _ hstep ih => exact ih.step roundsCalc hstep

end Stages

/-! ### A run of `apply` then `undo` -/

/-- A transfer of 5 to `"2L"`. -/
def sampleTransfer : Transaction := ⟨"1", "2L", 5, none, none, none⟩

/-- The block `sampleTransfer` is applied and undone in. -/
def sampleBlock : Block := ⟨"7", 3⟩

/-- The accounts once `apply` of `sampleTransfer` has run on no accounts. -/
def sampleApplied : Ledger :=
  (Ledger.setAccountAndGet (fun _ => none) "2L").mergeAccountAndGet
    (recipientDiff id sampleTransfer sampleBlock 5)

/-- `apply` then `undo` of `sampleTransfer` on no accounts, each run to its callback. -/
def applyUndoEnd : Pool :=
  ⟨(sampleApplied.setAccountAndGet "2L").mergeAccountAndGet
      (recipientDiff id sampleTransfer sampleBlock (-5)),
    [⟨.apply sampleTransfer sampleBlock, .done none,
        [.setAccountAndGet (.ok (Ledger.get (fun _ => none) "2L")), .mergeAccountAndGet none]⟩,
      ⟨.undo sampleTransfer sampleBlock, .done none,
        [.setAccountAndGet (.ok (sampleApplied.get "2L")), .mergeAccountAndGet none]⟩]⟩

theorem applyUndo_run :
    Relation.ReflTransGen Step
      (Pool.start id (fun _ => none)
        [.apply sampleTransfer sampleBlock, .undo sampleTransfer sampleBlock])
      applyUndoEnd :=
  .tail (.tail (.tail (.single (@Step.thread _ _ [] [_] _ _ _ [] _ .setAccountAndGet))
    (@Step.thread _ _ [] [_] _ _ _ [_] _ .mergeAccountAndGet))
    (@Step.thread _ _ [_] [] _ _ _ [] _ .setAccountAndGet))
    (@Step.thread _ _ [_] [] _ _ _ [_] _ .mergeAccountAndGet)

section Balances

variable (roundsCalc : Nat → Nat)

/-- Whatever the interleaving of their calls into the accounts module, concurrent `apply`,
    `undo`, `applyUnconfirmed` and `undoUnconfirmed` calls leave every account with its initial
    balances plus `trs.amount` for each completed `apply` to it and minus `trs.amount` for each
    completed `undo` of one; a call that the accounts module answered with an error adds
    nothing. -/
theorem balances_of_reachable (initial : Ledger) (calls : List Call) {pool : Pool}
    (hrun : Relation.ReflTransGen Step (Pool.start roundsCalc initial calls) pool)
    (a : Address) :
    (pool.accounts.get a).balance =
        (initial.get a).balance + (pool.threads.map (·.settled a)).sum ∧
      (pool.accounts.get a).u_balance =
        (initial.get a).u_balance + (pool.threads.map (·.settled a)).sum := by
  rw [(Pool.Inv.of_reachable roundsCalc hrun).balances a]
  exact ⟨rfl, rfl⟩

/-- `apply` then `undo` of 5 to `"2L"` on no accounts, each run to its callback. -/
theorem balances_of_reachable_applyUndo :
    Relation.ReflTransGen Step
        (Pool.start id (fun _ => none)
          [.apply sampleTransfer sampleBlock, .undo sampleTransfer sampleBlock])
        applyUndoEnd ∧
      (applyUndoEnd.accounts.get "2L").balance =
          (Ledger.get (fun _ => none) "2L").balance +
            (applyUndoEnd.threads.map (·.settled "2L")).sum ∧
        (applyUndoEnd.accounts.get "2L").u_balance =
          (Ledger.get (fun _ => none) "2L").u_balance +
            (applyUndoEnd.threads.map (·.settled "2L")).sum :=
  ⟨applyUndo_run, balances_of_reachable id _ _ applyUndo_run "2L"⟩

/-- A step changes no thread's call. -/
theorem Step.map_call {pool pool' : Pool} (hstep : Step pool pool') :
    pool'.threads.map (·.call) = pool.threads.map (·.call) := by
  obtain @⟨accounts, accounts', pre, post, call, flow, flow', answers, answer, hflow⟩ := hstep
  simp

theorem map_call_of_reachable {initial : Ledger} {calls : List Call} {pool : Pool}
    (hrun : Relation.ReflTransGen Step (Pool.start roundsCalc initial calls) pool) :
    pool.threads.map (·.call) = calls := by
  induction hrun with
  | refl => simp [Pool.start, Function.comp_def]
  | tail _ hstep ih => rw [hstep.map_call, ih]

/-- A call that has called back without an error has completed: no answer it had was an
    error. -/
theorem completed_of_succeeded {call : Call} {flow : AccountsFlow} {answers : List Answer}
    (hstage : call.Stage roundsCalc flow answers) (h : flow.succeeded) :
    flow.completed answers := by
  cases call with
  | apply trs block | undo trs block => cases hstage <;> first | rfl | cases h
  | applyUnconfirmed trs | undoUnconfirmed trs =>
    obtain ⟨rfl, rfl⟩ := hstage
    rfl

/-- Once every thread has called back without an error, the threads have credited their
    calls' amounts. -/
theorem sum_settled_of_succeeded {initial : Ledger} {pool : Pool}
    (hinv : pool.Inv roundsCalc initial) (hdone : ∀ t ∈ pool.threads, t.flow.succeeded)
    (a : Address) :
    (pool.threads.map (·.settled a)).sum = ((pool.threads.map (·.call)).map (·.credit a)).sum := by
  rw [List.map_map]
  congr 1
  exact List.map_congr_left fun t ht => by
    simp [Thread.settled, completed_of_succeeded roundsCalc (hinv.stage t ht) (hdone t ht)]

/-- The credits of an `apply` and an `undo` of one transfer cancel. -/
theorem sum_credit_apply_undo (trs : Transaction) (block : Block) (a : Address) :
    ([Call.apply trs block, Call.undo trs block].map (·.credit a)).sum = 0 := by
  simp only [List.map_cons, List.map_nil, List.sum_cons, List.sum_nil, Call.credit]
  split_ifs <;> omega

/-- `apply` and `undo` of one transfer in one block, interleaved in any order, leave every
    account as it was once both have called back without an error. -/
theorem apply_undo_balances (initial : Ledger) (trs : Transaction) (block : Block) {pool : Pool}
    (hrun : Relation.ReflTransGen Step
      (Pool.start roundsCalc initial [.apply trs block, .undo trs block]) pool)
    (hdone : ∀ t ∈ pool.threads, t.flow.succeeded) (a : Address) :
    pool.accounts.get a = initial.get a := by
  have hinv := Pool.Inv.of_reachable roundsCalc hrun
  rw [hinv.balances a, sum_settled_of_succeeded roundsCalc hinv hdone,
    map_call_of_reachable roundsCalc hrun, sum_credit_apply_undo, Account.plus_zero]

/-- `apply` then `undo` of 5 to `"2L"` on no accounts, each run to its callback. -/
theorem apply_undo_balances_run :
    Relation.ReflTransGen Step
        (Pool.start id (fun _ => none)
          [.apply sampleTransfer sampleBlock, .undo sampleTransfer sampleBlock])
        applyUndoEnd ∧
      (∀ t ∈ applyUndoEnd.threads, t.flow.succeeded) ∧
      ∀ a, applyUndoEnd.accounts.get a = Ledger.get (fun _ => none) a :=
  ⟨applyUndo_run, by decide, apply_undo_balances id _ _ _ applyUndo_run (by decide)⟩

end Balances

end LiskTransfer
