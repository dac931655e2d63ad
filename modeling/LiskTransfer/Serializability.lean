import LiskTransfer.Interleaving

/-!
# Concurrent ledger calls and their atomic execution

`Pool.Inv` fixes the balances of every account in every pool reachable from the start. This
module fixes the whole ledger, which accounts exist included: an account that no call has
reached is exactly as it was, and one that a call's `setAccountAndGet` has answered with the
account exists and holds the balances of `Pool.Inv` (`accounts_of_reachable`). The ledger is
the one obtained by running each call alone and atomically, one after another in any order,
each call into `modules.accounts` answered as it was in the run, with the account or with the
same error (`accounts_eq_runSequential`): how the calls interleave makes no difference. An
`apply` and an `undo` of one transfer are not a no-op on a ledger without the recipient: they
leave its account created (`apply_undo_accounts`).
-/

namespace LiskTransfer

/-! ## The atomic execution -/

/-- A flow run alone and atomically, each call into the accounts module answered as `answers`
    records it: with the account as it then stands, or with the same error. The run stops where
    the answers end. -/
def AccountsFlow.replay : AccountsFlow → List Answer → Ledger → Ledger
  | .setAccountAndGet address cb, .setAccountAndGet (.ok _) :: answers, accounts =>
    (cb (.ok (accounts.get address))).replay answers (accounts.setAccountAndGet address)
  | .setAccountAndGet _ cb, .setAccountAndGet (.error err) :: answers, accounts =>
    (cb (.error err)).replay answers accounts
  | .mergeAccountAndGet diff cb, .mergeAccountAndGet none :: answers, accounts =>
    (cb none).replay answers (accounts.mergeAccountAndGet diff)
  | .mergeAccountAndGet _ cb, .mergeAccountAndGet (some err) :: answers, accounts =>
    (cb (some err)).replay answers accounts
  | _, _, accounts => accounts

@[simp] theorem AccountsFlow.replay_setAccountAndGet_ok (address : Address)
    (cb : Except String Account → AccountsFlow) (account : Account) (answers : List Answer)
    (accounts : Ledger) :
    (AccountsFlow.setAccountAndGet address cb).replay
        (.setAccountAndGet (.ok account) :: answers) accounts =
      (cb (.ok (accounts.get address))).replay answers (accounts.setAccountAndGet address) := rfl

@[simp] theorem AccountsFlow.replay_setAccountAndGet_error (address : Address)
    (cb : Except String Account → AccountsFlow) (err : String) (answers : List Answer)
    (accounts : Ledger) :
    (AccountsFlow.setAccountAndGet address cb).replay
        (.setAccountAndGet (.error err) :: answers) accounts =
      (cb (.error err)).replay answers accounts := rfl

@[simp] theorem AccountsFlow.replay_mergeAccountAndGet_none (diff : AccountDiff)
    (cb : Option String → AccountsFlow) (answers : List Answer) (accounts : Ledger) :
    (AccountsFlow.mergeAccountAndGet diff cb).replay (.mergeAccountAndGet none :: answers)
        accounts =
      (cb none).replay answers (accounts.mergeAccountAndGet diff) := rfl

@[simp] theorem AccountsFlow.replay_mergeAccountAndGet_some (diff : AccountDiff)
    (cb : Option String → AccountsFlow) (err : String) (answers : List Answer)
    (accounts : Ledger) :
    (AccountsFlow.mergeAccountAndGet diff cb).replay (.mergeAccountAndGet (some err) :: answers)
        accounts =
      (cb (some err)).replay answers accounts := rfl

@[simp] theorem AccountsFlow.replay_nil (flow : AccountsFlow) (accounts : Ledger) :
    flow.replay [] accounts = accounts := by
  cases flow <;> rfl

@[simp] theorem AccountsFlow.replay_done (err : Option String) (answers : List Answer)
    (accounts : Ledger) : (AccountsFlow.done err).replay answers accounts = accounts := by
  cases answers <;> rfl

/-- The calls of `threads` run one after another, each alone and atomically from its start, with
    the answers it had. -/
def runSequential (roundsCalc : Nat → Nat) (initial : Ledger) (threads : List Thread) : Ledger :=
  threads.foldl (fun accounts t => (t.call.flow roundsCalc).replay t.answers accounts) initial

/-- Whether a call writes the account `address`: an `apply` or an `undo` to it. -/
def Call.touches : Call → Address → Bool
  | .apply trs _, address => trs.recipientId = address
  | .undo trs _, address => trs.recipientId = address
  | _, _ => false

/-- Whether an answer is an account. -/
def Answer.isAccount : Answer → Bool
  | .setAccountAndGet (.ok _) => true
  | _ => false

/-- Whether a thread has reached the account `address`: its call writes it, and its
    `setAccountAndGet` has been answered with the account. -/
def Thread.touches (t : Thread) (address : Address) : Bool :=
  t.call.touches address && t.answers.any Answer.isAccount

/-- An account that a ledger holds is the account `get` reads. -/
theorem Ledger.eq_some_get {accounts : Ledger} {a : Address} (h : (accounts a).isSome) :
    accounts a = some (accounts.get a) := by
  cases hacc : accounts a with
  | none => simp [hacc] at h
  | some account => simp [Ledger.get, hacc]

theorem setAccountAndGet_apply (accounts : Ledger) (address a : Address) :
    accounts.setAccountAndGet address a =
      if a = address then some (accounts.get address) else accounts a := rfl

theorem mergeAccountAndGet_apply (accounts : Ledger) (diff : AccountDiff) (a : Address) :
    accounts.mergeAccountAndGet diff a =
      if a = diff.address then
        some ⟨(accounts.get a).balance + diff.balance, (accounts.get a).u_balance + diff.u_balance⟩
      else accounts a := rfl

section Sequential

variable (roundsCalc : Nat → Nat)

/-- What `apply` or `undo` has credited an account it has not reached: nothing. -/
theorem RecipientStage.settled_eq_zero {trs : Transaction} {block : Block} {amount : Int}
    {flow : AccountsFlow} {answers : List Answer}
    (hstage : RecipientStage roundsCalc trs block amount flow answers) {a : Address}
    (h : (decide (trs.recipientId = a) && answers.any Answer.isAccount) = false) :
    (if flow.completed answers then (if trs.recipientId = a then amount else 0) else 0) = 0 := by
  cases hstage <;> simp_all [AccountsFlow.completed, AccountsFlow.calledBack, mergeRecipient,
    Answer.isAccount, Answer.isError]

/-- A thread that has not reached an account has credited it nothing. -/
theorem settled_eq_zero_of_touches {t : Thread} {a : Address}
    (hstage : t.call.Stage roundsCalc t.flow t.answers) (h : t.touches a = false) :
    t.settled a = 0 := by
  obtain ⟨call, flow, answers⟩ := t
  cases call with
  | apply trs block | undo trs block => exact hstage.settled_eq_zero roundsCalc h
  | applyUnconfirmed trs | undoUnconfirmed trs => simp [Thread.settled, Call.credit]

/-- `apply` or `undo` replayed alone, seen at one account. -/
theorem RecipientStage.replay_apply {trs : Transaction} {block : Block} {amount : Int}
    {flow : AccountsFlow} {answers : List Answer}
    (hstage : RecipientStage roundsCalc trs block amount flow answers) (accounts : Ledger)
    (a : Address) :
    (mergeRecipient roundsCalc trs block amount).replay answers accounts a =
      if (decide (trs.recipientId = a) && answers.any Answer.isAccount) = true then
        some ((accounts.get a).plus
          (if flow.completed answers then (if trs.recipientId = a then amount else 0) else 0))
      else accounts a := by
  rcases eq_or_ne trs.recipientId a with rfl | h
  · cases hstage <;>
      simp [mergeRecipient, Answer.isAccount, AccountsFlow.completed, AccountsFlow.calledBack,
        Answer.isError, setAccountAndGet_apply, mergeAccountAndGet_apply, recipientDiff,
        Account.plus]
  · cases hstage <;>
      simp [mergeRecipient, setAccountAndGet_apply, mergeAccountAndGet_apply, recipientDiff, h,
        Ne.symm h]

/-- A call replayed alone, seen at one account: untouched unless the call has reached it, and
    then holding its balances plus what the call has credited. -/
theorem replay_apply {t : Thread} (hstage : t.call.Stage roundsCalc t.flow t.answers)
    (accounts : Ledger) (a : Address) :
    (t.call.flow roundsCalc).replay t.answers accounts a =
      if t.touches a then some ((accounts.get a).plus (t.settled a)) else accounts a := by
  obtain ⟨call, flow, answers⟩ := t
  cases call with
  | apply trs block | undo trs block => exact hstage.replay_apply roundsCalc accounts a
  | applyUnconfirmed trs | undoUnconfirmed trs =>
    obtain ⟨rfl, rfl⟩ := hstage
    rfl

theorem get_of_apply {accounts accounts' : Ledger} {a : Address} {touched : Bool} {amount : Int}
    (h : accounts' a = if touched then some ((accounts.get a).plus amount) else accounts a)
    (hamount : touched = false → amount = 0) :
    accounts'.get a = (accounts.get a).plus amount := by
  cases touched with
  | true => simp [Ledger.get, h]
  | false => simp [Ledger.get, h, hamount rfl]

/-- The sequential run seen at one account: untouched unless a call has reached it, and then
    created with its initial balances plus what the calls credit. -/
theorem runSequential_apply (initial : Ledger) (threads : List Thread)
    (hstage : ∀ t ∈ threads, t.call.Stage roundsCalc t.flow t.answers) (a : Address) :
    runSequential roundsCalc initial threads a =
      if threads.any (·.touches a) then
        some ((initial.get a).plus (threads.map (·.settled a)).sum)
      else initial a := by
  induction threads generalizing initial with
  | nil => rfl
  | cons t threads ih =>
    have ht := hstage t (List.mem_cons_self t threads)
    have hstep := replay_apply roundsCalc ht initial a
    have hget := get_of_apply hstep (settled_eq_zero_of_touches roundsCalc ht)
    rw [runSequential, List.foldl_cons, ← runSequential,
      ih _ fun t' ht' => hstage t' (List.mem_cons_of_mem t ht'), hstep, hget, List.any_cons,
      List.map_cons, List.sum_cons]
    cases htail : threads.any (·.touches a) with
    | true => simp only [Bool.or_true, if_true, Account.plus_plus]
    | false =>
      have hzero : (threads.map (·.settled a)).sum = 0 :=
        List.sum_eq_zero fun x hx => by
          obtain ⟨t', ht', rfl⟩ := List.mem_map.1 hx
          exact settled_eq_zero_of_touches roundsCalc (hstage t' (List.mem_cons_of_mem t ht'))
            (by simpa using List.any_eq_false.1 htail t' ht')
      cases t.touches a <;> simp [hzero]

end Sequential

/-! ## The ledger in every reachable pool -/

section Reached

variable (roundsCalc : Nat → Nat)

/-- Whether a thread of the pool has reached `address`. -/
def Pool.touches (pool : Pool) (address : Address) : Bool := pool.threads.any (·.touches address)

/-- The accounts invariant beside `Pool.Inv`: an account a thread has reached exists, and one no
    thread has reached is as it was in `initial`. -/
structure Pool.Reached (initial : Ledger) (pool : Pool) : Prop where
  isSome : ∀ a, pool.touches a → (pool.accounts a).isSome
  untouched : ∀ a, pool.touches a = false → pool.accounts a = initial a

/-- What one call of `apply` or `undo` into the accounts module does at one account. -/
theorem RecipientStage.touches_step {trs : Transaction} {block : Block} {amount : Int}
    {accounts accounts' : Ledger} {flow flow' : AccountsFlow} {answers : List Answer}
    {answer : Answer} (hstage : RecipientStage roundsCalc trs block amount flow answers)
    (hstep : FlowStep accounts flow answer accounts' flow') (a : Address) :
    (accounts' a = accounts a ∧
        (decide (trs.recipientId = a) && (answers ++ [answer]).any Answer.isAccount) =
          (decide (trs.recipientId = a) && answers.any Answer.isAccount)) ∨
      ((accounts' a).isSome ∧
        (decide (trs.recipientId = a) && (answers ++ [answer]).any Answer.isAccount) = true) := by
  rcases eq_or_ne trs.recipientId a with rfl | h
  · cases hstage <;> cases hstep <;>
      simp [Answer.isAccount, mergeRecipient, recipientDiff, setAccountAndGet_apply,
        mergeAccountAndGet_apply]
  · cases hstage <;> cases hstep <;>
      simp [mergeRecipient, recipientDiff, setAccountAndGet_apply, mergeAccountAndGet_apply, h,
        Ne.symm h]

/-- What one call into the accounts module does at one account: nothing, or the account now
    exists and the thread has reached it. -/
theorem touches_step {call : Call} {accounts accounts' : Ledger} {flow flow' : AccountsFlow}
    {answers : List Answer} {answer : Answer} (hstage : call.Stage roundsCalc flow answers)
    (hstep : FlowStep accounts flow answer accounts' flow') (a : Address) :
    (accounts' a = accounts a ∧
        Thread.touches ⟨call, flow', answers ++ [answer]⟩ a =
          Thread.touches ⟨call, flow, answers⟩ a) ∨
      ((accounts' a).isSome ∧ Thread.touches ⟨call, flow', answers ++ [answer]⟩ a) := by
  cases call with
  | apply trs block | undo trs block => exact hstage.touches_step roundsCalc hstep a
  | applyUnconfirmed trs | undoUnconfirmed trs =>
    obtain ⟨rfl, -⟩ := hstage
    cases hstep

theorem Pool.Reached.start (initial : Ledger) (calls : List Call) :
    (Pool.start roundsCalc initial calls).Reached initial := by
  have hnone : ∀ a, (Pool.start roundsCalc initial calls).touches a = false := fun a =>
    List.any_eq_false.2 fun t ht => by
      obtain ⟨call, -, rfl⟩ := List.mem_map.1 ht
      simp [Thread.touches]
  exact ⟨fun a h => absurd h (by simp [hnone a]), fun a _ => rfl⟩

theorem Pool.Reached.step {initial : Ledger} {pool pool' : Pool}
    (hinv : pool.Inv roundsCalc initial) (hreached : pool.Reached initial)
    (hstep : Step pool pool') : pool'.Reached initial := by
  obtain @⟨accounts, accounts', pre, post, call, flow, flow', answers, answer, hflow⟩ := hstep
  have hstage : call.Stage roundsCalc flow answers := hinv.stage ⟨call, flow, answers⟩ (by simp)
  constructor
  all_goals
    intro a ha
    simp only [Pool.touches, List.any_append, List.any_cons] at ha
    rcases touches_step roundsCalc hstage hflow a with ⟨heq, htouch⟩ | ⟨hsome, htouch⟩
  · dsimp only
    rw [heq]
    exact hreached.isSome a (by simpa [Pool.touches, htouch] using ha)
  · exact hsome
  · dsimp only
    rw [heq]
    exact hreached.untouched a (by simpa [Pool.touches, htouch] using ha)
  · simp [htouch] at ha

theorem Pool.Reached.of_reachable {initial : Ledger} {calls : List Call} {pool : Pool}
    (hrun : Relation.ReflTransGen Step (Pool.start roundsCalc initial calls) pool) :
    pool.Reached initial := by
  induction hrun with
  | refl => exact Pool.Reached.start roundsCalc initial calls
  | tail hprev hstep ih => exact ih.step roundsCalc (Pool.Inv.of_reachable roundsCalc hprev) hstep

/-- The two invariants together give every account of the pool. -/
theorem Pool.Reached.accounts_apply {initial : Ledger} {pool : Pool}
    (hinv : pool.Inv roundsCalc initial) (hreached : pool.Reached initial) (a : Address) :
    pool.accounts a =
      if pool.touches a then some ((initial.get a).plus (pool.threads.map (·.settled a)).sum)
      else initial a := by
  split_ifs with htouch
  · rw [Ledger.eq_some_get (hreached.isSome a htouch), hinv.balances a]
  · exact hreached.untouched a (by simpa using htouch)

/-- In every pool reachable from the start, whatever the interleaving and the errors, an account
    that no call has reached through a `setAccountAndGet` answered with the account is exactly
    as it was, missing if it was missing; one that a call has reached exists, with its initial
    balances plus what the completed calls credit it. -/
theorem accounts_of_reachable (initial : Ledger) (calls : List Call) {pool : Pool}
    (hrun : Relation.ReflTransGen Step (Pool.start roundsCalc initial calls) pool)
    (a : Address) :
    pool.accounts a =
      if pool.touches a then some ((initial.get a).plus (pool.threads.map (·.settled a)).sum)
      else initial a :=
  (Pool.Reached.of_reachable roundsCalc hrun).accounts_apply roundsCalc
    (Pool.Inv.of_reachable roundsCalc hrun) a

/-- One `apply` of 5 to `"2L"` on no accounts, its `setAccountAndGet` answered: before the merge
    the account exists, with zero balances. -/
theorem accounts_of_reachable_setRun :
    Relation.ReflTransGen Step
        (Pool.start id (fun _ => none) [.apply sampleTransfer sampleBlock])
        ⟨Ledger.setAccountAndGet (fun _ => none) "2L",
          [⟨.apply sampleTransfer sampleBlock,
            .mergeAccountAndGet (recipientDiff id sampleTransfer sampleBlock 5)
              fun err => .done err,
            [.setAccountAndGet (.ok (Ledger.get (fun _ => none) "2L"))]⟩]⟩ ∧
      Ledger.setAccountAndGet (fun _ => none) "2L" "2L" = some ⟨0, 0⟩ := by
  refine ⟨?run, (accounts_of_reachable id _ _ ?run "2L").trans (by decide)⟩
  exact .single (@Step.thread _ _ [] [] _ _ _ [] _ .setAccountAndGet)

theorem any_touches_of_perm {l l' : List Thread} (h : l.Perm l') (a : Address) :
    l.any (·.touches a) = l'.any (·.touches a) :=
  Bool.eq_iff_iff.2 (by simp only [List.any_eq_true, h.mem_iff])

/-- At every point of any interleaving, the ledger is the one that running the calls alone and
    atomically, one after another in any order, with the answers they had, gives: the
    interleaving of their calls into the accounts module changes nothing. -/
theorem accounts_eq_runSequential (initial : Ledger) (calls : List Call) {pool : Pool}
    (hrun : Relation.ReflTransGen Step (Pool.start roundsCalc initial calls) pool)
    {order : List Thread} (horder : order.Perm pool.threads) :
    pool.accounts = runSequential roundsCalc initial order := by
  have hinv := Pool.Inv.of_reachable roundsCalc hrun
  funext a
  rw [(Pool.Reached.of_reachable roundsCalc hrun).accounts_apply roundsCalc hinv a,
    runSequential_apply roundsCalc initial order (fun t ht => hinv.stage t (horder.subset ht)) a,
    Pool.touches, any_touches_of_perm horder, (horder.map _).sum_eq]

/-- `apply` then `undo` of 5 to `"2L"` on no accounts, each run to its callback, end where the
    `undo` run atomically and then the `apply` would. -/
theorem accounts_eq_runSequential_applyUndo :
    Relation.ReflTransGen Step
        (Pool.start id (fun _ => none)
          [.apply sampleTransfer sampleBlock, .undo sampleTransfer sampleBlock])
        applyUndoEnd ∧
      applyUndoEnd.threads.reverse.Perm applyUndoEnd.threads ∧
      applyUndoEnd.accounts = runSequential id (fun _ => none) applyUndoEnd.threads.reverse :=
  ⟨applyUndo_run, List.reverse_perm _,
    accounts_eq_runSequential id _ _ applyUndo_run (List.reverse_perm _)⟩

/-! ## `apply` then `undo` -/

theorem touches_of_succeeded {t : Thread} (hstage : t.call.Stage roundsCalc t.flow t.answers)
    (h : t.flow.succeeded) (a : Address) : t.touches a = t.call.touches a := by
  obtain ⟨call, flow, answers⟩ := t
  cases call with
  | apply trs block | undo trs block =>
    cases hstage with
    | merged => simp [Thread.touches, Answer.isAccount]
    | _ => cases h
  | applyUnconfirmed trs | undoUnconfirmed trs => rfl

theorem any_touches_of_succeeded {threads : List Thread}
    (hstage : ∀ t ∈ threads, t.call.Stage roundsCalc t.flow t.answers)
    (hdone : ∀ t ∈ threads, t.flow.succeeded) (a : Address) :
    threads.any (·.touches a) = (threads.map (·.call)).any (·.touches a) := by
  induction threads with
  | nil => rfl
  | cons t threads ih =>
    simp only [List.any_cons, List.map_cons,
      touches_of_succeeded roundsCalc (hstage t (List.mem_cons_self _ _))
        (hdone t (List.mem_cons_self _ _)),
      ih (fun t' ht' => hstage t' (List.mem_cons_of_mem t ht'))
        fun t' ht' => hdone t' (List.mem_cons_of_mem t ht')]

/-- `apply` and `undo` of one transfer in one block, interleaved in any order and both called
    back without an error, leave the ledger as `setAccountAndGet` of the recipient alone would:
    unchanged when the recipient's account existed, and otherwise with that account created,
    with zero balances. -/
theorem apply_undo_accounts (initial : Ledger) (trs : Transaction) (block : Block) {pool : Pool}
    (hrun : Relation.ReflTransGen Step
      (Pool.start roundsCalc initial [.apply trs block, .undo trs block]) pool)
    (hdone : ∀ t ∈ pool.threads, t.flow.succeeded) :
    pool.accounts = initial.setAccountAndGet trs.recipientId := by
  have hinv := Pool.Inv.of_reachable roundsCalc hrun
  funext a
  rw [(Pool.Reached.of_reachable roundsCalc hrun).accounts_apply roundsCalc hinv a,
    Pool.touches, any_touches_of_succeeded roundsCalc hinv.stage hdone,
    sum_settled_of_succeeded roundsCalc hinv hdone, map_call_of_reachable roundsCalc hrun,
    sum_credit_apply_undo, Account.plus_zero, setAccountAndGet_apply]
  by_cases h : trs.recipientId = a
  · simp [Call.touches, h]
  · simp [Call.touches, h, Ne.symm h]

/-- `apply` then `undo` of 5 to `"2L"` on no accounts: `"2L"` is left created, with zero
    balances. -/
theorem apply_undo_accounts_createsRecipient :
    Relation.ReflTransGen Step
        (Pool.start id (fun _ => none)
          [.apply sampleTransfer sampleBlock, .undo sampleTransfer sampleBlock])
        applyUndoEnd ∧
      (∀ t ∈ applyUndoEnd.threads, t.flow.succeeded) ∧
      applyUndoEnd.accounts = Ledger.setAccountAndGet (fun _ => none) "2L" :=
  ⟨applyUndo_run, by decide, apply_undo_accounts id _ _ _ applyUndo_run (by decide)⟩

end Reached

end LiskTransfer
