import XmrBtcSwap.MoneroAdaptor.Backend

/-!
# How much Bitcoin the CLI swaps

`determine_btc_to_swap` asks for a quote, waits for a deposit when the wallet is empty, and swaps
the smaller of the maximum giveable amount and the quote's maximum quantity. The futures it takes
are given by the results they produce when awaited. Errors are `anyhow` errors, written as their
chain of messages, outermost context first.

The deposit address is awaited inside the arguments of an `info!` call, which `tracing` evaluates
only when that callsite is enabled; whether it is, is the parameter `deposit_info_enabled`. The
CLI's own subscriber, with the filter `swap=info` or `swap=debug`, enables it.
-/

namespace Swap

/-- `bitcoin::Amount`, in satoshis. -/
abbrev Amount := ℕ

/-- `BidQuote`, with the field the amount is computed from. -/
structure BidQuote where
  max_quantity : Amount

/-- An `anyhow::Error`: its messages, outermost context first. -/
abbrev Error := List String

/-- `Context::context`. -/
def context {α : Type} (result : Except Error α) (message : String) : Except Error α :=
  result.mapError (message :: ·)

variable {Address : Type}

/-- `determine_btc_to_swap`, under a subscriber that enables the deposit `info!` callsite exactly
when `deposit_info_enabled` holds. -/
def determineBtcToSwap (deposit_info_enabled : Bool) (request_quote : Except Error BidQuote)
    (initial_balance : Except Error Amount) (get_new_address : Except Error Address)
    (wait_for_deposit : Except Error Amount) (max_giveable : Except Error Amount) :
    Except Error Amount := do
  let bid_quote ← context request_quote "failed to request quote"
  let initial_balance ← initial_balance
  if initial_balance = 0 then
    if deposit_info_enabled then
      let _ ← get_new_address
    let _ ← wait_for_deposit
  let max_giveable ← max_giveable
  let max_accepted := bid_quote.max_quantity
  pure (min max_giveable max_accepted)

/-- The amount is the smaller of the maximum giveable amount and the quote's maximum quantity,
and it is returned exactly when every awaited future succeeds; the deposit futures are awaited
only for an empty wallet, and the address only when its `info!` callsite is enabled. -/
theorem determineBtcToSwap_eq_ok (deposit_info_enabled : Bool) (request_quote : Except Error BidQuote)
    (initial_balance : Except Error Amount) (get_new_address : Except Error Address)
    (wait_for_deposit : Except Error Amount) (max_giveable : Except Error Amount) (amount : Amount) :
    determineBtcToSwap deposit_info_enabled request_quote initial_balance get_new_address
        wait_for_deposit max_giveable = .ok amount ↔
      ∃ quote balance giveable, request_quote = .ok quote ∧ initial_balance = .ok balance ∧
        (balance = 0 → (deposit_info_enabled = true → ∃ address, get_new_address = .ok address) ∧
          ∃ deposit, wait_for_deposit = .ok deposit) ∧
        max_giveable = .ok giveable ∧ amount = min giveable quote.max_quantity := by
  rcases request_quote with e | quote
  · simp [determineBtcToSwap, context, Except.mapError]
  rcases initial_balance with e | balance
  · simp [determineBtcToSwap, context, Except.mapError]
  simp only [determineBtcToSwap, context, Except.mapError, MoneroAdaptor.ok_bind, exists_and_left,
    Except.ok.injEq, exists_eq_left', pure_bind]
  have giveable : (fun a => min a quote.max_quantity) <$> max_giveable = .ok amount ↔
      ∃ giveable, max_giveable = .ok giveable ∧ amount = min giveable quote.max_quantity := by
    cases max_giveable <;> simp [eq_comm]
  split_ifs with empty enabled
  · cases get_new_address <;> cases wait_for_deposit <;> simp [giveable, empty, enabled]
  · cases wait_for_deposit <;> simp [giveable, empty, enabled]
  · simp [giveable, empty]

end Swap
