import Fleet.Dispatch
import Fleet.Provider.Basic

/-! Accounts: the one that all providers with an opinion agree the user acts as. -/

namespace Fleet.Account

variable {σ : Type}

/-- The operation that asks for accounts. -/
def operation : String := "find_active_account"

/-- The accounts that were named, each once. Providers without an opinion have no voice. -/
def candidates (accounts : List (String × String)) : List String :=
  ((accounts.map Prod.snd).filter fun account => !account.isEmpty).eraseDups

/-- The account that the providers agree on. -/
def consensus (accounts : List (String × String)) : Except Fault String :=
  match candidates accounts with
  | [account] => .ok account
  | [] => .error (.fleet ⟨.noActiveAccount, "no Providers returned any active accounts", none,
      some operation⟩)
  | _ => .error (.accountMismatch accounts)

/-- Asks the providers in turn for their accounts, and sees whether they agree. -/
def resolve [Host σ] (registry : Registry (Provider σ)) : Program σ String := do
  let accounts ← Dispatch.sequential registry registry.names (some operation) fun provider => do
    let account ← provider.account
    return (provider.name, account)
  tell σ .debug s!"Provider accounts: {Text.quotePairs accounts}"
  Program.ofExcept (consensus accounts)

/-- The account that was agreed on, once it was. -/
structure Cache where
  account : Option String := none
deriving DecidableEq

/-- The account, and the cache after asking for it. Providers are asked as long as there is no
account; failures are not remembered. -/
def Cache.ask [Host σ] (cache : Cache) (registry : Registry (Provider σ)) :
    StateM σ (Except Fault String × Cache) := do
  match cache.account with
  | some account => return (.ok account, cache)
  | none =>
    match ← (resolve registry).run with
    | .ok account => return (.ok account, ⟨some account⟩)
    | .error fault => return (.error fault, cache)

/-- The answers to asking a number of times, and the cache after the last. -/
def Cache.askTimes [Host σ] (cache : Cache) (registry : Registry (Provider σ)) :
    Nat → StateM σ (List (Except Fault String) × Cache)
  | 0 => return ([], cache)
  | further + 1 => do
    let (outcome, cache) ← cache.ask registry
    let (outcomes, cache) ← cache.askTimes registry further
    return (outcome :: outcomes, cache)

end Fleet.Account
