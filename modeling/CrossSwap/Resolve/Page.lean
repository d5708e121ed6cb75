import CrossSwap.Range
import CrossSwap.Resolve.Accounts

/-!
# Pages of an account list

Pages are counted from one.  Page zero is read as page one, and pages behind the end are empty.
-/

namespace CrossSwap

/-- An account as it is shown. -/
structure AccountView where
  pubkey : String
  isWritable : Bool
  isSigner : Bool
  deriving DecidableEq, Repr

def AccountEntry.view (a : AccountEntry) : AccountView :=
  ⟨a.address.toText, a.isWritable, a.isSigner⟩

structure AccountsPage where
  accounts : List AccountView
  totalAccounts : Nat
  page : UInt8
  limit : UInt8
  hasNextPage : Bool
  deriving DecidableEq, Repr

/-- The accounts from `(page - 1) * limit` on, at most `limit` of them. -/
def AccountsPage.steps {m : Type → Type} [Monad m] (check : RangeCheck m)
    (accounts : List AccountEntry) (page limit : UInt8) : m AccountsPage := do
  let page := max page 1
  let before ← check.pred page.toNat
  let skipped ← check.places (before * limit.toNat)
  let start := min skipped accounts.length
  let reached ← check.places (start + limit.toNat)
  let stop := min reached accounts.length
  let shown ← check.slice accounts start stop
  return {
    accounts := shown.map AccountEntry.view
    totalAccounts := accounts.length
    page
    limit
    hasNextPage := decide (0 < limit.toNat ∧ stop < accounts.length) }

def paginate (accounts : List AccountEntry) (page limit : UInt8) : AccountsPage :=
  (AccountsPage.steps .ignored accounts page limit).run

end CrossSwap
